import EnvoySidecar.Value
import EnvoySidecar.Yaml.Fault
import EnvoySidecar.Yaml.Tag

/-! Values of scalars. A tag that was written may not suit its text, and a text of the right shape
may still denote nothing, such as a thirteenth month. -/

namespace EnvoySidecar.Yaml

open Text

namespace Scalar

def trueWords : List String := ["yes", "y", "true", "on"]
def falseWords : List String := ["no", "n", "false", "off"]

def flag (s : String) : Except Fault Value :=
  let word := String.ofList (lower s.toList)
  if trueWords.contains word then .ok (.bool true)
  else if falseWords.contains word then .ok (.bool false)
  else .error (.flagText word)

def digits (base : Nat) (cs : List Char) : Except Fault Int :=
  (Numeral.read base cs).mapError .numeral

def sixties (cs : List Char) : Except Fault Int :=
  ((String.ofList cs).splitOn ":").foldlM (fun n part => do
    return 60 * n + (← digits 10 part.toList)) 0

def unsignedInteger (v : Version) (cs : List Char) : Except Fault Int :=
  match cs with
  | '0' :: 'b' :: r => digits 2 r
  | '0' :: 'x' :: r => digits 16 r
  | '0' :: 'o' :: r => digits 8 r
  | _ =>
    if v = .v11 && cs.isEmpty then .error .emptyNumber
    else if v = .v11 && cs.head? = some '0' && cs != ['0'] then digits 8 cs
    else if v = .v11 && cs.contains ':' then sixties cs
    else digits 10 cs

def integer (v : Version) (s : String) : Except Fault Value :=
  let cs := s.toList.filter (· != '_')
  if cs.isEmpty then .error .emptyNumber
  else
    let signed := Decimal.splitSign cs
    match unsignedInteger v signed.2 with
    | .ok n => .ok (.int (if signed.1 then -n else n))
    | .error fault => .error fault

def unsignedFloat (cs : List Char) : Except Fault Binary64 :=
  let body := trimWith Numeral.isPlainBlank (cs.map Numeral.plainChar)
  let signed := Decimal.splitSign body
  let word := String.ofList (lowerAscii signed.2)
  if word = "inf" || word = "infinity" then .ok (.infinite signed.1)
  else if word = "nan" then .ok .nan
  else
    match Decimal.Notation.read? body with
    | some n => .ok (Binary64.ofDecimal n.toDecimal)
    | none => .error (.floatText (String.ofList cs))

def sumPlaces (sum : Binary64) (unit : Nat) : List Binary64 → Except Fault Binary64
  | [] => .ok sum
  | x :: rest =>
    match x.scale? unit with
    | some y => sumPlaces (sum.add y) (60 * unit) rest
    | none => .error (.overflow "int too large to convert to float")

def sixtiesFloat (cs : List Char) : Except Fault Binary64 := do
  let parts ← ((String.ofList cs).splitOn ":").mapM fun part => unsignedFloat part.toList
  sumPlaces (.zero false) 1 parts.reverse

def float (v : Version) (s : String) : Except Fault Value :=
  let cs := lower (s.toList.filter (· != '_'))
  if cs.isEmpty then .error .emptyNumber
  else
    let signed := Decimal.splitSign cs
    let magnitude :=
      if signed.2 = ".inf".toList then .ok (.infinite false)
      else if signed.2 = ".nan".toList then .ok .nan
      else if v = .v11 && signed.2.contains ':' then sixtiesFloat signed.2
      else if v = .v11 && 1 < signed.2.count 'e' then .error .repeatedExponent
      else unsignedFloat signed.2
    match magnitude with
    | .ok x => .ok (.float (if signed.1 then x.negate else x))
    | .error fault => .error fault

def daysIn (year month : Nat) : Nat :=
  if month = 2 then
    if year % 4 = 0 && (year % 100 != 0 || year % 400 = 0) then 29 else 28
  else if [4, 6, 9, 11].contains month then 30 else 31

def daysBefore (year : Nat) : Nat :=
  365 * (year - 1) + (year - 1) / 4 - (year - 1) / 100 + (year - 1) / 400

def dayNumber (year month day : Nat) : Nat :=
  (List.range (month - 1)).foldl (fun days i => days + daysIn year (i + 1)) (daysBefore year) +
    (day - 1)

def perSecond : Nat := 1000000
def perDay : Nat := 24 * 60 * 60 * perSecond

/-- Six digits of a fraction, rounded at the seventh, which can make a whole second of it. -/
def microseconds (fraction : List Char) : Nat :=
  let six := fraction.take 6
  let n := ofDigits 10 (six ++ List.replicate (6 - six.length) '0')
  if (fraction[6]?).any ('5' ≤ ·) then n + 1 else n

/-- Seconds to take off the written time. A whole second from the fraction counts as a part of the
offset, so that ahead of the common clock it goes the wrong way. -/
def lead (c : Plain.Clock) : Int :=
  let whole : Int := (microseconds c.fraction / perSecond : Nat)
  match c.offset with
  | none => -whole
  | some z =>
    let written : Int := ((ofDigits 10 z.hour * 60 + ofDigits 10 z.minute) * 60 : Nat) + whole
    if z.behind then -written else written

def atTime (day : Nat) (c : Plain.Clock) : Except Fault Timestamp := do
  let hour := ofDigits 10 c.hour
  let minute := ofDigits 10 c.minute
  let second := ofDigits 10 c.second
  if 23 < hour then .error (.noSuchTime "hour must be in 0..23")
  if 59 < minute then .error (.noSuchTime "minute must be in 0..59")
  if 59 < second then .error (.noSuchTime "second must be in 0..59")
  let whole := (hour * 60 + minute) * 60 + second
  let written := whole * perSecond + microseconds c.fraction % perSecond
  let instant : Int := (day * perDay + written : Nat) - lead c * perSecond
  if instant < 0 || daysBefore 10000 * perDay ≤ instant then
    .error (.overflow "date value out of range")
  else return ⟨instant.toNat / perDay, some (instant.toNat % perDay)⟩

def moment (m : Plain.Moment) : Except Fault Timestamp := do
  let year := ofDigits 10 m.year
  let month := ofDigits 10 m.month
  let day := ofDigits 10 m.day
  if year = 0 then .error (.noSuchTime "year 0 is out of range")
  if month = 0 || 12 < month then .error (.noSuchTime "month must be in 1..12")
  if day = 0 || daysIn year month < day then .error (.noSuchTime "day is out of range for month")
  match m.time with
  | none => return ⟨dayNumber year month day, none⟩
  | some c => atTime (dayNumber year month day) c

def timestamp (s : String) : Except Fault Value :=
  let cs := s.toList
  match Plain.moment? (if cs.getLast? = some '\n' then cs.dropLast else cs) with
  | some m => (moment m).map .timestamp
  | none => .error (.malformed "a timestamp without a date")

def base64Digit? (c : Char) : Option Nat :=
  if 'A' ≤ c && c ≤ 'Z' then some (c.toNat - 'A'.toNat)
  else if 'a' ≤ c && c ≤ 'z' then some (c.toNat - 'a'.toNat + 26)
  else if isDigit c then some (c.toNat - '0'.toNat + 52)
  else if c = '+' then some 62
  else if c = '/' then some 63
  else none

/-- Octets of base 64, where `bits` are left of the digit before, and `pads` stand behind it.
Characters of no meaning are skipped, and the text ends with the last pad that a group needs. -/
def base64Octets (position bits pads : Nat) : List Char → Option (List Nat)
  | [] => if position = 0 then some [] else none
  | c :: r =>
    if c = '=' then
      if position < 2 then base64Octets position bits pads r
      else if 4 ≤ position + pads + 1 then some []
      else base64Octets position bits (pads + 1) r
    else
      match base64Digit? c, position with
      | none, _ => base64Octets position bits pads r
      | some d, 0 => base64Octets 1 d 0 r
      | some d, 1 => (base64Octets 2 (d % 16) 0 r).map fun more => (bits * 4 + d / 16) :: more
      | some d, 2 => (base64Octets 3 (d % 4) 0 r).map fun more => (bits * 16 + d / 4) :: more
      | some d, _ => (base64Octets 0 0 0 r).map fun more => (bits * 64 + d) :: more

def binary (s : String) : Except Fault Value :=
  let cs := s.toList
  if cs.any fun c => 0x80 ≤ c.toNat then .error (.malformed "octets in characters beyond ASCII")
  else
    match base64Octets 0 0 0 cs with
    | some octets => .ok (.bytes octets)
    | none => .error (.malformed "octets without their padding")

def value (v : Version) (tag : Tag) (s : String) : Except Fault Value :=
  match tag with
  | .null => .ok .null
  | .bool => flag s
  | .int => integer v s
  | .float => float v s
  | .timestamp => timestamp s
  | .binary => binary s
  | .text => .ok (.text s)
  | _ => .error (.malformed "a tag that no scalar can have")

end Scalar

end EnvoySidecar.Yaml
