import EnvoySidecar.Schema.Checked
import EnvoySidecar.Numeral

/-! Checks of single values. Conversions are lenient where nothing is lost: whole numbers may come
as texts, flags and floating-point numbers, flags as their usual words. -/

namespace EnvoySidecar.Schema

open Text

abbrev Check (α : Type) := Value → Checked α

def decodeOctets (octets : List Nat) : Option String :=
  String.fromUTF8? ⟨(octets.map UInt8.ofNat).toArray⟩

def text : Check String
  | .text s => .ok s
  | .bytes octets =>
    match decodeOctets octets with
    | some s => .ok s
    | none => .fail .undecodable
  | _ => .fail .notText

section IntegerText

/-- An integer with neither blanks nor noughts in front. Its length is limited before anything
behind its digits is looked at. -/
def bareInteger? (cs : List Char) : Checked (Option Int) :=
  let negative := cs.head? == some '-'
  let body := if negative then cs.tail else cs
  let ds := if body.head? == some '0' then ['0'] else body.takeWhile isDigit
  if digitLimit < ds.length + negative.toNat then .fail .integerTextLength
  else if ds.isEmpty || ds.length != body.length then .ok none
  else
    let n := ofDigits 10 ds
    .ok (some (if negative then -(n : Int) else n))

/-- The text from the first character on that is neither a nought nor an underscore. The one before
it stays in front of a point, and at the end. -/
def dropNoughts (before : Char) : List Char → Option (List Char)
  | [] => some [before]
  | c :: r =>
    if c == '0' || c == '_' then dropNoughts c r
    else if isDigit c || c == '-' then some (c :: r)
    else if c == '.' then some (before :: c :: r)
    else none

def unpadded : List Char → Option (List Char)
  | '0' :: r => dropNoughts '0' r
  | c :: r => if isDigit c then some (c :: r) else none
  | [] => none

def dropSign : List Char → Option (List Char)
  | '+' :: '-' :: _ => none
  | '+' :: r | r => some r

def dropPadding : List Char → Option (List Char)
  | '-' :: r => (unpadded r).map ('-' :: ·)
  | r => unpadded r

def dropFraction (cs : List Char) : List Char :=
  match cs.dropWhile (· != '.') with
  | '.' :: '0' :: r => if r.all (· == '0') then cs.takeWhile (· != '.') else cs
  | _ => cs

def dropUnderscores (cs : List Char) : List Char :=
  if cs.head? == some '_' || cs.getLast? == some '_' || (cs.zip cs.tail).contains ('_', '_') then cs
  else cs.filter (· != '_')

def cleaned? (cs : List Char) : Option (List Char) :=
  ((dropSign (trimWith isSpace cs)).bind dropPadding).map fun r => dropUnderscores (dropFraction r)

def integerOfText (s : String) : Checked Int :=
  (bareInteger? s.toList).andThen fun
    | some n => .ok n
    | none => (((cleaned? s.toList).map bareInteger?).getD (.ok none)).andThen fun
      | some n => .ok n
      | none => .fail .integerText

end IntegerText

def wordLimit : Nat := Nat.pow 2 63

def integerOfFloat (x : Binary64) : Checked Int :=
  match x with
  | .infinite _ | .nan => .fail .notFinite
  | _ =>
    match x.toInt? with
    | some n => if n.natAbs < wordLimit then .ok n else .fail .integerTextLength
    | none => .fail .fractional

def integer : Check Int
  | .int n => .ok n
  | .bool b => .ok (if b then 1 else 0)
  | .text s => integerOfText s
  | .bytes octets =>
    match decodeOctets octets with
    | some s => integerOfText s
    | none => .fail .integerText
  | .float x => integerOfFloat x
  | .decimal d =>
    match d.toInt? with
    | some n => .ok n
    | none => .fail .fractional
  | _ => .fail .notInteger

def flagOfText (s : String) : Checked Bool :=
  let word := String.ofList (lowerAscii s.toList)
  if ["0", "off", "f", "false", "n", "no"].contains word then .ok false
  else if ["1", "on", "t", "true", "y", "yes"].contains word then .ok true
  else .fail .flagText

def flagOfInt (n : Int) : Checked Bool :=
  if n = 0 then .ok false else if n = 1 then .ok true else .fail .flagText

def flagOfFloat (x : Binary64) : Checked Bool :=
  match integerOfFloat x with
  | .ok n => flagOfInt n
  | .faults .. => .fail .notFlag

def flag : Check Bool
  | .bool b => .ok b
  | .text s => flagOfText s
  | .bytes octets =>
    match decodeOctets octets with
    | some s => flagOfText s
    | none => .fail .flagText
  | .int n => if -(wordLimit : Int) ≤ n ∧ n < wordLimit then flagOfInt n else .fail .notFlag
  | .float x => flagOfFloat x
  | .decimal d => flagOfFloat (Binary64.ofDecimal d)
  | _ => .fail .notFlag

abbrev From (lo : Int) := { n : Int // lo ≤ n }

abbrev Span (lo hi : Int) := { n : Int // lo ≤ n ∧ n ≤ hi }

def atLeast (lo : Int) (n : Int) : Checked (From lo) :=
  if h : lo ≤ n then .ok ⟨n, h⟩ else .fail (.below lo)

def within (lo hi : Int) (n : Int) : Checked (Span lo hi) :=
  if h : lo ≤ n then
    if h' : n ≤ hi then .ok ⟨n, h, h'⟩ else .fail (.above hi)
  else .fail (.below lo)

def between (lo hi : Int) (n : Int) : Checked (Span lo hi) :=
  if h : lo ≤ n then
    if h' : n ≤ hi then .ok ⟨n, h, h'⟩ else .fail (.notBelow (hi + 1))
  else .fail (.notAbove (lo - 1))

def oneOf (choices : List String) : Check String
  | .text s => if choices.contains s then .ok s else .fail (.notOneOf choices)
  | _ => .fail (.notOneOf choices)

section DecimalText

def greatestPower : Int := 999999999999999999
def leastPower : Int := -1999999999999999997

def inRange (d : Decimal) : Checked Decimal :=
  if d.leading ≤ greatestPower ∧ leastPower ≤ d.exponent then .ok d else .fail .decimalText

/-- Blanks around the text and underscores anywhere are ignored, and digits are of any script. -/
def decimalOfText (s : String) : Checked Decimal :=
  let cs := ((trimWith isBlank s.toList).filter (· != '_')).map Numeral.plainChar
  let word := String.ofList (lowerAscii (Decimal.splitSign cs).2)
  let isNan := (word.startsWith "nan" && (word.drop 3).all Char.isDigit) ||
    (word.startsWith "snan" && (word.drop 4).all Char.isDigit)
  if word == "inf" || word == "infinity" || isNan then .fail .notFinite
  else
    match Decimal.Notation.read? cs with
    | some n => inRange n.toDecimal
    | none => .fail .decimalText

end DecimalText

section DecimalTuple

def bit? : Value → Option Bool
  | .bool b => some b
  | .int 0 => some false
  | .int 1 => some true
  | _ => none

def digit? : Value → Option Nat
  | .bool b => some b.toNat
  | .int n => if 0 ≤ n ∧ n < 10 then some n.toNat else none
  | _ => none

def digits? : Value → Option (List Nat)
  | .tuple items | .list items => items.mapM digit?
  | _ => none

/-- A decimal in three parts; a letter in the last one's place stands for no finite number. -/
def decimalOfParts (sign digits power : Value) : Checked Decimal :=
  match bit? sign, digits? digits with
  | some negative, some ds =>
    let d : Decimal := ⟨negative, ds.foldl (fun n d => 10 * n + d) 0, 0⟩
    match power with
    | .int n => inRange { d with exponent := n }
    | .bool b => .ok { d with exponent := b.toNat }
    | .text s => if ["F", "n", "N"].contains s then .fail .notFinite else .fail .notDecimal
    | _ => .fail .notDecimal
  | _, _ => .fail .notDecimal

end DecimalTuple

def decimal : Check Decimal
  | .int n => .ok ⟨n < 0, n.natAbs, 0⟩
  | .text s => decimalOfText s
  | .float x =>
    match x.toDecimal? with
    | some d => .ok d
    | none => .fail .notFinite
  | .decimal d => .ok d
  | .tuple [sign, digits, power] => decimalOfParts sign digits power
  | _ => .fail .notDecimal

end EnvoySidecar.Schema
