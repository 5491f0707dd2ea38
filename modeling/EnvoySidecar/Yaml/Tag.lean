import EnvoySidecar.Decimal.Notation
import EnvoySidecar.Yaml.Character

/-! Tags, which say what kind of value a node stands for, and the tags of plain scalars, which
follow from their text. -/

namespace EnvoySidecar.Yaml

open Text

inductive Tag where
  | null | bool | int | float | timestamp | binary | text
  | list | pairs | omap | map | set | merge | value
  | other (uri : String)
deriving DecidableEq, Repr

namespace Tag

def family : String := "tag:yaml.org,2002:"

def named : List (String × Tag) :=
  [("null", null), ("bool", bool), ("int", int), ("float", float), ("timestamp", timestamp),
    ("binary", binary), ("str", text), ("seq", list), ("pairs", pairs), ("omap", omap),
    ("map", map), ("set", set), ("merge", merge), ("value", value)]

def ofUri (uri : String) : Tag :=
  match named.find? fun e => family ++ e.1 == uri with
  | some e => e.2
  | none => other uri

end Tag

/-! Shapes of plain scalars -/

namespace Plain

def isFiller (p : Char → Bool) (c : Char) : Bool :=
  p c || c = '_'

def isRun (p : Char → Bool) (cs : List Char) : Bool :=
  !cs.isEmpty && cs.all (isFiller p)

def isOctal (c : Char) : Bool :=
  '0' ≤ c && c ≤ '7'

def isBinary (c : Char) : Bool :=
  c = '0' || c = '1'

def unsigned (cs : List Char) : List Char :=
  (Decimal.splitSign cs).2

def isSigned (cs : List Char) : Bool :=
  cs.head? = some '+' || cs.head? = some '-'

def words (ws : List String) (cs : List Char) : Bool :=
  ws.contains (String.ofList cs)

def cases (w : String) : List String :=
  [w, w.capitalize, w.toUpper]

def isFlag : Version → List Char → Bool
  | .v12, cs => words (cases "true" ++ cases "false") cs
  | .v11, cs => words (["y", "Y", "n", "N"] ++
      ["yes", "no", "true", "false", "on", "off"].flatMap cases) cs

def isNull (cs : List Char) : Bool :=
  words ("" :: "~" :: cases "null") cs

def isSixties (cs : List Char) : Bool :=
  match (String.ofList cs).splitOn ":" with
  | _ :: part :: parts =>
    (part :: parts).all fun p =>
      match p.toList with
      | [a] => isDigit a
      | [a, b] => '0' ≤ a && a ≤ '5' && isDigit b
      | _ => false
  | _ => false

def isInteger (v : Version) (cs : List Char) : Bool :=
  (isSigned cs || cs.head?.any isDigit) &&
  match unsigned cs with
  | '0' :: 'b' :: r => isRun isBinary r
  | '0' :: 'x' :: r => isRun isHexDigit r
  | '0' :: 'o' :: r => v = .v12 && isRun isOctal r
  | u =>
    match v with
    | .v12 => isRun isDigit u
    | .v11 =>
      isRun isOctal u || u = ['0'] ||
        (u.head?.any (fun c => '1' ≤ c && c ≤ '9') &&
          (isRun isDigit u || (isRun isDigit (u.takeWhile (· != ':')) && isSixties u)))

def isExponent (signRequired : Bool) : List Char → Bool
  | c :: r =>
    (c = 'e' || c = 'E') && (isSigned r || !signRequired) && !(unsigned r).isEmpty &&
      (unsigned r).all isDigit
  | [] => false

def isFraction (cs : List Char) : Bool :=
  !(cs.takeWhile (isFiller isDigit)).isEmpty &&
    (let rest := cs.dropWhile (isFiller isDigit)
     rest.isEmpty || isExponent true rest)

def isFloatTail : List Char → Bool
  | '.' :: f =>
    let rest := f.dropWhile (isFiller isDigit)
    rest.isEmpty || isExponent false rest
  | rest => isExponent false rest

def isSixtiesFloat (u : List Char) : Bool :=
  let whole := u.takeWhile (· != '.')
  isRun isDigit (u.takeWhile (· != ':')) && isSixties whole &&
    (match u.dropWhile (· != '.') with
      | '.' :: f => f.all (isFiller isDigit)
      | _ => false)

def isFloat (v : Version) (cs : List Char) : Bool :=
  match unsigned cs with
  | '.' :: r =>
    words (cases "inf") r || (!isSigned cs && words ["nan", "NaN", "NAN"] r) ||
      (isFraction r && (v = .v12 || !isSigned cs))
  | u =>
    u.head?.any isDigit &&
      (isFloatTail (u.dropWhile (isFiller isDigit)) || (v = .v11 && isSixtiesFloat u))

structure Offset where
  behind : Bool
  hour : List Char
  minute : List Char

structure Clock where
  hour : List Char
  minute : List Char
  second : List Char
  fraction : List Char
  offset : Option Offset

structure Moment where
  year : List Char
  month : List Char
  day : List Char
  time : Option Clock

def shortNumber : List Char → Option (List Char × List Char)
  | a :: b :: r =>
    if !isDigit a then none else if isDigit b then some ([a, b], r) else some ([a], b :: r)
  | [a] => if isDigit a then some ([a], []) else none
  | [] => none

def twoDigits : List Char → Option (List Char × List Char)
  | a :: b :: r => if isDigit a && isDigit b then some ([a, b], r) else none
  | _ => none

def expect (c : Char) : List Char → Option (List Char)
  | d :: r => if d = c then some r else none
  | [] => none

def minutes? : List Char → Option (List Char)
  | [] => some []
  | ':' :: m => (twoDigits m).bind fun s => if s.2.isEmpty then some s.1 else none
  | _ => none

def zone? (cs : List Char) : Option (Option Offset) :=
  match cs.dropWhile isGap with
  | [] => if cs.isEmpty then some none else none
  | c :: r =>
    if c = 'Z' && r.isEmpty then some none
    else if c = '+' || c = '-' then
      (shortNumber r).bind fun s => (minutes? s.2).map fun m => some ⟨c = '-', s.1, m⟩
    else none

def splitFraction : List Char → List Char × List Char
  | '.' :: r => (r.takeWhile isDigit, r.dropWhile isDigit)
  | r => ([], r)

def skipJoint : List Char → Option (List Char)
  | c :: r =>
    if c = 'T' || c = 't' then some r else if isGap c then some (r.dropWhile isGap) else none
  | [] => none

def clock? (cs : List Char) : Option Clock := do
  let r ← skipJoint cs
  let (hour, r) ← shortNumber r
  let (minute, r) ← twoDigits (← expect ':' r)
  let (second, r) ← twoDigits (← expect ':' r)
  let (fraction, r) := splitFraction r
  return ⟨hour, minute, second, fraction, ← zone? r⟩

def moment? (cs : List Char) : Option Moment := do
  let (a, r) ← twoDigits cs
  let (b, r) ← twoDigits r
  let (month, r) ← shortNumber (← expect '-' r)
  let (day, r) ← shortNumber (← expect '-' r)
  if r.isEmpty then return ⟨a ++ b, month, day, none⟩
  else return ⟨a ++ b, month, day, some (← clock? r)⟩

def isMoment (cs : List Char) : Bool :=
  match moment? cs with
  | some m => m.time.isSome || (m.month.length = 2 && m.day.length = 2)
  | none => false

end Plain

def Tag.ofPlain (v : Version) (s : String) : Tag :=
  let cs := s.toList
  if Plain.isFlag v cs then .bool
  else if Plain.isFloat v cs then .float
  else if Plain.isInteger v cs then .int
  else if s = "<<" then .merge
  else if Plain.isNull cs then .null
  else if Plain.isMoment cs then .timestamp
  else if s = "=" then .value
  else .text

end EnvoySidecar.Yaml
