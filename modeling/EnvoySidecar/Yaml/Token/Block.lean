import EnvoySidecar.Yaml.Token.Property

/-! Block scalars: indented lines, kept as they are or folded. The header may say how far the lines
are indented and what becomes of the last breaks. -/

namespace EnvoySidecar.Yaml.Block

open Text

inductive Chomp where
  | clip
  | strip
  | keep
deriving DecidableEq, Repr

def Chomp.ofChar? : Char → Option Chomp
  | '-' => some .strip
  | '+' => some .keep
  | _ => none

structure Header where
  chomp : Chomp
  increment : Option Nat

def readChomp (k : Cursor) : Option Chomp × Cursor :=
  match k.rest.head?.bind Chomp.ofChar? with
  | some chomp => (some chomp, k.step)
  | none => (none, k)

def readIncrement : Reader (Option Nat) := fun k =>
  match k.rest with
  | c :: _ =>
    if c = '0' then .error (.malformed "an indentation of zero")
    else if isDigit c then .ok (some (digitValue c), k.step)
    else .ok (none, k)
  | [] => .ok (none, k)

def readHeader : Reader Header := fun k => do
  let before := readChomp k
  let increment ← readIncrement before.2
  let chomp := if before.1.isNone then readChomp increment.2 else (before.1, increment.2)
  let chomp ← expectSpace chomp
  let rest ← readLineRest chomp.2
  return (⟨chomp.1.getD .clip, increment.1⟩, rest.2)

structure Leading where
  breaks : List Char
  deepest : Nat
  firstEmpty : Option Nat
  cursor : Cursor

def leading : List Char → Position → Leading
  | [], place => ⟨[], 0, none, ⟨[], place⟩⟩
  | c :: r, place =>
    let more := leading r (place.after c)
    if c = ' ' then { more with deepest := max more.deepest (place.after c).column }
    else if isBreak c then
      { more with breaks := foldBreak c :: more.breaks, firstEmpty := some place.column }
    else ⟨[], 0, none, ⟨c :: r, place⟩⟩

def breaksWithin (indent : Nat) : Nat → Cursor → List Char × Cursor
  | 0, k => ([], k)
  | fuel + 1, k =>
    let k := k.skipIndent indent
    match k.rest with
    | c :: _ =>
      if isBreak c then
        let s := breaksWithin indent fuel k.step
        (foldBreak c :: s.1, s.2)
      else ([], k)
    | [] => ([], k)

structure Lines where
  text : List Char
  lastBreak : List Char
  breaks : List Char
  cursor : Cursor

def joint (folded indented : Bool) (lastBreak breaks : List Char) (next : Cursor) : List Char :=
  if folded && lastBreak = ['\n'] && !indented && !next.rest.head?.any isGap then
    if breaks.isEmpty then [' '] else []
  else lastBreak

def lines (folded : Bool) (indent : Nat) (bare : Bool) : Nat → Cursor → List Char → Lines
  | 0, k, breaks => ⟨[], [], breaks, k⟩
  | fuel + 1, k, breaks =>
    if k.place.column = indent && !k.rest.isEmpty then
      let line := k.span (!isLineEnd ·)
      let lastBreak := if line.2.rest.isEmpty then [] else ['\n']
      let next := breaksWithin indent line.2.rest.length line.2.step
      let marked := bare && next.2.place.column = 0 && markerFollows next.2.rest
      if !marked && next.2.place.column = indent && !next.2.rest.isEmpty then
        let more := lines folded indent bare fuel next.2 next.1
        let indented := k.rest.head?.any isGap
        { more with
          text := breaks ++ line.1 ++ joint folded indented lastBreak next.1 next.2 ++ more.text }
      else ⟨breaks ++ line.1, lastBreak, next.1, next.2⟩
    else ⟨[], [], breaks, k⟩

def Lines.chomped (l : Lines) : Chomp → List Char
  | .clip => l.text ++ l.lastBreak
  | .strip => l.text
  | .keep => l.text ++ l.lastBreak ++ l.breaks

def read (folded : Bool) (least : Nat) : Reader String := fun k => do
  let (header, k) ← readHeader k
  let bare := header.increment.isNone && least = 0
  let scalar (indent : Nat) (breaks : List Char) (k : Cursor) : String × Cursor :=
    let l := lines folded indent bare (k.rest.length + 1) k breaks
    (String.ofList (l.chomped header.chomp), l.cursor)
  match header.increment with
  | some n =>
    let indent := max least 1 + n - 1
    let first := breaksWithin indent (k.rest.length + 1) k
    return scalar indent first.1 first.2
  | none =>
    let first := leading k.rest k.place
    if first.firstEmpty.any fun column => 0 < column && column < first.deepest then
      .error (.malformed "a first empty line that is less indented than a later one")
    else return scalar (max least first.deepest) first.breaks first.cursor

end EnvoySidecar.Yaml.Block
