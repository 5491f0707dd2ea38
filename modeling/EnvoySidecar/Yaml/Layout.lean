import EnvoySidecar.Yaml.Token.Block
import EnvoySidecar.Yaml.Token.Plain
import EnvoySidecar.Yaml.Token.Quoted

/-! The layout of a document: which block collections indentation opens and closes, and which
scalars turn out to be keys because a colon follows on their line. A key is known as one only at
its colon, so a place for it is saved where it could begin, and the key's token is put there. -/

namespace EnvoySidecar.Yaml

inductive Bracket where
  | square
  | curly
deriving DecidableEq, Repr

structure SavedKey where
  count : Nat
  place : Position
  required : Bool
deriving DecidableEq, Repr

namespace SavedKey

def reach : Nat := 1024

def isStale (key : SavedKey) (p : Position) : Bool :=
  key.place.line != p.line || key.place.index + reach < p.index

end SavedKey

structure Level where
  bracket : Option Bracket
  key : Option SavedKey := none

structure Layout where
  cursor : Cursor
  version : Version := .v12
  indents : List Nat := []
  level : Level := ⟨none, none⟩
  outer : List Level := []
  keyAllowed : Bool := true
  emitted : List Token := []
  count : Nat := 0

namespace Layout

def inFlow (s : Layout) : Bool :=
  s.level.bracket.isSome

def least (s : Layout) : Nat :=
  match s.indents with
  | [] => 0
  | column :: _ => column + 1

def emit (s : Layout) (t : Token) : Layout :=
  { s with emitted := t :: s.emitted, count := s.count + 1 }

def emitAt (s : Layout) (n : Nat) (ts : List Token) : Layout :=
  let later := s.count - n
  { s with
    emitted := s.emitted.take later ++ ts ++ s.emitted.drop later
    count := s.count + ts.length }

def close (s : Layout) (column : Option Nat) : Layout :=
  if s.inFlow then s
  else
    let closed := s.indents.takeWhile fun indent => column.all (· < indent)
    { s with
      indents := s.indents.drop closed.length
      emitted := List.replicate closed.length .blockEnd ++ s.emitted
      count := s.count + closed.length }

def opens (s : Layout) (column : Nat) : Bool :=
  s.least ≤ column

def missingColon : Fault :=
  .malformed "a key without a colon"

def Level.refresh (p : Position) (l : Level) : Except Fault Level :=
  match l.key with
  | none => .ok l
  | some key =>
    if !key.isStale p then .ok l
    else if key.required then .error missingColon
    else .ok { l with key := none }

def refresh (s : Layout) : Except Fault Layout := do
  let level ← Level.refresh s.cursor.place s.level
  let outer ← s.outer.mapM (Level.refresh s.cursor.place)
  return { s with level, outer }

def dropKey (s : Layout) : Except Fault Layout :=
  match s.level.key with
  | none => .ok s
  | some key =>
    if key.required then .error missingColon
    else .ok { s with level := { s.level with key := none } }

/-- Saves the place of the next token, which may begin a key. A block collection that goes on at
this very column requires one. -/
def saveKey (s : Layout) : Except Fault Layout := do
  if !s.keyAllowed then return s
  let s ← s.dropKey
  let required := !s.inFlow && s.least = s.cursor.place.column + 1
  return { s with level := { s.level with key := some ⟨s.count, s.cursor.place, required⟩ } }

def skipBetween (flow : Bool) : Nat → Cursor → Bool × Cursor
  | 0, k => (false, k)
  | fuel + 1, k =>
    let k := k.skip fun c => c = ' ' || (flow && c = '\t')
    let k := if k.rest.head? = some '#' then k.skip (!isLineEnd ·) else k
    if k.rest.head?.any isBreak then (true, (skipBetween flow fuel k.step).2) else (false, k)

def toNext (s : Layout) : Except Fault Layout := do
  let (endsLine, cursor) := skipBetween s.inFlow (s.cursor.rest.length + 1) s.cursor
  let keyAllowed := s.keyAllowed || (endsLine && !s.inFlow)
  let s ← { s with cursor, keyAllowed }.refresh
  return s.close (some cursor.place.column)

def closeAll (s : Layout) : Except Fault Layout := do
  let s ← (s.close none).dropKey
  return { s with keyAllowed := false }

def directive (s : Layout) : Except Fault Layout := do
  let s ← s.closeAll
  let d ← readDirective s.version s.cursor.step
  return { s with cursor := d.2, version := d.1.version?.getD s.version }.emit (.directive d.1)

def marker (s : Layout) (t : Token) : Except Fault Layout := do
  let s ← s.closeAll
  return { s with cursor := s.cursor.steps 3 }.emit t

def openFlow (s : Layout) (b : Bracket) : Except Fault Layout := do
  let s ← s.saveKey
  let t : Token := if b = .square then .flowSequence else .flowMapping
  return { s with
    cursor := s.cursor.step
    level := ⟨some b, none⟩
    outer := s.level :: s.outer
    keyAllowed := true }.emit t

def closeFlow (s : Layout) (b : Bracket) : Except Fault Layout := do
  let s ← s.dropKey
  let t : Token := if b = .square then .flowSequenceEnd else .flowMappingEnd
  let s := match s.outer with
    | level :: outer => { s with level, outer }
    | [] => s
  return { s with cursor := s.cursor.step, keyAllowed := false }.emit t

def separator (s : Layout) : Except Fault Layout := do
  let s ← s.dropKey
  return { s with cursor := s.cursor.step, keyAllowed := true }.emit .separator

def openBlock (s : Layout) (t : Token) : Except Fault Layout :=
  if s.inFlow then .ok s
  else if !s.keyAllowed then .error (.malformed "an entry where none may begin")
  else
    let column := s.cursor.place.column
    if s.opens column then .ok ({ s with indents := column :: s.indents }.emit t) else .ok s

def entry (s : Layout) : Except Fault Layout := do
  let s ← (← s.openBlock .blockSequence).dropKey
  return { s with cursor := s.cursor.step, keyAllowed := true }.emit .entry

def explicitKey (s : Layout) : Except Fault Layout := do
  let s ← (← s.openBlock .blockMapping).dropKey
  return { s with cursor := s.cursor.step, keyAllowed := !s.inFlow }.emit .key

def settleKey (s : Layout) (key : SavedKey) : Layout :=
  let s := { s with level := { s.level with key := none }, keyAllowed := false }
  if !s.inFlow && s.opens key.place.column then
    { s with indents := key.place.column :: s.indents }.emitAt key.count [.key, .blockMapping]
  else s.emitAt key.count [.key]

def value (s : Layout) : Except Fault Layout := do
  match s.level.key with
  | some key =>
    let s := s.settleKey key
    return { s with cursor := s.cursor.step }.emit .value
  | none =>
    let s ← (← s.openBlock .blockMapping).dropKey
    return { s with cursor := s.cursor.step, keyAllowed := !s.inFlow }.emit .value

def mayBeKey (s : Layout) : Bool :=
  (s.level :: s.outer).any fun l => l.key.any (!·.isStale s.cursor.place)

/-- Whether a colon is the mark of a value. Between curly brackets it need not be followed by a
gap, except right behind another colon while a whole collection may yet turn out to be a key. -/
def marksValue (s : Layout) (held : Bool) (r : List Char) : Bool :=
  gapFollows r ||
    match s.level.bracket with
    | some .curly => s.version = .v11 || !(held && s.emitted.head? = some .value)
    | some .square => s.version = .v11
    | none => false

def keyed (s : Layout) (read : Reader Token) : Except Fault Layout := do
  let s ← s.saveKey
  let t ← read s.cursor
  return { s with cursor := t.2, keyAllowed := false }.emit t.1

def plain (s : Layout) : Except Fault Layout := do
  let s ← s.saveKey
  let p := Plain.read s.version s.inFlow s.least (s.cursor.rest.length + 1) s.cursor
  return { s with cursor := p.cursor, keyAllowed := p.endsLine }.emit
    (.scalar (String.ofList p.text) true)

def block (s : Layout) (folded : Bool) : Except Fault Layout := do
  let s ← s.dropKey
  let t ← Block.read folded s.least s.cursor.step
  return { s with cursor := t.2, keyAllowed := true }.emit (.scalar t.1 false)

def readQuoted (style : Quoted.Style) : Reader Token := fun k => do
  let s ← Quoted.read style k
  return (.scalar s.1 false, s.2)

def readNamed (make : String → Token) : Reader Token := fun k => do
  let s ← readAnchorName k.step
  return (make s.1, s.2)

def readTagged (v : Version) : Reader Token := fun k => do
  let s ← readTag v k
  return (.tag s.1.1 s.1.2, s.2)

def token (s : Layout) (held : Bool) (c : Char) (r : List Char) : Except Fault Layout :=
  let first := s.cursor.place.column = 0
  if first && c = '%' then s.directive
  else if first && markerFollows (c :: r) then
    s.marker (if c = '-' then .documentStart else .documentEnd)
  else if c = '-' && gapFollows r then s.entry
  else if c = '?' && (s.inFlow || gapFollows r) then s.explicitKey
  else if c = ':' && s.marksValue held r then s.value
  else match c with
    | '[' => s.openFlow .square
    | '\x7b' => s.openFlow .curly
    | ']' => s.closeFlow .square
    | '\x7d' => s.closeFlow .curly
    | ',' => s.separator
    | '*' => s.keyed (readNamed .alias)
    | '&' => s.keyed (readNamed .anchor)
    | '!' => s.keyed (readTagged s.version)
    | '\'' => s.keyed (readQuoted .single)
    | '"' => s.keyed (readQuoted .double)
    | _ =>
      if (c = '|' || c = '>') && !s.inFlow then s.block (c = '>')
      else if Plain.starts s.version s.inFlow c r then s.plain
      else .error (.malformed "a character that begins nothing")

def finish (s : Layout) : Except Fault Layout := do
  return (← s.closeAll).emit .finish

def run : Nat → Layout → List Token
  | 0, s => s.emitted.reverse ++ [.fault (.malformed "a document that does not end")]
  | fuel + 1, s =>
    let next := do
      let held := s.mayBeKey
      let s ← s.toNext
      match s.cursor.rest with
      | [] => return (← s.finish, true)
      | c :: r => return (← s.token held c r, false)
    match next with
    | .error f => s.emitted.reverse ++ [.fault f]
    | .ok (s, true) => s.emitted.reverse
    | .ok (s, false) => run fuel s

end Layout

def tokens (cs : List Char) : List Token :=
  let start : Cursor := ⟨cs, {}⟩
  let start := if cs.head? = some byteOrderMark then start.step else start
  Layout.run (cs.length + 2) { cursor := start }

end EnvoySidecar.Yaml
