import EnvoySidecar.Yaml.Token

/-! Names of anchors, tags, and directives. -/

namespace EnvoySidecar.Yaml

open Text

def readAnchorName : Reader String := fun k =>
  let s := k.span isAnchorChar
  if s.1.isEmpty then .error (.malformed "an anchor without a name")
  else if s.2.rest.head? = some byteOrderMark then .error (.malformed "a byte order mark in a name")
  else .ok (String.ofList s.1, s.2)

def readOctets : Nat → Reader (List UInt8)
  | 0, k => .ok ([], k)
  | fuel + 1, k =>
    match k.rest with
    | '%' :: a :: b :: _ =>
      if isHexDigit a && isHexDigit b then do
        let s ← readOctets fuel (k.steps 3)
        return (UInt8.ofNat (16 * digitValue a + digitValue b) :: s.1, s.2)
      else .error (.malformed "a percent sign without two digits")
    | '%' :: _ => .error (.malformed "a percent sign without two digits")
    | _ => .ok ([], k)

def readEscapes : Reader (List Char) := fun k => do
  let s ← readOctets k.rest.length k
  match String.fromUTF8? ⟨s.1.toArray⟩ with
  | some text => .ok (text.toList, s.2)
  | none => .error (.malformed "escaped octets that are no text")

def readUriPieces (v : Version) : Nat → Reader (List Char)
  | 0, k => .ok ([], k)
  | fuel + 1, k =>
    let s := k.span (isUriChar v)
    if s.2.rest.head? = some '%' then do
      let escaped ← readEscapes s.2
      let more ← readUriPieces v fuel escaped.2
      return (s.1 ++ escaped.1 ++ more.1, more.2)
    else .ok s

def readUri (v : Version) : Reader String := fun k => do
  let s ← readUriPieces v (k.rest.length + 1) k
  if s.1.isEmpty then .error (.malformed "a tag without a name") else .ok (String.ofList s.1, s.2)

def readHandle : Reader String := fun k =>
  match k.rest with
  | '!' :: ' ' :: _ => .ok ("!", k.step)
  | '!' :: _ =>
    let s := k.step.span isWordChar
    if s.2.rest.head? = some '!' then
      .ok (String.ofList ('!' :: (s.1 ++ ['!'])), s.2.step)
    else .error (.malformed "a tag handle that does not end")
  | _ => .error (.malformed "a tag handle that does not begin")

def expectSpace {α : Type} (s : α × Cursor) : Except Fault (α × Cursor) :=
  if spaceFollows s.2.rest then .ok s else .error (.malformed "a space is missing")

def hasHandle (cs : List Char) : Bool :=
  (cs.takeWhile fun c => c != ' ' && !isBreak c).contains '!'

def readTag (v : Version) : Reader (Option String × String) := fun k =>
  match k.rest with
  | '!' :: '<' :: _ => do
    let s ← readUri v (k.steps 2)
    if s.2.rest.head? = some '>' then expectSpace ((none, s.1), s.2.step)
    else .error (.malformed "a tag that does not end")
  | _ :: r =>
    if gapFollows r then expectSpace ((none, "!"), k.step)
    else do
      let handle ← if hasHandle r then readHandle k else .ok ("!", k.step)
      let s ← readUri v handle.2
      expectSpace ((some handle.1, s.1), s.2)
  | [] => .error (.malformed "a tag that does not begin")

def skipSpaces (k : Cursor) : Cursor :=
  k.skip (· = ' ')

def readNumber : Reader Nat := fun k =>
  let s := k.span isDigit
  if s.1.isEmpty then .error (.malformed "a version without a number")
  else if digitLimit < s.1.length then .error (.numeral (.long s.1.length))
  else .ok (ofDigits 10 s.1, s.2)

def readVersion : Reader Directive := fun k => do
  let major ← readNumber (skipSpaces k)
  if major.2.rest.head? != some '.' then .error (.malformed "a version without a point")
  let minor ← readNumber major.2.step
  expectSpace (.version major.1 minor.1, minor.2)

def readTagDirective (v : Version) : Reader Directive := fun k => do
  let handle ← readHandle (skipSpaces k)
  if handle.2.rest.head? != some ' ' then .error (.malformed "a handle without a tag")
  let uri ← readUri v (skipSpaces handle.2)
  expectSpace (.tag handle.1 uri.1, uri.2)

def readLineRest : Reader Unit := fun k =>
  let k := skipSpaces k
  let k := if k.rest.head? = some '#' then k.skip (!isLineEnd ·) else k
  match k.rest with
  | [] => .ok ((), k)
  | c :: _ =>
    if isLineEnd c then .ok ((), k.step) else .error (.malformed "more on a line that should end")

def readDirective (v : Version) : Reader Directive := fun k => do
  let name := k.span fun c => isWordChar c || c = ':' || c = '.'
  if name.1.isEmpty then .error (.malformed "a directive without a name")
  let name ← expectSpace name
  let d ← match String.ofList name.1 with
    | "YAML" => readVersion name.2
    | "TAG" => readTagDirective v name.2
    | other => .ok (.other other, name.2.skip (!isLineEnd ·))
  let rest ← readLineRest d.2
  return (d.1, rest.2)

end EnvoySidecar.Yaml
