import EnvoySidecar.Console.Emoji
import EnvoySidecar.Console.Literal
import EnvoySidecar.Console.Style

/-! Markup in console texts. A tag in square brackets opens a style, or closes one with a slash; of
all that only the text is kept. A backslash before a tag makes it text. -/

namespace EnvoySidecar.Console

/-- Bell, backspace, vertical tab, form feed and carriage return. -/
def isStripped (c : Char) : Bool :=
  [0x07, 0x08, 0x0B, 0x0C, 0x0D].contains c.toNat

namespace Markup

open Text

inductive Fault where
  | closesNone (tag : String) (position : Nat)
  | nothingToClose (position : Nat)
  | handler (parameters : String)
  | color (fault : Numeral.Fault)
deriving DecidableEq, Repr

def Fault.message : Fault → String
  | closesNone tag position =>
    s!"closing tag '[{tag}]' at position {position} doesn't match any open tag"
  | nothingToClose position => s!"closing tag '[/]' at position {position} has nothing to close"
  | handler parameters => s!"error parsing {quoted parameters}"
  | color fault => fault.message

structure Tag where
  name : List Char
  parameters : Option (List Char)
deriving DecidableEq, Repr

inductive Piece where
  | text (cs : List Char)
  | tag (position : Nat) (t : Tag)
deriving DecidableEq, Repr

def beginsTag (c : Char) : Bool :=
  ('a' ≤ c && c ≤ 'z') || c = '#' || c = '/' || c = '@'

def splitTag : List Char → Option (List Char × List Char)
  | [] => none
  | c :: r =>
    let body := r.takeWhile fun d => d != '[' && d != ']'
    match r.drop body.length with
    | ']' :: rest => if beginsTag c then some (c :: body, rest) else none
    | _ => none

def Tag.ofContent (content : List Char) : Tag :=
  let name := content.takeWhile (· != '=')
  match content.drop name.length with
  | _ :: parameters => ⟨name, some parameters⟩
  | [] => ⟨name, none⟩

def Tag.content (t : Tag) : List Char :=
  match t.parameters with
  | some parameters => t.name ++ '=' :: parameters
  | none => t.name

/-- A bracket that begins no tag needs no backslash, and loses one. -/
def unescape : List Char → List Char
  | '\\' :: '[' :: r => '[' :: unescape r
  | c :: r => c :: unescape r
  | [] => []

def literal (reversed : List Char) : List Piece :=
  if reversed.isEmpty then [] else [.text (unescape reversed.reverse)]

/-- The pieces of a text, of which some comes first, reversed. Half of the backslashes before a tag
are text, and an odd one makes the tag text. -/
def pieces : Nat → Nat → List Char → List Char → List Piece
  | 0, _, before, cs => literal (cs.reverse ++ before)
  | _ + 1, _, before, [] => literal before
  | fuel + 1, position, before, c :: r =>
    let slashes := ((c :: r).takeWhile (· = '\\')).length
    match (c :: r).drop slashes with
    | '[' :: inside =>
      match splitTag inside with
      | some (content, rest) =>
        let ending := position + slashes + content.length + 2
        let kept := if slashes < 2 then [] else [.text (List.replicate (slashes / 2) '\\')]
        let piece : Piece :=
          if slashes % 2 = 1 then .text (unescape ('[' :: content ++ [']']))
          else .tag (position + slashes) (Tag.ofContent content)
        literal before ++ kept ++ piece :: pieces fuel ending [] rest
      | none =>
        pieces fuel (position + slashes + 1)
          ('[' :: List.replicate slashes '\\' ++ before) inside
    | rest =>
      if slashes = 0 then pieces fuel (position + 1) (c :: before) r
      else pieces fuel (position + slashes) (List.replicate slashes '\\' ++ before) rest

def read (cs : List Char) : List Piece :=
  pieces (cs.length + 1) 0 [] cs

def isHandlerName (c : Char) : Bool :=
  isWordChar c || c = '.'

section Named

variable (named : String → Bool)

/-- A handler is a name, arguments, or both; anything else has to be a literal as a whole. -/
def isHandler (cs : List Char) : Bool :=
  let body := trimWith isBlank cs
  match body.dropWhile isHandlerName with
  | [] => true
  | '(' :: r =>
    if r.getLast? = some ')' && !r.contains '\n' then isLiteral named ('(' :: r)
    else isLiteral named body
  | _ => isLiteral named body

def close (name : List Char) : List Tag → Option (Tag × List Tag)
  | [] => none
  | t :: rest =>
    if t.name = name then some (t, rest)
    else (close name rest).map fun r => (r.1, t :: r.2)

def checkHandler (t : Tag) : Except Fault Unit :=
  match t.name, t.parameters with
  | '@' :: _, some parameters =>
    if parameters.isEmpty || isHandler named parameters then .ok ()
    else .error (.handler (String.ofList parameters))
  | _, _ => .ok ()

def normalize (name : List Char) : Except Fault (List Char) :=
  (Style.normalize name).mapError .color

def step (opened : List Tag) (position : Nat) (t : Tag) : Except Fault (List Tag) :=
  match t.name with
  | '/' :: rest =>
    let name := trimWith isBlank rest
    if name.isEmpty then
      match opened with
      | [] => .error (.nothingToClose position)
      | last :: others => do
        checkHandler named last
        return others
    else do
      match close (← normalize name) opened with
      | none => .error (.closesNone (String.ofList t.content) position)
      | some (closed, others) => do
        checkHandler named closed
        return others
  | name => do
    return ⟨← normalize name, t.parameters⟩ :: opened

structure Rendered where
  text : List Char := []
  around : List (List Tag) := []
  openings : List (Nat × Tag) := []

def shownChars (cs : List Char) : List Char :=
  (Emoji.replace cs).filter (!isStripped ·)

def Rendered.behind (r : Rendered) (opened : List Tag) (shown : List Char) : Rendered :=
  { r with text := shown ++ r.text, around := List.replicate shown.length opened ++ r.around }

def Rendered.opening (r : Rendered) (used : Nat) (ts : List Tag) : Rendered :=
  { r with openings := ts.map (used, ·) ++ r.openings }

def fill (opened : List Tag) (used : Nat) : List Piece → Except Fault Rendered
  | [] => .ok {}
  | .text cs :: rest => do
    let r ← fill opened (used + (shownChars cs).length) rest
    return r.behind opened (shownChars cs)
  | .tag position t :: rest => do
    let opened' ← step named opened position t
    let r ← fill opened' used rest
    return r.opening used (opened'.take (opened'.length - opened.length))

def render (cs : List Char) : Except Fault Rendered :=
  fill named [] 0 (read cs)

end Named

def Tag.style (t : Tag) : List Char :=
  match t.parameters with
  | some parameters => t.name ++ ' ' :: parameters
  | none => t.name

end Markup

end EnvoySidecar.Console
