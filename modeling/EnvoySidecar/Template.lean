import EnvoySidecar.Text.Blank
import EnvoySidecar.Text.Digits
import EnvoySidecar.Text.Lines
import EnvoySidecar.Text.Property
import EnvoySidecar.Text.Quoted

/-! Command templates: literal text, placeholders such as `delay` in double braces, and comments.
A template is read into pieces, all of it before anything is filled in, so that a malformed
template is reported before a missing value. -/

namespace EnvoySidecar

namespace Template

open Text

inductive Piece where
  | literal (text : List Char)
  | placeholder (name : List Char)
  | comment (body : List Char)
deriving DecidableEq, Repr

inductive Datum where
  | text (s : String)
  | integer (n : Int)
  | flag (b : Bool)
  | nothing
deriving DecidableEq, Repr

inductive Fault where
  | undefined (name : String)
  | unexpectedEnd
  | endInsteadOfName
  | emptyPlaceholder
  | unexpectedToken (token : String)
  | tokenInsteadOfEnd (token : String)
  | unknownCharacter (c : Char) (position : Nat)
  | noIdentifier
  | openComment
  | unknownTag (name : String)
  | namelessTag
  | longInteger
deriving DecidableEq, Repr

namespace Fault

def message : Fault → String
  | undefined name => s!"'{name}' is undefined"
  | unexpectedEnd => "unexpected end of template, expected 'end of print statement'."
  | endInsteadOfName => "unexpected 'end of template'"
  | emptyPlaceholder => "Expected an expression, got 'end of print statement'"
  | unexpectedToken token => s!"unexpected {quoted token}"
  | tokenInsteadOfEnd token => s!"expected token 'end of print statement', got {quoted token}"
  | unknownCharacter c position => s!"unexpected char {quoted c.toString} at {position}"
  | noIdentifier => "Invalid character in identifier"
  | openComment => "Missing end of comment tag"
  | unknownTag name => s!"Encountered unknown tag {quoted name}."
  | namelessTag => "tag name expected"
  | longInteger => digitLimitMessage

end Fault

/-- All line ends become line feeds, and one at the end of the template is dropped. -/
def normalize (cs : List Char) : List Char :=
  let unified := unifyLines cs
  if unified.getLast? = some '\n' then unified.dropLast else unified

inductive Opener where
  | print
  | comment
  | tag
deriving DecidableEq, Repr

def Opener.ofChar? : Char → Option Opener
  | '\x7b' => some .print
  | '#' => some .comment
  | '%' => some .tag
  | _ => none

def splitOpener : List Char → List Char × Option (Opener × List Char)
  | '\x7b' :: c :: r =>
    match Opener.ofChar? c with
    | some o => ([], some (o, r))
    | none =>
      let s := splitOpener (c :: r)
      ('\x7b' :: s.1, s.2)
  | c :: r =>
    let s := splitOpener r
    (c :: s.1, s.2)
  | [] => ([], none)

def splitComment : List Char → Option (List Char × List Char)
  | '#' :: '\x7d' :: r => some ([], r)
  | c :: r => (splitComment r).map fun s => (c :: s.1, s.2)
  | [] => none

def isNameChar (c : Char) : Bool :=
  isWordChar c || isIdentifierPart c

def refuse (name : List Char) (fault : Fault) : Fault :=
  if isIdentifier name then fault else .noIdentifier

def isOperator (c : Char) : Bool :=
  "+-/*%~[](){}=<>.:|,;!".toList.contains c

/-- A sign at the edge of a tag: `-` also removes the blanks outside the tag, `+` keeps them. -/
def dropSign : List Char → Bool × List Char
  | '-' :: r => (true, r)
  | '+' :: r => (false, r)
  | r => (false, r)

def trimEnd (cs : List Char) : List Char :=
  (cs.reverse.dropWhile isBlank).reverse

def splitPrintEnd : List Char → Option (List Char)
  | '\x7d' :: '\x7d' :: r => some r
  | '-' :: '\x7d' :: '\x7d' :: r => some (r.dropWhile isBlank)
  | _ => none

def stray (size : Nat) (afterName : Bool) (cs : List Char) : Fault :=
  match cs with
  | [] => if afterName then .unexpectedEnd else .endInsteadOfName
  | c :: r =>
    let name := cs.takeWhile isNameChar
    if isDigit c then .tokenInsteadOfEnd "integer"
    else if isNameChar c then refuse name (.tokenInsteadOfEnd (String.ofList name))
    else if c = '\x7d' || c = ')' || c = ']' then .unexpectedToken c.toString
    else if isOperator c then
      if afterName then .tokenInsteadOfEnd c.toString else .unexpectedToken c.toString
    else .unknownCharacter c (size - (r.length + 1))

def readPrint (size : Nat) (cs : List Char) : Except Fault (List Char × List Char) :=
  let body := cs.dropWhile isBlank
  let name := body.takeWhile isNameChar
  let rest := body.dropWhile isNameChar
  match name with
  | [] =>
    match splitPrintEnd rest with
    | some _ => .error .emptyPlaceholder
    | none => .error (stray size false rest)
  | c :: _ =>
    let after := name.dropWhile isDigit
    if isDigit c && !after.isEmpty then
      .error (refuse after (.tokenInsteadOfEnd (String.ofList after)))
    else if !isDigit c && !isIdentifier name then .error .noIdentifier
    else
    let tail := rest.dropWhile isBlank
    match splitPrintEnd tail with
    | some r => .ok (name, r)
    | none => .error (stray size true tail)

def readTag (cs : List Char) : Fault :=
  match (cs.dropWhile isBlank).takeWhile isNameChar with
  | [] => .namelessTag
  | c :: r =>
    if isDigit c then .namelessTag else refuse (c :: r) (.unknownTag (String.ofList (c :: r)))

/-- Reads pieces until the text or the fuel ends; each piece takes up two characters at least. -/
def readPieces (size : Nat) : Nat → List Char → Except Fault (List Piece)
  | 0, _ => .ok []
  | fuel + 1, cs =>
    let s := splitOpener cs
    match s.2 with
    | none => .ok [.literal s.1]
    | some (opener, inside) =>
      let signed := dropSign inside
      let literal : Piece := .literal (if signed.1 then trimEnd s.1 else s.1)
      match opener with
      | .print => do
        let (name, rest) ← readPrint size signed.2
        let tail ← readPieces size fuel rest
        return literal :: .placeholder name :: tail
      | .comment =>
        match splitComment signed.2 with
        | none => if signed.2.isEmpty then .ok [literal] else .error .openComment
        | some (body, rest) => do
          let rest := if body.getLast? = some '-' then rest.dropWhile isBlank else rest
          let tail ← readPieces size fuel rest
          return literal :: .comment body :: tail
      | .tag => .error (readTag signed.2)

def read (source : List Char) : Except Fault (List Piece) :=
  let cs := normalize source
  readPieces cs.length (cs.length + 1) cs

def Datum.render : Datum → Except Fault (List Char)
  | .text s => .ok s.toList
  | .integer n =>
    match integerText? n with
    | some s => .ok s.toList
    | none => .error .longInteger
  | .flag true => .ok "True".toList
  | .flag false => .ok "False".toList
  | .nothing => .ok "None".toList

/-- Values by name. The names are those that a call can pass on: not the parameters' own. -/
abbrev Context := List (String × Datum)

def constant? (name : String) : Option Datum :=
  match name with
  | "true" => some (.flag true)
  | "True" => some (.flag true)
  | "false" => some (.flag false)
  | "False" => some (.flag false)
  | "none" => some .nothing
  | "None" => some .nothing
  | _ =>
    let cs := name.toList
    if cs.all isDigit then some (.integer (ofDigits 10 cs)) else none

def lookup (context : Context) (name : String) : Except Fault Datum :=
  match constant? name with
  | some d => .ok d
  | none =>
    match context.find? fun e => e.1 == name with
    | some e => .ok e.2
    | none => .error (.undefined name)

def Piece.fill (context : Context) : Piece → Except Fault (List Char)
  | .literal text => .ok text
  | .placeholder name => do (← lookup context (String.ofList name)).render
  | .comment _ => .ok []

def fill (context : Context) (pieces : List Piece) : Except Fault (List Char) := do
  return (← pieces.mapM (Piece.fill context)).flatten

def render (source : String) (context : Context) : Except Fault String := do
  let pieces ← read source.toList
  return String.ofList (← fill context pieces)

def shellCommand (source : String) (context : Context) : Except Fault (List String) := do
  return ["sh", "-c", ← render source context]

end Template

end EnvoySidecar
