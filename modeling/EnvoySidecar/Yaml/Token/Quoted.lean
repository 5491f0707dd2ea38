import EnvoySidecar.Yaml.Token

/-! Quoted scalars. Between single quotes only the quote itself is special, and is written twice;
between double quotes a backslash escapes. Line ends fold in both. -/

namespace EnvoySidecar.Yaml.Quoted

open Text

inductive Style where
  | single
  | double
deriving DecidableEq, Repr

def Style.mark : Style → Char
  | single => '\''
  | double => '"'

def escape? : Char → Option Char
  | '0' => some '\x00'
  | 'a' => some '\x07'
  | 'b' => some '\x08'
  | 't' => some '\t'
  | '\t' => some '\t'
  | 'n' => some '\n'
  | 'v' => some '\x0b'
  | 'f' => some '\x0c'
  | 'r' => some '\r'
  | 'e' => some '\x1b'
  | ' ' => some ' '
  | '"' => some '"'
  | '/' => some '/'
  | '\\' => some '\\'
  | 'N' => some '\x85'
  | '_' => some '\xa0'
  | 'L' => some '\u2028'
  | 'P' => some '\u2029'
  | _ => none

def escapeWidth? : Char → Option Nat
  | 'x' => some 2
  | 'u' => some 4
  | 'U' => some 8
  | _ => none

def characterOf (code : Nat) : Except Fault Char :=
  if 0x10FFFF < code then .error .characterCode
  else if h : code.isValidChar then .ok (Char.ofNatAux code h)
  else .error (.malformed "an escape for no character")

def readEscape : Reader Char := fun k =>
  match k.rest with
  | [] => .error (.malformed "an escape that does not end")
  | c :: r =>
    match escape? c, escapeWidth? c with
    | some e, _ => .ok (e, k.step)
    | none, some width =>
      let ds := r.take width
      if ds.length = width && ds.all isHexDigit then do
        return (← characterOf (ofDigits 16 ds), k.steps (width + 1))
      else .error (.malformed "an escape without its digits")
    | none, none => .error (.malformed "an unknown escape")

def readBreaks : Nat → Reader (List Char)
  | 0, k => .ok ([], k)
  | fuel + 1, k =>
    if markerFollows k.rest then .error (.malformed "a document marker in a quoted scalar")
    else
      let k := k.skip isGap
      match k.rest with
      | c :: _ =>
        if isBreak c then do
          let s ← readBreaks fuel k.step
          return (foldBreak c :: s.1, s.2)
        else .ok ([], k)
      | [] => .ok ([], k)

def readGap : Reader (List Char) := fun k =>
  let gap := k.span isGap
  match gap.2.rest with
  | [] => .error (.malformed "a quoted scalar that does not end")
  | c :: _ =>
    if isBreak c then do
      let s ← readBreaks (gap.2.rest.length) gap.2.step
      return (fold (foldBreak c) s.1, s.2)
    else .ok gap

def isSpecial (style : Style) (c : Char) : Bool :=
  isGap c || isBreak c || c = style.mark || (style = .double && c = '\\')

def readBody (style : Style) : Nat → Reader (List Char)
  | 0, _ => .error (.malformed "a quoted scalar that does not end")
  | fuel + 1, k =>
    let run := k.span (!isSpecial style ·)
    match run.2.rest with
    | [] => .error (.malformed "a quoted scalar that does not end")
    | c :: r =>
      if isGap c || isBreak c then do
        let gap ← readGap run.2
        let more ← readBody style fuel gap.2
        return (run.1 ++ gap.1 ++ more.1, more.2)
      else if c = '\\' then
        if r.head?.any isBreak then do
          let joined ← readBreaks r.length (run.2.steps 2)
          let more ← readBody style fuel joined.2
          return (run.1 ++ joined.1 ++ more.1, more.2)
        else do
          let e ← readEscape run.2.step
          let more ← readBody style fuel e.2
          return (run.1 ++ e.1 :: more.1, more.2)
      else if style = .single && r.head? = some style.mark then do
        let more ← readBody style fuel (run.2.steps 2)
        return (run.1 ++ style.mark :: more.1, more.2)
      else .ok (run.1, run.2.step)

def read (style : Style) : Reader String := fun k => do
  let s ← readBody style k.rest.length k.step
  return (String.ofList s.1, s.2)

end EnvoySidecar.Yaml.Quoted
