import EnvoySidecar.Yaml.Tag

/-! How a text is written as a scalar: plain where a plain scalar would be read as this text, between
single quotes where nothing needs an escape, and between double quotes otherwise. -/

namespace EnvoySidecar.Yaml

inductive Style where
  | plain
  | single
  | double
deriving DecidableEq, Repr

namespace Style

def isUsual (c : Char) : Bool :=
  let n := c.toNat
  c != byteOrderMark &&
    (n = 0xA || (0x20 ≤ n && n ≤ 0x7E) || n = 0x85 || (0xA0 ≤ n && n ≤ 0xD7FF) ||
      (0xE000 ≤ n && n ≤ 0xFFFD) || 0x10000 ≤ n)

def isLooseIndicator (c : Char) : Bool :=
  c = '-' || c = '?' || c = ':'

def wordEnds (cs : List Char) : Bool :=
  cs.head?.all (· = ' ')

def beginsOtherwise : List Char → Bool
  | '-' :: '-' :: '-' :: _ => true
  | '.' :: '.' :: '.' :: _ => true
  | c :: r => isIndicator c && (!isLooseIndicator c || wordEnds r)
  | [] => false

def breaksOff : List Char → Bool
  | ':' :: r => wordEnds r || breaksOff r
  | ' ' :: '#' :: _ => true
  | _ :: r => breaksOff r
  | [] => false

def isEdge (c : Char) : Bool :=
  c = ' ' || isBreak c

def mixesGaps : List Char → Bool
  | c :: d :: r => (c = ' ' && isBreak d) || (isBreak c && d = ' ') || mixesGaps (d :: r)
  | _ => false

def isPlain (cs : List Char) : Bool :=
  Tag.ofPlain .v12 (String.ofList cs) = .text && cs.all (fun c => isUsual c && !isBreak c) &&
    !cs.head?.any isEdge && !cs.getLast?.any isEdge && !beginsOtherwise cs && !breaksOff cs

def isSingle (cs : List Char) : Bool :=
  cs.all (fun c => isUsual c && c != '\'' && c != '\n') && !mixesGaps cs

def ofText (cs : List Char) : Style :=
  if isPlain cs then .plain else if isSingle cs then .single else .double

end Style

end EnvoySidecar.Yaml
