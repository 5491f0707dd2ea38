/-! Classes of characters in a document. Line ends are line feeds by the time a document is read,
so that a carriage return belongs to no class. -/

namespace EnvoySidecar.Yaml

/-- Versions of the language; they differ in which plain scalars are flags and numbers, and in
which marks between brackets need a gap behind them. -/
inductive Version where
  | v11
  | v12
deriving DecidableEq, Repr

def isAllowed (c : Char) : Bool :=
  let n := c.toNat
  n = 0x9 || n = 0xA || n = 0xD || (0x20 ≤ n && n ≤ 0x7E) || n = 0x85 ||
    (0xA0 ≤ n && n ≤ 0xD7FF) || (0xE000 ≤ n && n ≤ 0xFFFD) || 0x10000 ≤ n

def byteOrderMark : Char := '\ufeff'

def isBreak (c : Char) : Bool :=
  c = '\n' || c = '\x85' || c = '\u2028' || c = '\u2029'

def isLineEnd (c : Char) : Bool :=
  c = '\n' || c = '\x85'

def isGap (c : Char) : Bool :=
  c = ' ' || c = '\t'

def foldBreak (c : Char) : Char :=
  if isLineEnd c then '\n' else c

def gapFollows : List Char → Bool
  | [] => true
  | c :: _ => isGap c || isLineEnd c

def spaceFollows : List Char → Bool
  | [] => true
  | c :: _ => c = ' ' || isBreak c

def isIndicator (c : Char) : Bool :=
  "-?:,[]\x7b\x7d#&*!|>'\"%@`".toList.contains c

def isFlowIndicator (c : Char) : Bool :=
  ",[]\x7b\x7d".toList.contains c

def markerFollows : List Char → Bool
  | '-' :: '-' :: '-' :: r => gapFollows r
  | '.' :: '.' :: '.' :: r => gapFollows r
  | _ => false

def isAnchorChar (c : Char) : Bool :=
  let n := c.toNat
  !isFlowIndicator c && c != byteOrderMark &&
    ((0x21 ≤ n && n ≤ 0x7E) || (0xA0 ≤ n && n ≤ 0xD7FF) || (0xE000 ≤ n && n ≤ 0xFFFD) ||
      0x10000 ≤ n)

def isWordChar (c : Char) : Bool :=
  c.isAlphanum || c = '-' || c = '_'

def isUriChar (v : Version) (c : Char) : Bool :=
  c.isAlphanum || "-;/?:@&=+$,_.!~*'()[]".toList.contains c || (v = .v12 && c = '#')

end EnvoySidecar.Yaml
