import EnvoySidecar.Yaml.Style
import EnvoySidecar.Text.Digits

/-! Scalars in lines of a limited width. A line that has grown too long ends at its next single
space; what goes on is indented. -/

namespace EnvoySidecar.Yaml.Fold

open Text

def width : Nat := 80

def newLine (indent : Nat) : List Char :=
  '\n' :: List.replicate indent ' '

inductive Piece where
  | word (cs : List Char)
  | spaces (n : Nat)
  | breaks (cs : List Char)
deriving DecidableEq, Repr

namespace Piece

def cons (c : Char) (ps : List Piece) : List Piece :=
  if c = ' ' then
    match ps with
    | .spaces n :: rest => .spaces (n + 1) :: rest
    | _ => .spaces 1 :: ps
  else if isBreak c then
    match ps with
    | .breaks cs :: rest => .breaks (c :: cs) :: rest
    | _ => .breaks [c] :: ps
  else
    match ps with
    | .word cs :: rest => .word (c :: cs) :: rest
    | _ => .word [c] :: ps

def text : Piece → List Char
  | word cs | breaks cs => cs
  | spaces n => List.replicate n ' '

end Piece

def pieces : List Char → List Piece
  | [] => []
  | c :: r => Piece.cons c (pieces r)

def plainPieces (indent : Nat) : Nat → List Piece → List Char
  | _, [] => []
  | column, .word w :: rest =>
    if width < column + w.length && indent < column then
      newLine indent ++ w ++ plainPieces indent (indent + w.length) rest
    else w ++ plainPieces indent (column + w.length) rest
  | column, .spaces n :: rest =>
    if n = 1 && width < column then newLine indent ++ plainPieces indent indent rest
    else List.replicate n ' ' ++ plainPieces indent (column + n) rest
  | column, .breaks cs :: rest => cs ++ plainPieces indent column rest

def singlePieces (indent : Nat) : Nat → Bool → List Piece → List Char
  | _, _, [] => []
  | column, _, .word w :: rest => w ++ singlePieces indent (column + w.length) false rest
  | column, first, .spaces n :: rest =>
    if n = 1 && width < column && !first && !rest.isEmpty then
      newLine indent ++ singlePieces indent indent false rest
    else List.replicate n ' ' ++ singlePieces indent (column + n) false rest
  | _, _, .breaks cs :: rest =>
    cs ++ List.replicate indent ' ' ++ singlePieces indent indent false rest

def escapeLetter? (c : Char) : Option Char :=
  match c with
  | '\x00' => some '0'
  | '\x07' => some 'a'
  | '\x08' => some 'b'
  | '\t' => some 't'
  | '\n' => some 'n'
  | '\x0b' => some 'v'
  | '\x0c' => some 'f'
  | '\r' => some 'r'
  | '\x1b' => some 'e'
  | '"' => some '"'
  | '\\' => some '\\'
  | '\x85' => some 'N'
  | '\u2028' => some 'L'
  | '\u2029' => some 'P'
  | _ => none

def upperHex (width n : Nat) : List Char :=
  (hexDigits width n).map Char.toUpper

def escape? (c : Char) : Option (List Char) :=
  match escapeLetter? c with
  | some letter => some ['\\', letter]
  | none =>
    let n := c.toNat
    if Style.isUsual c then none
    else if n ≤ 0xFF then some ('\\' :: 'x' :: upperHex 2 n)
    else if n ≤ 0xFFFF then some ('\\' :: 'u' :: upperHex 4 n)
    else some ('\\' :: 'U' :: upperHex 8 n)

def endsOpenly : List Char → Bool
  | [] => false
  | c :: r =>
    let word := (c :: r).takeWhile (· != ' ')
    (c :: r).contains ' ' && !word.contains '"' && !word.contains '\'' && r.head? != some ' '

inductive Before where
  | quote
  | escape
  | space
  | other
deriving DecidableEq, Repr

def doubleChars (indent : Nat) : Nat → Before → List Char → List Char
  | _, _, [] => []
  | column, before, c :: r =>
    let inside := before != .quote && !r.isEmpty
    match escape? c with
    | some e =>
      let after := column + e.length
      if inside && width + 1 < after then
        if endsOpenly (c :: r) then e ++ newLine indent ++ doubleChars indent indent .escape r
        else if r.head? = some ' ' then
          e ++ '\\' :: newLine indent ++ '\\' :: doubleChars indent (indent + 1) .escape r
        else e ++ '\\' :: newLine indent ++ doubleChars indent indent .escape r
      else e ++ doubleChars indent after .escape r
    | none =>
      if c = ' ' then
        if inside && width < column then
          if endsOpenly (c :: r) && before != .space then
            newLine indent ++ doubleChars indent indent .space r
          else
            '\\' :: newLine indent ++ '\\' :: ' ' :: doubleChars indent (indent + 2) .space r
        else ' ' :: doubleChars indent (column + 1) .space r
      else if inside && width < column && before = .escape then
        let line := newLine indent ++ c :: doubleChars indent (indent + 1) .other r
        if endsOpenly (c :: r) then line else '\\' :: line
      else c :: doubleChars indent (column + 1) .other r

def scalar (indent column : Nat) (cs : List Char) : List Char :=
  match Style.ofText cs with
  | .plain => plainPieces indent column (pieces cs)
  | .single => '\'' :: singlePieces indent (column + 1) true (pieces cs) ++ ['\'']
  | .double => '"' :: doubleChars indent (column + 1) .quote cs ++ ['"']

end EnvoySidecar.Yaml.Fold
