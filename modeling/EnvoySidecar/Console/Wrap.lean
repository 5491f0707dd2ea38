import EnvoySidecar.Console.Width
import EnvoySidecar.Text.Blank

/-! Lines of a limited width. Words that do not fit go to the next line, blanks stay behind the word
that they follow, and a word wider than a line is cut. -/

namespace EnvoySidecar.Console

open Text

def lineWidth : Nat := 80

def tabWidth : Nat := 8

def expandTabs : Nat → List Char → List Char
  | _, [] => []
  | column, c :: r =>
    if c = '\t' then
      let n := tabWidth - column % tabWidth
      List.replicate n ' ' ++ expandTabs (column + n) r
    else c :: expandTabs (column + charCells c) r

def isInk (c : Char) : Bool :=
  !isBlank c

def wordsFrom : Nat → List Char → List (List Char)
  | 0, _ => []
  | fuel + 1, cs =>
    let before := cs.takeWhile isBlank
    let rest := cs.drop before.length
    let ink := rest.takeWhile isInk
    let behind := rest.drop ink.length
    let after := behind.takeWhile isBlank
    if ink.isEmpty then []
    else (before ++ ink ++ after) :: wordsFrom fuel (behind.drop after.length)

def chop (width : Nat) : Nat → List Char → List Char → List (List Char)
  | _, line, [] => [line.reverse]
  | used, line, c :: r =>
    if width < used + charCells c then line.reverse :: chop width (charCells c) [c] r
    else chop width (used + charCells c) (c :: line) r

structure Filling where
  full : List (List Char) := []
  line : List Char := []
  used : Nat := 0

def Filling.lines (f : Filling) : List (List Char) :=
  (f.line :: f.full).reverse

def Filling.next (f : Filling) : Filling :=
  if f.full.isEmpty && f.line.isEmpty then f else ⟨f.line :: f.full, [], 0⟩

def Filling.put (f : Filling) (part : List Char) (used : Nat) : Filling :=
  { f with line := f.line ++ part, used }

def Filling.add (width : Nat) (f : Filling) (word : List Char) : Filling :=
  let size := cells (word.reverse.dropWhile isBlank)
  if f.used + size ≤ width then f.put word (f.used + cells word)
  else if width < size then
    (chop width 0 [] word).foldl (fun f part => f.next.put part (cells part)) f
  else f.next.put word (cells word)

def trimEnd (width : Nat) (line : List Char) : List Char :=
  let blanks := (line.reverse.takeWhile isBlank).length
  line.take (line.length - min blanks (line.length - width))

def crop : Nat → List Char → List Char
  | _, [] => []
  | room, c :: r =>
    if charCells c ≤ room then c :: crop (room - charCells c) r
    else if room = 0 then [] else [' ']

def breakLine (width : Nat) (line : List Char) : List (List Char) :=
  let ws := wordsFrom line.length line
  if ws.isEmpty then [line] else (ws.foldl (Filling.add width) {}).lines

def fit (width : Nat) (line : List Char) : List Char :=
  crop width (trimEnd width line)

def wrapLine (width : Nat) (line : List Char) : List (List Char) :=
  (breakLine width (expandTabs 0 line)).map (fit width)

def splitLines : List Char → List (List Char)
  | [] => [[]]
  | c :: r =>
    if c = '\n' then [] :: splitLines r
    else
      match splitLines r with
      | [] => [[c]]
      | l :: ls => (c :: l) :: ls

def wrap (width : Nat) (cs : List Char) : List (List Char) :=
  (splitLines cs).flatMap (wrapLine width)

end EnvoySidecar.Console
