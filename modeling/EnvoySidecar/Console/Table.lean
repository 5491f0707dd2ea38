import EnvoySidecar.Console.Width

/-! Tables with a title and a header. Every column is as wide as its widest cell, with a space on
either side. -/

namespace EnvoySidecar.Console

structure Table where
  title : List Char
  header : List (List Char)
  rows : List (List (List Char))

namespace Table

structure Rule where
  left : Char
  line : Char
  joint : Char
  right : Char

def topRule : Rule := ⟨'┏', '━', '┳', '┓'⟩
def headerRule : Rule := ⟨'┡', '━', '╇', '┩'⟩
def bottomRule : Rule := ⟨'└', '─', '┴', '┘'⟩
def headerEdge : Char := '┃'
def rowEdge : Char := '│'

def widths (t : Table) : List Nat :=
  t.rows.foldl (fun ws row => List.zipWith max ws (row.map cells)) (t.header.map cells)

def spaces (n : Nat) : List Char :=
  List.replicate n ' '

def Rule.draw (r : Rule) (ws : List Nat) : List Char :=
  r.left :: [r.joint].intercalate (ws.map fun w => List.replicate (w + 2) r.line) ++ [r.right]

def drawRow (edge : Char) (ws : List Nat) (row : List (List Char)) : List Char :=
  let drawn := List.zipWith (fun w c => ' ' :: c ++ spaces (w - cells c + 1)) ws row
  edge :: [edge].intercalate drawn ++ [edge]

def centre (width : Nat) (cs : List Char) : List Char :=
  let room := width - cells cs
  spaces (room / 2) ++ cs ++ spaces (room - room / 2)

def lines (t : Table) : List (List Char) :=
  let ws := t.widths
  let width := ws.foldl (fun used w => used + w + 3) 1
  [centre width t.title, topRule.draw ws, drawRow headerEdge ws t.header, headerRule.draw ws] ++
    t.rows.map (drawRow rowEdge ws) ++ [bottomRule.draw ws]

end Table

end EnvoySidecar.Console
