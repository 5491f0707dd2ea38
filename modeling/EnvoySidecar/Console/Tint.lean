import EnvoySidecar.Console.Markup
import EnvoySidecar.Console.Wrap

/-! The styles on a text as it is printed. A tag around nothing that is printed colours nothing, so
that its style is never looked up, unless the whole text is printed in one piece. -/

namespace EnvoySidecar.Console

open Markup (Rendered Tag)

variable {α : Type}

def shares : Nat → List Char → List Nat
  | _, [] => []
  | column, c :: r =>
    if c = '\t' then
      let n := tabWidth - column % tabWidth
      n :: shares (column + n) r
    else 1 :: shares (column + charCells c) r

def portions : List (Nat × Nat) → List α → List (List α)
  | [], _ => []
  | (kept, used) :: rest, as => as.take kept :: portions rest (as.drop used)

def aroundLine (width : Nat) (line : List Char) (around : List α) : List (List α) :=
  let spread := (List.zipWith List.replicate (shares 0 line) around).flatten
  portions ((breakLine width (expandTabs 0 line)).map fun l => ((fit width l).length, l.length))
    spread

def aroundPrinted (width : Nat) (text : List Char) (around : List α) : List (List α) :=
  let lines := splitLines text
  (List.zipWith (aroundLine width) lines
    (portions (lines.map fun l => (l.length, l.length + 1)) around)).flatten

def isUnbroken (width : Nat) (text : List Char) : Bool :=
  !text.contains '\n' && !text.contains '\t' && (breakLine width text).length ≤ 1

/-- Tags that are opened in what is left of a text in one piece. -/
def wholeTags (width : Nat) (r : Rendered) : List Tag :=
  let kept := (fit width r.text).length
  if isUnbroken width r.text then
    (r.openings.filter fun o => o.1 < kept || kept = r.text.length).map (·.2)
  else []

def printedTags (width : Nat) (r : Rendered) : List Tag :=
  (aroundPrinted width r.text r.around).flatten.eraseDups.flatten ++ wholeTags width r

def checkStyles (ts : List Tag) : Except Markup.Fault Unit :=
  ts.forM fun t => do
    let _ ← Markup.normalize t.style

end EnvoySidecar.Console
