import EnvoySidecar.Yaml.Character

/-! Places in a document: what is left to read, and the line and column where it starts. -/

namespace EnvoySidecar.Yaml

structure Position where
  index : Nat := 0
  line : Nat := 0
  column : Nat := 0
deriving DecidableEq, Repr

def Position.after (p : Position) (c : Char) : Position :=
  if isBreak c then ⟨p.index + 1, p.line + 1, 0⟩
  else if c = byteOrderMark then { p with index := p.index + 1 }
  else ⟨p.index + 1, p.line, p.column + 1⟩

structure Cursor where
  rest : List Char
  place : Position := {}
deriving DecidableEq, Repr

namespace Cursor

def step (k : Cursor) : Cursor :=
  match k.rest with
  | [] => k
  | c :: r => ⟨r, k.place.after c⟩

def steps (k : Cursor) (n : Nat) : Cursor :=
  n.repeat step k

def span (p : Char → Bool) (k : Cursor) : List Char × Cursor :=
  go k.rest k.place
where
  go : List Char → Position → List Char × Cursor
    | [], place => ([], ⟨[], place⟩)
    | c :: r, place =>
      if p c then
        let s := go r (place.after c)
        (c :: s.1, s.2)
      else ([], ⟨c :: r, place⟩)

def skip (p : Char → Bool) (k : Cursor) : Cursor :=
  (k.span p).2

def skipIndent (column : Nat) (k : Cursor) : Cursor :=
  k.steps (min (column - k.place.column) (k.rest.takeWhile (· = ' ')).length)

end Cursor

end EnvoySidecar.Yaml
