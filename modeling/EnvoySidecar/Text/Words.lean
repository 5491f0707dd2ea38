import EnvoySidecar.Text.Blank

/-! Words between blanks. -/

namespace EnvoySidecar.Text

def consWord (c : Char) : List (List Char) → List (List Char)
  | [] => if isBlank c then [[]] else [[c]]
  | w :: ws => if isBlank c then [] :: w :: ws else (c :: w) :: ws

def runs : List Char → List (List Char)
  | [] => [[]]
  | c :: r => consWord c (runs r)

def words (cs : List Char) : List (List Char) :=
  (runs cs).filter (!·.isEmpty)

end EnvoySidecar.Text
