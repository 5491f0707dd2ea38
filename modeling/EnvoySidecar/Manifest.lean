/-! Trees of named fields, lists, texts and integers: what a container looks like from outside. -/

namespace EnvoySidecar

inductive Manifest where
  | null
  | int (n : Int)
  | text (s : String)
  | list (items : List Manifest)
  | record (fields : List (String × Manifest))
deriving Repr, Inhabited

namespace Manifest

def texts (ss : List String) : Manifest :=
  .list (ss.map .text)

def field (name : String) (m : Option Manifest) : List (String × Manifest) :=
  match m with
  | some m => [(name, m)]
  | none => []

def listField (name : String) (ms : List Manifest) : List (String × Manifest) :=
  if ms.isEmpty then [] else [(name, .list ms)]

end Manifest

end EnvoySidecar
