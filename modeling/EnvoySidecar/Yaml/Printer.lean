import EnvoySidecar.Manifest
import EnvoySidecar.Yaml.Fold

/-! Manifests as YAML in block style. Fields of a record are indented by two columns, the items of a
list stand under the field that holds it, and what is empty is written between brackets. -/

namespace EnvoySidecar.Manifest

open Yaml

def indentation (n : Nat) : List Char :=
  List.replicate n ' '

def yamlInteger (indent column : Nat) (n : Int) : List Char :=
  Fold.plainPieces indent column [.word (Text.integerText n)]

def yamlName (name : String) : List Char :=
  match Style.ofText name.toList with
  | .plain => name.toList
  | .single => '\'' :: name.toList ++ ['\'']
  | .double =>
    '"' :: name.toList.flatMap (fun c => (Fold.escape? c).getD [c]) ++ ['"']

mutual

def yamlFrom (column : Nat) : Manifest → List Char
  | .null => ['\n']
  | .int n => yamlInteger column column n ++ ['\n']
  | .text s => Fold.scalar column column s.toList ++ ['\n']
  | .list [] => "[]\n".toList
  | .list (m :: rest) => '-' :: ' ' :: yamlFrom (column + 2) m ++ yamlItems column rest
  | .record [] => "\x7b\x7d\n".toList
  | .record (f :: rest) => yamlField column f ++ yamlFields column rest

def yamlItems (column : Nat) : List Manifest → List Char
  | [] => []
  | m :: rest => indentation column ++ '-' :: ' ' :: yamlFrom (column + 2) m ++ yamlItems column rest

def yamlValue (column start : Nat) : Manifest → List Char
  | .null => ['\n']
  | .int n => ' ' :: yamlInteger (column + 2) start n ++ ['\n']
  | .text s => ' ' :: Fold.scalar (column + 2) start s.toList ++ ['\n']
  | .list [] => " []\n".toList
  | .list (m :: rest) => '\n' :: yamlItems column (m :: rest)
  | .record [] => " \x7b\x7d\n".toList
  | .record (f :: rest) => '\n' :: yamlFields (column + 2) (f :: rest)

def yamlField (column : Nat) : String × Manifest → List Char
  | (name, m) =>
    let key := yamlName name
    key ++ ':' :: yamlValue column (column + key.length + 2) m

def yamlFields (column : Nat) : List (String × Manifest) → List Char
  | [] => []
  | f :: rest => indentation column ++ yamlField column f ++ yamlFields column rest

end

mutual

def integers : Manifest → List Int
  | .int n => [n]
  | .list items => itemIntegers items
  | .record fields => fieldIntegers fields
  | _ => []

def itemIntegers : List Manifest → List Int
  | [] => []
  | m :: rest => m.integers ++ itemIntegers rest

def fieldIntegers : List (String × Manifest) → List Int
  | [] => []
  | (_, m) :: rest => m.integers ++ fieldIntegers rest

end

def toYaml (m : Manifest) : String :=
  String.ofList (yamlFrom 0 m)

/-- Nothing if an integer has too many digits to be written. -/
def toYaml? (m : Manifest) : Option String :=
  if m.integers.all fun n => (Text.integerText? n).isSome then some m.toYaml else none

end EnvoySidecar.Manifest
