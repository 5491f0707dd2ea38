import EnvoySidecar.Yaml.Tag

/-! The nodes of a document: scalars, lists and maps, each under a tag. -/

namespace EnvoySidecar.Yaml

inductive Node where
  | scalar (tag : Tag) (text : String)
  | list (tag : Tag) (items : List Node)
  | map (tag : Tag) (entries : List (Node × Node))
deriving Repr

namespace Node

def empty : Node :=
  .scalar .null ""

def tag : Node → Tag
  | scalar t _ | list t _ | map t _ => t

end Node

end EnvoySidecar.Yaml
