/-! Paths, and what stands at one in a directory. -/

namespace EnvoySidecar.Files

inductive Entry where
  | missing
  | directory
  | file (text : String)
deriving DecidableEq, Repr

def normalize (path : String) : String :=
  let parts := (path.splitOn "/").filter fun p => p != "" && p != "."
  let root :=
    if path.startsWith "///" then "/" else if path.startsWith "//" then "//"
    else if path.startsWith "/" then "/" else ""
  let all := root ++ "/".intercalate parts
  if all = "" then "." else all

abbrev Tree := List (String × String)

namespace Tree

def partsOf (path : String) : List String :=
  (path.splitOn "/").filter fun p => p != "" && p != "."

def at? (t : Tree) (parts : List String) : Entry :=
  match t.find? fun f => partsOf f.1 == parts with
  | some f => .file f.2
  | none =>
    if parts.isEmpty || t.any fun f => parts.isPrefixOf (partsOf f.1) then .directory else .missing

def follow (t : Tree) : List String → Nat → List String → Entry
  | place, above, [] => if above = 0 then t.at? place else .directory
  | place, above, part :: rest =>
    if part = ".." then
      if 0 < above || place.isEmpty then follow t [] (above + 1) rest
      else if t.at? place = .directory then follow t place.dropLast 0 rest
      else .missing
    else if 0 < above then .missing
    else if t.at? place = .directory then follow t (place ++ [part]) 0 rest
    else .missing

/-- Only the directory and what is in it are known; the root stands for all others. -/
def lookup (t : Tree) (path : String) : Entry :=
  let parts := partsOf path
  if path.startsWith "/" then if parts.isEmpty then .directory else .missing
  else t.follow [] 0 parts

end Tree

end EnvoySidecar.Files
