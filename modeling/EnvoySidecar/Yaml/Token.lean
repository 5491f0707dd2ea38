import EnvoySidecar.Yaml.Cursor
import EnvoySidecar.Yaml.Fault

/-! Tokens of a document: the marks that are written, and the starts and ends of block collections
that indentation stands for. -/

namespace EnvoySidecar.Yaml

inductive Directive where
  | version (major minor : Nat)
  | tag (handle uri : String)
  | other (name : String)
deriving DecidableEq, Repr

def Directive.version? : Directive → Option Version
  | .version 1 1 => some .v11
  | .version .. => some .v12
  | _ => none

inductive Token where
  | directive (d : Directive)
  | documentStart
  | documentEnd
  | blockSequence
  | blockMapping
  | blockEnd
  | flowSequence
  | flowSequenceEnd
  | flowMapping
  | flowMappingEnd
  | entry
  | separator
  | key
  | value
  | alias (name : String)
  | anchor (name : String)
  | tag (handle : Option String) (suffix : String)
  | scalar (text : String) (plain : Bool)
  | finish
  | fault (f : Fault)
deriving DecidableEq, Repr

abbrev Reader (α : Type) := Cursor → Except Fault (α × Cursor)

def fold (first : Char) (others : List Char) : List Char :=
  if foldBreak first != '\n' then first :: others
  else if others.isEmpty then [' '] else others

end EnvoySidecar.Yaml
