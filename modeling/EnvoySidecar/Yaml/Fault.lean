import EnvoySidecar.Numeral

/-! What can be wrong with a YAML text. A document can be malformed, or it can hold a scalar that
has the shape of its type and yet denotes no value of it. -/

namespace EnvoySidecar.Yaml

inductive Fault where
  | malformed (reason : String)
  | numeral (fault : Numeral.Fault)
  | floatText (text : String)
  | flagText (text : String)
  | noSuchTime (reason : String)
  | overflow (reason : String)
  | repeatedExponent
  | characterCode
  | emptyNumber
  | unhashable (collection : String)
  | unknownVersion (major minor : Nat)
  /-- a key that is repeated, and that or a value of it has too many digits to be shown -/
  | unwritable
  | repeatedEntry
deriving DecidableEq, Repr

namespace Fault

def message : Fault → String
  | malformed reason => reason
  | numeral fault => fault.message
  | floatText text => s!"could not convert string to float: {Text.quoted text}"
  | flagText text => Text.quoted text
  | noSuchTime reason | overflow reason => reason
  | repeatedExponent => "too many values to unpack (expected 2)"
  | characterCode => "chr() arg not in range(0x110000)"
  | emptyNumber => "string index out of range"
  | unhashable collection => s!"unhashable type: '{collection}'"
  | unknownVersion major minor => s!"({major}, {minor})"
  | unwritable => Text.digitLimitMessage
  | repeatedEntry => ""

end Fault

end EnvoySidecar.Yaml
