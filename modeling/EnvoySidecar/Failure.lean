import EnvoySidecar.Console.Markup
import EnvoySidecar.Quantity
import EnvoySidecar.Schema.Checked
import EnvoySidecar.Template
import EnvoySidecar.Log.Level
import EnvoySidecar.Yaml.Fault

/-! Everything that can go wrong, as causes, with one wording each. -/

namespace EnvoySidecar

inductive SettingsFault where
  | notFound (path : String)
  | malformed (path reason : String)
  | notMapping (path : String)
  | rejected (path : String) (report : Schema.Report)
  | assignment (text : String)
deriving DecidableEq, Repr

inductive Failure where
  | settings (fault : SettingsFault)
  | invalid (report : Schema.Report)
  | quantity (fault : Quantity.Fault)
  | template (fault : Template.Fault)
  | document (fault : Yaml.Fault)
  | level (fault : Log.Level.Fault)
  | fieldNames
  | unknownField (label : String)
  | unknownVariable (name : String)
  | longInteger
  | directory (path : String)
  | markup (fault : Console.Markup.Fault)
deriving DecidableEq, Repr

/-- The words that others find for a malformed document and for rejected settings, and the names
that characters go by. -/
structure Wording where
  malformed : String → String
  rejected : Schema.Report → String
  named : String → Bool

def Wording.brief : Wording :=
  ⟨id, Schema.Report.headline, fun _ => false⟩

namespace SettingsFault

def messageIn (w : Wording) : SettingsFault → String
  | notFound path => s!"Config not found: {path}"
  | malformed path reason => s!"Invalid YAML in {path}: {w.malformed reason}"
  | notMapping path => s!"Config must be a mapping: {path}"
  | rejected path report => s!"Invalid sidecar config {path}: {w.rejected report}"
  | assignment text => s!"Expected KEY=VALUE, got {Text.quoted text}"

def message (fault : SettingsFault) : String :=
  fault.messageIn .brief

end SettingsFault

namespace Failure

def messageIn (w : Wording) : Failure → String
  | settings fault => fault.messageIn w
  | invalid report => report.headline
  | quantity fault => fault.message
  | template fault => fault.message
  | document fault => fault.message
  | level fault => fault.message
  | fieldNames => "keywords must be strings"
  | unknownField label => ResourceField.unknownMessage label
  | unknownVariable name => Text.quoted name
  | longInteger => Text.digitLimitMessage
  | directory path => s!"[Errno 21] Is a directory: {Text.quoted path}"
  | markup fault => fault.message

def message (f : Failure) : String :=
  f.messageIn .brief

end Failure

end EnvoySidecar
