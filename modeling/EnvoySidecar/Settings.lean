import EnvoySidecar.Config.Check
import EnvoySidecar.Files
import EnvoySidecar.Log.Run
import EnvoySidecar.Yaml.Document

/-! Settings files: YAML documents that hold one map, whose keys are the names of the settings. -/

namespace EnvoySidecar.Settings

def refuse {α : Type} (fault : SettingsFault) : Run α :=
  Run.failNoting (.settingsRefused fault) (.settings fault)

/-- A scalar that denotes nothing is no fault of the document's form, and goes unnoted. -/
def document (path text : String) : Run Value :=
  match Yaml.read text.toList with
  | .ok v => Run.ok v
  | .error (.malformed reason) => refuse (.malformed path reason)
  | .error fault => Run.fail (.document fault)

def isText : Value → Bool
  | .text _ => true
  | _ => false

def load (path : String) : Files.Entry → Run Config
  | .missing => Run.fail (.settings (.notFound path))
  | .directory => Run.fail (.directory path)
  | .file text => do
    match ← document path text with
    | .map es =>
      if !es.all fun e => isText e.1 then Run.fail .fieldNames
      else
        match Config.check es with
        | .ok c =>
          Run.note (.settingsLoaded path)
          return c
        | .error report => refuse (.rejected path report)
    | _ => Run.fail (.settings (.notMapping path))

end EnvoySidecar.Settings
