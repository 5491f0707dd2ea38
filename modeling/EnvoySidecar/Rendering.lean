import EnvoySidecar.Container.Manifest
import EnvoySidecar.Env.Assignment
import EnvoySidecar.Settings
import EnvoySidecar.Sidecar
import EnvoySidecar.Yaml.Printer

/-! From a settings file and some assignments to the text of a manifest. -/

namespace EnvoySidecar.Rendering

def text (k : Container) : Except Failure String :=
  match k.toManifest.toYaml? with
  | some s => .ok s
  | none => .error .longInteger

/-- The assignments are read before the file. -/
def container (path : String) (entry : Files.Entry) (assignments : List String) :
    Run Container := do
  let store ← Run.ofExcept ((Env.Store.ofAssignments assignments).mapError .settings)
  let config ← Settings.load path entry
  (Sidecar.render config store).run

def manifest (path : String) (entry : Files.Entry) (assignments : List String) : Run String := do
  Run.ofExcept (text (← container path entry assignments))

end EnvoySidecar.Rendering
