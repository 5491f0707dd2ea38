import EnvoySidecar.CommandLine
import EnvoySidecar.Proofs.Console.Coloring
import EnvoySidecar.Proofs.Quantity.Exponent
import EnvoySidecar.Proofs.Rendering

/-! When the commands exit well. Both need settings that load and quantities that can be read; then
validation needs texts that can be shown, and rendering needs numbers that can be written. -/

namespace EnvoySidecar.CommandLine

variable {w : Wording} {path level : String} {entry : Files.Entry} {c : Config}

/-- The command line and the file make sense to either command. -/
structure Accepts (level path : String) (entry : Files.Entry) (c : Config) : Prop where
  level : ∃ threshold, Log.Level.ofText level = .ok threshold
  settings : (Settings.load path entry).result = .ok c
  quantities : ∀ e ∈ c.resourceTexts.entries, e.2 ≠ "" → ∃ q, Quantity.parse e.1 e.2 = .ok q

theorem failingIn_ne_exit (w : Wording) (output : String) (reports : List Report) (f : Failure) :
    (failingIn w output reports f).ending ≠ .exit 0 := by
  unfold failingIn
  split
  · split <;> simp
  · simp

theorem runIn_exit_iff {w : Wording} {i : Invocation} : (i.runIn w entry).ending = .exit 0 ↔
    (∃ threshold, Log.Level.ofText i.level = .ok threshold) ∧
      ∃ printed, (execute w i.path entry i.command).result = .ok printed ∧
        printed.result = .ok () := by
  unfold Invocation.runIn
  cases Log.Level.ofText i.level with
  | error fault => simp
  | ok threshold =>
    cases hresult : (execute w i.path entry i.command).result with
    | error f => simp [hresult, failingIn_ne_exit]
    | ok printed =>
      cases hprinted : printed.result with
      | ok => simp [hresult, hprinted]
      | error f => simp [hresult, hprinted, failingIn_ne_exit]

theorem Accepts.unique {c' : Config} (h : Accepts level path entry c)
    (h' : Accepts level path entry c') : c' = c := by
  have hsettings := h'.settings
  rw [h.settings] at hsettings
  cases hsettings
  rfl

def meshSettings (mesh : String) : Files.Entry :=
  .file ("mesh_name: " ++ mesh ++
    "\nvirtual_node_name: vn\nsidecar_image: envoy:v1\naws_region: us-west-2\n")

end EnvoySidecar.CommandLine
