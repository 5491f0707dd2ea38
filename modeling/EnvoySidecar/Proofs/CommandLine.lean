import EnvoySidecar.CommandLine
import EnvoySidecar.Proofs.Console.Coloring
import EnvoySidecar.Proofs.Env.Managed
import EnvoySidecar.Proofs.Rendering

/-! How a command line ends on a text that is no quantity. Either command builds the resources as
soon as the configuration is there, and nothing has been printed by then. -/

namespace EnvoySidecar.CommandLine

open Quantity (Escapes)

variable {w : Wording} {path : String} {entry : Files.Entry} {c : Config} {f : Failure}

theorem check_of_error (hload : (Settings.load path entry).result = .ok c)
    (hbuild : (Resources.build c.resourceTexts).result = .error f) :
    (check path entry).result = .error f := by
  rw [check, Run.result_bind_of_ok hload, Run.result_bind_of_error hbuild]

/-- The run comes as far as a configuration: all that a command line says can be read. -/
structure Invocation.Loads (i : Invocation) (entry : Files.Entry) (c : Config) : Prop where
  level : ∃ threshold, Log.Level.ofText i.level = .ok threshold
  assignments : ∀ assignments, i.command = .render assignments →
    ∃ s, Env.Store.ofAssignments assignments = .ok s
  settings : (Settings.load i.path entry).result = .ok c

theorem execute_of_error {i : Invocation} (h : i.Loads entry c)
    (hbuild : (Resources.build c.resourceTexts).result = .error f) :
    (execute w i.path entry i.command).result = .error f := by
  cases hcommand : i.command with
  | validate =>
    rw [execute, Run.result_bind_of_error (check_of_error h.settings hbuild)]
  | render assignments =>
    obtain ⟨s, hs⟩ := h.assignments assignments hcommand
    have hmanifest : (Rendering.manifest i.path entry assignments).result = .error f := by
      rw [Rendering.manifest_of_failed (Rendering.container_of_rejected hs h.settings hbuild)]
    rw [execute, Run.result_bind_of_error hmanifest]

theorem runIn_of_error {i : Invocation} {threshold : Log.Level}
    (hlevel : Log.Level.ofText i.level = .ok threshold)
    (h : (execute w i.path entry i.command).result = .error f) :
    i.runIn w entry = failingIn w "" ((Log.records threshold
      (execute w i.path entry i.command).notices).map Report.record) f := by
  simp only [Invocation.runIn, hlevel, h]

theorem Invocation.Loads.runIn {i : Invocation} (h : i.Loads entry c)
    (hbuild : (Resources.build c.resourceTexts).result = .error f) :
    ∃ records, i.runIn w entry = failingIn w "" records f := by
  obtain ⟨threshold, hlevel⟩ := h.level
  exact ⟨_, runIn_of_error hlevel (execute_of_error h hbuild)⟩

end EnvoySidecar.CommandLine
