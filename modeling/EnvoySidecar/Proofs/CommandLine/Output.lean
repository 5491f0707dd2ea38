import EnvoySidecar.Proofs.CommandLine.Exits
import EnvoySidecar.Proofs.Console.Verbatim
import EnvoySidecar.Proofs.Sidecar.Agreement
import EnvoySidecar.Proofs.Yaml.Printer

/-! What rendering prints: all of a manifest as it is, or nothing. Which failure decides the latter
follows from the order in which assignments, file, quantities and variables are looked at. -/

namespace EnvoySidecar

theorem Console.isKept_of_isUsual {c : Char} (h : Yaml.Style.isUsual c = true) :
    isKept c = true := by
  by_contra hother
  have hcontrol : c.toNat ∈ [0x07, 0x08, 0x0B, 0x0C, 0x0D, 0x09] := by
    simp only [isKept, isStripped, Bool.and_eq_true, Bool.not_eq_true', bne_iff_ne, ne_eq] at hother
    by_cases htab : c = '\t'
    · simp [htab]
    · simp only [htab, not_false_eq_true, and_true, Bool.not_eq_false] at hother
      exact List.mem_append_left [0x09] (List.contains_iff_mem.1 hother)
  revert h
  simp only [List.mem_cons, List.not_mem_nil, or_false] at hcontrol
  simp only [Yaml.Style.isUsual]
  obtain h | h | h | h | h | h := hcontrol <;> simp [h]

theorem Manifest.showRaw_toYaml (m : Manifest) : Console.showRaw m.toYaml = m.toYaml :=
  Console.showRaw_of_kept fun c hc => Console.isKept_of_isUsual (m.usual_toYaml c hc)

theorem Settings.quiet_document (path text : String) : Run.Quiet (document path text) := by
  unfold document
  split <;> rfl

theorem Settings.quiet_load (path : String) : (entry : Files.Entry) → Run.Quiet (load path entry)
  | .missing | .directory => rfl
  | .file text => by
    refine (quiet_document path text).bind fun v => ?_
    cases v with
    | map es =>
      dsimp only
      split
      · rfl
      · split <;> rfl
    | _ => rfl

namespace Rendering

variable {path s : String} {entry : Files.Entry} {assignments : List String}

/-- Assignments, settings, container and text come out one after the other. -/
def Renders (path : String) (entry : Files.Entry) (assignments : List String) (s : String) : Prop :=
  ∃ store c k, Env.Store.ofAssignments assignments = .ok store ∧
    (Settings.load path entry).result = .ok c ∧
    (Sidecar.render c store).run.result = .ok k ∧ text k = .ok s

theorem renders_iff : Renders path entry assignments s ↔
    (manifest path entry assignments).result = .ok s := by
  simp only [manifest_eq_ok_iff, container_eq_ok_iff]
  constructor
  · rintro ⟨store, c, k, hstore, hload, hrender, htext⟩
    exact ⟨k, ⟨store, c, hstore, hload, hrender⟩, htext⟩
  · rintro ⟨k, ⟨store, c, hstore, hload, hrender⟩, htext⟩
    exact ⟨store, c, k, hstore, hload, hrender, htext⟩

theorem showRaw_text {k : Container} (h : text k = .ok s) : Console.showRaw s = s := by
  rw [text_eq_toYaml h]
  exact Manifest.showRaw_toYaml _

end Rendering

namespace CommandLine

open Rendering (Renders)

variable {w : Wording} {path level : String} {entry : Files.Entry} {assignments : List String}
  {threshold : Log.Level} {f : Failure}

theorem failingIn_ends (w : Wording) (reports : List Report) (f : Failure) :
    (failingIn w "" reports f).output = "" ∧ (failingIn w "" reports f).ending.code = 1 := by
  unfold failingIn
  split
  · split <;> exact ⟨rfl, rfl⟩
  · exact ⟨rfl, rfl⟩

def logged (threshold : Log.Level) (ns : List Log.Notice) : List Report :=
  (Log.records threshold ns).map .record

theorem runIn_of_manifest {ns : List Log.Notice}
    (hlevel : Log.Level.ofText level = .ok threshold)
    (h : Rendering.manifest path entry assignments = ⟨ns, .error f⟩) :
    Invocation.runIn w ⟨.render assignments, path, level⟩ entry =
      failingIn w "" (logged threshold ns) f := by
  have hexecute : execute w path entry (.render assignments) = ⟨ns, .error f⟩ := by
    rw [execute, h]
    rfl
  simp only [Invocation.runIn, hlevel, hexecute, logged]

theorem runIn_of_renders {s : String} (hlevel : Log.Level.ofText level = .ok threshold)
    (h : Renders path entry assignments s) :
    (Invocation.runIn w ⟨.render assignments, path, level⟩ entry).output = s ∧
      (Invocation.runIn w ⟨.render assignments, path, level⟩ entry).ending = .exit 0 := by
  have hmanifest := Rendering.renders_iff.1 h
  obtain ⟨-, -, k, -, -, -, htext⟩ := h
  have hexecute : (execute w path entry (.render assignments)).result = .ok ⟨s, .ok ()⟩ := by
    rw [execute, Run.result_bind_of_ok hmanifest, Rendering.showRaw_text htext]
    rfl
  simp only [Invocation.runIn, hlevel, hexecute, and_self]

/-- Rendering prints the text of the manifest if everything succeeds, and nothing otherwise. An
assignment that is malformed comes before whatever the file holds, the file's own faults before its
quantities, and those before any warning about variables. -/
theorem render_outcomes (w : Wording) (path level : String) (entry : Files.Entry)
    (assignments : List String) {threshold : Log.Level}
    (hlevel : Log.Level.ofText level = .ok threshold) :
    let o := Invocation.runIn w ⟨.render assignments, path, level⟩ entry
    (∀ s, Renders path entry assignments s → o.output = s ∧ o.ending.code = 0) ∧
    ((¬∃ s, Renders path entry assignments s) → o.output = "" ∧ o.ending.code = 1) ∧
    (∀ fault, Env.Store.ofAssignments assignments = .error fault →
      o = failingIn w "" [] (.settings fault) ∧
      ∀ other, Invocation.runIn w ⟨.render assignments, path, level⟩ other = o) ∧
    (∀ store, Env.Store.ofAssignments assignments = .ok store →
      (∀ f, (Settings.load path entry).result = .error f →
        o = failingIn w "" (logged threshold (Settings.load path entry).notices) f) ∧
      ∀ c, (Settings.load path entry).result = .ok c →
        ∀ f, (Resources.build c.resourceTexts).result = .error f →
          (∃ ns, o = failingIn w "" (logged threshold ns) f ∧ Log.ofLevel .warning ns = [])) := by
  intro o
  refine ⟨fun s hs => ?_, fun hnone => ?_, fun fault hfault => ?_, fun store hstore =>
    ⟨fun f hload => ?_, fun c hload f hbuild => ?_⟩⟩
  · obtain ⟨houtput, hending⟩ := runIn_of_renders (w := w) hlevel hs
    exact ⟨houtput, by rw [hending]; rfl⟩
  · cases hresult : (Rendering.manifest path entry assignments).result with
    | ok s => exact absurd ⟨s, Rendering.renders_iff.2 hresult⟩ hnone
    | error f =>
      have ho : o = _ := runIn_of_manifest hlevel (f := f) (by rw [← hresult])
      rw [ho]
      exact failingIn_ends w _ f
  · have hrun (entry : Files.Entry) : Invocation.runIn w ⟨.render assignments, path, level⟩ entry =
        failingIn w "" [] (.settings fault) :=
      runIn_of_manifest hlevel
        (Rendering.manifest_of_failed (Rendering.container_of_unassigned hfault))
    exact ⟨hrun entry, fun other => (hrun other).trans (hrun entry).symm⟩
  · exact runIn_of_manifest hlevel
      (Rendering.manifest_of_failed (Rendering.container_of_unloaded hstore hload))
  · have hmanifest := Rendering.manifest_of_failed
      (Rendering.container_of_rejected hstore hload hbuild)
    refine ⟨_, runIn_of_manifest hlevel hmanifest, ?_⟩
    rw [Log.ofLevel_append, Resources.quiet_build, List.append_nil]
    exact Settings.quiet_load path entry

def markupSettings : Files.Entry :=
  meshSettings "'[/x] :smile:'"

def markupRun (assignments : List String) : Outcome :=
  Invocation.runIn .brief ⟨.render assignments, "sidecar.yaml", "debug"⟩ markupSettings

theorem render_outcomes_markup :
    Log.Level.ofText "debug" = .ok .debug ∧
      (∃ s, Renders "sidecar.yaml" markupSettings ["APP=[b]"] s ∧
        (markupRun ["APP=[b]"]).output = s ∧ (markupRun ["APP=[b]"]).ending.code = 0) ∧
      (markupRun ["APP=[b]", "=x"]).output = "" ∧ (markupRun ["APP=[b]", "=x"]).ending.code = 1 := by
  have hlevel : Log.Level.ofText "debug" = .ok .debug := by decide +kernel
  have hmanifest : (Rendering.manifest "sidecar.yaml" markupSettings
      ["APP=[b]"]).result.toOption.isSome = true := by decide +kernel
  have hmalformed : (Env.Store.ofAssignments ["APP=[b]", "=x"]).toOption.isSome = false := by
    decide +kernel
  obtain ⟨hshown, -⟩ :=
    render_outcomes .brief "sidecar.yaml" "debug" markupSettings ["APP=[b]"] hlevel
  obtain ⟨-, hnothing, -⟩ :=
    render_outcomes .brief "sidecar.yaml" "debug" markupSettings ["APP=[b]", "=x"] hlevel
  rw [markupRun, markupRun]
  refine ⟨hlevel, ?_, hnothing ?_⟩
  · cases hresult : (Rendering.manifest "sidecar.yaml" markupSettings ["APP=[b]"]).result with
    | ok s =>
      have hs := Rendering.renders_iff.2 hresult
      exact ⟨s, hs, hshown s hs⟩
    | error f =>
      rw [hresult] at hmanifest
      cases hmanifest
  · rintro ⟨s, store, -, -, hstore, -⟩
    rw [hstore] at hmalformed
    cases hmalformed

end CommandLine

end EnvoySidecar
