import EnvoySidecar.Proofs.Env.Assembly
import EnvoySidecar.Proofs.Resources
import EnvoySidecar.Proofs.Sidecar.Container
import EnvoySidecar.Rendering

/-! When the text of a manifest comes out. The integers in it have to be written, as those of the
managed variables have; there is nothing else about a configuration that rendering can fail on. -/

namespace EnvoySidecar

namespace Manifest

theorem fieldIntegers_append (fs gs : List (String × Manifest)) :
    fieldIntegers (fs ++ gs) = fieldIntegers fs ++ fieldIntegers gs := by
  induction fs with
  | nil => rfl
  | cons f rest ih => rw [List.cons_append, fieldIntegers, ih, fieldIntegers, List.append_assoc]

theorem itemIntegers_map {α : Type} {f : α → Manifest} (h : ∀ a, (f a).integers = [])
    (as : List α) : itemIntegers (as.map f) = [] := by
  induction as with
  | nil => rfl
  | cons a rest ih => rw [List.map_cons, itemIntegers, h, ih, List.append_nil]

theorem fieldIntegers_listField (name : String) (ms : List Manifest) :
    fieldIntegers (listField name ms) = itemIntegers ms := by
  unfold listField
  split
  · next h =>
    rw [List.isEmpty_iff.1 h]
    rfl
  · exact List.append_nil _

theorem fieldIntegers_field (name : String) (m : Option Manifest) :
    fieldIntegers (field name m) = (m.map integers).getD [] := by
  cases m with
  | none => rfl
  | some m => exact List.append_nil _

theorem toYaml?_total_iff {m : Manifest} :
    (∃ s, m.toYaml? = some s) ↔ ∀ n ∈ m.integers, (PortSetting.number n).Writable := by
  simp only [PortSetting.writable_iff, PortSetting.text?, ← Option.isSome_iff_exists]
  unfold toYaml?
  rw [← List.all_eq_true]
  split <;> simp_all

end Manifest

open Manifest

theorem EnvVar.integers_toManifest (v : EnvVar) : v.toManifest.integers = [] := by
  unfold EnvVar.toManifest
  split
  · rfl
  · split <;> rfl

theorem VolumeMount.integers_toManifest (m : VolumeMount) : m.toManifest.integers = [] :=
  rfl

theorem ResourceGroup.integers_toManifest (g : ResourceGroup) : g.toManifest.integers = [] := by
  obtain ⟨cpu, memory⟩ := g
  cases cpu <;> cases memory <;> rfl

theorem Resources.integers_toManifest (r : Resources) : r.toManifest.integers = [] := by
  obtain ⟨requests, limits⟩ := r
  cases requests <;> cases limits <;>
    simp [toManifest, manifestFields, field, integers, fieldIntegers,
      ResourceGroup.integers_toManifest]

namespace Sidecar

theorem integers_full (c : Config) (r : Resources) (env : List EnvVar) :
    (full c r env).toManifest.integers =
      [user, c.effectiveAdminPort.val, c.probeInitialDelay.val, 1, c.probePeriod.val, 1, 3] := by
  have hmounts : itemIntegers ((mounts c).map VolumeMount.toManifest) = [] :=
    itemIntegers_map VolumeMount.integers_toManifest _
  have henv : itemIntegers (env.map EnvVar.toManifest) = [] :=
    itemIntegers_map EnvVar.integers_toManifest _
  have hresources : fieldIntegers (Container.resourcesField (some r)) = [] := by
    rw [Container.resourcesField]
    split
    · rfl
    · exact (List.append_nil _).trans r.integers_toManifest
  have hlifecycle : (Container.lifecycle (preStop c)).integers = [] := rfl
  have hprobe : (probe c).toManifest.integers =
      [c.probeInitialDelay.val, 1, c.probePeriod.val, 1, 3] := rfl
  simp only [Container.toManifest, full, container, integers, fieldIntegers_append,
    fieldIntegers_listField, fieldIntegers_field, Option.map_some, Option.getD_some, hmounts, henv,
    hresources, hlifecycle, hprobe]
  rfl

end Sidecar

/-- Everything that has to be written out as a number can be. -/
structure Config.Writable (c : Config) : Prop extends c.ManagedWritable where
  initialDelay : (PortSetting.number c.probeInitialDelay.val).Writable
  period : (PortSetting.number c.probePeriod.val).Writable

namespace Rendering

theorem text_eq_toYaml {k : Container} {s : String} (h : text k = .ok s) : s = k.toManifest.toYaml := by
  unfold text Manifest.toYaml? at h
  split_ifs at h
  cases h
  rfl

theorem text_total_iff {c : Config} {r : Resources} {env : List EnvVar} :
    (∃ s, text (Sidecar.full c r env) = .ok s) ↔
      (PortSetting.number c.probeInitialDelay.val).Writable ∧
        (PortSetting.number c.probePeriod.val).Writable := by
  have htext : (∃ s, text (Sidecar.full c r env) = .ok s) ↔
      ∃ s, (Sidecar.full c r env).toManifest.toYaml? = some s := by
    unfold text
    cases (Sidecar.full c r env).toManifest.toYaml? <;> simp
  -- the type bounds the port, and the other numbers of the container are fixed
  have hport : (PortSetting.number c.effectiveAdminPort.val).Writable := by
    obtain ⟨hlo, hhi⟩ := c.effectiveAdminPort.property
    exact PortSetting.writable_of_lt (by omega)
  have hsmall : ∀ n ∈ [Sidecar.user, 1, 3], (PortSetting.number n).Writable := by decide
  rw [htext, toYaml?_total_iff, Sidecar.integers_full]
  simp only [List.forall_mem_cons, List.not_mem_nil, false_implies, implies_true, and_true] at hsmall ⊢
  tauto

section Stages

variable {path s : String} {entry : Files.Entry} {assignments : List String} {store : Env.Store}
  {c : Config} {f : Failure}

theorem container_eq_ok_iff {k : Container} :
    (container path entry assignments).result = .ok k ↔ ∃ store c,
      Env.Store.ofAssignments assignments = .ok store ∧
        (Settings.load path entry).result = .ok c ∧
          (Sidecar.render c store).run.result = .ok k := by
  unfold container
  simp only [Run.result_bind_eq_ok_iff, Run.result_ofExcept, mapError_eq_ok_iff, exists_and_left]

theorem manifest_eq_ok_iff : (manifest path entry assignments).result = .ok s ↔
    ∃ k, (container path entry assignments).result = .ok k ∧ text k = .ok s := by
  unfold manifest
  simp only [Run.result_bind_eq_ok_iff, Run.result_ofExcept]

theorem manifest_of_failed {ns : List Log.Notice}
    (h : container path entry assignments = ⟨ns, .error f⟩) :
    manifest path entry assignments = ⟨ns, .error f⟩ := by
  rw [manifest, h]
  rfl

theorem container_of_unassigned {fault : SettingsFault}
    (h : Env.Store.ofAssignments assignments = .error fault) :
    container path entry assignments = ⟨[], .error (.settings fault)⟩ := by
  rw [container, h]
  rfl

theorem container_of_assigned (h : Env.Store.ofAssignments assignments = .ok store) :
    container path entry assignments =
      Settings.load path entry >>= fun c => (Sidecar.render c store).run := by
  rw [container, h]
  exact Run.bind_ok store _

theorem container_of_unloaded (hstore : Env.Store.ofAssignments assignments = .ok store)
    (hload : (Settings.load path entry).result = .error f) :
    container path entry assignments = ⟨(Settings.load path entry).notices, .error f⟩ := by
  rw [container_of_assigned hstore]
  exact Run.bind_of_error hload _

theorem container_of_rejected (hstore : Env.Store.ofAssignments assignments = .ok store)
    (hload : (Settings.load path entry).result = .ok c)
    (hbuild : (Resources.build c.resourceTexts).result = .error f) :
    container path entry assignments = ⟨(Settings.load path entry).notices ++
      (Resources.build c.resourceTexts).notices, .error f⟩ := by
  have hrender : (Sidecar.render c store).run =
      ⟨(Resources.build c.resourceTexts).notices, .error f⟩ := by
    rw [Sidecar.render_of_error hbuild]
  rw [container_of_assigned hstore]
  refine (Run.bind_of_ok hload _).trans ?_
  rw [hrender]

end Stages

end Rendering

end EnvoySidecar
