import EnvoySidecar.Proofs.Container.Check
import EnvoySidecar.Proofs.Manifest
import EnvoySidecar.Proofs.Resources
import EnvoySidecar.Proofs.Sidecar.Container

/-! Assembling the variables, building the container and rendering it fail together. Building adds
nothing that can fail, rendering only the resources, and these before anything is written. -/

namespace EnvoySidecar

namespace Run

variable {α β : Type} {x : Run α}

/-- Runs that fail with the same failures, so that they also succeed together. -/
def FailAlike (x : Run α) (y : Run β) : Prop :=
  ∀ failure, x.result = .error failure ↔ y.result = .error failure

theorem FailAlike.bind {f : α → Run β} (hf : ∀ a, ∃ b, (f a).result = .ok b) :
    FailAlike (x >>= f) x := by
  intro failure
  cases hx : x.result with
  | error failure' => rw [result_bind_of_error hx, Except.error.injEq, Except.error.injEq]
  | ok a =>
    obtain ⟨b, hb⟩ := hf a
    rw [result_bind_of_ok hx, hb]
    exact iff_of_false (by simp) (by simp)

theorem notices_bind_of_error {failure : Failure} (h : x.result = .error failure)
    (f : α → Run β) : (x >>= f).notices = x.notices :=
  congrArg notices (bind_of_error h f)

/-- Nothing that the run logs is a warning. -/
def Quiet (x : Run α) : Prop :=
  Log.ofLevel .warning x.notices = []

theorem Quiet.pure (a : α) : Quiet (Pure.pure a) := rfl

theorem Quiet.bind {f : α → Run β} (hx : Quiet x) (hf : ∀ a, Quiet (f a)) : Quiet (x >>= f) := by
  cases h : x.result with
  | error failure =>
    have hbind : x >>= f = ⟨x.notices, .error failure⟩ := bind_of_error h f
    rw [hbind]
    exact hx
  | ok a =>
    have hbind : x >>= f = ⟨x.notices ++ (f a).notices, (f a).result⟩ := bind_of_ok h f
    have hsum : Log.ofLevel .warning x.notices ++ Log.ofLevel .warning (f a).notices = [] := by
      rw [hx, hf a, List.append_nil]
    rw [hbind]
    exact (Log.ofLevel_append _ _ _).trans hsum

end Run

namespace Resources

open Run

theorem quiet_quantity (field : ResourceField) (s : String) : Quiet (quantity field s) := by
  unfold quantity
  split
  · exact .pure none
  · split <;> rfl

theorem quiet_group (cpuField memoryField : ResourceField) (cpu memory : String) :
    Quiet (group cpuField memoryField cpu memory) := by
  unfold group
  split
  · exact .pure none
  · exact (quiet_quantity _ _).bind fun _ => (quiet_quantity _ _).bind fun _ => .pure _

theorem quiet_build (t : ResourceTexts) : Quiet (build t) :=
  (quiet_group _ _ _ _).bind fun _ => (quiet_group _ _ _ _).bind fun _ => .pure _

theorem group_eq_none_iff {cpuField memoryField : ResourceField} {cpu memory : String}
    {g : Option ResourceGroup} (h : (group cpuField memoryField cpu memory).result = .ok g) :
    g = none ↔ cpu = "" ∧ memory = "" := by
  unfold group at h
  split at h
  · next hempty =>
    cases h
    exact iff_of_true rfl hempty
  · next hempty =>
    simp only [result_bind_eq_ok_iff, result_pure] at h
    obtain ⟨_, -, _, -, hg⟩ := h
    cases hg
    exact iff_of_false (by simp) hempty

theorem manifestFields_eq_nil_iff {t : ResourceTexts} {r : Resources}
    (h : (build t).result = .ok r) : r.manifestFields = [] ↔ t = {} := by
  unfold build at h
  simp only [result_bind_eq_ok_iff, result_pure] at h
  obtain ⟨requests, hrequests, limits, hlimits, hr⟩ := h
  cases hr
  have hnone : manifestFields ⟨requests, limits⟩ = [] ↔ requests = none ∧ limits = none := by
    cases requests <;> cases limits <;> simp [manifestFields, Manifest.field]
  rw [hnone, group_eq_none_iff hrequests, group_eq_none_iff hlimits, and_assoc,
    ResourceTexts.mk.injEq]

end Resources

namespace Sidecar

open Env Run

variable {c : Config} {s : Store} {r : Resources} {k : Container}

theorem build_failAlike (c : Config) (s : Store) :
    FailAlike (build c s).run (assemble c s).run := by
  rw [build_eq]
  exact .bind fun env => ⟨_, rfl⟩

theorem build_notices_of_error {failure : Failure}
    (h : (assemble c s).run.result = .error failure) :
    (build c s).run.notices = (assemble c s).run.notices := by
  rw [build_eq]
  exact notices_bind_of_error h _

theorem render_failAlike (h : (Resources.build c.resourceTexts).result = .ok r) (s : Store) :
    FailAlike (render c s).run (build c s).run := by
  intro failure
  rw [render_of_ok h]
  cases hbuilt : (build c s).run.result with
  | error failure' => rfl
  | ok k => exact iff_of_false (by rintro ⟨⟩) (by simp)

theorem render_warnings (h : (Resources.build c.resourceTexts).result = .ok r) (s : Store) :
    Log.ofLevel .warning (render c s).run.notices =
      Log.ofLevel .warning (build c s).run.notices := by
  rw [render_of_ok h, Log.ofLevel_append, Resources.quiet_build, List.nil_append]

def resourceEntries (t : ResourceTexts) (r : Resources) : List (String × Manifest) :=
  if t = {} then [] else [("resources", r.toManifest)]

theorem resourcesField_eq {t : ResourceTexts} (h : (Resources.build t).result = .ok r) :
    Container.resourcesField (some r) = resourceEntries t r := by
  have hempty : r.manifestFields.isEmpty = true ↔ t = {} :=
    List.isEmpty_iff.trans (Resources.manifestFields_eq_nil_iff h)
  unfold Container.resourcesField resourceEntries
  simp only [hempty]

theorem render_manifest (h : (Resources.build c.resourceTexts).result = .ok r)
    (hk : (build c s).run.result = .ok k) :
    ∃ k' fields, (render c s).run.result = .ok k' ∧ k.toManifest = .record fields ∧
      k'.toManifest = .record (fields ++ resourceEntries c.resourceTexts r ++
        [("readinessProbe", (probe c).toManifest)]) := by
  obtain ⟨env, henv, rfl⟩ := build_eq_ok_iff.1 hk
  obtain ⟨fields, hfields, hattached⟩ :=
    Container.toManifest_attach (k := container c (preStop c) env) rfl rfl r (probe c)
  rw [resourcesField_eq h] at hattached
  exact ⟨full c r env, fields, render_eq_ok_iff.2 ⟨r, env, h, henv, rfl⟩, hfields, hattached⟩

theorem check_container (c : Config) (env : List EnvVar) :
    Container.check (container c (preStop c) env).entries = .ok (container c (preStop c) env) := by
  refine Container.check_entries (fun p hp => ?_) rfl
  obtain rfl := List.mem_singleton.1 hp
  exact List.mem_cons_self

/-- Building fails as assembling does and with nothing else in its log. Rendering fails on the
resources before it touches the store, and otherwise as building does, with the same store and the
same warnings; it adds the resources and the probe. The commands, the probe and the container are
always valid. -/
theorem entry_points_agree (c : Config) (s : Store) :
    ((build c s).store = (assemble c s).store ∧
      FailAlike (build c s).run (assemble c s).run ∧
      ∀ failure, (assemble c s).run.result = .error failure →
        (build c s).run.notices = (assemble c s).run.notices) ∧
    (∀ failure, (Resources.build c.resourceTexts).result = .error failure →
      (render c s).store = s ∧ (render c s).run.result = .error failure ∧
        Log.ofLevel .warning (render c s).run.notices = []) ∧
    (∀ r, (Resources.build c.resourceTexts).result = .ok r →
      (render c s).store = (build c s).store ∧
      FailAlike (render c s).run (build c s).run ∧
      Log.ofLevel .warning (render c s).run.notices = Log.ofLevel .warning (build c s).run.notices ∧
      ∀ k, (build c s).run.result = .ok k →
        ∃ k' fields, (render c s).run.result = .ok k' ∧ k.toManifest = .record fields ∧
          k'.toManifest = .record (fields ++ resourceEntries c.resourceTexts r ++
            [("readinessProbe", (probe c).toManifest)])) ∧
    preStopCommand c.preStopDelay = .ok (preStop c) ∧
    Probe.readiness c.probeInitialDelay.val c.probePeriod.val
      (toString c.effectiveAdminPort.val) = .ok (probe c) ∧
    Probe.fields (probe c).entries = .ok (probe c) ∧
    ∀ env, Container.check (container c (preStop c) env).entries =
      .ok (container c (preStop c) env) := by
  refine ⟨⟨build_store c s, build_failAlike c s, fun _ => build_notices_of_error⟩,
    fun failure hfailure => ?_, fun r hr => ?_, preStopCommand_eq _, Probe.readiness_eq _ _ _,
    (probe c).fields_entries, check_container c⟩
  · -- nothing of the container has been looked at yet
    rw [render_of_error hfailure]
    exact ⟨rfl, rfl, Resources.quiet_build _⟩
  · refine ⟨?_, render_failAlike hr s, render_warnings hr s, fun k hk => render_manifest hr hk⟩
    rw [render_of_ok hr]

end Sidecar

end EnvoySidecar
