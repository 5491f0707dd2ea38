import EnvoySidecar.Proofs.Sidecar.Commands

/-! The container of a workload, part by part. Apart from its variables it follows from the
configuration, and nothing but the variables and the resources can fail. -/

namespace EnvoySidecar.Sidecar

open Env

def preStop (c : Config) : Command :=
  ["sh", "-c", "sleep " ++ c.preStopDelay]

def probe (c : Config) : Probe where
  command := ["sh", "-c", "curl -s http://localhost:" ++ toString c.effectiveAdminPort.val ++
    "/server_info | grep state | grep -q LIVE"]
  initialDelay := c.probeInitialDelay.val
  period := c.probePeriod.val

def full (c : Config) (r : Resources) (env : List EnvVar) : Container :=
  { container c (preStop c) env with resources := some r, readinessProbe := some (probe c) }

variable {c : Config} {s : Store} {k : Container}

theorem build_eq (c : Config) (s : Store) :
    build c s = ⟨(assemble c s).store, (assemble c s).run >>= fun env => do
      Run.note (.sidecarBuilt c.virtualNodeRef env.length)
      return container c (preStop c) env⟩ := by
  simp only [build, noteTemplate, preStopCommand_eq]
  rfl

theorem build_store (c : Config) (s : Store) : (build c s).store = (assemble c s).store := by
  rw [build_eq]

theorem build_eq_ok_iff : (build c s).run.result = .ok k ↔
    ∃ env, (assemble c s).run.result = .ok env ∧ container c (preStop c) env = k := by
  rw [build_eq]
  simp only [Run.result_bind_eq_ok_iff, Run.result_note, Run.result_pure, Except.ok.injEq,
    exists_const, true_and]

theorem render_of_ok {r : Resources} (h : (Resources.build c.resourceTexts).result = .ok r)
    (s : Store) : render c s = ⟨(build c s).store,
      ⟨(Resources.build c.resourceTexts).notices ++ (build c s).run.notices, do
        let built ← (build c s).run.result
        return { built with resources := some r, readinessProbe := some (probe c) }⟩⟩ := by
  simp only [render, h, Probe.readiness_eq]
  rfl

theorem render_of_error {failure : Failure}
    (h : (Resources.build c.resourceTexts).result = .error failure) (s : Store) :
    render c s = ⟨s, ⟨(Resources.build c.resourceTexts).notices, .error failure⟩⟩ := by
  simp only [render, h]

theorem render_eq_ok_iff : (render c s).run.result = .ok k ↔
    ∃ r env, (Resources.build c.resourceTexts).result = .ok r ∧
      (assemble c s).run.result = .ok env ∧ full c r env = k := by
  cases h : (Resources.build c.resourceTexts).result with
  | error failure =>
    rw [render_of_error h]
    simp
  | ok r =>
    rw [render_of_ok h]
    constructor
    · intro hk
      obtain ⟨built, hbuilt, hk⟩ := except_bind_eq_ok_iff.1 hk
      obtain ⟨env, henv, rfl⟩ := build_eq_ok_iff.1 hbuilt
      cases hk
      exact ⟨r, env, rfl, henv, rfl⟩
    · rintro ⟨_, env, hr, henv, rfl⟩
      cases hr
      exact except_bind_eq_ok_iff.2 ⟨_, build_eq_ok_iff.2 ⟨env, henv, rfl⟩, rfl⟩

theorem render_store (c : Config) (s : Store) :
    (render c s).store = s ∨ (render c s).store = (assemble c s).store := by
  cases h : (Resources.build c.resourceTexts).result with
  | error failure =>
    rw [render_of_error h]
    exact .inl rfl
  | ok r =>
    rw [render_of_ok h, build_store]
    exact .inr rfl

theorem render_store_of_ok (h : (render c s).run.result = .ok k) :
    (render c s).store = (assemble c s).store := by
  obtain ⟨r, -, hr, -⟩ := render_eq_ok_iff.1 h
  rw [render_of_ok hr, build_store]

end EnvoySidecar.Sidecar
