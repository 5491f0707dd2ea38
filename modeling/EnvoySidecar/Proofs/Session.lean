import EnvoySidecar.Proofs.Env.Assembly
import EnvoySidecar.Proofs.Manifest
import EnvoySidecar.Proofs.Sidecar.Container
import EnvoySidecar.Session

/-! Sessions as ledgers. Each step accounts for what it writes, whether it succeeds or stops half
way, and the store at any time holds what the last writes to its variables left there. -/

namespace EnvoySidecar.Session

open Env

namespace Step

def isAssign : Step → Bool
  | .assign .. => true
  | _ => false

def assembles? : Step → Option Config
  | .assemble c | .build c | .render c => some c
  | _ => none

/-- Writes of managed entries: the first ones in their order, and all of them on success. -/
def WroteManaged (c : Config) (o : Outcome Manifest) (ws : List Write) : Prop :=
  ∃ done, ws = done.map Write.put ∧ done <+: managed c ∧
    ∀ m, o.run.result = .ok m → (managedEntries c).result = .ok done

def Wrote : Step → Outcome Manifest → List Write → Prop
  | .set key value, _, ws => ws = [⟨key, some value⟩]
  | .delete key, o, ws => if o.run.result.isOk then ws = [⟨key, none⟩] else ws = []
  | .renderVariable _, _, ws | .assign .., _, ws => ws = []
  | .assemble c, o, ws | .build c, o, ws | .render c, o, ws => WroteManaged c o ws

def shown : Step → Manifest → Option Manifest
  | .assemble _, m => some m
  | .build _, m | .render _, m => m.get? "env"
  | _, _ => none

theorem assign_store {step : Step} (h : step.isAssign) (s : Store) : (step.run s).store = s := by
  cases step <;> first | rfl | cases h

theorem run_of_assembles {step : Step} {c : Config} (h : step.assembles? = some c) (s : Store) :
    ((step.run s).store = s ∨ (step.run s).store = (Env.assemble c s).store) ∧
      ∀ m, (step.run s).run.result = .ok m → (step.run s).store = (Env.assemble c s).store ∧
        ∃ vars, (Env.assemble c s).run.result = .ok vars ∧
          step.shown m = some (.list (vars.map EnvVar.toManifest)) := by
  cases step with
  | set | delete | renderVariable | assign => cases h
  | assemble c =>
    cases h
    refine ⟨.inr rfl, fun m hm => ⟨rfl, ?_⟩⟩
    obtain ⟨vars, hvars, rfl⟩ := Run.result_map_eq_ok_iff.1 hm
    exact ⟨vars, hvars, rfl⟩
  | build c =>
    cases h
    refine ⟨.inr (Sidecar.build_store c s), fun m hm => ⟨Sidecar.build_store c s, ?_⟩⟩
    obtain ⟨k, hk, rfl⟩ := Run.result_map_eq_ok_iff.1 hm
    obtain ⟨vars, hvars, rfl⟩ := Sidecar.build_eq_ok_iff.1 hk
    exact ⟨vars, hvars, Container.get?_env (assemble_ne_nil hvars)⟩
  | render c =>
    cases h
    refine ⟨Sidecar.render_store c s, fun m hm => ?_⟩
    obtain ⟨k, hk, rfl⟩ := Run.result_map_eq_ok_iff.1 hm
    obtain ⟨r, vars, -, hvars, hfull⟩ := Sidecar.render_eq_ok_iff.1 hk
    refine ⟨Sidecar.render_store_of_ok hk, vars, hvars, ?_⟩
    rw [← hfull]
    exact Container.get?_env (assemble_ne_nil hvars)

theorem wroteManaged {step : Step} {c : Config} (h : step.assembles? = some c) (s : Store) :
    ∃ ws, WroteManaged c (step.run s) ws ∧ Written s ws (step.run s).store := by
  obtain ⟨hstore, hok⟩ := run_of_assembles h s
  obtain ⟨done, hprefix, hwritten, hall⟩ := assemble_written c s
  by_cases hreached : (step.run s).store = (Env.assemble c s).store
  · refine ⟨done.map Write.put, ⟨done, rfl, hprefix, fun m hm => ?_⟩, hreached ▸ hwritten⟩
    obtain ⟨-, vars, hvars, -⟩ := hok m hm
    exact (hall vars hvars).1
  · -- a step that failed before assembling has written nothing
    refine ⟨[], ⟨[], rfl, List.nil_prefix, fun m hm => absurd (hok m hm).1 hreached⟩, ?_⟩
    rw [hstore.resolve_right hreached]
    exact .refl s

theorem run_written (step : Step) (s : Store) :
    ∃ ws, step.Wrote (step.run s) ws ∧ Written s ws (step.run s).store := by
  cases step with
  | set key value => exact ⟨_, rfl, .set s key value⟩
  | delete key =>
    cases h : s.get? key with
    | none =>
      have hrun : (delete key).run s = ⟨s, Run.fail (.unknownVariable key)⟩ := by
        simp only [run, h]
      rw [hrun]
      exact ⟨[], rfl, .refl s⟩
    | some v =>
      have hrun : (delete key).run s = ⟨s.delete key, pure .null⟩ := by
        simp only [run, h]
      rw [hrun]
      exact ⟨_, rfl, .delete s key⟩
  | renderVariable key =>
    refine ⟨[], rfl, ?_⟩
    cases h : s.get? key <;> simp only [run, h] <;> exact .refl s
  | assemble c | build c | render c => exact wroteManaged rfl s
  | assign c path => exact ⟨[], rfl, .refl s⟩

theorem run_shown {step : Step} {c : Config} (h : step.assembles? = some c) {s : Store}
    {m : Manifest} (hm : (step.run s).run.result = .ok m) :
    ∃ vars, Rendering (step.run s).store vars ∧
      step.shown m = some (.list (vars.map EnvVar.toManifest)) := by
  obtain ⟨hstore, vars, hvars, hshown⟩ := (run_of_assembles h s).2 m hm
  obtain ⟨_, _, _, hsuccess⟩ := assemble_written c s
  rw [hstore]
  exact ⟨vars, renderAll_rendering (hsuccess vars hvars).2, hshown⟩

end Step

def final (s : Store) (os : List (Outcome Manifest)) : Store :=
  (os.getLast?.map (·.store)).getD s

theorem final_cons (s : Store) (o : Outcome Manifest) (os : List (Outcome Manifest)) :
    final s (o :: os) = final o.store os := by
  rw [final, List.getLast?_cons]
  cases h : os.getLast? with
  | none => simp [final, h]
  | some o' => simp [final, h]

theorem length_run (s : Store) (steps : List Step) : (run s steps).length = steps.length := by
  induction steps generalizing s with
  | nil => rfl
  | cons step rest ih => rw [run, List.length_cons, List.length_cons, ih]

theorem mem_zip_run {s : Store} {steps : List Step} {p : Step × Outcome Manifest}
    (h : p ∈ steps.zip (run s steps)) : ∃ t, p.2 = p.1.run t := by
  induction steps generalizing s with
  | nil => simp at h
  | cons step rest ih =>
    rw [run, List.zip_cons_cons] at h
    rcases List.mem_cons.1 h with rfl | h
    · exact ⟨s, rfl⟩
    · exact ih h

theorem run_written (s : Store) (steps : List Step) :
    ∃ log, List.Forall₂ (fun p ws => p.1.Wrote p.2 ws) (steps.zip (run s steps)) log ∧
      Written s log.flatten (final s (run s steps)) := by
  induction steps generalizing s with
  | nil => exact ⟨[], .nil, .refl s⟩
  | cons step rest ih =>
    obtain ⟨ws, hwrote, hwritten⟩ := step.run_written s
    obtain ⟨log, hlog, hrest⟩ := ih (step.run s).store
    refine ⟨ws :: log, .cons hwrote hlog, ?_⟩
    rw [run, final_cons, List.flatten_cons]
    exact hwritten.trans hrest

theorem run_filter_assign (s : Store) (steps : List Step) :
    run s (steps.filter fun step => !step.isAssign) =
      ((steps.zip (run s steps)).filter fun p => !p.1.isAssign).map Prod.snd := by
  induction steps generalizing s with
  | nil => rfl
  | cons step rest ih =>
    rw [run, List.zip_cons_cons, List.filter_cons, List.filter_cons]
    cases h : step.isAssign with
    | true =>
      have hstore := step.assign_store h s
      simp only [Bool.not_true, Bool.false_eq_true, if_false, hstore]
      exact ih s
    | false =>
      simp only [Bool.not_false, if_true, List.map_cons, run]
      rw [ih]

/-- A session keeps a ledger. Every variable ends with what the last write to it left there, every
list of variables in an answer shows the store as it stood after that step, and attempts at
assigning settings change no other answer. -/
theorem run_ledger (s : Store) (steps : List Step) :
    (run s steps).length = steps.length ∧
      (∃ log, List.Forall₂ (fun p ws => p.1.Wrote p.2 ws) (steps.zip (run s steps)) log ∧
        Written s log.flatten (final s (run s steps))) ∧
      (∀ p ∈ steps.zip (run s steps), ∀ c, p.1.assembles? = some c →
        ∀ m, p.2.run.result = .ok m → ∃ vars, Rendering p.2.store vars ∧
          p.1.shown m = some (.list (vars.map EnvVar.toManifest))) ∧
      run s (steps.filter fun step => !step.isAssign) =
        ((steps.zip (run s steps)).filter fun p => !p.1.isAssign).map Prod.snd := by
  refine ⟨length_run s steps, run_written s steps, ?_, run_filter_assign s steps⟩
  intro p hp c hc m hm
  obtain ⟨t, ht⟩ := mem_zip_run hp
  rw [ht] at hm ⊢
  exact Step.run_shown hc hm

end EnvoySidecar.Session
