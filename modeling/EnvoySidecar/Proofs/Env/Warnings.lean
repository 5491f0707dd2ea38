import EnvoySidecar.Proofs.Env.Overwriting
import EnvoySidecar.Proofs.Env.Recovery

/-! What a merge writes and what it warns of, step by step. It goes through its entries up to the
first that cannot be compared with the value held, and warns of those whose old value is tagged
differently. On plain values that is all of them, and a second call finds nothing left to do. -/

namespace EnvoySidecar.Env

/-- The variable is there, and its value is tagged as something else than the entry's own. A null
counts as no value. -/
def Overridden (s : Store) (e : Entry) : Prop :=
  ∃ v, s.get? e.1 = some v ∧ v.isNull = false ∧ tag e.1 v ≠ tag e.1 (.text e.2)

instance (s : Store) (e : Entry) : Decidable (Overridden s e) :=
  match h : s.get? e.1 with
  | none => isFalse fun ⟨v, hv, _⟩ => by simp [h] at hv
  | some v =>
    decidable_of_iff (v.isNull = false ∧ tag e.1 v ≠ tag e.1 (.text e.2))
      ⟨fun hv => ⟨v, h, hv⟩, fun ⟨w, hw, hv⟩ => by cases h.symm.trans hw; exact hv⟩

def warnings (s : Store) (es : List Entry) : List Log.Record :=
  (es.filter fun e => Overridden s e).map fun e => (Log.Notice.overriding e.1).record

variable {s t : Store} {c : Config} {e : Entry} {es : List Entry}

theorem overridden_congr (h : s.get? e.1 = t.get? e.1) : Overridden s e ↔ Overridden t e := by
  rw [Overridden, Overridden, h]

theorem overrides_eq_ok {b : Bool} (h : overrides s e = .ok b) :
    decide (Overridden s e) = b := by
  obtain ⟨new, hnew⟩ := tag_total (k := e.1) (v := .text e.2) trivial
  have hiff : Overridden s e ↔ b = true := by
    unfold overrides at h
    unfold Overridden
    cases hv : s.get? e.1 with
    | none =>
      simp only [hv, Except.ok.injEq] at h
      simp [← h]
    | some v =>
      cases hnull : v.isNull with
      | true =>
        simp only [hv, hnull, if_true, Except.ok.injEq] at h
        simp [← h, hnull]
      | false =>
        cases hold : tag e.1 v with
        | error report => simp [hv, hnull, hold] at h
        | ok old =>
          simp only [hv, hnull, hold, hnew, Bool.false_eq_true, if_false, Except.ok.injEq] at h
          simp [← h, hnull, hold, hnew]
  exact Bool.eq_iff_iff.2 (decide_eq_true_iff.trans hiff)

theorem merge_prefix {p : Entry → Bool} (hnodup : (es.map Prod.fst).Nodup)
    (hp : ∀ e ∈ es, (∃ b, overrides s e = .ok b) ↔ p e = true) :
    (merge es s).store = s.overwrite (es.takeWhile p) ∧
      (merge es s).run.notices =
        ((es.takeWhile p).filter fun e => Overridden s e).map fun e => .overriding e.1 := by
  induction es generalizing s with
  | nil => exact ⟨rfl, rfl⟩
  | cons e rest ih =>
    obtain ⟨hfresh, hrest⟩ := List.nodup_cons.1 hnodup
    obtain ⟨hfirst, hlater⟩ := List.forall_mem_cons.1 hp
    cases h : overrides s e with
    | error failure =>
      have hstop : p e = false := by
        rw [← Bool.not_eq_true, ← hfirst, h]
        simp
      rw [merge_cons_of_error h, List.takeWhile_cons_of_neg (by simp [hstop])]
      exact ⟨rfl, rfl⟩
    | ok b =>
      have hgo : p e = true := hfirst.1 ⟨b, h⟩
      have hkept : ∀ x ∈ rest, (s.set e.1 (.text e.2)).get? x.1 = s.get? x.1 := fun x hx =>
        s.get?_set_of_fresh hfresh hx _
      obtain ⟨ihstore, ihnotices⟩ := ih hrest fun x hx => by
        rw [overrides_congr (hkept x hx)]
        exact hlater x hx
      have hsame : ((rest.takeWhile p).filter fun x => Overridden (s.set e.1 (.text e.2)) x) =
          (rest.takeWhile p).filter fun x => Overridden s x :=
        List.filter_congr fun x hx => decide_eq_decide.2 <|
          overridden_congr (hkept x ((List.takeWhile_sublist p).subset hx))
      rw [(merge_cons_of_ok h rest).1, merge_cons_notices h, ihstore, ihnotices, hsame,
        List.takeWhile_cons_of_pos hgo, List.filter_cons, overrides_eq_ok h]
      refine ⟨rfl, ?_⟩
      split <;> rfl

theorem ofLevel_overriding (es : List Entry) :
    Log.ofLevel .warning (es.map fun e => .overriding e.1) =
      es.map fun e => (Log.Notice.overriding e.1).record := by
  rw [Log.ofLevel, List.map_map]
  exact List.filter_eq_self.2 fun r hr => by
    obtain ⟨e, -, rfl⟩ := List.mem_map.1 hr
    rfl

theorem merge_plain (hnodup : (es.map Prod.fst).Nodup) (hs : s.Plain) :
    (merge es s).store = s.overwrite es ∧
      (merge es s).run.notices =
        (es.filter fun e => Overridden s e).map fun e => .overriding e.1 := by
  have hall : es.takeWhile (fun _ => true) = es := List.takeWhile_eq_self_iff.2 fun _ _ => rfl
  have hmerge := merge_prefix (p := fun _ => true) hnodup fun e _ =>
    iff_of_true (overrides_total hs e) rfl
  rwa [hall] at hmerge

theorem merge_of_written (h : ∀ e ∈ es, s.get? e.1 = some (.text e.2)) :
    merge es s = ⟨s, pure ()⟩ := by
  induction es with
  | nil => rfl
  | cons e rest ih =>
    obtain ⟨hfirst, hlater⟩ := List.forall_mem_cons.1 h
    rw [merge_cons_written hfirst, ih hlater]

theorem assemble_store_of_plain (hes : (managedEntries c).result = .ok es) (hs : s.Plain) :
    (assemble c s).store = s.overwrite es := by
  rw [assemble_of_ok hes, (merge_plain (managedEntries_nodup hes) hs).1]

theorem renderAll_of_assemble (hes : (managedEntries c).result = .ok es) (hs : s.Plain)
    {vars : List EnvVar} (h : (assemble c s).run.result = .ok vars) :
    renderAll (s.overwrite es) = .ok vars := by
  obtain ⟨_, -, -, hsuccess⟩ := assemble_written c s
  rw [← assemble_store_of_plain hes hs]
  exact (hsuccess vars h).2

theorem level_of_mem_managedEntries {n : Log.Notice} (h : n ∈ (managedEntries c).notices) :
    n.level = .debug := by
  have hrules (rs : List Rule) (h : n ∈ (ruleEntries c rs).notices) : n.level = .debug := by
    induction rs with
    | nil => cases h
    | cons r rest ih =>
      rw [ruleEntries] at h
      split at h
      · obtain hn | ⟨-, hn⟩ := Run.mem_notices_bind h
        · obtain rfl := List.mem_singleton.1 hn
          rfl
        obtain hn | ⟨own, hn⟩ := Run.mem_notices_bind hn
        · cases hn
        obtain hn | ⟨tail, hn⟩ := Run.mem_notices_bind hn
        · exact ih hn
        · cases hn
      · exact ih h
  obtain hn | ⟨own, hn⟩ := Run.mem_notices_bind h
  · exact hrules Rule.all hn
  · cases hn

theorem records_managedEntries (c : Config) :
    Log.records .info (managedEntries c).notices = [] := by
  refine List.filter_eq_nil_iff.2 fun r hr => ?_
  obtain ⟨n, hn, rfl⟩ := List.mem_map.1 hr
  have hlevel : n.record.level = .debug := level_of_mem_managedEntries hn
  rw [Log.Record.reaches, hlevel]
  decide

/-- On plain values the warnings are about the managed variables that are there with another value,
in the order of the managed entries, and say nothing of either value: where these are the same
variables the whole log is the same. A second call changes nothing, gives the same answer and logs
nothing but the rules that apply. -/
theorem assemble_warns (c : Config) (s : Store) (hports : c.PortsWritable) (hs : s.Plain) :
    ∃ es vars, (managedEntries c).result = .ok es ∧ (es.map Prod.fst).Nodup ∧
      (assemble c s).run.result = .ok vars ∧
      Log.ofLevel .warning (assemble c s).run.notices = warnings s es ∧
      (∀ t : Store, t.Plain → (∀ e ∈ es, Overridden s e ↔ Overridden t e) →
        (assemble c s).run.notices = (assemble c t).run.notices) ∧
      (assemble c (assemble c s).store).run.result = .ok vars ∧
      (assemble c (assemble c s).store).store = (assemble c s).store ∧
      Log.records .info (assemble c (assemble c s).store).run.notices = [] := by
  obtain ⟨vars, hvars, -⟩ := assemble_total hports hs
  obtain ⟨es, hes⟩ := managedEntries_total_iff.2 hports.managed
  have hnodup := managedEntries_nodup hes
  have hnotices := (merge_plain hnodup hs).2
  refine ⟨es, vars, hes, hnodup, hvars, ?_, fun t ht hsame => ?_, ?_⟩
  · rw [assemble_warnings hes, hnotices, ofLevel_overriding, warnings]
  · have hfilter : (es.filter fun e => Overridden s e) = es.filter fun e => Overridden t e :=
      List.filter_congr fun e he => decide_eq_decide.2 (hsame e he)
    rw [assemble_of_ok hes, assemble_of_ok hes]
    simp only [hnotices, (merge_plain hnodup ht).2, hfilter]
  · have hmerge : merge es (s.overwrite es) = ⟨s.overwrite es, pure ()⟩ :=
      merge_of_written fun e he => s.get?_overwrite_of_mem hnodup he
    rw [assemble_store_of_plain hes hs, assemble_of_ok hes, hmerge]
    refine ⟨renderAll_of_assemble hes hs hvars, rfl, ?_⟩
    exact (congrArg (Log.records .info) (List.append_nil _)).trans (records_managedEntries c)

def taggedCaller (address : Tagged) : Store :=
  ((Store.empty.set "STATSD_ADDRESS" (.tagged address)).set "AWS_REGION"
    (.tagged (.literal "us-west-2"))).set "APPMESH_PREVIEW" (.text "1")

theorem assemble_warns_tagged :
    hostStatsd.PortsWritable ∧ (taggedCaller (.fieldRef "status.hostIP")).Plain ∧
      (taggedCaller (.literal hostIpSentinel)).Plain ∧
      Log.ofLevel .warning
          (assemble hostStatsd (taggedCaller (.fieldRef "status.hostIP"))).run.notices =
        [(Log.Notice.overriding "APPMESH_PREVIEW").record] ∧
      Log.ofLevel .warning
          (assemble hostStatsd (taggedCaller (.literal hostIpSentinel))).run.notices =
        [(Log.Notice.overriding "APPMESH_PREVIEW").record,
          (Log.Notice.overriding "STATSD_ADDRESS").record] := by
  have hports : hostStatsd.PortsWritable := by decide
  have hreference : (taggedCaller (.fieldRef "status.hostIP")).Plain := by decide
  have hliteral : (taggedCaller (.literal hostIpSentinel)).Plain := by decide
  obtain ⟨es, -, hes, -, -, hwarnings, -⟩ := assemble_warns hostStatsd _ hports hreference
  obtain ⟨es', -, hes', -, -, hwarnings', -⟩ := assemble_warns hostStatsd _ hports hliteral
  rw [hwarnings, hwarnings']
  cases hes
  cases hes'
  exact ⟨hports, hreference, hliteral, by decide +kernel, by decide +kernel⟩

end EnvoySidecar.Env
