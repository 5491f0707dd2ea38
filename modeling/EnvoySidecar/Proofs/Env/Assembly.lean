import EnvoySidecar.Proofs.Env.Managed
import EnvoySidecar.Proofs.Env.Rendering
import EnvoySidecar.Proofs.Env.Writes

/-! What assembling leaves in a store, and what it shows of it. The merge writes the managed
entries in their order, however far it comes; on a store of plain values it comes to the end, and
everything in the store can be shown. -/

namespace EnvoySidecar.Env

variable {s : Store} {c : Config}

theorem overrides_total (h : s.Plain) (e : Entry) : ∃ b, overrides s e = .ok b := by
  unfold overrides
  cases hv : s.get? e.1 with
  | none => exact ⟨false, rfl⟩
  | some v =>
    obtain ⟨old, hold⟩ := tag_total (k := e.1) (h.get? hv)
    obtain ⟨new, hnew⟩ := tag_total (k := e.1) (v := .text e.2) trivial
    cases hnull : v.isNull with
    | true => exact ⟨false, by simp only [hnull, if_true]⟩
    | false => exact ⟨old != new, by simp only [hnull, hold, hnew, Bool.false_eq_true, if_false]⟩

theorem merge_cons_of_ok {e : Entry} {b : Bool} (h : overrides s e = .ok b) (rest : List Entry) :
    (merge (e :: rest) s).store = (merge rest (s.set e.1 (.text e.2))).store ∧
      (merge (e :: rest) s).run.result = (merge rest (s.set e.1 (.text e.2))).run.result := by
  simp only [merge, h]
  cases b with
  | true => exact ⟨rfl, rfl⟩
  | false => exact ⟨rfl, rfl⟩

theorem merge_written (es : List Entry) (s : Store) :
    ∃ done, done <+: es ∧ Written s (done.map Write.put) (merge es s).store ∧
      ((merge es s).run.result = .ok () → done = es) := by
  induction es generalizing s with
  | nil => exact ⟨[], List.prefix_refl [], .refl s, fun _ => rfl⟩
  | cons e rest ih =>
    cases h : overrides s e with
    | error failure =>
      refine ⟨[], List.nil_prefix, ?_, ?_⟩
      · simp only [merge, h]
        exact .refl s
      · intro hok
        simp only [merge, h, Run.fail, reduceCtorEq] at hok
    | ok b =>
      obtain ⟨hstore, hresult⟩ := merge_cons_of_ok h rest
      obtain ⟨done, hprefix, hwritten, hall⟩ := ih (s.set e.1 (.text e.2))
      refine ⟨e :: done, List.cons_prefix_cons.2 ⟨rfl, hprefix⟩, ?_, ?_⟩
      · rw [hstore]
        exact (Written.set s e.1 (.text e.2)).trans hwritten
      · rw [hresult]
        exact fun hok => congrArg (e :: ·) (hall hok)

theorem merge_total (es : List Entry) (h : s.Plain) :
    (merge es s).run.result = .ok () ∧ (merge es s).store.Plain := by
  induction es generalizing s with
  | nil => exact ⟨rfl, h⟩
  | cons e rest ih =>
    obtain ⟨b, hb⟩ := overrides_total h e
    obtain ⟨hstore, hresult⟩ := merge_cons_of_ok hb rest
    rw [hstore, hresult]
    exact ih (h.set e.1 trivial)

def managed (c : Config) : List Entry :=
  match (managedEntries c).result with
  | .ok es => es
  | .error _ => []

theorem managed_of_ok {es : List Entry} (h : (managedEntries c).result = .ok es) :
    managed c = es := by
  rw [managed, h]

theorem managed_of_error {failure : Failure} (h : (managedEntries c).result = .error failure) :
    managed c = [] := by
  rw [managed, h]

theorem assemble_of_ok {es : List Entry} (h : (managedEntries c).result = .ok es) (s : Store) :
    assemble c s = ⟨(merge es s).store, ⟨(managedEntries c).notices ++ (merge es s).run.notices,
      (merge es s).run.result.bind fun _ => renderAll (merge es s).store⟩⟩ := by
  simp only [assemble, h]

theorem assemble_of_error {failure : Failure} (h : (managedEntries c).result = .error failure)
    (s : Store) : assemble c s = ⟨s, ⟨(managedEntries c).notices, .error failure⟩⟩ := by
  simp only [assemble, h]

theorem assemble_written (c : Config) (s : Store) :
    ∃ done, done <+: managed c ∧ Written s (done.map Write.put) (assemble c s).store ∧
      ∀ vars, (assemble c s).run.result = .ok vars →
        (managedEntries c).result = .ok done ∧ renderAll (assemble c s).store = .ok vars := by
  cases h : (managedEntries c).result with
  | error failure =>
    rw [assemble_of_error h, managed_of_error h]
    exact ⟨[], List.prefix_refl [], .refl s, fun vars hvars => by cases hvars⟩
  | ok es =>
    rw [assemble_of_ok h, managed_of_ok h]
    obtain ⟨done, hprefix, hwritten, hall⟩ := merge_written es s
    refine ⟨done, hprefix, hwritten, fun vars hvars => ?_⟩
    obtain ⟨_, hmerged, hrendered⟩ := except_bind_eq_ok_iff.1 hvars
    exact ⟨congrArg Except.ok (hall hmerged).symm, hrendered⟩

theorem assemble_ne_nil {vars : List EnvVar} (h : (assemble c s).run.result = .ok vars) :
    vars ≠ [] := by
  obtain ⟨es, -, hwritten, hsuccess⟩ := assemble_written c s
  obtain ⟨hes, hrendered⟩ := hsuccess vars h
  have hregion : ("AWS_REGION", c.region) ∈ es :=
    (mem_managedEntries_iff hes).2 (.inl (by simp [baseEntries]))
  have hname : "AWS_REGION" ∈ vars.map EnvVar.name :=
    ((renderAll_rendering hrendered).covers _).2
      ⟨_, hwritten.get?_of_mem (managedEntries_nodup hes) hregion⟩
  rintro rfl
  simp at hname

theorem assemble_total_iff (hs : s.Plain) :
    (∃ vars, (assemble c s).run.result = .ok vars ∧ (assemble c s).store.Plain) ↔
      c.ManagedWritable := by
  rw [← managedEntries_total_iff]
  constructor
  · rintro ⟨vars, hvars, -⟩
    obtain ⟨es, -, -, hsuccess⟩ := assemble_written c s
    exact ⟨es, (hsuccess vars hvars).1⟩
  · rintro ⟨es, hes⟩
    obtain ⟨hmerged, hplain⟩ := merge_total es hs
    obtain ⟨vars, hvars⟩ := renderAll_total hplain
    rw [assemble_of_ok hes]
    exact ⟨vars, except_bind_eq_ok_iff.2 ⟨(), hmerged, hvars⟩, hplain⟩

theorem assemble_total (hports : c.PortsWritable) (hs : s.Plain) :
    ∃ vars, (assemble c s).run.result = .ok vars ∧ (assemble c s).store.Plain :=
  (assemble_total_iff hs).2 hports.managed

/-- On plain values assembling always succeeds. It leaves every managed variable with its managed
value and every other one alone, and shows each variable once, in order, for what it is. -/
theorem assemble_plain (c : Config) (s : Store) (hports : c.PortsWritable) (hs : s.Plain) :
    ∃ es vars, (managedEntries c).result = .ok es ∧ (es.map Prod.fst).Nodup ∧
      (assemble c s).run.result = .ok vars ∧
      (∀ e ∈ es, (assemble c s).store.get? e.1 = some (.text e.2)) ∧
      (∀ k, k ∉ es.map Prod.fst → (assemble c s).store.get? k = s.get? k) ∧
      (vars.map EnvVar.name).Pairwise (· < ·) ∧
      (∀ k, k ∈ vars.map EnvVar.name ↔ ∃ v, (assemble c s).store.get? k = some v) ∧
      ∀ x ∈ vars, ∃ v, (assemble c s).store.get? x.name = some v ∧ Shows x v := by
  obtain ⟨vars, hvars, hplain⟩ := assemble_total hports hs
  obtain ⟨es, -, hwritten, hsuccess⟩ := assemble_written c s
  obtain ⟨hes, hrendered⟩ := hsuccess vars hvars
  have hnodup := managedEntries_nodup hes
  have hrendering := renderAll_rendering hrendered
  refine ⟨es, vars, hes, hnodup, hvars, fun e he => hwritten.get?_of_mem hnodup he,
    fun k hk => hwritten.get?_of_notMem hk, hrendering.sorted, hrendering.covers, fun x hx => ?_⟩
  obtain ⟨v, hv, hrender⟩ := hrendering.rendered x hx
  exact ⟨v, hv, shows_of_render (hplain.get? hv) hrender⟩

def hostStatsd : Config :=
  { Config.minimal with statsd := { enabled := true, address := hostIpSentinel } }

def hostCaller : Store :=
  (Store.empty.set "STATSD_ADDRESS" (.text "10.0.0.5")).set "DATADOG_TRACER_ADDRESS"
    (.tagged (.literal hostIpSentinel))

theorem assemble_plain_host_statsd :
    hostStatsd.PortsWritable ∧ hostCaller.Plain ∧
      ∃ vars, (assemble hostStatsd hostCaller).run.result = .ok vars ∧
        (∃ x ∈ vars, x.name = "STATSD_ADDRESS" ∧ x.fieldPath = some "status.hostIP") ∧
        ∃ x ∈ vars, x.name = "DATADOG_TRACER_ADDRESS" ∧ x.fieldPath = none := by
  have hports : hostStatsd.PortsWritable := by decide
  have hplain : hostCaller.Plain := by decide
  obtain ⟨es, vars, hes, -, hvars, hmanaged, hother, -, hcovers, hshows⟩ :=
    assemble_plain hostStatsd hostCaller hports hplain
  have hstatsd : (assemble hostStatsd hostCaller).store.get? "STATSD_ADDRESS" =
      some (.text hostIpSentinel) := by
    refine hmanaged ("STATSD_ADDRESS", hostIpSentinel) ((mem_managedEntries_iff hes).2 (.inr ?_))
    exact ⟨Rule.statsd, by simp [Rule.all], rfl, _, rfl, by decide⟩
  have hdatadog : (assemble hostStatsd hostCaller).store.get? "DATADOG_TRACER_ADDRESS" =
      some (.tagged (.literal hostIpSentinel)) := by
    rw [hother "DATADOG_TRACER_ADDRESS" (by cases hes; decide +kernel)]
    exact Store.get?_set_self _ _ _
  refine ⟨hports, hplain, vars, hvars, ?_, ?_⟩
  · obtain ⟨x, hx, hname⟩ := List.mem_map.1 ((hcovers _).2 ⟨_, hstatsd⟩)
    obtain ⟨v, hv, hshow⟩ := hshows x hx
    rw [hname, hstatsd] at hv
    cases hv
    exact ⟨x, hx, hname, (hshow.reference _).2 (.inr ⟨.inl hname, rfl, rfl⟩)⟩
  · obtain ⟨x, hx, hname⟩ := List.mem_map.1 ((hcovers _).2 ⟨_, hdatadog⟩)
    obtain ⟨v, hv, hshow⟩ := hshows x hx
    rw [hname, hdatadog] at hv
    cases hv
    refine ⟨x, hx, hname, ?_⟩
    cases hpath : x.fieldPath with
    | none => rfl
    | some path => simpa using (hshow.reference path).1 hpath

end EnvoySidecar.Env
