import EnvoySidecar.Proofs.Env.Warnings
import EnvoySidecar.Proofs.Sidecar.Container

/-! Values that are tagged before they are handed over. A value counts only for its tagged form
under the name that it stands under, and for being null. Two stores whose values are alike in this
sense are assembled with the same log and the same answer, so that a caller may tag any part of a
store in advance: a text of the sentinel becomes the reference that it stands for, and a literal of
the sentinel stays one. -/

namespace EnvoySidecar.Env

def Raw.settle (k : String) (v : Raw) : Raw :=
  match tag k v with
  | .ok t => .tagged t
  | .error _ => v

variable {c : Config} {s t : Store} {k : String} {v w : Raw} {e : Entry}

theorem Raw.settle_of_ok {u : Tagged} (h : tag k v = .ok u) : v.settle k = .tagged u := by
  rw [settle, h]

theorem Raw.settle_of_error {report : Schema.Report} (h : tag k v = .error report) :
    v.settle k = v := by
  rw [settle, h]

@[simp] theorem tag_settle (k : String) (v : Raw) : tag k (v.settle k) = tag k v := by
  cases h : tag k v with
  | ok u =>
    rw [Raw.settle_of_ok h]
    rfl
  | error report => rw [Raw.settle_of_error h, h]

@[simp] theorem Raw.settle_settle (k : String) (v : Raw) : (v.settle k).settle k = v.settle k := by
  cases h : tag k v with
  | ok u =>
    rw [settle_of_ok h]
    rfl
  | error report => rw [settle_of_error h, settle_of_error h]

@[simp] theorem Raw.isNull_settle (k : String) (v : Raw) : (v.settle k).isNull = v.isNull := by
  cases h : tag k v with
  | ok u =>
    rw [settle_of_ok h]
    cases v with
    | text s => rfl
    | tagged u => rfl
    | other w =>
      cases w with
      | null => cases h
      | _ => rfl
  | error report => rw [settle_of_error h]

namespace Store

/-- The store with the values under some names tagged in advance. -/
def settle (s : Store) (p : String → Bool) : Store where
  entries := s.entries.map fun e => (e.1, if p e.1 then e.2.settle e.1 else e.2)
  sorted := List.pairwise_map.2 s.sorted

theorem keys_settle (s : Store) (p : String → Bool) : (s.settle p).keys = s.keys := by
  rw [keys, settle, List.map_map]
  rfl

theorem get?_settle (s : Store) (p : String → Bool) (k : String) :
    (s.settle p).get? k = (s.get? k).map fun v => if p k then v.settle k else v := by
  apply Option.ext
  intro w
  rw [get?_eq_some_iff, Option.map_eq_some_iff]
  constructor
  · intro h
    obtain ⟨e, he, heq⟩ := List.mem_map.1 h
    cases heq
    exact ⟨e.2, get?_eq_some_iff.2 he, rfl⟩
  · rintro ⟨v, hv, rfl⟩
    exact List.mem_map.2 ⟨(k, v), get?_eq_some_iff.1 hv, rfl⟩

theorem Plain.settle (h : s.Plain) (p : String → Bool) : (s.settle p).Plain := by
  intro e he
  obtain ⟨x, hx, rfl⟩ := List.mem_map.1 he
  dsimp only
  split
  · obtain ⟨u, hu⟩ := tag_total (k := x.1) (h x hx)
    rw [Raw.settle_of_ok hu]
    trivial
  · exact h x hx

def Alike (s t : Store) : Prop :=
  ∀ k, (s.get? k).map (Raw.settle k) = (t.get? k).map (Raw.settle k)

theorem alike_settle (s : Store) (p : String → Bool) : (s.settle p).Alike s := by
  intro k
  rw [get?_settle, Option.map_map]
  congr 1
  funext v
  by_cases hp : p k
  · simp [hp]
  · simp [hp]

namespace Alike

theorem set (h : s.Alike t) (k : String) (v : Raw) : (s.set k v).Alike (t.set k v) := by
  intro k'
  rw [get?_set, get?_set]
  split
  · rfl
  · exact h k'

theorem settle_eq (h : s.Alike t) : s.settle (fun _ => true) = t.settle fun _ => true := by
  apply ext_get?
  intro k
  have hk := h k
  simpa only [get?_settle, if_true] using hk

theorem keys_eq (h : s.Alike t) : s.keys = t.keys := by
  rw [← keys_settle s fun _ => true, h.settle_eq, keys_settle]

theorem tag_eq (h : s.Alike t) (k : String) : (s.get? k).map (tag k) = (t.get? k).map (tag k) := by
  have hsettled (u : Store) :
      (u.get? k).map (tag k) = ((u.get? k).map (Raw.settle k)).map (tag k) := by
    rw [Option.map_map]
    congr 1
    funext v
    exact (tag_settle k v).symm
  rw [hsettled s, hsettled t, h k]

theorem overrides_eq (h : s.Alike t) (e : Entry) : overrides s e = overrides t e := by
  have hk := h e.1
  unfold overrides
  cases hs : s.get? e.1 with
  | none =>
    rw [hs, Option.map_none, eq_comm, Option.map_eq_none_iff] at hk
    rw [hk]
  | some v =>
    rw [hs, Option.map_some, eq_comm, Option.map_eq_some_iff] at hk
    obtain ⟨w, hw, hvw⟩ := hk
    have hnull : v.isNull = w.isNull := by
      rw [← Raw.isNull_settle e.1 v, ← hvw, Raw.isNull_settle]
    have htag : tag e.1 v = tag e.1 w := by
      rw [← tag_settle e.1 v, ← hvw, tag_settle]
    rw [hw]
    simp only [hnull, htag]

theorem renderAll_eq (h : s.Alike t) : renderAll s = renderAll t := by
  have hsettled (u : Store) : renderAll u = renderAll (u.settle fun _ => true) := by
    rw [renderAll, renderAll, settle, List.mapM_map]
    congr 1
    funext e
    simp only [Function.comp_apply, if_true, render, tag_settle]
  rw [hsettled s, hsettled t, h.settle_eq]

end Alike

end Store

open Store (Alike)

theorem merge_alike (es : List Entry) (h : s.Alike t) :
    (merge es s).run = (merge es t).run ∧ (merge es s).store.Alike (merge es t).store := by
  induction es generalizing s t with
  | nil => exact ⟨rfl, h⟩
  | cons e rest ih =>
    have hsame := h.overrides_eq e
    cases ht : overrides t e with
    | error failure =>
      rw [merge_cons_of_error ht, merge_cons_of_error (hsame.trans ht)]
      exact ⟨rfl, h⟩
    | ok differs =>
      obtain ⟨hrun, hstore⟩ := ih (h.set e.1 (.text e.2))
      simp only [merge, hsame, ht]
      cases differs with
      | true =>
        simp only [if_true]
        rw [hrun]
        exact ⟨rfl, hstore⟩
      | false => exact ⟨hrun, hstore⟩

theorem assemble_alike (c : Config) (h : s.Alike t) :
    (assemble c s).run = (assemble c t).run ∧ (assemble c s).store.Alike (assemble c t).store := by
  cases hes : (managedEntries c).result with
  | error failure =>
    rw [assemble_of_error hes, assemble_of_error hes]
    exact ⟨rfl, h⟩
  | ok es =>
    obtain ⟨hrun, hstore⟩ := merge_alike es h
    rw [assemble_of_ok hes, assemble_of_ok hes]
    refine ⟨?_, hstore⟩
    simp only [hrun, hstore.renderAll_eq]

theorem get?_assemble_of_managed (hs : s.Plain) (he : e ∈ managed c) :
    (assemble c s).store.get? e.1 = some (.text e.2) := by
  cases hes : (managedEntries c).result with
  | error failure =>
    rw [managed_of_error hes] at he
    cases he
  | ok es =>
    rw [managed_of_ok hes] at he
    rw [assemble_store_of_plain hes hs]
    exact s.get?_overwrite_of_mem (managedEntries_nodup hes) he

end EnvoySidecar.Env

namespace EnvoySidecar.Sidecar

open Env

variable {c : Config} {s t : Store}

theorem build_alike (c : Config) (h : s.Alike t) :
    (build c s).run = (build c t).run ∧ (build c s).store.Alike (build c t).store := by
  obtain ⟨hrun, hstore⟩ := assemble_alike c h
  rw [build_eq, build_eq, hrun]
  exact ⟨rfl, hstore⟩

theorem render_alike (c : Config) (h : s.Alike t) :
    (render c s).run = (render c t).run ∧ (render c s).store.Alike (render c t).store := by
  cases hr : (Resources.build c.resourceTexts).result with
  | error failure =>
    rw [render_of_error hr, render_of_error hr]
    exact ⟨rfl, h⟩
  | ok r =>
    obtain ⟨hrun, hstore⟩ := build_alike c h
    rw [render_of_ok hr, render_of_ok hr, hrun]
    exact ⟨rfl, hstore⟩

/-- The same variables, and each of them is tagged as the same value. -/
structure SameTagged (s t : Store) : Prop where
  keys : s.keys = t.keys
  tagged : ∀ k, (s.get? k).map (tag k) = (t.get? k).map (tag k)

theorem sameTagged_of_alike (h : s.Alike t) : SameTagged s t :=
  ⟨h.keys_eq, h.tag_eq⟩

/-- Tagging any of the values in advance goes unobserved. Assembling, building and rendering log
and answer the same, be it a result or a failure; the variables that they leave are the same, the
managed ones with the very same values and all of them with the same tagged values. -/
theorem settling_unobserved (c : Config) (s : Store) (hs : s.Plain) (p : String → Bool) :
    (assemble c (s.settle p)).run = (assemble c s).run ∧
      (build c (s.settle p)).run = (build c s).run ∧
      (render c (s.settle p)).run = (render c s).run ∧
      SameTagged (assemble c (s.settle p)).store (assemble c s).store ∧
      SameTagged (build c (s.settle p)).store (build c s).store ∧
      SameTagged (render c (s.settle p)).store (render c s).store ∧
      (∀ e ∈ managed c, (assemble c (s.settle p)).store.get? e.1 = some (.text e.2) ∧
        (assemble c s).store.get? e.1 = some (.text e.2)) ∧
      (∀ t : Store, (build c t).store = (assemble c t).store ∧
        ((render c t).run.result.isOk = true → (render c t).store = (assemble c t).store)) ∧
      ((∃ vars, (assemble c s).run.result = .ok vars) ↔ c.ManagedWritable) := by
  have halike := Store.alike_settle s p
  obtain ⟨hassemble, hassembled⟩ := assemble_alike c halike
  obtain ⟨hbuild, hbuilt⟩ := build_alike c halike
  obtain ⟨hrender, hrendered⟩ := render_alike c halike
  refine ⟨hassemble, hbuild, hrender, sameTagged_of_alike hassembled, sameTagged_of_alike hbuilt,
    sameTagged_of_alike hrendered, ?_, ?_, ?_⟩
  · intro e he
    exact ⟨get?_assemble_of_managed (hs.settle p) he, get?_assemble_of_managed hs he⟩
  · intro t
    refine ⟨build_store c t, fun hok => ?_⟩
    obtain ⟨k, hk⟩ := exists_eq_ok_of_isOk hok
    exact render_store_of_ok hk
  · rw [← assemble_total_iff hs]
    constructor
    · rintro ⟨vars, hvars⟩
      obtain ⟨es, -, -, hsuccess⟩ := assemble_written c s
      exact (assemble_total_iff hs).2 (managedEntries_total_iff.1 ⟨es, (hsuccess vars hvars).1⟩)
    · rintro ⟨vars, hvars, -⟩
      exact ⟨vars, hvars⟩

def sentinelCaller : Store :=
  ((Store.empty.set "DATADOG_TRACER_ADDRESS" (.text hostIpSentinel)).set "STATSD_ADDRESS"
    (.tagged (.literal hostIpSentinel))).set "APP" (.text hostIpSentinel)

theorem settling_unobserved_sentinel :
    let settled := sentinelCaller.settle fun k => k != "APP"
    sentinelCaller.Plain ∧
      settled.entries = [("APP", .text "ref:status.hostIP"),
        ("DATADOG_TRACER_ADDRESS", .tagged (.fieldRef "status.hostIP")),
        ("STATSD_ADDRESS", .tagged (.literal "ref:status.hostIP"))] ∧
      (render hostStatsd settled).run = (render hostStatsd sentinelCaller).run ∧
      (render hostStatsd sentinelCaller).run.result.isOk = true ∧
      Log.ofLevel .warning (assemble hostStatsd settled).run.notices =
        [(Log.Notice.overriding "STATSD_ADDRESS").record] := by
  have hplain : sentinelCaller.Plain := by decide
  have hrendered : (render hostStatsd sentinelCaller).run.result.isOk = true := by decide +kernel
  have hwarnings : Log.ofLevel .warning (assemble hostStatsd sentinelCaller).run.notices =
      [(Log.Notice.overriding "STATSD_ADDRESS").record] := by decide +kernel
  obtain ⟨hassemble, -, hrender, -⟩ :=
    settling_unobserved hostStatsd sentinelCaller hplain fun k => k != "APP"
  intro settled
  refine ⟨hplain, by rfl, hrender, hrendered, ?_⟩
  rw [hassemble, hwarnings]

end EnvoySidecar.Sidecar
