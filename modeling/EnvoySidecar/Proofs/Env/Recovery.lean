import EnvoySidecar.Proofs.Env.Assembly
import EnvoySidecar.Proofs.Sidecar.Agreement

/-! Assembling once more after it failed half way. What was written by then is what would have been
written anyway, so that mending the values that it failed on and starting again comes out as if
they had been right in the first place, in the store, in the answer and in the warnings. -/

namespace EnvoySidecar.Env

def Raw.Foreign : Raw → Prop
  | .other v => (Schema.text v).isOk = false
  | _ => False

instance (v : Raw) : Decidable v.Foreign :=
  match v with
  | .text _ | .tagged _ => inferInstanceAs (Decidable False)
  | .other v => inferInstanceAs (Decidable ((Schema.text v).isOk = false))

variable {c : Config} {s s' t : Store} {k : String} {v : Raw} {e : Entry}

theorem exists_tag_iff : (∃ t, tag k v = .ok t) ↔ ¬v.Foreign := by
  cases v with
  | text s => exact iff_of_true (tag_total (v := .text s) trivial) id
  | tagged t => exact iff_of_true ⟨t, rfl⟩ id
  | other w =>
    cases h : Schema.text w <;>
      simp [tag, Tagged.literalOf, Raw.Foreign, h, Schema.Checked.under, Schema.Checked.map,
        Schema.Checked.toExcept, Schema.Checked.isOk]

theorem exists_render_iff : (∃ x, render k v = .ok x) ↔ ¬v.Foreign := by
  rw [← exists_tag_iff (k := k)]
  constructor
  · rintro ⟨x, hx⟩
    obtain ⟨t, ht, -⟩ := render_eq_ok_iff.1 hx
    exact ⟨t, ht⟩
  · rintro ⟨t, ht⟩
    exact ⟨_, render_eq_ok_iff.2 ⟨t, ht, rfl⟩⟩

namespace Store

def takeOver (s t : Store) (p : String → Bool) : Store :=
  (t.entries.filter fun e => p e.1).foldl (fun s e => s.set e.1 e.2) s

theorem get?_foldl_set {es : List (String × Raw)} (hes : es.Pairwise fun a b => a.1 < b.1) :
    (es.foldl (fun s e => s.set e.1 e.2) s).get? k =
      ((es.find? fun e => e.1 == k).map Prod.snd).or (s.get? k) := by
  induction es generalizing s with
  | nil => rfl
  | cons e rest ih =>
    obtain ⟨hfirst, hrest⟩ := List.pairwise_cons.1 hes
    rw [List.foldl_cons, ih hrest, List.find?_cons, get?_set]
    by_cases h : k = e.1
    · -- no later entry has this name
      subst h
      have hnone : rest.find? (fun e' => e'.1 == e.1) = none := by
        rw [List.find?_eq_none]
        intro e' he' heq
        have hlt := hfirst e' he'
        rw [beq_iff_eq.1 heq] at hlt
        exact String.lt_irrefl _ hlt
      simp [hnone]
    · have hne : (e.1 == k) = false := beq_eq_false_iff_ne.2 (Ne.symm h)
      simp only [hne, if_neg h]

theorem get?_takeOver (s t : Store) (p : String → Bool) (k : String) :
    (s.takeOver t p).get? k = if p k = true then (t.get? k).or (s.get? k) else s.get? k := by
  have hfind : (t.entries.filter fun e => p e.1).find? (fun e => e.1 == k) =
      if p k = true then t.entries.find? fun e => e.1 == k else none := by
    rw [List.find?_filter]
    split
    · next hp =>
      congr 1
      funext e
      by_cases h : e.1 = k <;> simp [h, hp]
    · next hp =>
      rw [List.find?_eq_none]
      rintro e - he
      obtain ⟨hpe, heq⟩ := by simpa using he
      exact hp (heq ▸ hpe)
  rw [takeOver, get?_foldl_set (t.sorted.filter _), hfind]
  split
  · rfl
  · rfl

end Store

theorem overrides_congr (h : s.get? e.1 = t.get? e.1) : overrides s e = overrides t e := by
  rw [overrides, overrides, h]

theorem exists_overrides_iff : (∃ b, overrides s e = .ok b) ↔
    ∀ v, s.get? e.1 = some v → v.Foreign → v.isNull = true := by
  obtain ⟨new, hnew⟩ := tag_total (k := e.1) (v := .text e.2) trivial
  unfold overrides
  cases hv : s.get? e.1 with
  | none => simp
  | some v =>
    cases hnull : v.isNull with
    | true => simp [hnull]
    | false =>
      have htag := exists_tag_iff (k := e.1) (v := v)
      simp only [hnull, hnew, Bool.false_eq_true, if_false, Option.some.injEq, forall_eq', imp_false,
        ← htag]
      cases tag e.1 v <;> simp

theorem overrides_written (h : s.get? e.1 = some (.text e.2)) : overrides s e = .ok false := by
  obtain ⟨new, hnew⟩ := tag_total (k := e.1) (v := .text e.2) trivial
  simp only [overrides, h, Raw.isNull, hnew, bne_self_eq_false, Bool.false_eq_true, if_false]

theorem merge_cons_notices {b : Bool} (h : overrides s e = .ok b) (rest : List Entry) :
    (merge (e :: rest) s).run.notices = (if b then [.overriding e.1] else []) ++
      (merge rest (s.set e.1 (.text e.2))).run.notices := by
  simp only [merge, h]
  cases b <;> rfl

theorem merge_cons_of_error {failure : Failure} (h : overrides s e = .error failure)
    (rest : List Entry) : merge (e :: rest) s = ⟨s, Run.fail failure⟩ := by
  simp only [merge, h]

theorem merge_cons_written (h : s.get? e.1 = some (.text e.2)) (rest : List Entry) :
    merge (e :: rest) s = merge rest s := by
  have hset : s.set e.1 (.text e.2) = s := by
    refine Store.ext_get? fun k => ?_
    rw [Store.get?_set]
    split
    · next hk => rw [hk, h]
    · rfl
  simp only [merge, overrides_written h, hset, Bool.false_eq_true, if_false]

theorem merge_get?_of_notMem {es : List Entry} (h : k ∉ es.map Prod.fst) :
    (merge es s).store.get? k = s.get? k := by
  obtain ⟨done, hdone, hwritten, -⟩ := merge_written es s
  refine hwritten.get?_of_notMem fun hk => h ?_
  exact (hdone.sublist.map Prod.fst).subset hk

structure Mends (p : String → Bool) (s s' : Store) : Prop where
  kept : ∀ k, p k = false → s'.get? k = s.get? k
  mended : ∀ k, p k = true → ∃ v, s'.get? k = some v ∧ ¬v.Foreign

namespace Mends

variable {p : String → Bool}

theorem set (h : Mends p s s') (hk : p k = false) (v : Raw) : Mends p (s.set k v) (s'.set k v) where
  kept k' hk' := by rw [Store.get?_set, Store.get?_set, h.kept k' hk']
  mended k' hk' := by
    have hne : k' ≠ k := by
      rintro rfl
      rw [hk] at hk'
      cases hk'
    rw [Store.get?_set_of_ne v hne]
    exact h.mended k' hk'

theorem takeOver_self (h : Mends p s s') : s.takeOver s' p = s' := by
  refine Store.ext_get? fun k => ?_
  rw [Store.get?_takeOver]
  cases hk : p k with
  | false => simpa using (h.kept k hk).symm
  | true =>
    obtain ⟨v, hv, -⟩ := h.mended k hk
    rw [hv]
    rfl

theorem takeOver_set (hk : p k = false) (v : Raw) :
    t.takeOver (s'.set k v) p = t.takeOver s' p := by
  refine Store.ext_get? fun k' => ?_
  rw [Store.get?_takeOver, Store.get?_takeOver]
  by_cases h : k' = k
  · simp [h, hk]
  · rw [Store.get?_set_of_ne v h]

/-- A merge that stops at a value to be mended, and a second one once all are, do together what one
merge does that finds them mended. -/
theorem merge_resumed {es : List Entry} (hnodup : (es.map Prod.fst).Nodup) (h : Mends p s s')
    (hstops : ∀ e ∈ es, (∃ b, overrides s e = .ok b) ↔ p e.1 = false) :
    (merge es ((merge es s).store.takeOver s' p)).store = (merge es s').store ∧
      (merge es ((merge es s).store.takeOver s' p)).run.result = (merge es s').run.result ∧
      (merge es s).run.notices ++ (merge es ((merge es s).store.takeOver s' p)).run.notices =
        (merge es s').run.notices := by
  induction es generalizing s s' with
  | nil => exact ⟨h.takeOver_self, rfl, rfl⟩
  | cons e rest ih =>
    obtain ⟨hfresh, hrest⟩ := List.nodup_cons.1 hnodup
    obtain ⟨hfirst, hlater⟩ := List.forall_mem_cons.1 hstops
    cases hold : overrides s e with
    | error failure =>
      rw [merge_cons_of_error hold, h.takeOver_self]
      exact ⟨rfl, rfl, rfl⟩
    | ok b =>
      have hp : p e.1 = false := hfirst.1 ⟨b, hold⟩
      have hold' : overrides s' e = .ok b := by rw [overrides_congr (h.kept _ hp), hold]
      obtain ⟨hstore, -⟩ := merge_cons_of_ok hold rest
      obtain ⟨hstore', hresult'⟩ := merge_cons_of_ok hold' rest
      have hstops' : ∀ x ∈ rest,
          (∃ b, overrides (s.set e.1 (.text e.2)) x = .ok b) ↔ p x.1 = false := by
        intro x hx
        have hne : x.1 ≠ e.1 := fun heq => hfresh (heq ▸ List.mem_map_of_mem hx)
        rw [overrides_congr (Store.get?_set_of_ne _ hne)]
        exact hlater x hx
      obtain ⟨ihstore, ihresult, ihnotices⟩ := ih hrest (h.set hp (.text e.2)) hstops'
      rw [takeOver_set hp] at ihstore ihresult ihnotices
      -- the second merge finds this entry written
      have hwritten : ((merge rest (s.set e.1 (.text e.2))).store.takeOver s' p).get? e.1 =
          some (.text e.2) := by
        rw [Store.get?_takeOver, hp, merge_get?_of_notMem hfresh, Store.get?_set_self]
        rfl
      rw [hstore, merge_cons_written hwritten, hstore', hresult', merge_cons_notices hold,
        merge_cons_notices hold', List.append_assoc, ihnotices]
      exact ⟨ihstore, ihresult, rfl⟩

end Mends

theorem merge_ok {es : List Entry} (hnodup : (es.map Prod.fst).Nodup)
    (h : ∀ e ∈ es, ∃ b, overrides s e = .ok b) : (merge es s).run.result = .ok () := by
  induction es generalizing s with
  | nil => rfl
  | cons e rest ih =>
    obtain ⟨hfresh, hrest⟩ := List.nodup_cons.1 hnodup
    obtain ⟨⟨b, hb⟩, hlater⟩ := List.forall_mem_cons.1 h
    rw [(merge_cons_of_ok hb rest).2]
    refine ih hrest fun x hx => ?_
    have hne : x.1 ≠ e.1 := fun heq => hfresh (heq ▸ List.mem_map_of_mem hx)
    rw [overrides_congr (Store.get?_set_of_ne _ hne)]
    exact hlater x hx

/-- A variable that assembling fails on. A null under a managed name counts as no value. -/
def Offends (c : Config) (s : Store) (k : String) : Prop :=
  ∃ v, s.get? k = some v ∧ v.Foreign ∧ ¬(v.isNull = true ∧ k ∈ (managed c).map Prod.fst)

instance (c : Config) (s : Store) (k : String) : Decidable (Offends c s k) :=
  match h : s.get? k with
  | none => isFalse fun ⟨v, hv, _⟩ => by simp [h] at hv
  | some v =>
    decidable_of_iff (v.Foreign ∧ ¬(v.isNull = true ∧ k ∈ (managed c).map Prod.fst))
      ⟨fun hv => ⟨v, h, hv⟩, fun ⟨w, hw, hv⟩ => by cases h.symm.trans hw; exact hv⟩

def mended (c : Config) (s s' : Store) : Store :=
  (assemble c s).store.takeOver s' fun k => decide (Offends c s k)

theorem quiet_managedEntries (c : Config) : Run.Quiet (managedEntries c) := by
  have hrules (rs : List Rule) : Run.Quiet (ruleEntries c rs) := by
    induction rs with
    | nil => exact .pure []
    | cons r rest ih =>
      rw [ruleEntries]
      split
      · exact .bind rfl fun _ => .bind rfl fun _ => ih.bind fun _ => .pure _
      · exact ih
  exact (hrules Rule.all).bind fun _ => .pure _

theorem assemble_warnings {es : List Entry} (h : (managedEntries c).result = .ok es) (s : Store) :
    Log.ofLevel .warning (assemble c s).run.notices =
      Log.ofLevel .warning (merge es s).run.notices := by
  rw [assemble_of_ok h, Log.ofLevel_append, quiet_managedEntries c, List.nil_append]

/-- The second store has the same variables, and other values, which are proper ones, only where
the first one has a value that assembling fails on. -/
structure Repairs (c : Config) (s s' : Store) : Prop where
  keys : ∀ k, (∃ v, s'.get? k = some v) ↔ ∃ v, s.get? k = some v
  kept : ∀ k, ¬Offends c s k → s'.get? k = s.get? k
  proper : ∀ k v, Offends c s k → s'.get? k = some v → ¬v.Foreign

theorem Repairs.mends (h : Repairs c s s') : Mends (fun k => decide (Offends c s k)) s s' where
  kept k hk := h.kept k (by simpa using hk)
  mended k hk := by
    have hoff : Offends c s k := by simpa using hk
    obtain ⟨v', hv'⟩ := (h.keys k).2 (hoff.imp fun _ hv => hv.1)
    exact ⟨v', hv', h.proper k v' hoff hv'⟩

theorem Repairs.not_foreign (h : Repairs c s s') (hv : s'.get? k = some v)
    (hk : k ∉ (managed c).map Prod.fst) : ¬v.Foreign := by
  by_cases hoff : Offends c s k
  · exact h.proper k v hoff hv
  · exact fun hforeign => hoff ⟨v, h.kept k hoff ▸ hv, hforeign, fun hnull => hk hnull.2⟩

theorem overrides_iff_not_offends {es : List Entry} (h : (managedEntries c).result = .ok es)
    (he : e ∈ es) : (∃ b, overrides s e = .ok b) ↔ ¬Offends c s e.1 := by
  have hmem : e.1 ∈ (managed c).map Prod.fst := by
    rw [managed_of_ok h]
    exact List.mem_map_of_mem he
  rw [exists_overrides_iff]
  unfold Offends
  grind

theorem Repairs.merge_ok {es : List Entry} (h : Repairs c s s')
    (hes : (managedEntries c).result = .ok es) : (merge es s').run.result = .ok () := by
  refine Env.merge_ok (managedEntries_nodup hes) fun e he => ?_
  by_cases hoff : Offends c s e.1
  · rw [exists_overrides_iff]
    exact fun v hv hforeign => absurd hforeign (h.proper e.1 v hoff hv)
  · rw [overrides_congr (h.kept e.1 hoff)]
    exact (overrides_iff_not_offends hes he).2 hoff

theorem Repairs.renderAll_total {es : List Entry} (h : Repairs c s s')
    (hes : (managedEntries c).result = .ok es) :
    ∃ vars, renderAll (merge es s').store = .ok vars := by
  refine mapM_total fun e he => exists_render_iff.2 ?_
  have hv : (merge es s').store.get? e.1 = some e.2 := Store.get?_eq_some_iff.2 he
  obtain ⟨done, -, hwritten, hall⟩ := merge_written es s'
  obtain rfl := hall (h.merge_ok hes)
  by_cases hmem : e.1 ∈ done.map Prod.fst
  · obtain ⟨x, hx, hname⟩ := List.mem_map.1 hmem
    rw [← hname, hwritten.get?_of_mem (managedEntries_nodup hes) hx] at hv
    rw [← Option.some.inj hv]
    exact id
  · rw [hwritten.get?_of_notMem hmem] at hv
    exact h.not_foreign hv (managed_of_ok hes ▸ hmem)

/-- Whatever a call failed on, and wherever it stopped: once these values are mended in the store
that it left behind, a second call succeeds with the answer and the store of a single call that
finds them mended, and the warnings of both are the warnings of that one. -/
theorem assemble_recovers (c : Config) (s s' : Store) (hports : c.PortsWritable)
    (h : Repairs c s s') :
    ∃ vars, (assemble c (mended c s s')).run.result = .ok vars ∧
      (assemble c s').run.result = .ok vars ∧
      (assemble c (mended c s s')).store = (assemble c s').store ∧
      Log.ofLevel .warning (assemble c s).run.notices ++
          Log.ofLevel .warning (assemble c (mended c s s')).run.notices =
        Log.ofLevel .warning (assemble c s').run.notices := by
  obtain ⟨es, hes⟩ := managedEntries_total_iff.2 hports.managed
  have hnodup := managedEntries_nodup hes
  have hmended : mended c s s' =
      (merge es s).store.takeOver s' fun k => decide (Offends c s k) := by
    rw [mended, assemble_of_ok hes]
  obtain ⟨hstore, hresult, hnotices⟩ := h.mends.merge_resumed hnodup fun e he => by
    rw [overrides_iff_not_offends hes he, decide_eq_false_iff_not]
  rw [← hmended] at hstore hresult hnotices
  have hmerged := h.merge_ok hes
  obtain ⟨vars, hvars⟩ := h.renderAll_total hes
  refine ⟨vars, ?_, ?_, ?_, ?_⟩
  · rw [assemble_of_ok hes, hresult, hmerged, hstore]
    exact hvars
  · rw [assemble_of_ok hes, hmerged]
    exact hvars
  · rw [assemble_of_ok hes, assemble_of_ok hes, hstore]
  · rw [assemble_warnings hes, assemble_warnings hes, assemble_warnings hes, ← Log.ofLevel_append,
      hnotices]

def halfway (port extra : Raw) : Store :=
  (((Store.empty.set "AWS_REGION" (.text "eu-west-1")).set "APPMESH_PREVIEW" (.other .null)).set
    "STATSD_PORT" port).set "EXTRA" extra

def halfwayBroken : Store :=
  halfway (.other (.int 9125)) (.other (.bool true))

def halfwayMended : Store :=
  halfway (.text "9125") (.tagged (.literal "on"))

theorem repairs_halfway : Repairs hostStatsd halfwayBroken halfwayMended := by
  have hport : Offends hostStatsd halfwayBroken "STATSD_PORT" := by decide +kernel
  have hextra : Offends hostStatsd halfwayBroken "EXTRA" := by decide +kernel
  have hpreview : ¬Offends hostStatsd halfwayBroken "APPMESH_PREVIEW" := by decide +kernel
  refine ⟨fun k => ?_, fun k hk => ?_, fun k v hk hv => ?_⟩
  · simp only [halfwayBroken, halfwayMended, halfway, Store.get?_set]
    split_ifs <;> simp
  · have hneport : k ≠ "STATSD_PORT" := fun h => hk (h ▸ hport)
    have hneextra : k ≠ "EXTRA" := fun h => hk (h ▸ hextra)
    simp only [halfwayBroken, halfwayMended, halfway, Store.get?_set, if_neg hneport,
      if_neg hneextra]
  · have hnepreview : k ≠ "APPMESH_PREVIEW" := fun h => hpreview (h ▸ hk)
    simp only [halfwayMended, halfway, Store.get?_set, if_neg hnepreview] at hv
    split_ifs at hv <;> cases hv <;> exact id

theorem assemble_recovers_halfway :
    Repairs hostStatsd halfwayBroken halfwayMended ∧
      (assemble hostStatsd halfwayBroken).run.result.isOk = false ∧
      Log.ofLevel .warning (assemble hostStatsd halfwayBroken).run.notices =
        [(Log.Notice.overriding "AWS_REGION").record] ∧
      Log.ofLevel .warning
          (assemble hostStatsd (mended hostStatsd halfwayBroken halfwayMended)).run.notices =
        [(Log.Notice.overriding "STATSD_PORT").record] := by
  obtain ⟨-, -, -, -, hwarnings⟩ :=
    assemble_recovers hostStatsd halfwayBroken halfwayMended (by decide) repairs_halfway
  have hfirst : Log.ofLevel .warning (assemble hostStatsd halfwayBroken).run.notices =
      [(Log.Notice.overriding "AWS_REGION").record] := by decide +kernel
  have hboth : Log.ofLevel .warning (assemble hostStatsd halfwayMended).run.notices =
      [(Log.Notice.overriding "AWS_REGION").record, (Log.Notice.overriding "STATSD_PORT").record] :=
    by decide +kernel
  rw [hfirst, hboth] at hwarnings
  exact ⟨repairs_halfway, by decide +kernel, hfirst, List.cons_injective hwarnings⟩

end EnvoySidecar.Env
