import EnvoySidecar.Proofs.Env.Warnings

/-! Assembling on values of any kind. It fails exactly if some variable offends, and always on the
literal that this value is no text for. What it has written and warned of by then is decided by the
first offending variable among the managed ones, whatever stands under other names. -/

namespace EnvoySidecar.Env

/-- Every kind of value but octets, which may stand for a text; a text is a `text` of its own. -/
def Raw.Ordinary : Raw → Prop
  | .other (.text _) | .other (.bytes _) => False
  | _ => True

variable {c : Config} {s : Store} {k : String} {v : Raw} {e : Entry} {es : List Entry}

theorem Raw.Ordinary.foreign_iff (h : v.Ordinary) : v.Foreign ↔ ¬v.Plain := by
  cases v with
  | text s => exact iff_of_false id (not_not.2 trivial)
  | tagged t => exact iff_of_false id (not_not.2 trivial)
  | other w =>
    refine iff_of_true ?_ id
    cases w with
    | text | bytes => exact h.elim
    | _ => rfl

def NoText (failure : Failure) : Prop :=
  ∃ cause, failure = .invalid ⟨"EnvLiteral", [⟨[.field "value"], cause⟩]⟩

theorem text_ok_or_fail (w : Value) :
    (∃ s, Schema.text w = .ok s) ∨ ∃ cause, Schema.text w = .fail cause := by
  cases w with
  | text s => exact .inl ⟨s, rfl⟩
  | bytes octets =>
    rw [Schema.text]
    split
    · exact .inl ⟨_, rfl⟩
    · exact .inr ⟨_, rfl⟩
  | _ => exact .inr ⟨_, rfl⟩

theorem yields_tag (k : String) (v : Raw) :
    Yields (fun report => NoText (.invalid report)) (fun _ => True) (tag k v) := by
  cases v with
  | text s => exact .ite (fun _ => trivial) fun _ => trivial
  | tagged t => exact trivial
  | other w =>
    rw [tag, Tagged.literalOf]
    obtain ⟨s, h⟩ | ⟨cause, h⟩ := text_ok_or_fail w
    · rw [h]
      exact trivial
    · rw [h]
      exact ⟨cause, rfl⟩

theorem yields_render (k : String) (v : Raw) : Yields NoText (fun _ => True) (render k v) := by
  have htag := yields_tag k v
  unfold render
  cases h : tag k v with
  | ok t => exact trivial
  | error report => exact htag.of_error h

theorem yields_overrides (s : Store) (e : Entry) :
    Yields NoText (fun _ => True) (overrides s e) := by
  obtain ⟨new, hnew⟩ := tag_total (k := e.1) (v := .text e.2) trivial
  unfold overrides
  cases s.get? e.1 with
  | none => exact trivial
  | some v =>
    refine .ite (fun _ => trivial) fun _ => ?_
    rw [hnew]
    cases h : tag e.1 v with
    | ok old => exact trivial
    | error report => exact (yields_tag e.1 v).of_error h

theorem yields_merge (es : List Entry) (s : Store) :
    Yields NoText (fun _ => True) (merge es s).run.result := by
  induction es generalizing s with
  | nil => exact trivial
  | cons e rest ih =>
    cases h : overrides s e with
    | error failure =>
      rw [merge_cons_of_error h]
      exact (yields_overrides s e).of_error h
    | ok b =>
      rw [(merge_cons_of_ok h rest).2]
      exact ih _

theorem yields_renderAll (s : Store) : Yields NoText (fun _ => True) (renderAll s) :=
  (Yields.mapM fun e _ => yields_render e.1 e.2).mono fun _ _ => trivial

theorem yields_assemble (hes : (managedEntries c).result = .ok es) (s : Store) :
    Yields NoText (fun _ => True) (assemble c s).run.result := by
  rw [assemble_of_ok hes]
  exact (yields_merge es s).bind fun _ _ => yields_renderAll _

theorem repairs_self (h : ∀ k, ¬Offends c s k) : Repairs c s s where
  keys _ := Iff.rfl
  kept _ _ := rfl
  proper k _ hk _ := absurd hk (h k)

theorem merge_offended (hes : (managedEntries c).result = .ok es) (s : Store) :
    (merge es s).store = s.overwrite (es.takeWhile fun e => ¬Offends c s e.1) ∧
      (merge es s).run.notices = ((es.takeWhile fun e => ¬Offends c s e.1).filter
        fun e => Overridden s e).map fun e => .overriding e.1 :=
  merge_prefix (managedEntries_nodup hes) fun e he => by
    rw [overrides_iff_not_offends hes he, decide_eq_true_iff]

theorem assemble_stops (hes : (managedEntries c).result = .ok es) (s : Store) :
    (assemble c s).store = s.overwrite (es.takeWhile fun e => ¬Offends c s e.1) ∧
      Log.ofLevel .warning (assemble c s).run.notices =
        warnings s (es.takeWhile fun e => ¬Offends c s e.1) := by
  obtain ⟨hstore, hnotices⟩ := merge_offended hes s
  constructor
  · rw [assemble_of_ok hes, hstore]
  · rw [assemble_warnings hes, hnotices, ofLevel_overriding, warnings]

theorem overrides_of_merge_ok (hnodup : (es.map Prod.fst).Nodup)
    (h : (merge es s).run.result = .ok ()) : ∀ e ∈ es, ∃ b, overrides s e = .ok b := by
  induction es generalizing s with
  | nil => exact fun e he => nomatch he
  | cons e rest ih =>
    obtain ⟨hfresh, hrest⟩ := List.nodup_cons.1 hnodup
    cases hfirst : overrides s e with
    | error failure =>
      rw [merge_cons_of_error hfirst] at h
      cases h
    | ok b =>
      rw [(merge_cons_of_ok hfirst rest).2] at h
      refine List.forall_mem_cons.2 ⟨⟨b, hfirst⟩, fun x hx => ?_⟩
      rw [← overrides_congr (s.get?_set_of_fresh hfresh hx _)]
      exact ih hrest h x hx

theorem not_offends_of_assemble (hes : (managedEntries c).result = .ok es) {vars : List EnvVar}
    (h : (assemble c s).run.result = .ok vars) (k : String) : ¬Offends c s k := by
  rw [assemble_of_ok hes] at h
  obtain ⟨_, hmerged, hrendered⟩ := except_bind_eq_ok_iff.1 h
  by_cases hk : k ∈ es.map Prod.fst
  · obtain ⟨e, he, rfl⟩ := List.mem_map.1 hk
    exact (overrides_iff_not_offends hes he).1
      (overrides_of_merge_ok (managedEntries_nodup hes) hmerged e he)
  · rintro ⟨v, hv, hforeign, -⟩
    rw [← merge_get?_of_notMem hk] at hv
    obtain ⟨x, -, hrender⟩ := (renderAll_rendering hrendered).find?_of_get? hv
    exact exists_render_iff.1 ⟨x, hrender⟩ hforeign

theorem assemble_of_not_offends (hes : (managedEntries c).result = .ok es)
    (h : ∀ k, ¬Offends c s k) : ∃ vars, (assemble c s).run.result = .ok vars := by
  obtain ⟨vars, hvars⟩ := (repairs_self h).renderAll_total hes
  rw [assemble_of_ok hes, (repairs_self h).merge_ok hes]
  exact ⟨vars, hvars⟩

theorem assemble_fails_iff (hes : (managedEntries c).result = .ok es) :
    (∃ failure, (assemble c s).run.result = .error failure) ↔ ∃ k, Offends c s k := by
  constructor
  · rintro ⟨failure, hfailure⟩
    by_contra hnone
    obtain ⟨vars, hvars⟩ := assemble_of_not_offends hes (not_exists.1 hnone)
    rw [hfailure] at hvars
    cases hvars
  · rintro ⟨k, hk⟩
    cases hresult : (assemble c s).run.result with
    | error failure => exact ⟨failure, rfl⟩
    | ok vars => exact absurd hk (not_offends_of_assemble hes hresult k)

/-- Assembling fails exactly if some variable offends, and always on a value that is no text. The
managed entries before the first that offends are written and warned of; if none offends all of
them are, also when another variable cannot be shown in the end. The order in which a caller wrote
the store down makes no difference. Of ordinary values those offend that are neither texts nor
tagged, but for a null under a managed name. -/
theorem assemble_offended (c : Config) (s : Store) (hports : c.PortsWritable) :
    ∃ es, (managedEntries c).result = .ok es ∧
      ((∃ failure, (assemble c s).run.result = .error failure) ↔ ∃ k, Offends c s k) ∧
      (∀ failure, (assemble c s).run.result = .error failure → NoText failure) ∧
      (∀ before e after, es = before ++ e :: after → (∀ x ∈ before, ¬Offends c s x.1) →
        Offends c s e.1 → (assemble c s).store = s.overwrite before ∧
          Log.ofLevel .warning (assemble c s).run.notices = warnings s before) ∧
      ((∀ e ∈ es, ¬Offends c s e.1) → (assemble c s).store = s.overwrite es ∧
        Log.ofLevel .warning (assemble c s).run.notices = warnings s es) ∧
      (∀ rows rows' : List (String × Raw), rows.Perm rows' → (rows.map Prod.fst).Nodup →
        assemble c (.ofList rows) = assemble c (.ofList rows')) ∧
      ∀ k v, s.get? k = some v → v.Ordinary →
        (Offends c s k ↔ ¬v.Plain ∧ ¬(v.isNull = true ∧ k ∈ es.map Prod.fst)) := by
  obtain ⟨es, hes⟩ := managedEntries_total_iff.2 hports.managed
  obtain ⟨hleft, hwarned⟩ := assemble_stops hes s
  refine ⟨es, hes, assemble_fails_iff hes, fun _ => (yields_assemble hes s).of_error,
    fun before e after hsplit hbefore he => ?_, fun hnone => ?_, fun _ _ hperm hnodup => ?_,
    fun k v hv hordinary => ?_⟩
  · have hdone : (es.takeWhile fun e => ¬Offends c s e.1) = before := by
      rw [hsplit, List.takeWhile_append_of_pos fun x hx => decide_eq_true (hbefore x hx),
        List.takeWhile_cons_of_neg (by simpa using he), List.append_nil]
    rw [hleft, hwarned, hdone]
    exact ⟨rfl, rfl⟩
  · have hdone : (es.takeWhile fun e => ¬Offends c s e.1) = es :=
      List.takeWhile_eq_self_iff.2 fun e he => decide_eq_true (hnone e he)
    rw [hleft, hwarned, hdone]
    exact ⟨rfl, rfl⟩
  · rw [Store.ofList_perm hperm hnodup]
  · rw [Offends, managed_of_ok hes, hv, ← hordinary.foreign_iff]
    simp

theorem assemble_offended_halfway :
    hostStatsd.PortsWritable ∧
      (∃ failure, (assemble hostStatsd halfwayBroken).run.result = .error failure ∧
        NoText failure) ∧
      (assemble hostStatsd halfwayBroken).store = halfwayBroken.overwrite
        [("APPMESH_VIRTUAL_NODE_NAME", "mesh/m/virtualNode/vn"), ("AWS_REGION", "us-west-2"),
          ("APPMESH_PREVIEW", "0"), ("ENVOY_LOG_LEVEL", "info"),
          ("ENABLE_ENVOY_DOG_STATSD", "1")] ∧
      Log.ofLevel .warning (assemble hostStatsd halfwayBroken).run.notices =
        [(Log.Notice.overriding "AWS_REGION").record] := by
  have hports : hostStatsd.PortsWritable := by decide
  have hport : Offends hostStatsd halfwayBroken "STATSD_PORT" := by decide +kernel
  obtain ⟨es, hes, hfails, hblame, hstops, -⟩ :=
    assemble_offended hostStatsd halfwayBroken hports
  obtain ⟨failure, hfailure⟩ := hfails.2 ⟨_, hport⟩
  cases hes
  obtain ⟨hstore, hwarnings⟩ := hstops
    [("APPMESH_VIRTUAL_NODE_NAME", "mesh/m/virtualNode/vn"), ("AWS_REGION", "us-west-2"),
      ("APPMESH_PREVIEW", "0"), ("ENVOY_LOG_LEVEL", "info"), ("ENABLE_ENVOY_DOG_STATSD", "1")]
    ("STATSD_PORT", "8125") [("STATSD_ADDRESS", hostIpSentinel)] (by decide +kernel)
    (by decide +kernel) hport
  exact ⟨hports, ⟨failure, hfailure, hblame failure hfailure⟩, hstore,
    hwarnings.trans (by decide +kernel)⟩

end EnvoySidecar.Env
