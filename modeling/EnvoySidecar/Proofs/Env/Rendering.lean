import EnvoySidecar.Env.Assembly
import EnvoySidecar.Proofs.Env.Store
import EnvoySidecar.Proofs.Results

/-! Tagging and rendering, of one value and of a whole store. Texts and tagged values always have
a rendering, which says of each value what it is: a field reference or a text. -/

namespace EnvoySidecar.Env

/-- Texts, literals and field references: the values that always have a tagged form. -/
def Raw.Plain : Raw → Prop
  | .other _ => False
  | _ => True

instance (v : Raw) : Decidable v.Plain :=
  match v with
  | .text _ | .tagged _ => inferInstanceAs (Decidable True)
  | .other _ => inferInstanceAs (Decidable False)

def Store.Plain (s : Store) : Prop :=
  ∀ e ∈ s.entries, e.2.Plain

instance (s : Store) : Decidable s.Plain :=
  inferInstanceAs (Decidable (∀ e ∈ s.entries, e.2.Plain))

theorem Store.Plain.get? {s : Store} (h : s.Plain) {k : String} {v : Raw}
    (hv : s.get? k = some v) : v.Plain :=
  h (k, v) (Store.get?_eq_some_iff.1 hv)

theorem Store.Plain.set {s : Store} (h : s.Plain) (k : String) {v : Raw} (hv : v.Plain) :
    (s.set k v).Plain := by
  intro e he
  rcases Store.mem_insertInto he with rfl | he
  · exact hv
  · exact h e he

def IsAddress (name : String) : Prop :=
  name = "STATSD_ADDRESS" ∨ name = "DATADOG_TRACER_ADDRESS"

theorem takesHostIp_iff {name : String} : takesHostIp name = true ↔ IsAddress name := by
  simp only [takesHostIp, Bool.or_eq_true, beq_iff_eq, IsAddress]

variable {s : Store} {k : String} {v : Raw} {t : Tagged} {x : EnvVar}

theorem tag_text_of_sentinel (h : IsAddress k) :
    tag k (.text hostIpSentinel) = .ok (.fieldRef hostIpPath) :=
  if_pos (Bool.and_eq_true_iff.2 ⟨takesHostIp_iff.2 h, beq_self_eq_true hostIpSentinel⟩)

theorem tag_text_of_not {s : String} (h : ¬(IsAddress k ∧ s = hostIpSentinel)) :
    tag k (.text s) = .ok (.literal s) := by
  refine if_neg fun hb => h ?_
  rw [Bool.and_eq_true_iff, takesHostIp_iff, beq_iff_eq] at hb
  exact hb

theorem tag_total (h : v.Plain) : ∃ t, tag k v = .ok t := by
  cases v with
  | text s =>
    by_cases hs : IsAddress k ∧ s = hostIpSentinel
    · exact ⟨_, hs.2 ▸ tag_text_of_sentinel hs.1⟩
    · exact ⟨_, tag_text_of_not hs⟩
  | tagged t => exact ⟨t, rfl⟩
  | other w => exact h.elim

theorem tag_eq_fieldRef_iff (h : v.Plain) {path : String} :
    tag k v = .ok (.fieldRef path) ↔ v = .tagged (.fieldRef path) ∨
      (IsAddress k ∧ v = .text hostIpSentinel ∧ path = hostIpPath) := by
  cases v with
  | text s =>
    by_cases hs : IsAddress k ∧ s = hostIpSentinel
    · obtain ⟨hk, rfl⟩ := hs
      rw [tag_text_of_sentinel hk]
      simp [hk, eq_comm]
    · rw [tag_text_of_not hs]
      simp only [Except.ok.injEq, reduceCtorEq, Raw.text.injEq, false_or, false_iff]
      exact fun ⟨hk, hs', _⟩ => hs ⟨hk, hs'⟩
  | tagged t => simp [tag]
  | other w => exact h.elim

theorem tag_eq_literal_iff (h : v.Plain) {text : String} :
    tag k v = .ok (.literal text) ↔ v = .tagged (.literal text) ∨
      (v = .text text ∧ ¬(IsAddress k ∧ text = hostIpSentinel)) := by
  cases v with
  | text s =>
    by_cases hs : IsAddress k ∧ s = hostIpSentinel
    · obtain ⟨hk, rfl⟩ := hs
      rw [tag_text_of_sentinel hk]
      simp only [Except.ok.injEq, reduceCtorEq, Raw.text.injEq, false_or, false_iff]
      exact fun ⟨ht, hn⟩ => hn ⟨hk, ht.symm⟩
    · rw [tag_text_of_not hs]
      simp only [Except.ok.injEq, Tagged.literal.injEq, reduceCtorEq, Raw.text.injEq, false_or]
      exact ⟨fun ht => ⟨ht, ht ▸ hs⟩, And.left⟩
  | tagged t => simp [tag]
  | other w => exact h.elim

@[simp] theorem name_renderTagged (k : String) (t : Tagged) : (renderTagged k t).name = k := by
  cases t <;> rfl

@[simp] theorem fieldPath_renderTagged_eq_some_iff {path : String} :
    (renderTagged k t).fieldPath = some path ↔ t = .fieldRef path := by
  cases t <;> simp [renderTagged]

@[simp] theorem value_renderTagged_eq_some_iff {text : String} :
    (renderTagged k t).value = some text ↔ t = .literal text := by
  cases t <;> simp [renderTagged]

theorem renderTagged_one (k : String) (t : Tagged) :
    (renderTagged k t).value.isSome = !(renderTagged k t).fieldPath.isSome := by
  cases t <;> rfl

theorem render_eq_ok_iff : render k v = .ok x ↔ ∃ t, tag k v = .ok t ∧ renderTagged k t = x := by
  unfold render
  cases tag k v <;> simp

theorem name_of_render (h : render k v = .ok x) : x.name = k := by
  obtain ⟨t, _, rfl⟩ := render_eq_ok_iff.1 h
  exact name_renderTagged k t

theorem render_total (h : v.Plain) : ∃ x, render k v = .ok x := by
  obtain ⟨t, ht⟩ := tag_total (k := k) h
  exact ⟨renderTagged k t, render_eq_ok_iff.2 ⟨t, ht, rfl⟩⟩

/-- What a variable says about the value it stands for: a field where the value refers to one, be
it by the sentinel under an address, and the very text otherwise. -/
structure Shows (x : EnvVar) (v : Raw) : Prop where
  exactlyOne : x.value.isSome = !x.fieldPath.isSome
  reference : ∀ path, x.fieldPath = some path ↔ v = .tagged (.fieldRef path) ∨
    (IsAddress x.name ∧ v = .text "ref:status.hostIP" ∧ path = "status.hostIP")
  literal : x.fieldPath = none →
    ∃ text, x.value = some text ∧ (v = .text text ∨ v = .tagged (.literal text))

theorem shows_of_render (hv : v.Plain) (h : render k v = .ok x) : Shows x v := by
  obtain ⟨t, ht, rfl⟩ := render_eq_ok_iff.1 h
  have one := renderTagged_one k t
  refine ⟨one, fun path => ?_, fun hnone => ?_⟩
  · rw [fieldPath_renderTagged_eq_some_iff, name_renderTagged]
    refine Iff.trans ?_ (tag_eq_fieldRef_iff hv)
    rw [ht, Except.ok.injEq]
  · rw [hnone] at one
    obtain ⟨text, htext⟩ := Option.isSome_iff_exists.1 one
    rw [value_renderTagged_eq_some_iff.1 htext] at ht
    exact ⟨text, htext, ((tag_eq_literal_iff hv).1 ht).symm.imp_left And.left⟩

/-- Variables that show a store: in the order of their names, one for each variable of the store,
and each as its value renders. -/
structure Rendering (s : Store) (vars : List EnvVar) : Prop where
  sorted : (vars.map EnvVar.name).Pairwise (· < ·)
  covers : ∀ k, k ∈ vars.map EnvVar.name ↔ ∃ v, s.get? k = some v
  rendered : ∀ x ∈ vars, ∃ v, s.get? x.name = some v ∧ render x.name v = .ok x

theorem Rendering.find?_of_get? {vars : List EnvVar} (h : Rendering s vars)
    (hv : s.get? k = some v) :
    ∃ x, vars.find? (fun x => x.name == k) = some x ∧ render k v = .ok x := by
  obtain ⟨y, hy, hname⟩ := List.mem_map.1 ((h.covers k).2 ⟨v, hv⟩)
  have hsome : (vars.find? fun x => x.name == k).isSome :=
    List.find?_isSome.2 ⟨y, hy, beq_iff_eq.2 hname⟩
  obtain ⟨x, hx⟩ := Option.isSome_iff_exists.1 hsome
  have hxk : x.name = k := by simpa using List.find?_some hx
  obtain ⟨w, hw, hrender⟩ := h.rendered x (List.mem_of_find?_eq_some hx)
  rw [hxk] at hw hrender
  rw [hv] at hw
  cases hw
  exact ⟨x, hx, hrender⟩

theorem Rendering.mem_iff {vars : List EnvVar} (h : Rendering s vars) :
    x ∈ vars ↔ ∃ v, s.get? x.name = some v ∧ render x.name v = .ok x := by
  refine ⟨h.rendered x, ?_⟩
  rintro ⟨v, hv, hrender⟩
  obtain ⟨y, hy, hrender'⟩ := h.find?_of_get? hv
  rw [hrender] at hrender'
  cases hrender'
  exact List.mem_of_find?_eq_some hy

theorem Rendering.nodup_names {vars : List EnvVar} (h : Rendering s vars) :
    (vars.map EnvVar.name).Nodup := by
  refine h.sorted.imp fun {a b} hlt => ?_
  rintro rfl
  exact String.lt_irrefl a hlt

theorem Rendering.find?_of_none {vars : List EnvVar} (h : Rendering s vars)
    (hk : s.get? k = none) : vars.find? (fun x => x.name == k) = none := by
  rw [List.find?_eq_none]
  intro x hx hxk
  obtain ⟨v, hv, -⟩ := h.rendered x hx
  rw [beq_iff_eq.1 hxk, hk] at hv
  cases hv

theorem renderAll_rendering {vars : List EnvVar} (h : renderAll s = .ok vars) :
    Rendering s vars := by
  have hsteps := mapM_eq_ok_iff.1 h
  have hnames : s.keys = vars.map EnvVar.name := by
    rw [← List.forall₂_eq_eq_eq, Store.keys, List.forall₂_map_left_iff, List.forall₂_map_right_iff]
    exact hsteps.imp fun e x hx => (name_of_render hx).symm
  refine ⟨?_, ?_, ?_⟩
  · rw [← hnames]
    exact s.keys_sorted
  · intro k
    rw [← hnames]
    exact Store.mem_keys_iff
  · intro x hx
    obtain ⟨e, he, hrender⟩ := exists_mem_of_mem_right hsteps hx
    rw [name_of_render hrender]
    exact ⟨e.2, Store.get?_eq_some_iff.2 he, hrender⟩

theorem renderAll_total (h : s.Plain) : ∃ vars, renderAll s = .ok vars :=
  mapM_total fun e he => render_total (h e he)

end EnvoySidecar.Env
