import EnvoySidecar.Env.Assignment
import EnvoySidecar.Proofs.Env.Overwriting
import EnvoySidecar.Proofs.Env.Recovery

/-! Assignments and the stores that they make. A text assigns exactly if it holds a divider that
does not come first, and then it assigns one value to one key. Of several assignments to a key the
last one counts, so that reading more of them is writing over what the first ones made. -/

namespace EnvoySidecar.Env

namespace Store

variable {s : Store} {es : List Entry} {e : Entry} {k : String}

theorem get?_overwrite_split (s : Store) (before : List Entry) {after : List Entry}
    (h : e.1 ∉ after.map Prod.fst) :
    (s.overwrite (before ++ e :: after)).get? e.1 = some (.text e.2) := by
  have hwrite (u : Store) :
      u.overwrite (e :: after) = (u.set e.1 (.text e.2)).overwrite after := rfl
  rw [overwrite_append, hwrite, get?_overwrite_of_notMem _ h, get?_set_self]

theorem exists_last_entry (h : k ∈ es.map Prod.fst) :
    ∃ before e after, es = before ++ e :: after ∧ e.1 = k ∧ k ∉ after.map Prod.fst := by
  induction es with
  | nil => cases h
  | cons x rest ih =>
    by_cases hrest : k ∈ rest.map Prod.fst
    · obtain ⟨before, e, after, rfl, he, hafter⟩ := ih hrest
      exact ⟨x :: before, e, after, rfl, he, hafter⟩
    · rw [List.map_cons, List.mem_cons] at h
      rcases h with h | h
      · exact ⟨[], x, rest, rfl, h.symm, hrest⟩
      · exact absurd h hrest

theorem get?_overwrite (s : Store) (es : List Entry) (k : String) :
    (s.overwrite es).get? k = ((empty.overwrite es).get? k).or (s.get? k) := by
  by_cases h : k ∈ es.map Prod.fst
  · obtain ⟨before, e, after, rfl, rfl, hafter⟩ := exists_last_entry h
    rw [get?_overwrite_split s before hafter, get?_overwrite_split empty before hafter]
    rfl
  · rw [get?_overwrite_of_notMem s h, get?_overwrite_of_notMem empty h]
    rfl

theorem get?_overwrite_eq_some_iff {v : Raw} : (empty.overwrite es).get? k = some v ↔
    ∃ before e after, es = before ++ e :: after ∧ e.1 = k ∧ k ∉ after.map Prod.fst ∧
      v = .text e.2 := by
  constructor
  · intro hv
    have hk : k ∈ es.map Prod.fst := by
      by_contra hnone
      rw [get?_overwrite_of_notMem empty hnone] at hv
      cases hv
    obtain ⟨before, e, after, rfl, rfl, hafter⟩ := exists_last_entry hk
    rw [get?_overwrite_split empty before hafter] at hv
    cases hv
    exact ⟨before, e, after, rfl, rfl, hafter, rfl⟩
  · rintro ⟨before, e, after, rfl, rfl, hafter, rfl⟩
    exact get?_overwrite_split empty before hafter

theorem nodup_keys (s : Store) : s.keys.Nodup := by
  refine s.keys_sorted.imp fun {a b} hlt => ?_
  rintro rfl
  exact String.lt_irrefl a hlt

theorem ofList_entries (s : Store) : ofList s.entries = s := by
  apply ext_get?
  intro k
  rw [ofList, get?_foldl_set s.sorted, get?]
  exact Option.or_none

end Store

namespace Assignment

/-- A text that assigns nothing: it holds no divider, or nothing before it. -/
def Malformed (s : String) : Prop :=
  divider ∉ s.toList ∨ s.toList.head? = some divider

instance (s : String) : Decidable (Malformed s) :=
  inferInstanceAs (Decidable (_ ∨ _))

/-- The text assigns the value to the key. As the key holds no divider, the value is all that stands
behind the first one. -/
def Assigns (s key value : String) : Prop :=
  IsKey key ∧ s = key ++ "=" ++ value

def entry (a : Assignment) : Entry :=
  (a.key, a.value)

variable {s key value : String} {ss : List String} {a : Assignment} {as : List Assignment}

theorem toList_text (a : Assignment) :
    a.text.toList = a.key.toList ++ divider :: a.value.toList := by
  simp [text]

theorem all_key (h : divider ∉ key.toList) : key.toList.all (· != divider) = true := by
  rw [List.all_eq_true]
  intro c hc
  rw [bne_iff_ne]
  rintro rfl
  exact h hc

theorem ofText?_text (h : divider ∉ a.key.toList) :
    ofText? a.text = if a.key = "" then none else some a := by
  have hstop : Text.StopsAt (· != divider) (divider :: a.value.toList) := Text.stopsAt_cons rfl
  unfold ofText?
  rw [toList_text, Text.takeWhile_append (all_key h) hstop,
    Text.dropWhile_append (all_key h) hstop]
  simp

theorem ofText?_of_notMem (h : divider ∉ s.toList) : ofText? s = none := by
  have hrest : s.toList.dropWhile (· != divider) = [] :=
    List.dropWhile_eq_nil_iff.2 (List.all_eq_true.1 (all_key h))
  simp only [ofText?, hrest]

theorem exists_text_of_mem (h : divider ∈ s.toList) :
    ∃ a : Assignment, s = a.text ∧ divider ∉ a.key.toList := by
  obtain ⟨key, value, hs, hkey⟩ := List.eq_append_cons_of_mem h
  refine ⟨⟨String.ofList key, String.ofList value⟩, ?_, by simpa using hkey⟩
  apply String.toList_inj.1
  rw [toList_text, hs, String.toList_ofList, String.toList_ofList]

theorem ofText?_eq_some_iff : ofText? s = some a ↔ Assigns s a.key a.value := by
  constructor
  · intro h
    by_cases hmem : divider ∈ s.toList
    · obtain ⟨b, rfl, hb⟩ := exists_text_of_mem hmem
      rw [ofText?_text hb] at h
      split at h
      · cases h
      · next hne =>
        cases h
        exact ⟨⟨hne, hb⟩, rfl⟩
    · rw [ofText?_of_notMem hmem] at h
      cases h
  · rintro ⟨⟨hne, hkey⟩, rfl⟩
    exact (ofText?_text hkey).trans (if_neg hne)

theorem ofText?_eq_none_iff : ofText? s = none ↔ Malformed s := by
  by_cases hmem : divider ∈ s.toList
  · obtain ⟨a, rfl, ha⟩ := exists_text_of_mem hmem
    have hfirst : a.text.toList.head? = some divider ↔ a.key = "" := by
      rw [toList_text, ← String.toList_eq_nil_iff]
      cases hkey : a.key.toList with
      | nil => simp
      | cons c key =>
        have hc : c ≠ divider := by
          rintro rfl
          exact ha (hkey ▸ List.mem_cons_self)
        simpa using hc
    rw [ofText?_text ha, Malformed, hfirst]
    simp [hmem]
  · rw [ofText?_of_notMem hmem]
    exact iff_of_true rfl (.inl hmem)

theorem readAll_eq_ok_iff :
    readAll ss = .ok as ↔ List.Forall₂ (fun s a => Assigns s a.key a.value) ss as := by
  rw [readAll, mapM_eq_ok_iff]
  constructor
  · intro h
    refine h.imp fun s a hs => ?_
    rw [← ofText?_eq_some_iff]
    split at hs
    · next b hb =>
      cases hs
      exact hb
    · cases hs
  · intro h
    refine h.imp fun s a hs => ?_
    rw [ofText?_eq_some_iff.2 hs]

theorem readAll_of_malformed {before after : List String} (hbefore : ∀ x ∈ before, ¬Malformed x)
    (hs : Malformed s) : readAll (before ++ s :: after) = .error (.assignment s) := by
  induction before with
  | nil =>
    rw [List.nil_append, readAll, List.mapM_cons, ofText?_eq_none_iff.2 hs]
    rfl
  | cons x rest ih =>
    obtain ⟨hx, hrest⟩ := List.forall_mem_cons.1 hbefore
    obtain ⟨a, ha⟩ : ∃ a, ofText? x = some a := by
      rwa [← ofText?_eq_none_iff, ← ne_eq, Option.ne_none_iff_exists'] at hx
    have htail := ih hrest
    rw [readAll] at htail
    rw [List.cons_append, readAll, List.mapM_cons, ha, htail]
    rfl

theorem readAll_total (h : ∀ s ∈ ss, ¬Malformed s) : ∃ as, readAll ss = .ok as := by
  refine mapM_total fun s hs => ?_
  cases hread : ofText? s with
  | some a => exact ⟨a, rfl⟩
  | none => exact absurd (ofText?_eq_none_iff.1 hread) (h s hs)

theorem exists_first_malformed (h : ∃ s ∈ ss, Malformed s) :
    ∃ before s after, ss = before ++ s :: after ∧ (∀ x ∈ before, ¬Malformed x) ∧ Malformed s := by
  have hsome : (ss.find? fun x => Malformed x).isSome := List.find?_isSome.2 (by simpa using h)
  obtain ⟨s, hs⟩ := Option.isSome_iff_exists.1 hsome
  obtain ⟨hbad, before, after, rfl, hbefore⟩ := List.find?_eq_some_iff_append.1 hs
  exact ⟨before, s, after, rfl, by simpa using hbefore, by simpa using hbad⟩

theorem toStore_eq (as : List Assignment) : toStore as = Store.empty.overwrite (as.map entry) := by
  rw [toStore, Store.ofList, Store.overwrite, List.foldl_map, List.foldl_map]
  rfl

theorem Assigns.unique {key' value' : String} (h : Assigns s key value)
    (h' : Assigns s key' value') : key' = key ∧ value' = value := by
  have hread := ofText?_eq_some_iff (a := ⟨key, value⟩) |>.2 h
  rw [ofText?_eq_some_iff (a := ⟨key', value'⟩) |>.2 h'] at hread
  cases hread
  exact ⟨rfl, rfl⟩

theorem names_of_assigns (h : List.Forall₂ (fun s a => Assigns s a.key a.value) ss as) :
    key ∈ (as.map entry).map Prod.fst ↔ ∃ x ∈ ss, ∃ w, Assigns x key w := by
  induction h with
  | nil => simp
  | @cons x a ss as hx _ ih =>
    rw [List.map_cons, List.map_cons, List.mem_cons, ih, List.exists_mem_cons_iff]
    refine or_congr ⟨?_, ?_⟩ Iff.rfl
    · rintro rfl
      exact ⟨a.value, hx⟩
    · rintro ⟨w, hw⟩
      exact (hx.unique hw).1

end Assignment

open Assignment

variable {ss ss' : List String} {as : List Assignment} {m m' : Store}

theorem ofAssignments_of_readAll (h : readAll ss = .ok as) :
    Store.ofAssignments ss = .ok (toStore as) := by
  rw [Store.ofAssignments, h]
  rfl

theorem ofAssignments_eq_ok_iff :
    Store.ofAssignments ss = .ok m ↔ ∃ as, readAll ss = .ok as ∧ toStore as = m := by
  rw [Store.ofAssignments, except_bind_eq_ok_iff]
  simp only [pure, Except.pure, Except.ok.injEq]

theorem ofAssignments_of_malformed {before after : List String} {s : String}
    (hbefore : ∀ x ∈ before, ¬Malformed x) (hs : Malformed s) :
    Store.ofAssignments (before ++ s :: after) = .error (.assignment s) := by
  rw [Store.ofAssignments, readAll_of_malformed hbefore hs]
  rfl

theorem get?_of_assigns {k : String} {v : Raw}
    (h : List.Forall₂ (fun s a => Assigns s a.key a.value) ss as) :
    (toStore as).get? k = some v ↔ ∃ before s after value, ss = before ++ s :: after ∧
      Assigns s k value ∧ v = .text value ∧ ∀ x ∈ after, ∀ w, ¬Assigns x k w := by
  rw [toStore_eq, Store.get?_overwrite_eq_some_iff]
  constructor
  · rintro ⟨before, e, after, hsplit, rfl, hafter, rfl⟩
    obtain ⟨before', rest, rfl, rfl, hrest⟩ := List.map_eq_append_iff.1 hsplit
    obtain ⟨a, after', rfl, rfl, rfl⟩ := List.map_eq_cons_iff.1 hrest
    obtain ⟨front, back, hss, -, hback⟩ : ∃ front back, ss = front ++ back ∧
        List.Forall₂ (fun s a => Assigns s a.key a.value) front before' ∧
        List.Forall₂ (fun s a => Assigns s a.key a.value) back (a :: after') := by
      refine ⟨ss.take before'.length, ss.drop before'.length,
        (List.take_append_drop _ _).symm, List.forall₂_take_append _ _ _ h,
        List.forall₂_drop_append _ _ _ h⟩
    obtain ⟨s, tail, hs, htail, rfl⟩ := List.forall₂_cons_right_iff.1 hback
    refine ⟨front, s, tail, a.value, hss, hs, rfl, fun x hx w hw => ?_⟩
    exact hafter ((names_of_assigns htail).2 ⟨x, hx, w, hw⟩)
  · rintro ⟨before, s, after, value, rfl, hs, rfl, hafter⟩
    have hfront := List.forall₂_take_append as before (s :: after) h.flip
    have hback := List.forall₂_drop_append as before (s :: after) h.flip
    obtain ⟨a, tail, ha, htail, hdrop⟩ := List.forall₂_cons_right_iff.1 hback
    obtain ⟨hkey, hvalue⟩ := hs.unique ha
    refine ⟨(as.take before.length).map entry, entry a, tail.map entry, ?_, hkey, ?_, ?_⟩
    · rw [← List.map_cons, ← List.map_append, ← hdrop, List.take_append_drop]
    · rw [names_of_assigns htail.flip]
      rintro ⟨x, hx, w, hw⟩
      exact hafter x hx w hw
    · rw [← hvalue]
      rfl

theorem ofAssignments_written (hm : m.entries = as.map fun a => (a.key, .text a.value))
    (hkeys : ∀ a ∈ as, IsKey a.key) (hss : ss.Perm (as.map text)) :
    Store.ofAssignments ss = .ok m := by
  have hlines : List.Forall₂ (fun s a => s = text a ∧ IsKey a.key) (as.map text) as := by
    rw [List.forall₂_map_left_iff, List.forall₂_same]
    exact fun a ha => ⟨rfl, hkeys a ha⟩
  obtain ⟨as', hread, hperm⟩ := List.perm_comp_forall₂ hss hlines
  have hreads : readAll ss = .ok as' := by
    rw [readAll_eq_ok_iff]
    exact hread.imp fun s a h => ⟨h.2, h.1⟩
  have hnodup : ((as'.map fun a => (a.key, Raw.text a.value)).map Prod.fst).Nodup := by
    have hnames : (m.entries.map Prod.fst).Nodup := m.nodup_keys
    rw [hm] at hnames
    exact ((hperm.map _).map _).nodup_iff.2 hnames
  rw [ofAssignments_of_readAll hreads, toStore, Store.ofList_perm (hperm.map _) hnodup, ← hm,
    Store.ofList_entries]

theorem ofAssignments_append (h : Store.ofAssignments ss = .ok m)
    (h' : Store.ofAssignments ss' = .ok m') :
    ∃ n, Store.ofAssignments (ss ++ ss') = .ok n ∧ ∀ k, n.get? k = (m'.get? k).or (m.get? k) := by
  obtain ⟨as, has, rfl⟩ := ofAssignments_eq_ok_iff.1 h
  obtain ⟨as', has', rfl⟩ := ofAssignments_eq_ok_iff.1 h'
  have hreads : readAll (ss ++ ss') = .ok (as ++ as') := by
    rw [readAll_eq_ok_iff] at has has' ⊢
    exact List.rel_append has has'
  refine ⟨toStore (as ++ as'), ofAssignments_of_readAll hreads, fun k => ?_⟩
  rw [toStore_eq, toStore_eq, toStore_eq, List.map_append, Store.overwrite_append]
  exact Store.get?_overwrite _ _ k

/-- Assignments are refused exactly if one of them is malformed, with the message about the first
that is. Otherwise every key has the value of the last assignment to it, and there are no other
keys. So a store of texts, each written down as an assignment, is read back from the lines in any
order, and the lines of two stores give the first one overwritten by the second. -/
theorem assignments_answer (ss : List String) :
    ((∃ fault, Store.ofAssignments ss = .error fault) ↔ ∃ s ∈ ss, Malformed s) ∧
      (∀ before s after, ss = before ++ s :: after → (∀ x ∈ before, ¬Malformed x) → Malformed s →
        Store.ofAssignments ss = .error (.assignment s) ∧
          (SettingsFault.assignment s).message = "Expected KEY=VALUE, got " ++ Text.quoted s) ∧
      ((∀ s ∈ ss, ¬Malformed s) → ∃ m, Store.ofAssignments ss = .ok m ∧
        ∀ k v, m.get? k = some v ↔ ∃ before s after value, ss = before ++ s :: after ∧
          Assigns s k value ∧ v = .text value ∧ ∀ x ∈ after, ∀ w, ¬Assigns x k w) ∧
      (∀ (m : Store) (as : List Assignment), m.entries = as.map (fun a => (a.key, .text a.value)) →
        (∀ a ∈ as, IsKey a.key) → ss.Perm (as.map text) → Store.ofAssignments ss = .ok m) ∧
      ∀ ss' m m', Store.ofAssignments ss = .ok m → Store.ofAssignments ss' = .ok m' →
        ∃ n, Store.ofAssignments (ss ++ ss') = .ok n ∧
          ∀ k, n.get? k = (m'.get? k).or (m.get? k) := by
  refine ⟨⟨?_, ?_⟩, ?_, ?_, fun m as => ofAssignments_written, fun ss' m m' => ofAssignments_append⟩
  · rintro ⟨fault, hfault⟩
    by_contra hnone
    have hgood : ∀ s ∈ ss, ¬Malformed s := fun s hs hbad => hnone ⟨s, hs, hbad⟩
    obtain ⟨as, has⟩ := readAll_total hgood
    rw [ofAssignments_of_readAll has] at hfault
    cases hfault
  · intro hbad
    obtain ⟨before, s, after, rfl, hbefore, hs⟩ := exists_first_malformed hbad
    exact ⟨_, ofAssignments_of_malformed hbefore hs⟩
  · rintro before s after rfl hbefore hs
    exact ⟨ofAssignments_of_malformed hbefore hs, rfl⟩
  · intro hgood
    obtain ⟨as, has⟩ := readAll_total hgood
    refine ⟨toStore as, ofAssignments_of_readAll has, fun k v => ?_⟩
    exact get?_of_assigns (readAll_eq_ok_iff.1 has)

example : (Store.ofAssignments ["B=1", "A==\n", "B=", "C=x=y"]).toOption.map Store.entries =
    some [("A", .text "=\n"), ("B", .text ""), ("C", .text "x=y")] := by rfl

end EnvoySidecar.Env
