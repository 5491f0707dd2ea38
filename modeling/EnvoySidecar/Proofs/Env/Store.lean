import EnvoySidecar.Env.Store

/-! Look-ups in a store after each of its operations. The entries are sorted by strictly
increasing names, so that a look-up finds an entry exactly if the entry is there. -/

namespace EnvoySidecar.Env.Store

variable {s : Store} {k k' : String} {v v' : Raw}

theorem value_unique (h : (k, v) ∈ s.entries) (h' : (k, v') ∈ s.entries) : v = v' := by
  obtain ⟨i, hi, hv⟩ := List.getElem_of_mem h
  obtain ⟨j, hj, hv'⟩ := List.getElem_of_mem h'
  have increasing := List.pairwise_iff_getElem.1 s.sorted
  rcases Nat.lt_trichotomy i j with hij | rfl | hij
  · have hlt := increasing i j hi hj hij
    rw [hv, hv'] at hlt
    exact absurd hlt (String.lt_irrefl k)
  · exact (Prod.mk.inj (hv.symm.trans hv')).2
  · have hlt := increasing j i hj hi hij
    rw [hv, hv'] at hlt
    exact absurd hlt (String.lt_irrefl k)

theorem get?_eq_some_iff : s.get? k = some v ↔ (k, v) ∈ s.entries := by
  constructor
  · intro h
    obtain ⟨e, he, rfl⟩ := Option.map_eq_some_iff.1 h
    have hk : e.1 = k := by simpa using List.find?_some he
    exact hk ▸ List.mem_of_find?_eq_some he
  · intro h
    cases hf : s.entries.find? (fun e => e.1 == k) with
    | none => exact absurd (List.find?_eq_none.1 hf _ h) (by simp)
    | some e =>
      have hk : e.1 = k := by simpa using List.find?_some hf
      have he : (k, e.2) ∈ s.entries := hk ▸ List.mem_of_find?_eq_some hf
      rw [get?, hf, Option.map_some, value_unique he h]

theorem mem_keys_iff : k ∈ s.keys ↔ ∃ v, s.get? k = some v := by
  simp only [keys, List.mem_map, get?_eq_some_iff]
  constructor
  · rintro ⟨e, he, rfl⟩
    exact ⟨e.2, he⟩
  · rintro ⟨v, hv⟩
    exact ⟨(k, v), hv, rfl⟩

theorem keys_sorted (s : Store) : s.keys.Pairwise (· < ·) :=
  List.pairwise_map.2 s.sorted

theorem mem_insertInto_of_ne {es : List (String × Raw)} {e : String × Raw} (h : e ∈ es)
    (hne : e.1 ≠ k) : e ∈ insertInto k v es := by
  induction es with
  | nil => simp at h
  | cons a rest ih =>
    unfold insertInto
    split
    · exact List.mem_cons_of_mem _ h
    · split
      · next hk =>
        rcases List.mem_cons.1 h with rfl | h
        · exact absurd hk.symm hne
        · exact List.mem_cons_of_mem _ h
      · rcases List.mem_cons.1 h with rfl | h
        · exact List.mem_cons_self
        · exact List.mem_cons_of_mem _ (ih h)

theorem mem_insertInto_self (k : String) (v : Raw) (es : List (String × Raw)) :
    (k, v) ∈ insertInto k v es := by
  induction es with
  | nil => exact List.mem_cons_self
  | cons a rest ih =>
    unfold insertInto
    split
    · exact List.mem_cons_self
    · split
      · exact List.mem_cons_self
      · exact List.mem_cons_of_mem _ ih

@[simp] theorem get?_set_self (s : Store) (k : String) (v : Raw) : (s.set k v).get? k = some v :=
  get?_eq_some_iff.2 (mem_insertInto_self k v s.entries)

theorem get?_set_of_ne (v : Raw) (h : k' ≠ k) : (s.set k v).get? k' = s.get? k' := by
  apply Option.ext
  intro w
  rw [get?_eq_some_iff, get?_eq_some_iff]
  constructor
  · intro hw
    rcases mem_insertInto hw with he | hw
    · exact absurd (congrArg Prod.fst he) h
    · exact hw
  · intro hw
    exact mem_insertInto_of_ne hw h

theorem get?_set (s : Store) (k : String) (v : Raw) (k' : String) :
    (s.set k v).get? k' = if k' = k then some v else s.get? k' := by
  by_cases h : k' = k
  · rw [if_pos h, h, get?_set_self]
  · rw [if_neg h, get?_set_of_ne v h]

theorem get?_delete (s : Store) (k k' : String) :
    (s.delete k).get? k' = if k' = k then none else s.get? k' := by
  have mem : ∀ w, (k', w) ∈ (s.delete k).entries ↔ (k', w) ∈ s.entries ∧ k' ≠ k := by
    intro w
    simp [delete]
  apply Option.ext
  intro w
  rw [get?_eq_some_iff, mem]
  by_cases h : k' = k
  · simp [h]
  · simp [h, get?_eq_some_iff]

theorem ext_get? {t : Store} (h : ∀ k, s.get? k = t.get? k) : s = t := by
  have hmem : ∀ e, e ∈ s.entries ↔ e ∈ t.entries := by
    intro e
    rw [← get?_eq_some_iff, h, get?_eq_some_iff]
  have hnodup (u : Store) : u.entries.Nodup :=
    u.sorted.imp fun hlt heq => absurd (heq ▸ hlt) (String.lt_irrefl _)
  have hperm := (List.perm_ext_iff_of_nodup (hnodup s) (hnodup t)).2 hmem
  have heq : s.entries = t.entries :=
    hperm.eq_of_pairwise (fun _ _ _ _ hlt hgt => absurd hgt (String.lt_asymm hlt)) s.sorted t.sorted
  cases s
  cases t
  cases heq
  rfl

end EnvoySidecar.Env.Store
