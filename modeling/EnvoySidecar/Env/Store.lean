import EnvoySidecar.Env.Value

/-! Stores of raw values under variable names, kept sorted by name in code point order, so that
two stores with the same look-ups are the same store. -/

namespace EnvoySidecar.Env

structure Store where
  entries : List (String × Raw)
  sorted : entries.Pairwise fun a b => a.1 < b.1

namespace Store

def insertInto (k : String) (v : Raw) : List (String × Raw) → List (String × Raw)
  | [] => [(k, v)]
  | e :: rest =>
    if k < e.1 then (k, v) :: e :: rest
    else if k = e.1 then (k, v) :: rest
    else e :: insertInto k v rest

theorem mem_insertInto {k : String} {v : Raw} {es : List (String × Raw)} {e : String × Raw}
    (h : e ∈ insertInto k v es) : e = (k, v) ∨ e ∈ es := by
  induction es with
  | nil => simp_all [insertInto]
  | cons a rest ih =>
    unfold insertInto at h
    split at h
    · simpa using h
    · split at h
      · simp only [List.mem_cons] at h ⊢
        exact h.imp_right .inr
      · simp only [List.mem_cons] at h ⊢
        rcases h with h | h
        · exact .inr (.inl h)
        · exact (ih h).imp_right .inr

theorem sorted_insertInto {k : String} {v : Raw} {es : List (String × Raw)}
    (h : es.Pairwise fun a b => a.1 < b.1) :
    (insertInto k v es).Pairwise fun a b => a.1 < b.1 := by
  induction es with
  | nil => simp [insertInto]
  | cons a rest ih =>
    obtain ⟨ha, hrest⟩ := List.pairwise_cons.1 h
    unfold insertInto
    split
    · next hk =>
      refine List.pairwise_cons.2 ⟨?_, h⟩
      intro b hb
      rcases List.mem_cons.1 hb with rfl | hb
      · exact hk
      · exact String.lt_trans hk (ha b hb)
    · split
      · next hk => exact List.pairwise_cons.2 ⟨fun b hb => hk ▸ ha b hb, hrest⟩
      · next hlt hne =>
        refine List.pairwise_cons.2 ⟨?_, ih hrest⟩
        intro b hb
        rcases mem_insertInto hb with rfl | hb
        · exact Std.lt_of_le_of_ne (Std.not_lt.1 hlt) (fun h => hne h.symm)
        · exact ha b hb

def empty : Store :=
  ⟨[], .nil⟩

def set (s : Store) (k : String) (v : Raw) : Store :=
  ⟨insertInto k v s.entries, sorted_insertInto s.sorted⟩

def delete (s : Store) (k : String) : Store :=
  ⟨s.entries.filter fun e => e.1 != k, s.sorted.filter _⟩

def get? (s : Store) (k : String) : Option Raw :=
  (s.entries.find? fun e => e.1 == k).map (·.2)

def keys (s : Store) : List String :=
  s.entries.map (·.1)

def ofList (es : List (String × Raw)) : Store :=
  es.foldl (fun s e => s.set e.1 e.2) empty

end Store

end EnvoySidecar.Env
