import EnvoySidecar.Env.Managed
import EnvoySidecar.Proofs.Env.Store

/-! Changes of single variables, and what a store holds after some of them. Only look-ups are
compared, so that a computation may be described by its writes however it goes about them. -/

namespace EnvoySidecar.Env

structure Write where
  key : String
  value : Option Raw

namespace Write

def put (e : Entry) : Write :=
  ⟨e.1, some (.text e.2)⟩

def last? (k : String) (ws : List Write) : Option Write :=
  (ws.filter (·.key == k)).getLast?

theorem last?_append (k : String) (ws ws' : List Write) :
    last? k (ws ++ ws') = (last? k ws').or (last? k ws) := by
  simp only [last?, List.filter_append, List.getLast?_append]

theorem last?_singleton (k : String) (w : Write) :
    last? k [w] = if w.key = k then some w else none := by
  by_cases h : w.key = k <;> simp [last?, h]

theorem last?_eq_none {k : String} {ws : List Write} (h : ∀ w ∈ ws, w.key ≠ k) :
    last? k ws = none := by
  rw [last?, List.getLast?_eq_none_iff, List.filter_eq_nil_iff]
  intro w hw
  simpa using h w hw

theorem last?_of_mem {ws : List Write} (hnodup : (ws.map (·.key)).Nodup) {w : Write}
    (hw : w ∈ ws) : last? w.key ws = some w := by
  induction ws with
  | nil => simp at hw
  | cons a rest ih =>
    obtain ⟨ha, hrest⟩ := List.nodup_cons.1 hnodup
    rw [← List.singleton_append, last?_append, last?_singleton]
    rcases List.mem_cons.1 hw with rfl | hw
    · have hnone : last? w.key rest = none :=
        last?_eq_none fun b hb he => ha (List.mem_map.2 ⟨b, hb, he⟩)
      rw [hnone, if_pos rfl, Option.none_or]
    · rw [ih hrest hw, Option.some_or]

end Write

/-- Every variable has the value that the last write to it gave it, or the one from before. -/
def Written (s : Store) (ws : List Write) (t : Store) : Prop :=
  ∀ k, t.get? k = match Write.last? k ws with
    | some w => w.value
    | none => s.get? k

namespace Written

theorem refl (s : Store) : Written s [] s := fun _ => rfl

theorem trans {s t u : Store} {ws ws' : List Write} (h : Written s ws t) (h' : Written t ws' u) :
    Written s (ws ++ ws') u := by
  intro k
  rw [h' k, Write.last?_append]
  cases Write.last? k ws' with
  | some w => rw [Option.some_or]
  | none =>
    rw [Option.none_or]
    exact h k

theorem set (s : Store) (k : String) (v : Raw) : Written s [⟨k, some v⟩] (s.set k v) := by
  intro k'
  rw [Store.get?_set, Write.last?_singleton]
  by_cases h : k' = k
  · simp [h]
  · simp [h, Ne.symm h]

theorem delete (s : Store) (k : String) : Written s [⟨k, none⟩] (s.delete k) := by
  intro k'
  rw [Store.get?_delete, Write.last?_singleton]
  by_cases h : k' = k
  · simp [h]
  · simp [h, Ne.symm h]

variable {s t : Store} {es : List Entry}

theorem get?_of_mem (h : Written s (es.map Write.put) t) (hnodup : (es.map Prod.fst).Nodup)
    {e : Entry} (he : e ∈ es) : t.get? e.1 = some (.text e.2) := by
  have hkeys : ((es.map Write.put).map (·.key)).Nodup := by
    rw [List.map_map]
    exact hnodup
  have hlast : Write.last? e.1 (es.map Write.put) = some (Write.put e) :=
    Write.last?_of_mem hkeys (List.mem_map_of_mem he)
  rw [h e.1, hlast]
  rfl

theorem get?_of_notMem (h : Written s (es.map Write.put) t) {k : String}
    (hk : k ∉ es.map Prod.fst) : t.get? k = s.get? k := by
  have hnone : Write.last? k (es.map Write.put) = none := by
    apply Write.last?_eq_none
    intro w hw he
    obtain ⟨e, hmem, rfl⟩ := List.mem_map.1 hw
    exact hk (he ▸ List.mem_map_of_mem hmem)
  rw [h k, hnone]

end Written

end EnvoySidecar.Env
