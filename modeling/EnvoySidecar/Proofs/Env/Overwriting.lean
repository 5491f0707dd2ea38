import Mathlib.Data.List.Nodup
import EnvoySidecar.Proofs.Env.Writes

/-! All of some entries written over a store. Entries of different names may be written in any
order, and a store may be filled in any order from a list that has each name once. -/

namespace EnvoySidecar.Env.Store

variable {k k' : String}

theorem set_comm (s : Store) (h : k ≠ k') (v v' : Raw) :
    (s.set k v).set k' v' = (s.set k' v').set k v := by
  refine ext_get? fun x => ?_
  simp only [get?_set]
  by_cases hx : x = k
  · simp [hx, h]
  · simp [hx]

theorem foldl_set_perm {es es' : List (String × Raw)} (h : es.Perm es')
    (hnodup : (es.map Prod.fst).Nodup) (s : Store) :
    es.foldl (fun s e => s.set e.1 e.2) s = es'.foldl (fun s e => s.set e.1 e.2) s := by
  refine h.foldl_eq' (fun a ha b hb t => ?_) s
  by_cases hname : a.1 = b.1
  · rw [List.inj_on_of_nodup_map hnodup ha hb hname]
  · exact t.set_comm hname a.2 b.2

theorem ofList_perm {es es' : List (String × Raw)} (h : es.Perm es')
    (hnodup : (es.map Prod.fst).Nodup) : ofList es = ofList es' :=
  foldl_set_perm h hnodup empty

/-- The store with some entries written over it, one after the other. -/
def overwrite (s : Store) (es : List Entry) : Store :=
  es.foldl (fun s e => s.set e.1 (.text e.2)) s

variable {s : Store} {es es' : List Entry} {e : Entry}

theorem overwrite_append (s : Store) (es es' : List Entry) :
    s.overwrite (es ++ es') = (s.overwrite es).overwrite es' :=
  List.foldl_append

theorem overwrite_perm (h : es.Perm es') (hnodup : (es.map Prod.fst).Nodup) (s : Store) :
    s.overwrite es = s.overwrite es' := by
  have hnames : ((es.map fun e => (e.1, Raw.text e.2)).map Prod.fst).Nodup := by
    rwa [List.map_map]
  have hfold := foldl_set_perm (h.map fun e => (e.1, Raw.text e.2)) hnames s
  rwa [List.foldl_map, List.foldl_map] at hfold

theorem get?_set_of_fresh {x : Entry} (s : Store) (hfresh : e.1 ∉ es.map Prod.fst) (hx : x ∈ es)
    (v : Raw) : (s.set e.1 v).get? x.1 = s.get? x.1 := by
  refine get?_set_of_ne v ?_
  intro heq
  exact hfresh (heq ▸ List.mem_map_of_mem hx)

theorem written_overwrite (s : Store) (es : List Entry) :
    Written s (es.map Write.put) (s.overwrite es) := by
  induction es generalizing s with
  | nil => exact .refl s
  | cons e rest ih => exact (Written.set s e.1 (.text e.2)).trans (ih _)

theorem get?_overwrite_of_mem (s : Store) (hnodup : (es.map Prod.fst).Nodup) (he : e ∈ es) :
    (s.overwrite es).get? e.1 = some (.text e.2) :=
  (written_overwrite s es).get?_of_mem hnodup he

theorem get?_overwrite_of_notMem (s : Store) (hk : k ∉ es.map Prod.fst) :
    (s.overwrite es).get? k = s.get? k :=
  (written_overwrite s es).get?_of_notMem hk

end EnvoySidecar.Env.Store
