import Mathlib.Data.List.TakeWhile

/-! Scanning a text as far as its characters are of one kind. -/

namespace EnvoySidecar.Text

variable {p : Char → Bool} {c : Char} {cs ds r : List Char}

def StopsAt (p : Char → Bool) (cs : List Char) : Prop :=
  ∀ c r, cs = c :: r → p c = false

theorem stopsAt_nil : StopsAt p [] := by
  intro c r h
  cases h

theorem stopsAt_cons (h : p c = false) : StopsAt p (c :: r) := by
  rintro _ _ ⟨⟩
  exact h

theorem takeWhile_append (hd : ds.all p) (hr : StopsAt p r) : (ds ++ r).takeWhile p = ds := by
  induction ds with
  | nil =>
    cases r with
    | nil => rfl
    | cons c r => simp [hr c r rfl]
  | cons d ds ih =>
    rw [List.all_cons, Bool.and_eq_true] at hd
    rw [List.cons_append, List.takeWhile_cons_of_pos hd.1, ih hd.2]

theorem dropWhile_append (hd : ds.all p) (hr : StopsAt p r) : (ds ++ r).dropWhile p = r := by
  have h := List.takeWhile_append_dropWhile (p := p) (l := ds ++ r)
  rw [takeWhile_append hd hr] at h
  exact List.append_cancel_left h

theorem drop_length_takeWhile {α : Type} (p : α → Bool) (cs : List α) :
    cs.drop (cs.takeWhile p).length = cs.dropWhile p := by
  calc cs.drop (cs.takeWhile p).length
      = (cs.takeWhile p ++ cs.dropWhile p).drop (cs.takeWhile p).length := by
        rw [List.takeWhile_append_dropWhile]
    _ = cs.dropWhile p := List.drop_left

theorem takeWhile_eq_replicate (c : Char) (cs : List Char) :
    cs.takeWhile (· = c) = List.replicate (cs.takeWhile (· = c)).length c := by
  refine List.eq_replicate_of_mem fun d hd => ?_
  have h := List.mem_takeWhile_imp hd
  exact of_decide_eq_true h

end EnvoySidecar.Text
