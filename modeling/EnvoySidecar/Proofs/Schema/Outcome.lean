import Mathlib.Data.List.Forall2
import EnvoySidecar.Schema.Model

/-! When checks accept a value, by the way in which they are put together. -/

namespace EnvoySidecar.Schema

variable {α β : Type}

namespace Checked

theorem seq_eq_ok_iff {f : Checked (α → β)} {x : Checked α} {b : β} :
    f <*> x = .ok b ↔ ∃ g a, f = .ok g ∧ x = .ok a ∧ g a = b := by
  cases f with
  | faults first rest =>
    cases x <;> exact iff_of_false (fun h => nomatch h) fun ⟨_, _, h, _⟩ => nomatch h
  | ok g =>
    cases x with
    | faults first rest => exact iff_of_false (fun h => nomatch h) fun ⟨_, _, _, h, _⟩ => nomatch h
    | ok a =>
      constructor
      · intro h
        exact ⟨g, a, rfl, rfl, ok.inj h⟩
      · rintro ⟨_, _, hg, ha, rfl⟩
        cases hg
        cases ha
        rfl

theorem map_eq_ok_iff {f : α → β} {x : Checked α} {b : β} :
    f <$> x = .ok b ↔ ∃ a, x = .ok a ∧ f a = b := by
  cases x with
  | faults first rest => exact iff_of_false (fun h => nomatch h) fun ⟨_, h, _⟩ => nomatch h
  | ok a =>
    constructor
    · intro h
      exact ⟨a, rfl, ok.inj h⟩
    · rintro ⟨_, ha, rfl⟩
      cases ha
      rfl

theorem under_eq_ok_iff {s : Step} {x : Checked α} {a : α} : x.under s = .ok a ↔ x = .ok a := by
  cases x with
  | faults first rest => exact iff_of_false (fun h => nomatch h) fun h => nomatch h
  | ok b => rfl

end Checked

open Checked

variable {name : String} {check : Check α} {es : Entries} {v : Value} {a default : α}

theorem optional_eq_ok_iff : optional name default check es = .ok a ↔
    Value.field? name es = none ∧ a = default ∨
      ∃ v, Value.field? name es = some v ∧ check v = .ok a := by
  unfold optional
  cases Value.field? name es with
  | none => simp [eq_comm]
  | some v => simp only [under_eq_ok_iff, Option.some.injEq, exists_eq_left', reduceCtorEq,
      false_and, false_or]

theorem model_eq_ok_iff {check : Entries → Checked α} :
    model name check v = .ok a ↔ ∃ es, v = .map es ∧ check es = .ok a := by
  cases v with
  | map es => simp [model]
  | _ => exact iff_of_false (fun h => nomatch h) fun ⟨_, h, _⟩ => nomatch h

theorem nullable_eq_ok_iff {a : Option α} : nullable check v = .ok a ↔
    v = .null ∧ a = none ∨ v ≠ .null ∧ ∃ b, check v = .ok b ∧ a = some b := by
  cases v with
  | null => simp [nullable, eq_comm]
  | _ =>
    refine map_eq_ok_iff.trans ?_
    simp [eq_comm]

theorem itemsFrom_eq_ok_iff {start : Nat} {items : List Value} {as : List α} :
    itemsFrom check start items = .ok as ↔
      List.Forall₂ (fun item a => check item = .ok a) items as := by
  induction items generalizing start as with
  | nil =>
    rw [itemsFrom, List.forall₂_nil_left_iff, Checked.ok.injEq, eq_comm]
  | cons item items ih =>
    have hmap : (((check item).under (.item start)).map List.cons) =
        List.cons <$> (check item).under (.item start) := rfl
    rw [itemsFrom, hmap]
    refine seq_eq_ok_iff.trans ?_
    simp only [map_eq_ok_iff, under_eq_ok_iff, ih, List.forall₂_cons_left_iff]
    constructor
    · rintro ⟨_, rest, ⟨a, ha, rfl⟩, hrest, rfl⟩
      exact ⟨a, rest, ha, hrest, rfl⟩
    · rintro ⟨a, rest, ha, hrest, rfl⟩
      exact ⟨_, rest, ⟨a, ha, rfl⟩, hrest, rfl⟩

theorem listOf_eq_ok_iff {as : List α} : listOf check v = .ok as ↔
    ∃ items, items? v = some items ∧ List.Forall₂ (fun item a => check item = .ok a) items as := by
  unfold listOf
  cases items? v with
  | some items => simp [itemsFrom_eq_ok_iff]
  | none => exact iff_of_false (fun h => nomatch h) fun ⟨_, h, _⟩ => nomatch h

end EnvoySidecar.Schema
