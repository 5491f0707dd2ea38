import Mathlib.Data.List.Basic
import EnvoySidecar.Proofs.Text.Scanning
import EnvoySidecar.Proofs.Yaml.Printer
import EnvoySidecar.Yaml.Token

/-! Cursors behind a text that was read: what remains is what stands behind the text, and the column
follows from its last line. -/

namespace EnvoySidecar.Yaml

open Text (StopsAt)

namespace Position

variable {p : Position} {cs ds : List Char} {c : Char}

def past (p : Position) (cs : List Char) : Position :=
  cs.foldl after p

@[simp] theorem past_nil (p : Position) : p.past [] = p := rfl

@[simp] theorem past_cons (p : Position) (c : Char) (cs : List Char) :
    p.past (c :: cs) = (p.after c).past cs := rfl

theorem past_append (p : Position) (cs ds : List Char) :
    p.past (cs ++ ds) = (p.past cs).past ds :=
  List.foldl_append

theorem after_break (h : isBreak c = true) : p.after c = ⟨p.index + 1, p.line + 1, 0⟩ :=
  if_pos h

@[simp] theorem after_newline : p.after '\n' = ⟨p.index + 1, p.line + 1, 0⟩ := rfl

@[simp] theorem after_space : p.after ' ' = ⟨p.index + 1, p.line, p.column + 1⟩ := rfl

theorem after_usual (h : Style.isUsual c = true) (hbreak : isBreak c = false) :
    p.after c = ⟨p.index + 1, p.line, p.column + 1⟩ := by
  have hmark : c ≠ byteOrderMark := by
    rintro rfl
    exact absurd h (by decide)
  rw [after, if_neg (by simp [hbreak]), if_neg hmark]

theorem line_le_after (p : Position) (c : Char) : p.line ≤ (p.after c).line := by
  unfold after
  split_ifs <;> simp

theorem line_le_past (p : Position) (cs : List Char) : p.line ≤ (p.past cs).line := by
  induction cs generalizing p with
  | nil => exact Nat.le_refl _
  | cons c cs ih => exact (line_le_after p c).trans (ih _)

theorem line_lt_past (p : Position) (hc : isBreak c = true) (h : c ∈ cs) :
    p.line < (p.past cs).line := by
  obtain ⟨before, behind, rfl⟩ := List.append_of_mem h
  have hbefore := line_le_past p before
  have hbehind := line_le_past ((p.past before).after c) behind
  rw [past_append, past_cons]
  refine Nat.lt_of_lt_of_le ?_ hbehind
  rw [after_break hc]
  exact Nat.lt_succ_of_le hbefore

def Inline (cs : List Char) : Prop :=
  ∀ c ∈ cs, Style.isUsual c = true ∧ isBreak c = false

instance (cs : List Char) : Decidable (Inline cs) :=
  List.decidableBAll (fun c => Style.isUsual c = true ∧ isBreak c = false) cs

theorem past_inline (h : Inline cs) :
    p.past cs = ⟨p.index + cs.length, p.line, p.column + cs.length⟩ := by
  induction cs generalizing p with
  | nil => rfl
  | cons c cs ih =>
    obtain ⟨hc, hcs⟩ := List.forall_mem_cons.1 h
    rw [past_cons, after_usual hc.1 hc.2, ih hcs, List.length_cons]
    simp only [Position.mk.injEq, true_and]
    omega

theorem column_inline (p : Position) (h : Inline cs) :
    (p.past cs).column = p.column + cs.length := by
  rw [past_inline h]

theorem inline_spaces (n : Nat) : Inline (List.replicate n ' ') :=
  fun _ hc => List.eq_of_mem_replicate hc ▸ by decide

theorem column_spaces (p : Position) (n : Nat) :
    (p.past (List.replicate n ' ')).column = p.column + n := by
  rw [column_inline p (inline_spaces n), List.length_replicate]

theorem column_newLine (p : Position) (n : Nat) :
    (p.past ('\n' :: List.replicate n ' ')).column = n := by
  rw [past_cons, column_spaces]
  exact Nat.zero_add n

end Position

namespace Cursor

variable {p : Char → Bool} {cs rest : List Char} {place : Position}

theorem span_append (hcs : cs.all p) (hrest : StopsAt p rest) :
    span p ⟨cs ++ rest, place⟩ = (cs, ⟨rest, place.past cs⟩) := by
  unfold span
  dsimp only
  induction cs generalizing place with
  | nil =>
    cases rest with
    | nil => rfl
    | cons c r => simp [span.go, hrest c r rfl]
  | cons c cs ih =>
    rw [List.all_cons, Bool.and_eq_true] at hcs
    rw [List.cons_append, span.go, if_pos hcs.1, ih hcs.2, Position.past_cons]

theorem span_stopped (hrest : StopsAt p rest) : span p ⟨rest, place⟩ = ([], ⟨rest, place⟩) :=
  @span_append p [] rest place rfl hrest

theorem skip_append (hcs : cs.all p) (hrest : StopsAt p rest) :
    skip p ⟨cs ++ rest, place⟩ = ⟨rest, place.past cs⟩ := by
  rw [skip, span_append hcs hrest]

theorem steps_succ (k : Cursor) (n : Nat) : k.steps (n + 1) = k.step.steps n := by
  induction n with
  | zero => rfl
  | succ n ih => exact congrArg step ih

theorem steps_append (cs rest : List Char) (place : Position) :
    steps ⟨cs ++ rest, place⟩ cs.length = ⟨rest, place.past cs⟩ := by
  induction cs generalizing place with
  | nil => rfl
  | cons c cs ih =>
    rw [List.length_cons, steps_succ]
    exact ih (place.after c)

end Cursor

end EnvoySidecar.Yaml
