import Mathlib.Tactic.SplitIfs
import EnvoySidecar.Text.Quoted

/-! The characters of a quoted text: those of the text that can be printed, and a few of its own. -/

namespace EnvoySidecar.Text

variable {p : Char → Prop}

theorem forall_mem_hexDigits (h : ∀ d < 16, p (Nat.digitChar d)) (width n : Nat) :
    ∀ c ∈ hexDigits width n, p c := by
  have hdigits : ∀ c ∈ Nat.toDigits 16 n, p c := by
    induction n using Nat.strongRecOn with
    | _ n ih =>
      rw [Nat.toDigits_eq_if (by decide)]
      split_ifs with hn
      · simpa using h n hn
      · rw [List.forall_mem_append]
        exact ⟨ih (n / 16) (by omega), by simpa using h (n % 16) (by omega)⟩
  rw [hexDigits, List.forall_mem_append]
  exact ⟨fun c hc => List.eq_of_mem_replicate hc ▸ h 0 (by decide), hdigits⟩

theorem forall_mem_quoted {s : String} (hmarks : ∀ c ∈ "'\"\\nrtxuU".toList, p c)
    (hdigits : ∀ d < 16, p (Nat.digitChar d))
    (hself : ∀ c ∈ s.toList, isPrintable c = true → p c) : ∀ c ∈ (quoted s).toList, p c := by
  have hcode : ∀ c, ∀ d ∈ Quoted.escapeCode c, p d := by
    intro c
    unfold Quoted.escapeCode
    dsimp only
    split_ifs <;>
      exact List.forall_mem_cons.2 ⟨hmarks _ (by decide), List.forall_mem_cons.2
        ⟨hmarks _ (by decide), forall_mem_hexDigits hdigits _ _⟩⟩
  have hquote : p (Quoted.quoteFor s.toList) := by
    unfold Quoted.quoteFor
    split_ifs
    · exact hmarks _ (by decide)
    · exact hmarks _ (by decide)
  have hchar : ∀ c ∈ s.toList, ∀ d ∈ Quoted.writeChar (Quoted.quoteFor s.toList) c, p d := by
    intro c hc
    unfold Quoted.writeChar
    split_ifs with hspecial _ _ _ hprint
    · have hc' : p c := by
        rw [Bool.or_eq_true, decide_eq_true_eq, decide_eq_true_eq] at hspecial
        rcases hspecial with rfl | rfl
        · exact hquote
        · exact hmarks _ (by decide)
      simpa using ⟨hmarks '\\' (by decide), hc'⟩
    · simpa using ⟨hmarks '\\' (by decide), hmarks 'n' (by decide)⟩
    · simpa using ⟨hmarks '\\' (by decide), hmarks 'r' (by decide)⟩
    · simpa using ⟨hmarks '\\' (by decide), hmarks 't' (by decide)⟩
    · simpa using hself c hc hprint
    · exact hcode c
  rw [quoted, String.toList_ofList, Quoted.write, List.forall_mem_cons, List.forall_mem_append,
    List.forall_mem_singleton]
  refine ⟨hquote, fun d hd => ?_, hquote⟩
  obtain ⟨c, hc, hd⟩ := List.mem_flatMap.1 hd
  exact hchar c hc d hd

end EnvoySidecar.Text
