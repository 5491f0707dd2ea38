import EnvoySidecar.Proofs.Text.Digits
import EnvoySidecar.Proofs.Text.Quoted

/-! Texts of printable characters. Nothing in such a text ends its line or controls what shows it.
A quoted text is such a text, whatever was quoted. -/

namespace EnvoySidecar.Text

variable {c : Char} {s t : String}

def isControl (c : Char) : Bool :=
  c.toNat < 0x20 || (0x7F ≤ c.toNat && c.toNat ≤ 0x9F)

def lineBreaks : List Char :=
  "\n\x0b\x0c\r\x1c\x1d\x1e\x85\u2028\u2029".toList

def isLineBreak (c : Char) : Bool :=
  lineBreaks.contains c

theorem not_isControl_of_isPrintable (h : isPrintable c = true) : isControl c = false := by
  by_contra hcontrol
  rw [Bool.not_eq_false, isControl, Bool.or_eq_true, Bool.and_eq_true, decide_eq_true_eq,
    decide_eq_true_eq, decide_eq_true_eq] at hcontrol
  unfold isPrintable at h
  dsimp only at h
  split_ifs at h with hlow
  · have hspace : 0x20 ≤ c.toNat := of_decide_eq_true h
    omega
  · -- the first row of the table is the upper range of the controls and a space behind it
    have hrow : (0x7F, 0xA0) ∈ unprintableRanges c.toNat := by
      rw [unprintableRanges, if_pos (by omega)]
      exact List.mem_cons_self
    have hfree := List.all_eq_true.1 h _ hrow
    rw [Bool.or_eq_true, decide_eq_true_eq, decide_eq_true_eq] at hfree
    omega

theorem not_isLineBreak_of_isPrintable (h : isPrintable c = true) : isLineBreak c = false := by
  by_contra hbreak
  rw [Bool.not_eq_false, isLineBreak, List.contains_iff_mem] at hbreak
  have hnone : lineBreaks.all (!isPrintable ·) = true := by decide
  have hunprintable := List.all_eq_true.1 hnone c hbreak
  rw [h] at hunprintable
  cases hunprintable

/-- Only printable characters, and so neither a control nor the end of a line. -/
def Legible (s : String) : Prop :=
  ∀ c ∈ s.toList, isPrintable c = true ∧ isControl c = false ∧ isLineBreak c = false

theorem legible_iff : Legible s ↔ s.toList.all isPrintable = true := by
  rw [List.all_eq_true]
  exact forall₂_congr fun c _ => and_iff_left_of_imp fun h =>
    ⟨not_isControl_of_isPrintable h, not_isLineBreak_of_isPrintable h⟩

instance (s : String) : Decidable (Legible s) :=
  decidable_of_iff' _ legible_iff

theorem Legible.append (hs : Legible s) (ht : Legible t) : Legible (s ++ t) := by
  rw [legible_iff] at hs ht ⊢
  rw [String.toList_append, List.all_append, hs, ht]
  rfl

theorem legible_quoted (s : String) : Legible (quoted s) := by
  rw [legible_iff, List.all_eq_true]
  exact forall_mem_quoted (List.all_eq_true.1 (by decide)) (by decide) fun _ _ h => h

theorem isPrintable_of_isDigit (h : isDigit c = true) : isPrintable c = true := by
  rw [isDigit, Bool.and_eq_true, decide_eq_true_eq, decide_eq_true_eq] at h
  have hlow : '0'.toNat ≤ c.toNat := h.1
  have hhigh : c.toNat ≤ '9'.toNat := h.2
  exact isPrintable_ascii (le_trans (by decide) hlow) (lt_of_le_of_lt hhigh (by decide))

end EnvoySidecar.Text
