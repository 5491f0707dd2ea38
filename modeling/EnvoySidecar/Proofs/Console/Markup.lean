import EnvoySidecar.Console
import EnvoySidecar.Proofs.Text.Scanning

/-! The pieces of a text. A bracket is what it takes to make a tag, and apart from where the tags
stand it makes no difference how far into a text its scanning begins. -/

namespace EnvoySidecar.Console

namespace Markup

open Text

def tagPieces (slashes : Nat) (content : List Char) (position : Nat) : List Piece :=
  (if slashes < 2 then [] else [.text (List.replicate (slashes / 2) '\\')]) ++
    [if slashes % 2 = 1 then .text (unescape ('[' :: content ++ [']']))
      else .tag (position + slashes) (Tag.ofContent content)]

inductive Front (cs : List Char) : Prop
  | tag (slashes : Nat) (content inside rest : List Char) :
      cs = List.replicate slashes '\\' ++ '[' :: inside → splitTag inside = some (content, rest) →
      (∀ fuel position before, pieces (fuel + 1) position before cs =
        literal before ++ tagPieces slashes content position ++
          pieces fuel (position + (slashes + content.length + 2)) [] rest) → Front cs
  | skip (skipped rest : List Char) : skipped ≠ [] → cs = skipped ++ rest →
      (∀ fuel position before, pieces (fuel + 1) position before cs =
        pieces fuel (position + skipped.length) (skipped.reverse ++ before) rest) → Front cs

theorem front (c : Char) (r : List Char) : Front (c :: r) := by
  have hcs : c :: r = List.replicate ((c :: r).takeWhile (· = '\\')).length '\\' ++
      (c :: r).drop ((c :: r).takeWhile (· = '\\')).length := by
    rw [← Text.takeWhile_eq_replicate, Text.drop_length_takeWhile, List.takeWhile_append_dropWhile]
  have hpieces : ∀ fuel position before, pieces (fuel + 1) position before (c :: r) = _ :=
    fun fuel position before => by rw [pieces]
  simp only at hpieces
  generalize ((c :: r).takeWhile (· = '\\')).length = slashes at hcs hpieces
  by_cases hbracket : ∃ inside, (c :: r).drop slashes = '[' :: inside
  · obtain ⟨inside, hdrop⟩ := hbracket
    rw [hdrop] at hcs
    simp only [hdrop] at hpieces
    cases hsplit : splitTag inside with
    | none =>
      simp only [hsplit] at hpieces
      refine .skip (List.replicate slashes '\\' ++ ['[']) inside (by simp) (hcs.trans (by simp)) ?_
      intro fuel position before
      simp [hpieces, Nat.add_assoc]
    | some p =>
      obtain ⟨content, rest⟩ := p
      simp only [hsplit] at hpieces
      refine .tag slashes content inside rest hcs hsplit fun fuel position before => ?_
      simp [hpieces, tagPieces, Nat.add_assoc]
  · by_cases hnone : slashes = 0
    · refine .skip [c] r (by simp) rfl fun fuel position before => ?_
      rw [hpieces]
      split
      · next inside hdrop => exact absurd ⟨inside, hdrop⟩ hbracket
      · rw [if_pos hnone]
        rfl
    · refine .skip (List.replicate slashes '\\') ((c :: r).drop slashes) (by simpa using hnone) hcs
        fun fuel position before => ?_
      rw [hpieces]
      split
      · next inside hdrop => exact absurd ⟨inside, hdrop⟩ hbracket
      · rw [if_neg hnone, List.length_replicate, List.reverse_replicate]

theorem pieces_of_untagged (fuel position : Nat) (before : List Char) {cs : List Char}
    (h : ∀ pre inside, cs = pre ++ '[' :: inside → splitTag inside = none) :
    pieces fuel position before cs = literal (cs.reverse ++ before) := by
  induction fuel generalizing position before cs with
  | zero => rfl
  | succ fuel ih =>
    cases cs with
    | nil => rfl
    | cons c r =>
      cases front c r with
      | tag slashes content inside rest hcs hsplit =>
        rw [h _ inside hcs] at hsplit
        cases hsplit
      | skip skipped rest _ hcs hpieces =>
        have hrest : ∀ pre inside, rest = pre ++ '[' :: inside → splitTag inside = none := by
          rintro pre inside rfl
          exact h (skipped ++ pre) inside (by rw [hcs, List.append_assoc])
        rw [hpieces, ih _ _ hrest, hcs, List.reverse_append, List.append_assoc]

end Markup

end EnvoySidecar.Console
