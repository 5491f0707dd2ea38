import EnvoySidecar.Proofs.Text.Scanning
import EnvoySidecar.Quantity.Spelling

/-! The reader of quantities finds exactly the well-formed spellings. What makes the grammar
unambiguous is the first character of each part: it tells where the part before it ends. -/

namespace EnvoySidecar.Quantity

open Text

def isSign (c : Char) : Bool :=
  c == '+' || c == '-'

theorem isDigit_of_head {ds : List Char} {c : Char} {r : List Char} (h : ds.all isDigit)
    (hc : ds = c :: r) : isDigit c = true := by
  rw [hc, List.all_cons, Bool.and_eq_true] at h
  exact h.1

theorem isSign_of_isDigit {c : Char} (h : isDigit c = true) : isSign c = false := by
  have hplus : c ≠ '+' := by
    rintro rfl
    exact absurd h (by decide)
  have hminus : c ≠ '-' := by
    rintro rfl
    exact absurd h (by decide)
  simp [isSign, hplus, hminus]

namespace Sign

theorem text_split (cs : List Char) : (split cs).1.text ++ (split cs).2 = cs := by
  unfold split
  split <;> rfl

theorem split_text (s : Sign) {r : List Char} (hr : StopsAt isSign r) :
    split (s.text ++ r) = (s, r) := by
  cases s with
  | plus => rfl
  | minus => rfl
  | none =>
    unfold split text
    split
    · next r' h => exact absurd (hr '+' r' h) (by decide)
    · next r' h => exact absurd (hr '-' r' h) (by decide)
    · rfl

end Sign

namespace Suffix

theorem ofText?_text (s : Suffix) : ofText? s.text = some s := by
  cases s <;> decide

theorem text_of_ofText? {cs : List Char} {s : Suffix} (h : ofText? cs = some s) : s.text = cs := by
  have hs := List.find?_some h
  exact beq_iff_eq.1 hs

theorem exponent?_text (s : Suffix) : Scale.exponent? s.text = none := by
  cases s <;> decide

theorem stopsAt_text (s : Suffix) : StopsAt (fun c => isDigit c || c == '.') s.text := by
  cases s <;> first | exact stopsAt_nil | exact stopsAt_cons (by decide)

end Suffix

namespace Scale

theorem exponent?_eq_some {cs : List Char} {s : Scale} (h : exponent? cs = some s) :
    s.WellFormed ∧ s.text = cs := by
  cases cs with
  | nil => cases h
  | cons letter r =>
    simp only [exponent?] at h
    split at h
    · next hwf =>
      cases h
      exact ⟨hwf, congrArg _ (Sign.text_split r)⟩
    · cases h

theorem exponent?_text {letter : Char} {sign : Sign} {digits : List Char}
    (h : (exponent letter sign digits).WellFormed) :
    exponent? (exponent letter sign digits).text = some (exponent letter sign digits) := by
  have hsign : StopsAt isSign digits := fun c r hc =>
    isSign_of_isDigit (isDigit_of_head h.2.2 hc)
  rw [text, exponent?, Sign.split_text sign hsign]
  exact if_pos h

theorem read?_eq_some_iff {cs : List Char} {s : Scale} :
    read? cs = some s ↔ s.WellFormed ∧ s.text = cs := by
  constructor
  · intro h
    unfold read? at h
    split at h
    · next s' hs =>
      cases h
      exact exponent?_eq_some hs
    · obtain ⟨s', hs, rfl⟩ := Option.map_eq_some_iff.1 h
      exact ⟨trivial, Suffix.text_of_ofText? hs⟩
  · rintro ⟨hwf, rfl⟩
    cases s with
    | suffix s => rw [text, read?, Suffix.exponent?_text, Suffix.ofText?_text, Option.map_some]
    | exponent letter sign digits => rw [read?, exponent?_text hwf]

theorem stopsAt_text {s : Scale} (h : s.WellFormed) :
    StopsAt (fun c => isDigit c || c == '.') s.text := by
  cases s with
  | suffix s => exact s.stopsAt_text
  | exponent letter sign digits =>
    obtain ⟨rfl | rfl, -⟩ := h
    · exact stopsAt_cons (by decide)
    · exact stopsAt_cons (by decide)

end Scale

namespace Numeral

def fractionText : Option (List Char) → List Char
  | none => []
  | some f => '.' :: f

theorem text_eq (n : Numeral) : n.text = n.sign.text ++ (n.whole ++ fractionText n.fraction) := by
  rw [text, List.append_assoc]
  cases n.fraction <;> rfl

theorem stopsAt_unsigned {n : Numeral} (h : n.WellFormed) (r : List Char) :
    StopsAt isSign (n.whole ++ (fractionText n.fraction ++ r)) := by
  obtain ⟨hwhole, -, hsome⟩ := h
  cases hw : n.whole with
  | cons c ds => exact stopsAt_cons (isSign_of_isDigit (isDigit_of_head hwhole hw))
  | nil =>
    cases hf : n.fraction with
    | none => simp [hw, hf] at hsome
    | some f => exact stopsAt_cons (by decide)

end Numeral

namespace Spelling

theorem fractionText_splitFraction (cs : List Char) :
    Numeral.fractionText (splitFraction cs).1 ++ (splitFraction cs).2 = cs := by
  unfold splitFraction
  split
  · next r => exact congrArg ('.' :: ·) List.takeWhile_append_dropWhile
  · rfl

theorem splitFraction_fractionText {f : Option (List Char)} {r : List Char}
    (hf : (f.getD []).all isDigit) (hr : StopsAt (fun c => isDigit c || c == '.') r) :
    splitFraction (Numeral.fractionText f ++ r) = (f, r) := by
  have hdigit : StopsAt isDigit r := fun c r' hc => (Bool.or_eq_false_iff.1 (hr c r' hc)).1
  cases f with
  | none =>
    rw [Numeral.fractionText, List.nil_append]
    unfold splitFraction
    split
    · next r' => exact absurd (hr '.' r' rfl) (by decide)
    · rfl
  | some f =>
    rw [Option.getD_some] at hf
    rw [Numeral.fractionText, List.cons_append, splitFraction, takeWhile_append hf hdigit,
      dropWhile_append hf hdigit]

theorem stopsAt_fraction (f : Option (List Char)) {r : List Char}
    (hr : StopsAt (fun c => isDigit c || c == '.') r) :
    StopsAt isDigit (Numeral.fractionText f ++ r) := by
  cases f with
  | none => exact fun c r' hc => (Bool.or_eq_false_iff.1 (hr c r' hc)).1
  | some f => exact stopsAt_cons (by decide)

theorem wellFormed_of_read? {cs : List Char} {w : Spelling} (h : read? cs = some w) :
    w.WellFormed ∧ w.text = cs := by
  simp only [read?] at h
  split at h
  · next hwf =>
    obtain ⟨s, hs, rfl⟩ := Option.map_eq_some_iff.1 h
    obtain ⟨hscale, htext⟩ := Scale.read?_eq_some_iff.1 hs
    refine ⟨⟨hwf, hscale⟩, ?_⟩
    rw [text, Numeral.text_eq, htext, List.append_assoc, List.append_assoc,
      fractionText_splitFraction, List.takeWhile_append_dropWhile, Sign.text_split]
  · cases h

theorem read?_text {w : Spelling} (h : w.WellFormed) : read? w.text = some w := by
  obtain ⟨⟨sign, whole, fraction⟩, scale⟩ := w
  obtain ⟨hnumeral, hscale⟩ := h
  -- no part can take a character from the part behind it
  have hrest := Scale.stopsAt_text hscale
  have hfraction := stopsAt_fraction fraction hrest
  rw [text, Numeral.text_eq, List.append_assoc, List.append_assoc, read?,
    Sign.split_text sign (Numeral.stopsAt_unsigned hnumeral scale.text)]
  simp only [takeWhile_append hnumeral.1 hfraction, dropWhile_append hnumeral.1 hfraction,
    splitFraction_fractionText hnumeral.2.1 hrest, if_pos hnumeral,
    Scale.read?_eq_some_iff.2 ⟨hscale, rfl⟩, Option.map_some]

theorem read?_eq_some_iff {cs : List Char} {w : Spelling} :
    read? cs = some w ↔ w.WellFormed ∧ w.text = cs := by
  constructor
  · exact wellFormed_of_read?
  · rintro ⟨hwf, rfl⟩
    exact read?_text hwf

end Spelling

end EnvoySidecar.Quantity
