import EnvoySidecar.Proofs.Quantity.Grammar

/-! Which texts are read as quantities: those of the grammar whose exponent may be read and scaled
by, and whose value stays in range when it is rounded to 28 digits. No text can be taken apart in
two ways, and a text outside the grammar is named invalid. -/

namespace EnvoySidecar.Quantity

open Text

/-- Rounded to 28 digits the number stays below the end of the range. -/
def InRange (x : ℚ) : Prop :=
  ∃ y, RoundsTo (lastPlace x) x y ∧ |y| < 10 ^ (1000000 : ℤ)

/-- A scale that a number may have behind it. -/
inductive Accepts : ℚ → List Char → Prop
  | suffix {v m : ℚ} {cs : List Char} : IsSuffix cs m → InRange (v * m) → Accepts v cs
  | exponent {v : ℚ} {cs ds : List Char} {p : ℤ} : IsExponent cs ds p → ds.length ≤ 4300 →
      |p| ≤ 2000054 → InRange (v * 10 ^ p) → Accepts v cs

theorem inRange_iff {x : ℚ} : InRange x ↔ ¬Decimal.Overflows |x| := by
  obtain ⟨y, hy⟩ := RoundsTo.exists_roundsTo (lastPlace x) x
  -- half a unit of the 28th place below the end is where the overflow begins
  have hreach : Decimal.Overflows |x| ↔ 10 ^ (1000000 : ℤ) ≤ |y| :=
    (hy.pow_le_abs_iff (k := 999972) le_rfl (.inr rfl)).symm
  rw [hreach, not_le]
  constructor
  · rintro ⟨z, hz, hlt⟩
    rwa [hy.unique hz]
  · exact fun hlt => ⟨y, hy, hlt⟩

theorem Sign.abs_apply (s : Sign) (n : ℕ) : |s.apply n| = n := by
  cases s <;> simp [apply]

namespace Scale

theorem applicable_exponent_iff {letter : Char} {sign : Sign} {ds : List Char} :
    (exponent letter sign ds).Applicable ↔
      ds.length ≤ 4300 ∧ |sign.apply (ofDigits 10 ds)| ≤ 2000054 := by
  rw [Sign.abs_apply]
  refine and_congr not_lt (not_lt.trans ?_)
  exact Nat.cast_le.symm

end Scale

theorem accepts_iff {v : ℚ} {cs : List Char} :
    Accepts v cs ↔ ∃ s : Scale, s.WellFormed ∧ s.text = cs ∧ s.Applicable ∧
      InRange (v * s.multiplier) := by
  constructor
  · rintro (⟨hsuffix, hrange⟩ | ⟨hexponent, hlength, hbound, hrange⟩)
    · obtain ⟨s, rfl, rfl⟩ := isSuffix_iff.1 hsuffix
      exact ⟨.suffix s, trivial, rfl, ⟨id, id⟩, hrange⟩
    · obtain ⟨letter, sign, hwf, rfl, rfl⟩ := isExponent_iff.1 hexponent
      exact ⟨_, hwf, rfl, Scale.applicable_exponent_iff.2 ⟨hlength, hbound⟩, hrange⟩
  · rintro ⟨s, hwf, rfl, happlicable, hrange⟩
    cases s with
    | suffix s => exact .suffix (isSuffix_iff.2 ⟨s, rfl, rfl⟩) hrange
    | exponent letter sign ds =>
      obtain ⟨hlength, hbound⟩ := Scale.applicable_exponent_iff.1 happlicable
      exact .exponent (isExponent_iff.2 ⟨letter, sign, hwf, rfl, rfl⟩) hlength hbound hrange

namespace Spelling

theorem amount_ok_iff (w : Spelling) :
    (∃ d, w.amount = .ok d) ↔ w.scale.Applicable ∧ InRange w.value := by
  rw [inRange_iff, ← magnitude_unrounded]
  constructor
  · rintro ⟨d, hd⟩
    have happlicable := applicable_of_amount hd
    refine ⟨happlicable, fun hover => ?_⟩
    rw [amount_of_applicable happlicable, rounded_of_overflows hover] at hd
    cases hd
  · rintro ⟨happlicable, hover⟩
    rw [amount_of_applicable happlicable]
    exact rounded_of_not_overflows hover

end Spelling

variable (field : ResourceField) (s : String)

theorem parse_ok_iff :
    (∃ q, parse field s = .ok q) ↔
      ∃ w : Spelling, w.WellFormed ∧ w.text = s.toList ∧ ∃ d, w.amount = .ok d := by
  constructor
  · rintro ⟨q, hq⟩
    obtain ⟨w, hwf, htext, hamount, -⟩ := parse_eq_ok hq
    exact ⟨w, hwf, htext, _, hamount⟩
  · rintro ⟨w, hwf, htext, d, hd⟩
    exact ⟨_, parse_of_ok field (Spelling.read?_eq_some_iff.2 ⟨hwf, htext⟩) hd⟩

theorem parse_accepts_iff :
    (∃ q, parse field s = .ok q) ↔
      ∃ number scale v, s.toList = number ++ scale ∧ IsNumber number v ∧ Accepts v scale := by
  rw [parse_ok_iff]
  constructor
  · rintro ⟨⟨n, scale⟩, ⟨hnumeral, hscale⟩, htext, hok⟩
    obtain ⟨happlicable, hrange⟩ := (Spelling.amount_ok_iff _).1 hok
    exact ⟨_, _, _, htext.symm, isNumber_iff.2 ⟨n, hnumeral, rfl, rfl⟩,
      accepts_iff.2 ⟨scale, hscale, rfl, happlicable, hrange⟩⟩
  · rintro ⟨number, scale, v, htext, hnumber, haccepts⟩
    obtain ⟨n, hnumeral, rfl, rfl⟩ := isNumber_iff.1 hnumber
    obtain ⟨t, hscale, rfl, happlicable, hrange⟩ := accepts_iff.1 haccepts
    exact ⟨⟨n, t⟩, ⟨hnumeral, hscale⟩, htext.symm,
      (Spelling.amount_ok_iff ⟨n, t⟩).2 ⟨happlicable, hrange⟩⟩

variable {field s} {number scale : List Char}

theorem Splits.unique {cs number' scale' : List Char} (h : Splits cs number scale)
    (h' : Splits cs number' scale') : number = number' ∧ scale = scale' := by
  obtain ⟨w, hwf, rfl, rfl, rfl⟩ := splits_iff.1 h
  obtain ⟨w', hwf', htext, rfl, rfl⟩ := splits_iff.1 h'
  rw [Spelling.eq_of_text hwf' hwf htext]
  exact ⟨rfl, rfl⟩

theorem not_isSuffix_of_isExponent {cs ds : List Char} {m : ℚ} {p : ℤ} (h : IsExponent cs ds p) :
    ¬IsSuffix cs m := by
  intro hsuffix
  obtain ⟨letter, sign, hwf, htext, -⟩ := isExponent_iff.1 h
  obtain ⟨s, rfl, -⟩ := isSuffix_iff.1 hsuffix
  have hread := Scale.exponent?_text hwf
  rw [htext, Suffix.exponent?_text] at hread
  cases hread

example : ["1E", "1E3", "1Ei"].map (fun s => (parse .cpuLimit s).toOption.map Quantity.amount) =
    [some ⟨false, 1, 18⟩, some ⟨false, 1, 3⟩, some ⟨false, 1152921504606846976, 0⟩] := by
  decide

theorem parse_outside (h : ¬∃ number scale, Splits s.toList number scale) :
    parse field s = .error (.invalid field s) := by
  cases hread : Spelling.read? s.toList with
  | none => simp only [parse, hread]
  | some w =>
    obtain ⟨hwf, htext⟩ := Spelling.read?_eq_some_iff.1 hread
    exact absurd ⟨_, _, splits_iff.2 ⟨w, hwf, htext, rfl, rfl⟩⟩ h

/-- Exactly the texts of the grammar are read whose scale is one that their number may have, and a
quantity shows its text. A text of the grammar splits in one way only, and any other is named
invalid. -/
theorem parse_grammar (field : ResourceField) (s : String) :
    ((∃ q, parse field s = .ok q) ↔
      ∃ number scale v, s.toList = number ++ scale ∧ IsNumber number v ∧ Accepts v scale) ∧
    (∀ q, parse field s = .ok q → q.raw = s ∧ toString q = s) ∧
    ((∃ number scale, Splits s.toList number scale) →
      ∃! split : List Char × List Char, Splits s.toList split.1 split.2) ∧
    (∀ cs ds m p, IsExponent cs ds p → ¬IsSuffix cs m) ∧
    ((¬∃ number scale, Splits s.toList number scale) →
      parse field s = .error (.invalid field s)) := by
  refine ⟨parse_accepts_iff field s, fun q hq => ?_, ?_, ?_, parse_outside⟩
  · obtain ⟨_, _, _, _, hraw⟩ := parse_eq_ok hq
    exact ⟨hraw, hraw⟩
  · rintro ⟨number, scale, h⟩
    refine ⟨(number, scale), h, fun split hsplit => ?_⟩
    obtain ⟨hnumber, hscale⟩ := hsplit.unique h
    exact Prod.ext hnumber hscale
  · exact fun cs ds m p h => not_isSuffix_of_isExponent h

end EnvoySidecar.Quantity
