import EnvoySidecar.Proofs.Quantity.Grammar

/-! A suffix for a power of ten and the exponent that writes this power are one scale: the product
with the suffix's multiple is the shift by the exponent, digit for digit, so that rounding cannot
tell them apart. -/

namespace EnvoySidecar

theorem Decimal.times_one (d : Decimal) (e : ℤ) : d.times ⟨false, 1, e⟩ = d.shift e := by
  rw [times, shift, Bool.bne_false, Nat.mul_one]

namespace Quantity

open Text

def Sign.ofInt (p : ℤ) : Sign :=
  if p < 0 then .minus else .none

theorem Sign.apply_ofInt (p : ℤ) : (ofInt p).apply p.natAbs = p := by
  by_cases hp : p < 0
  · rw [ofInt, if_pos hp, apply, if_pos rfl]
    omega
  · rw [ofInt, if_neg hp, apply, if_neg (by decide)]
    omega

theorem toList_toString (p : ℤ) :
    (toString p).toList = (Sign.ofInt p).text ++ digits p.natAbs := by
  cases p with
  | ofNat n =>
    rw [Sign.ofInt, if_neg (by simp)]
    exact Nat.toList_repr
  | negSucc n =>
    rw [Sign.ofInt, if_pos (by simp)]
    exact String.toList_append.trans (congrArg _ Nat.toList_repr)

namespace Scale

/-- The exponent that writes a power of ten in the least digits. -/
def ofPower (p : ℤ) : Scale :=
  exponent 'e' (.ofInt p) (digits p.natAbs)

theorem wellFormed_ofPower (p : ℤ) : (ofPower p).WellFormed :=
  ⟨.inl rfl, digits_ne_nil _, List.all_eq_true.2 fun _ hc => isDigit_of_mem_digits hc⟩

theorem text_ofPower (p : ℤ) : (ofPower p).text = ("e" ++ toString p).toList := by
  rw [String.toList_append, toList_toString]
  rfl

theorem apply_ofPower {p : ℤ} (hp : p.natAbs ≤ exponentLimit) (d : Decimal) :
    (ofPower p).apply d = rounded (d.shift p) := by
  have hlength : (digits p.natAbs).length ≤ 7 := by
    refine (Nat.length_toDigits_le_iff (by decide) (by decide)).2 ?_
    exact hp.trans_lt (by decide)
  have hread : ¬(ofPower p).Unreadable := by
    unfold Unreadable ofPower digitLimit
    omega
  have hshift : ¬(ofPower p).Unshiftable := by
    rw [ofPower, Unshiftable, ofDigits_digits]
    omega
  rw [apply_of_applicable ⟨hread, hshift⟩, ofPower, unrounded, ofDigits_digits, Sign.apply_ofInt]

theorem apply_suffix {s : Suffix} (h : s.factor = 1) (d : Decimal) :
    (suffix s).apply d = (ofPower s.power).apply d := by
  have hbound : s.power.natAbs ≤ exponentLimit := by
    cases s <;> decide
  rw [apply_ofPower hbound, apply, Suffix.multiple, h, Decimal.times_one]

end Scale

variable {field : ResourceField} {number suffix : String} {v : ℚ} {p : ℤ} {n : Numeral}

theorem read?_append {cs : List Char} {s : Scale} (hn : n.WellFormed) (hs : s.WellFormed)
    (hnumber : n.text = number.toList) (hscale : s.text = cs) :
    Spelling.read? (number.toList ++ cs) = some ⟨n, s⟩ :=
  Spelling.read?_eq_some_iff.2 ⟨⟨hn, hs⟩, by rw [Spelling.text, hnumber, hscale]⟩

/-- A suffix for a power of ten and the exponent that writes the power have one outcome: either
the same decimal, digit for digit, or both numbers are out of range. -/
theorem suffix_as_exponent (hnumber : IsNumber number.toList v)
    (hsuffix : (suffix, p) ∈ decimalSuffixes) :
    (∃ d, parse field (number ++ suffix) = .ok ⟨number ++ suffix, d⟩ ∧
      parse field (number ++ ("e" ++ toString p)) = .ok ⟨number ++ ("e" ++ toString p), d⟩) ∨
    (parse field (number ++ suffix) = .error .overflow ∧
      parse field (number ++ ("e" ++ toString p)) = .error .overflow) := by
  obtain ⟨n, hn, htext, -⟩ := isNumber_iff.1 hnumber
  obtain ⟨s, -, hs, hfactor, rfl⟩ := suffixes_complete.1 _ hsuffix
  have hread : Spelling.read? (number ++ suffix).toList = some ⟨n, .suffix s⟩ := by
    rw [String.toList_append]
    exact read?_append hn trivial htext hs
  have hread' : Spelling.read? (number ++ ("e" ++ toString s.power)).toList =
      some ⟨n, .ofPower s.power⟩ := by
    rw [String.toList_append]
    exact read?_append hn (Scale.wellFormed_ofPower _) htext (Scale.text_ofPower _)
  have hsame : Spelling.amount ⟨n, .suffix s⟩ = Spelling.amount ⟨n, .ofPower s.power⟩ :=
    Scale.apply_suffix hfactor n.amount
  have hrounded : Spelling.amount ⟨n, .suffix s⟩ = rounded (n.amount.times s.multiple) := rfl
  by_cases hover : Decimal.Overflows (n.amount.times s.multiple).magnitude
  · have hamount := hrounded.trans (rounded_of_overflows hover)
    exact .inr ⟨parse_of_trap field hread hamount,
      parse_of_trap field hread' (hsame.symm.trans hamount)⟩
  · obtain ⟨d, hd⟩ := rounded_of_not_overflows hover
    have hamount := hrounded.trans hd
    exact .inl ⟨d, parse_of_ok field hread hamount,
      parse_of_ok field hread' (hsame.symm.trans hamount)⟩

theorem suffix_as_exponent_micro :
    (IsNumber "-99999999999999999999999999.9995".toList
        (Numeral.value ⟨.minus, List.replicate 26 '9', some ['9', '9', '9', '5']⟩) ∧
      ("u", -6) ∈ decimalSuffixes) ∧
    ((∃ d, parse .cpuLimit "-99999999999999999999999999.9995u" =
          .ok ⟨"-99999999999999999999999999.9995u", d⟩ ∧
        parse .cpuLimit "-99999999999999999999999999.9995e-6" =
          .ok ⟨"-99999999999999999999999999.9995e-6", d⟩) ∨
      (parse .cpuLimit "-99999999999999999999999999.9995u" = .error .overflow ∧
        parse .cpuLimit "-99999999999999999999999999.9995e-6" = .error .overflow)) := by
  have hnumber : IsNumber "-99999999999999999999999999.9995".toList
      (Numeral.value ⟨.minus, List.replicate 26 '9', some ['9', '9', '9', '5']⟩) :=
    isNumber_iff.2 ⟨_, by decide, by decide, rfl⟩
  have hsuffix : ("u", -6) ∈ decimalSuffixes := by decide
  exact ⟨⟨hnumber, hsuffix⟩, suffix_as_exponent hnumber hsuffix⟩

end Quantity

end EnvoySidecar
