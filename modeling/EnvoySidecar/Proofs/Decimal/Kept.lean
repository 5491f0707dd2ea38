import EnvoySidecar.Proofs.Decimal.Rounding

/-! Decimals that have a place as they are: at most 28 digits, and neither end beyond the range.
Rounding leads to one of them and leaves each of them alone. -/

namespace EnvoySidecar.Decimal

structure Kept (d : Decimal) : Prop where
  digits : d.coefficient < 10 ^ precision
  least : tinyExponent ≤ d.exponent
  greatest : d.leading ≤ maxExponent

variable {d r : Decimal}

theorem leading_of_zero (hd : d.coefficient = 0) : d.leading = d.exponent := by
  simp [leading, hd, digitCount, Text.digits]

theorem roundShift_le (d : Decimal) :
    roundShift d.coefficient d.dropped ≤ 10 ^ precision := by
  have hpos : (0 : ℚ) < 10 ^ d.roundedExponent := by positivity
  have hlead : d.leading < d.roundedExponent + precision := by
    unfold leading roundedExponent
    omega
  have hbound : d.magnitude / 10 ^ d.roundedExponent ≤ ((10 ^ precision : ℤ) : ℚ) := by
    rw [div_le_iff₀ hpos, pow_units]
    exact (magnitude_lt_pow hlead).le
  exact_mod_cast d.nearest_rounded.ge_of_ge hbound

theorem carry_lt {c : Nat} (h : c ≤ 10 ^ precision) (e : ℤ) : (carry c e).1 < 10 ^ precision := by
  unfold carry
  split
  · exact Nat.pow_lt_pow_right (by decide) (by decide)
  · next hne => exact lt_of_le_of_ne h hne

theorem le_carry (c : Nat) (e : ℤ) : e ≤ (carry c e).2 := by
  unfold carry
  split
  · exact (lt_add_one e).le
  · exact le_rfl

theorem kept_of_round? (h : d.round? = some r) : r.Kept := by
  by_cases hd : d.coefficient = 0
  · rw [round?, if_pos hd] at h
    simp only [Option.some.injEq] at h
    have hr : r.coefficient = 0 := by rw [← h, hd]
    have hexponent : r.exponent = min (max d.exponent tinyExponent) maxExponent := by rw [← h]
    refine ⟨?_, ?_, ?_⟩
    · rw [hr]
      exact Nat.pow_pos (by decide)
    · rw [hexponent]
      exact le_min (le_max_right _ _) (by decide)
    · rw [leading_of_zero hr, hexponent]
      exact min_le_right _ _
  · rw [round?, if_neg hd] at h
    simp only [Option.ite_none_left_eq_some, Option.some.injEq, not_lt] at h
    obtain ⟨hlead, rfl⟩ := h
    refine ⟨carry_lt d.roundShift_le _, ?_, hlead⟩
    have htiny : tinyExponent ≤ d.roundedExponent := le_max_of_le_right (le_max_right _ _)
    exact htiny.trans (le_carry _ _)

theorem digitCount_le (h : d.coefficient < 10 ^ precision) : digitCount d.coefficient ≤ precision :=
  (Nat.length_toDigits_le_iff (by decide) (by decide)).2 h

theorem roundShift_zero (n : Nat) : roundShift n 0 = n := by
  have h : roundShift n 0 = if 1 < 2 * (n % 1) || (1 = 2 * (n % 1) && n / 1 % 2 = 1)
      then n / 1 + 1 else n / 1 := rfl
  rw [h, Nat.mod_one, Nat.div_one]
  exact if_neg (by simp)

theorem round?_of_kept (h : d.Kept) : d.round? = some d := by
  by_cases hd : d.coefficient = 0
  · have hgreatest := h.greatest
    rw [leading_of_zero hd] at hgreatest
    rw [round?, if_pos hd, max_eq_left h.least, min_eq_left hgreatest]
  · have hexponent : d.roundedExponent = d.exponent := by
      have hcount := digitCount_le h.digits
      have hleast := h.least
      unfold roundedExponent
      omega
    have hcarry : carry d.coefficient d.exponent = (d.coefficient, d.exponent) :=
      if_neg h.digits.ne
    rw [round?, if_neg hd]
    simp only [hexponent, sub_self, Int.toNat_zero, roundShift_zero, hcarry]
    exact if_neg (not_lt.2 h.greatest)

end EnvoySidecar.Decimal
