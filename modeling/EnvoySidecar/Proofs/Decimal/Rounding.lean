import EnvoySidecar.Proofs.Decimal.Nearest

/-! Rounding a decimal, measured in rationals: its magnitude goes to the nearest number of 28 digits
or of the least units that decimals count in. A decimal overflows if its magnitude comes within half
a unit of the first power of ten beyond the range, a unit being one of the last place of the
greatest decimal. -/

namespace EnvoySidecar.Decimal

def magnitude (d : Decimal) : ℚ :=
  d.coefficient * 10 ^ d.exponent

theorem magnitude_nonneg (d : Decimal) : 0 ≤ d.magnitude := by
  unfold magnitude
  positivity

theorem digitCount_pos (n : Nat) : 0 < digitCount n :=
  Nat.length_toDigits_pos

theorem lt_pow_digitCount (n : Nat) : n < 10 ^ digitCount n :=
  (Nat.length_toDigits_le_iff (by decide) (digitCount_pos n)).1 le_rfl

theorem pow_digitCount_le {n : Nat} (h : n ≠ 0) : 10 ^ (digitCount n - 1) ≤ n := by
  by_cases hone : digitCount n = 1
  · rw [hone]
    exact Nat.pos_of_ne_zero h
  · have hpos := digitCount_pos n
    by_contra hlt
    have hle : digitCount n ≤ digitCount n - 1 :=
      (Nat.length_toDigits_le_iff (by decide) (by omega)).2 (by omega)
    omega

theorem pow_le_magnitude {d : Decimal} {k : ℤ} (hd : d.coefficient ≠ 0) (hk : k ≤ d.leading) :
    10 ^ k ≤ d.magnitude := by
  have hpos := digitCount_pos d.coefficient
  have hlead : d.leading = ((digitCount d.coefficient - 1 : ℕ) : ℤ) + d.exponent := by
    unfold leading
    omega
  calc (10 : ℚ) ^ k ≤ 10 ^ d.leading := zpow_le_zpow_right₀ (by norm_num) hk
    _ = ((10 ^ (digitCount d.coefficient - 1) : ℕ) : ℚ) * 10 ^ d.exponent := by
        rw [hlead, zpow_add₀ (by norm_num), zpow_natCast, Nat.cast_pow, Nat.cast_ofNat]
    _ ≤ d.magnitude := by
        refine mul_le_mul_of_nonneg_right ?_ (by positivity)
        exact_mod_cast pow_digitCount_le hd

theorem magnitude_lt_pow {d : Decimal} {k : ℤ} (hk : d.leading < k) : d.magnitude < 10 ^ k := by
  have hlead : d.leading + 1 = (digitCount d.coefficient : ℤ) + d.exponent := by
    unfold leading
    omega
  calc d.magnitude < ((10 ^ digitCount d.coefficient : ℕ) : ℚ) * 10 ^ d.exponent := by
        refine mul_lt_mul_of_pos_right ?_ (by positivity)
        exact_mod_cast lt_pow_digitCount d.coefficient
    _ = 10 ^ (d.leading + 1) := by
        rw [hlead, zpow_add₀ (by norm_num), zpow_natCast, Nat.cast_pow, Nat.cast_ofNat]
    _ ≤ 10 ^ k := zpow_le_zpow_right₀ (by norm_num) hk

theorem lastPlace_magnitude {d : Decimal} (hd : d.coefficient ≠ 0) :
    lastPlace d.magnitude = d.leading - 27 := by
  have hlower : (10 : ℚ) ^ d.leading ≤ d.magnitude := pow_le_magnitude hd le_rfl
  have hupper : d.magnitude < (10 : ℚ) ^ (d.leading + 1) := magnitude_lt_pow (lt_add_one _)
  have hpos : 0 < d.magnitude := lt_of_lt_of_le (by positivity) hlower
  have hlog : Int.log 10 d.magnitude = d.leading := by
    apply le_antisymm
    · refine Int.lt_add_one_iff.1 ((Int.lt_zpow_iff_log_lt (by decide) hpos).1 ?_)
      exact_mod_cast hupper
    · refine (Int.zpow_le_iff_le_log (by decide) hpos).1 ?_
      exact_mod_cast hlower
  rw [lastPlace, abs_of_pos hpos, hlog]

theorem lt_leading_iff {d : Decimal} {k : ℤ} (h : d.coefficient ≠ 0 ∨ d.exponent ≤ k) :
    k < d.leading ↔ 10 ^ (k + 1) ≤ d.magnitude := by
  by_cases hd : d.coefficient = 0
  · have hlead : d.leading = d.exponent := by
      simp [leading, hd, digitCount, Text.digits]
    have hmag : d.magnitude = 0 := by
      simp [magnitude, hd]
    have hpos : (0 : ℚ) < 10 ^ (k + 1) := by positivity
    rw [hlead, hmag]
    exact ⟨fun hlt => absurd hlt (not_lt.2 (h.resolve_left (not_not.2 hd))),
      fun hle => absurd hle (not_le.2 hpos)⟩
  · refine ⟨fun hlt => pow_le_magnitude hd hlt, fun hle => ?_⟩
    by_contra hlt
    exact absurd hle (not_le.2 (magnitude_lt_pow (by omega)))

theorem carry_magnitude (b : Bool) (c : Nat) (e : ℤ) :
    magnitude ⟨b, (carry c e).1, (carry c e).2⟩ = c * 10 ^ e := by
  unfold carry
  split
  · next hc =>
    have hten : (10 : ℚ) ^ precision = 10 ^ (precision - 1) * 10 := by
      norm_num [precision]
    rw [magnitude, hc, zpow_add₀ (by norm_num)]
    push_cast [Nat.pow_eq]
    rw [hten]
    ring
  · rfl

theorem lt_leading_carry_iff (b : Bool) {c : Nat} {e k : ℤ} (h : c ≠ 0 ∨ e ≤ k) :
    k < leading ⟨b, (carry c e).1, (carry c e).2⟩ ↔ 10 ^ (k + 1) ≤ (c : ℚ) * 10 ^ e := by
  rw [← carry_magnitude b c e]
  refine lt_leading_iff ?_
  unfold carry
  split
  · exact .inl (Nat.pow_pos (by decide)).ne'
  · exact h

section Shift

variable {d : Decimal}

def dropped (d : Decimal) : Nat :=
  (d.roundedExponent - d.exponent).toNat

def rounded (d : Decimal) : ℚ :=
  roundShift d.coefficient d.dropped * 10 ^ d.roundedExponent

theorem rounded_nonneg (d : Decimal) : 0 ≤ d.rounded := by
  unfold rounded
  positivity

theorem pow_dropped (d : Decimal) :
    (10 : ℚ) ^ d.roundedExponent = ((10 ^ d.dropped : ℕ) : ℚ) * 10 ^ d.exponent :=
  pow_eq_units (le_max_left _ _)

theorem nearest_rounded (d : Decimal) :
    Nearest (d.magnitude / 10 ^ d.roundedExponent) (roundShift d.coefficient d.dropped) := by
  have hpos : (0 : ℚ) < 10 ^ d.exponent := by positivity
  have hquot : d.magnitude / 10 ^ d.roundedExponent = (d.coefficient : ℚ) / 10 ^ d.dropped := by
    rw [pow_dropped, magnitude, mul_div_mul_right _ _ hpos.ne', Nat.cast_pow, Nat.cast_ofNat]
  rw [hquot]
  exact .roundShift _ _

theorem roundedExponent_eq (hd : d.coefficient ≠ 0) :
    d.roundedExponent = max d.exponent (max (lastPlace d.magnitude) tinyExponent) := by
  rw [lastPlace_magnitude hd]
  unfold roundedExponent leading precision
  omega

theorem roundsTo_rounded (hd : d.coefficient ≠ 0) :
    RoundsTo (max (lastPlace d.magnitude) tinyExponent) d.magnitude d.rounded := by
  have hexp := roundedExponent_eq hd
  have hunits : RoundsTo d.roundedExponent d.magnitude d.rounded := ⟨_, d.nearest_rounded, rfl⟩
  rcases le_total d.exponent (max (lastPlace d.magnitude) tinyExponent) with hle | hle
  · rwa [hexp, max_eq_right hle] at hunits
  · -- the decimal has no digits to drop, and is its own rounding at either place
    have hown : IsMultiple d.exponent d.magnitude := ⟨d.coefficient, rfl⟩
    rw [hexp, max_eq_left hle] at hunits
    rw [hunits.unique (.of_isMultiple hown)]
    exact .of_isMultiple (hown.mono hle)

theorem roundShift_ne_zero (hd : d.coefficient ≠ 0) (h : tinyExponent < d.roundedExponent) :
    roundShift d.coefficient d.dropped ≠ 0 := by
  have hpos : (0 : ℚ) < 10 ^ d.roundedExponent := by positivity
  have hdigits := digitCount_pos d.coefficient
  have hlead : d.roundedExponent ≤ d.leading := by
    unfold roundedExponent precision leading at *
    omega
  have hone : (1 : ℤ) ≤ roundShift d.coefficient d.dropped := by
    apply d.nearest_rounded.le_of_le
    rw [Int.cast_one, one_le_div hpos]
    exact pow_le_magnitude hd hlead
  omega

end Shift

def Overflows (x : ℚ) : Prop :=
  10 ^ (maxExponent + 1) ≤ x + 10 ^ (maxExponent + 1 - precision) / 2

theorem not_overflows_zero : ¬Overflows 0 := by
  have h := half_pow_lt (show maxExponent + 1 - precision ≤ maxExponent + 1 by decide)
  unfold Overflows
  linarith

theorem pow_le_rounded_iff {d : Decimal} (hd : d.coefficient ≠ 0) :
    10 ^ (maxExponent + 1) ≤ d.rounded ↔ Overflows d.magnitude := by
  have hplace : max (lastPlace d.magnitude) tinyExponent ≤ maxExponent + 1 - precision ∨
      max (lastPlace d.magnitude) tinyExponent = lastPlace d.magnitude := by
    unfold tinyExponent maxExponent precision
    omega
  have hreach := (roundsTo_rounded hd).pow_le_abs_iff (le_max_left _ _) hplace
  rwa [abs_of_nonneg d.rounded_nonneg, abs_of_nonneg d.magnitude_nonneg] at hreach

theorem round?_eq_none_iff (d : Decimal) : d.round? = none ↔ Overflows d.magnitude := by
  by_cases hd : d.coefficient = 0
  · have hmag : d.magnitude = 0 := by simp [magnitude, hd]
    rw [round?, if_pos hd, hmag]
    exact iff_of_false (by simp) not_overflows_zero
  · have hsmall : roundShift d.coefficient d.dropped ≠ 0 ∨ d.roundedExponent ≤ maxExponent := by
      by_cases h : d.roundedExponent ≤ maxExponent
      · exact .inr h
      · have htiny : tinyExponent < maxExponent := by decide
        exact .inl (roundShift_ne_zero hd (by omega))
    have hlead := lt_leading_carry_iff d.negative hsmall
    rw [round?, if_neg hd]
    simp only [ite_eq_left_iff, reduceCtorEq, imp_false, not_not]
    exact hlead.trans (pow_le_rounded_iff hd)

end EnvoySidecar.Decimal
