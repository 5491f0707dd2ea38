import EnvoySidecar.Proofs.Decimal.Rounding

/-! Decimals as rationals. Products and shifts are exact, and the rounding of a decimal is what its
rational rounds to: at the 28th significant digit, or at the least power of ten that decimals count
in where that one is coarser. -/

namespace EnvoySidecar.Decimal

def toRat (d : Decimal) : ℚ :=
  (if d.negative then -1 else 1) * d.magnitude

theorem magnitude_times (d m : Decimal) : (d.times m).magnitude = d.magnitude * m.magnitude := by
  rw [magnitude, magnitude, magnitude, times, zpow_add₀ (by norm_num)]
  push_cast
  ring

theorem magnitude_shift (d : Decimal) (e : ℤ) :
    (d.shift e).magnitude = d.magnitude * 10 ^ e := by
  rw [magnitude, magnitude, shift, zpow_add₀ (by norm_num), mul_assoc]

theorem toRat_times (d m : Decimal) : (d.times m).toRat = d.toRat * m.toRat := by
  rw [toRat, magnitude_times, toRat, toRat, times]
  cases d.negative <;> cases m.negative <;> norm_num

theorem toRat_shift (d : Decimal) (e : ℤ) : (d.shift e).toRat = d.toRat * 10 ^ e := by
  rw [toRat, magnitude_shift, toRat, mul_assoc]
  rfl

theorem abs_toRat (d : Decimal) : |d.toRat| = d.magnitude := by
  rw [toRat, abs_mul, abs_of_nonneg d.magnitude_nonneg]
  cases d.negative <;> norm_num

variable {d r : Decimal}

theorem toRat_eq_zero (h : d.coefficient = 0) : d.toRat = 0 := by
  simp [toRat, magnitude, h]

theorem lastPlace_toRat (d : Decimal) : lastPlace d.toRat = lastPlace d.magnitude := by
  rw [lastPlace, lastPlace, abs_toRat, abs_of_nonneg d.magnitude_nonneg]

theorem negative_of_round? (h : d.round? = some r) : r.negative = d.negative := by
  unfold round? at h
  split at h
  · cases h
    rfl
  · simp only [Option.ite_none_left_eq_some, Option.some.injEq] at h
    rw [← h.2]

theorem magnitude_of_round? (hd : d.coefficient ≠ 0) (h : d.round? = some r) :
    r.magnitude = d.rounded := by
  rw [round?, if_neg hd] at h
  simp only [Option.ite_none_left_eq_some, Option.some.injEq] at h
  rw [← h.2]
  exact carry_magnitude _ _ _

theorem roundsTo_of_round? (h : d.round? = some r) :
    RoundsTo (max (lastPlace d.toRat) (-1000026)) d.toRat r.toRat := by
  by_cases hd : d.coefficient = 0
  · have hr : r.coefficient = 0 := by
      rw [round?, if_pos hd] at h
      cases h
      exact hd
    rw [toRat_eq_zero hr, toRat_eq_zero hd]
    exact .of_isMultiple (.zero _)
  have hr : r.toRat = (if d.negative then -1 else 1) * d.rounded := by
    rw [toRat, negative_of_round? h, magnitude_of_round? hd h]
  rw [lastPlace_toRat, hr]
  exact (roundsTo_rounded hd).signed d.negative

end EnvoySidecar.Decimal
