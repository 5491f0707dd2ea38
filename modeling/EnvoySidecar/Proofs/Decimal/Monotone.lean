import EnvoySidecar.Proofs.Decimal.Value

/-! Rounding keeps the order of rationals although each is rounded at a place of its own. Where the
places differ a power of ten lies between the two, and neither rounding goes past it. -/

namespace EnvoySidecar

variable {e : ℤ} {x y x' y' : ℚ}

theorem lastPlace_neg (x : ℚ) : lastPlace (-x) = lastPlace x := by
  rw [lastPlace, lastPlace, abs_neg]

theorem lastPlace_mono (hx : 0 < x) (h : x ≤ y) : lastPlace x ≤ lastPlace y := by
  have hlog := Int.log_mono_right (b := 10) hx h
  rw [lastPlace, lastPlace, abs_of_pos hx, abs_of_pos (hx.trans_le h)]
  omega

namespace RoundsTo

theorem mono (hx : RoundsTo e x x') (hy : RoundsTo e y y') (h : x ≤ y) : x' ≤ y' := by
  obtain ⟨m, hm, rfl⟩ := hx
  obtain ⟨n, hn, rfl⟩ := hy
  have hpos : (0 : ℚ) < 10 ^ e := by positivity
  have hmn : m ≤ n := hm.mono hn (div_le_div_of_nonneg_right h hpos.le)
  exact mul_le_mul_of_nonneg_right (by exact_mod_cast hmn) hpos.le

theorem nonneg (h : RoundsTo e x x') (hx : 0 ≤ x) : 0 ≤ x' :=
  (of_isMultiple (.zero e)).mono h hx

theorem nonpos (h : RoundsTo e x x') (hx : x ≤ 0) : x' ≤ 0 :=
  h.mono (of_isMultiple (.zero e)) hx

theorem mono_of_pos (hx : RoundsTo (max (lastPlace x) e) x x')
    (hy : RoundsTo (max (lastPlace y) e) y y') (hpos : 0 < x) (h : x ≤ y) : x' ≤ y' := by
  have hypos := hpos.trans_le h
  rcases (max_le_max_right e (lastPlace_mono hpos h)).eq_or_lt with heq | hlt
  · exact hx.mono (heq ▸ hy) h
  · -- the greater one keeps 28 digits, and its leading one lies beyond all of the other's
    have hplace : max (lastPlace y) e = lastPlace y := by omega
    rw [hplace] at hy
    calc x' ≤ |x'| := le_abs_self x'
      _ ≤ 10 ^ (max (lastPlace x) e + 28) := hx.abs_le_pow (le_max_left _ _)
      _ ≤ 10 ^ (lastPlace y + 27) := zpow_le_zpow_right₀ (by norm_num) (by omega)
      _ ≤ |y'| := hy.pow_le_abs hypos.ne'
      _ = y' := abs_of_nonneg (hy.nonneg hypos.le)

theorem mono_places (hx : RoundsTo (max (lastPlace x) e) x x')
    (hy : RoundsTo (max (lastPlace y) e) y y') (h : x ≤ y) : x' ≤ y' := by
  rcases lt_or_ge 0 x with hxpos | hxneg
  · exact hx.mono_of_pos hy hxpos h
  rcases lt_or_ge y 0 with hyneg | hypos
  · rw [← lastPlace_neg] at hx hy
    exact neg_le_neg_iff.1 (hy.neg.mono_of_pos hx.neg (neg_pos.2 hyneg) (neg_le_neg h))
  · exact (hx.nonpos hxneg).trans (hy.nonneg hypos)

end RoundsTo

theorem Decimal.toRat_le_of_round? {d d' r r' : Decimal} (h : d.round? = some r)
    (h' : d'.round? = some r') (hle : d.toRat ≤ d'.toRat) : r.toRat ≤ r'.toRat :=
  (roundsTo_of_round? h).mono_places (roundsTo_of_round? h') hle

end EnvoySidecar
