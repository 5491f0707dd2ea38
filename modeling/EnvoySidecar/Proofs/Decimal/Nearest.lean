import Mathlib.Algebra.Order.Field.Power
import Mathlib.Algebra.Order.Round
import Mathlib.Data.Int.Log
import Mathlib.Data.Nat.Cast.Order.Field
import Mathlib.Data.Rat.Floor
import Mathlib.Tactic.Linarith
import Mathlib.Tactic.Positivity
import Mathlib.Tactic.Ring
import EnvoySidecar.Decimal

/-! Rounding by what it means: the nearest multiple of a power of ten, and of two that are equally
near the even one. The power is that of the 28th significant digit of the rational, or the least
one that decimals count in. -/

namespace EnvoySidecar

/-- The integer nearest to a rational, the even one where two are equally near. -/
structure Nearest (x : ℚ) (m : ℤ) : Prop where
  near : |x - m| ≤ 1 / 2
  even : |x - m| = 1 / 2 → Even m

namespace Nearest

variable {x y : ℚ} {m n : ℤ}

theorem intCast (m : ℤ) : Nearest m m where
  near := by norm_num
  even := by norm_num

theorem neg (h : Nearest x m) : Nearest (-x) (-m) := by
  have habs : |-x - ((-m : ℤ) : ℚ)| = |x - m| := by
    rw [Int.cast_neg, neg_sub_neg, abs_sub_comm]
  refine ⟨habs.le.trans h.near, fun htie => ?_⟩
  exact (h.even (habs.symm.trans htie)).neg

theorem le_of_le (h : Nearest x m) (hn : (n : ℚ) ≤ x) : n ≤ m := by
  by_contra hlt
  have hstep : (m : ℚ) + 1 ≤ n := by exact_mod_cast Int.add_one_le_iff.2 (not_le.1 hlt)
  have hnear := (abs_le.1 h.near).2
  linarith

theorem ge_of_ge (h : Nearest x m) (hn : x ≤ n) : m ≤ n := by
  have hneg : ((-n : ℤ) : ℚ) ≤ -x := by
    rw [Int.cast_neg]
    exact neg_le_neg hn
  have hle := h.neg.le_of_le hneg
  omega

theorem abs (h : Nearest x m) : Nearest |x| |m| := by
  rcases le_total 0 x with hx | hx
  · have hm : 0 ≤ m := h.le_of_le (by exact_mod_cast hx)
    rwa [abs_of_nonneg hx, abs_of_nonneg hm]
  · have hm : m ≤ 0 := h.ge_of_ge (by exact_mod_cast hx)
    rw [abs_of_nonpos hx, abs_of_nonpos hm]
    exact h.neg

theorem mono (h : Nearest x m) (h' : Nearest y n) (hxy : x ≤ y) : m ≤ n := by
  by_contra hlt
  have hm := (abs_le.1 h.near).1
  have hn := (abs_le.1 h'.near).2
  -- only neighbours could be out of order, and then both rationals are half way between them
  have hsucc : m = n + 1 := by
    have hle : (m : ℚ) ≤ n + 1 := by linarith
    have hle' : m ≤ n + 1 := by exact_mod_cast hle
    omega
  have hcast : (m : ℚ) = n + 1 := by exact_mod_cast hsucc
  have hx : x - m = -(1 / 2) := by linarith
  have hy : y - n = 1 / 2 := by linarith
  have hmeven : Even m := h.even (by rw [hx]; norm_num)
  have hneven : Even n := h'.even (by rw [hy]; norm_num)
  rw [hsucc, Int.even_add_one] at hmeven
  exact hmeven hneven

theorem unique (h : Nearest x m) (h' : Nearest x n) : m = n :=
  le_antisymm (h.mono h' le_rfl) (h'.mono h le_rfl)

theorem exists_nearest (x : ℚ) : ∃ m, Nearest x m := by
  have hnear := abs_sub_round x
  by_cases heven : Even (round x)
  · exact ⟨round x, hnear, fun _ => heven⟩
  by_cases htie : |x - round x| = 1 / 2
  · -- the other neighbour is as near, and even
    rcases eq_or_eq_neg_of_abs_eq htie with h | h
    · refine ⟨round x + 1, ?_, fun _ => Int.even_add_one.2 heven⟩
      have hdist : x - ((round x + 1 : ℤ) : ℚ) = -(1 / 2) := by
        push_cast
        linarith
      rw [hdist]
      norm_num
    · refine ⟨round x - 1, ?_, fun _ => Int.even_sub_one.2 heven⟩
      have hdist : x - ((round x - 1 : ℤ) : ℚ) = 1 / 2 := by
        push_cast
        linarith
      rw [hdist]
      norm_num
  · exact ⟨round x, hnear, fun h => absurd h htie⟩

theorem even_le_iff (h : Nearest x m) (hn : Even n) : n ≤ m ↔ (n : ℚ) ≤ x + 1 / 2 := by
  constructor
  · intro hle
    have hcast : (n : ℚ) ≤ m := by exact_mod_cast hle
    have hnear := (abs_le.1 h.near).1
    linarith
  · intro hle
    by_contra hlt
    have hcast : (m : ℚ) + 1 ≤ n := by exact_mod_cast Int.add_one_le_iff.2 (not_le.1 hlt)
    have hnear := (abs_le.1 h.near).2
    have htie : x - m = 1 / 2 := by linarith
    have hsucc : n = m + 1 := by
      have hle' : (n : ℚ) ≤ m + 1 := by linarith
      have hle'' : n ≤ m + 1 := by exact_mod_cast hle'
      omega
    rw [hsucc, Int.even_add_one] at hn
    exact hn (h.even (by rw [htie]; norm_num))

theorem halfEven {unit q r : ℕ} (hr : r < unit) :
    Nearest ((q : ℚ) + r / unit)
      ((if unit < 2 * r || (unit = 2 * r && q % 2 = 1) then q + 1 else q : ℕ) : ℤ) := by
  have hpos : (0 : ℚ) < unit := by exact_mod_cast Nat.zero_lt_of_lt hr
  have hnonneg : (0 : ℚ) ≤ r / unit := by positivity
  have hlt : (r : ℚ) / unit < 1 := by
    rw [div_lt_one hpos]
    exact_mod_cast hr
  have hle : (r : ℚ) / unit ≤ 1 / 2 ↔ 2 * r ≤ unit := by
    rw [div_le_div_iff₀ hpos two_pos, one_mul, mul_comm]
    exact_mod_cast Iff.rfl
  have hge : 1 / 2 ≤ (r : ℚ) / unit ↔ unit ≤ 2 * r := by
    rw [div_le_div_iff₀ two_pos hpos, one_mul, mul_comm]
    exact_mod_cast Iff.rfl
  split
  · next hup =>
    simp only [Bool.or_eq_true, Bool.and_eq_true, decide_eq_true_eq] at hup
    have hdist : |(q : ℚ) + r / unit - ((q + 1 : ℕ) : ℤ)| = 1 - r / unit := by
      rw [abs_of_nonpos (by push_cast; linarith)]
      push_cast
      ring
    have hhalf := hge.2 (by omega)
    refine ⟨by rw [hdist]; linarith, fun h => ?_⟩
    rw [hdist] at h
    have htie := hle.1 (by linarith)
    exact_mod_cast Nat.even_add_one.2 (Nat.not_even_iff.2 (by omega))
  · next hdown =>
    simp only [Bool.or_eq_true, Bool.and_eq_true, decide_eq_true_eq, not_or, not_and] at hdown
    have hdist : |(q : ℚ) + r / unit - ((q : ℕ) : ℤ)| = r / unit := by
      rw [Int.cast_natCast, add_sub_cancel_left, abs_of_nonneg hnonneg]
    refine ⟨by rw [hdist]; exact hle.2 (by omega), fun h => ?_⟩
    rw [hdist] at h
    have htie := hge.1 h.ge
    have hodd := hdown.2 (by omega)
    exact_mod_cast Nat.even_iff.2 (by omega)

theorem roundShift (n k : ℕ) : Nearest ((n : ℚ) / 10 ^ k) (Decimal.roundShift n k) := by
  have hpos : 0 < 10 ^ k := Nat.pow_pos (show 0 < 10 by decide)
  have hsplit : (n : ℚ) / 10 ^ k =
      ((n / 10 ^ k : ℕ) : ℚ) + ((n % 10 ^ k : ℕ) : ℚ) / (10 ^ k : ℕ) := by
    have hcast : (0 : ℚ) < ((10 ^ k : ℕ) : ℚ) := by exact_mod_cast hpos
    have hdiv : (n : ℚ) = ((10 ^ k : ℕ) : ℚ) * (n / 10 ^ k : ℕ) + (n % 10 ^ k : ℕ) := by
      exact_mod_cast (Nat.div_add_mod n (10 ^ k)).symm
    rw [← Nat.cast_ofNat, ← Nat.cast_pow, div_eq_iff hcast.ne', add_mul,
      div_mul_cancel₀ _ hcast.ne', mul_comm, ← hdiv]
  rw [hsplit]
  exact halfEven (Nat.mod_lt n hpos)

end Nearest

def IsMultiple (e : ℤ) (x : ℚ) : Prop :=
  ∃ n : ℤ, x = n * 10 ^ e

/-- Rounded to a whole number of units of a power of ten. -/
def RoundsTo (e : ℤ) (x y : ℚ) : Prop :=
  ∃ m : ℤ, Nearest (x / 10 ^ e) m ∧ y = m * 10 ^ e

/-- The power of ten that the 28th significant digit of a rational counts in. -/
def lastPlace (x : ℚ) : ℤ :=
  Int.log 10 |x| - 27

variable {e k : ℤ} {x y : ℚ}

theorem pow_eq_units (h : e ≤ k) : (10 : ℚ) ^ k = ((10 ^ (k - e).toNat : ℕ) : ℚ) * 10 ^ e := by
  have hsum : k = ((k - e).toNat : ℤ) + e := by omega
  calc (10 : ℚ) ^ k = 10 ^ (((k - e).toNat : ℤ) + e) := congrArg _ hsum
    _ = ((10 ^ (k - e).toNat : ℕ) : ℚ) * 10 ^ e := by
        rw [zpow_add₀ (by norm_num), zpow_natCast, Nat.cast_pow, Nat.cast_ofNat]

theorem half_pow_lt (h : e ≤ k) : (10 : ℚ) ^ e / 2 < 10 ^ k := by
  have hpos : (0 : ℚ) < 10 ^ e := by positivity
  have hle : (10 : ℚ) ^ e ≤ 10 ^ k := zpow_le_zpow_right₀ (by norm_num) h
  linarith

theorem IsMultiple.mono (h : IsMultiple k x) (he : e ≤ k) : IsMultiple e x := by
  obtain ⟨n, rfl⟩ := h
  refine ⟨n * (10 ^ (k - e).toNat : ℕ), ?_⟩
  rw [pow_eq_units he, ← mul_assoc]
  push_cast
  rfl

namespace RoundsTo

theorem exists_roundsTo (e : ℤ) (x : ℚ) : ∃ y, RoundsTo e x y := by
  obtain ⟨m, hm⟩ := Nearest.exists_nearest (x / 10 ^ e)
  exact ⟨_, m, hm, rfl⟩

theorem unique {z : ℚ} (h : RoundsTo e x y) (h' : RoundsTo e x z) : y = z := by
  obtain ⟨m, hm, rfl⟩ := h
  obtain ⟨n, hn, rfl⟩ := h'
  rw [hm.unique hn]

theorem neg (h : RoundsTo e x y) : RoundsTo e (-x) (-y) := by
  obtain ⟨m, hm, rfl⟩ := h
  refine ⟨-m, ?_, ?_⟩
  · rw [neg_div]
    exact hm.neg
  · rw [Int.cast_neg, neg_mul]

theorem abs (h : RoundsTo e x y) : RoundsTo e |x| |y| := by
  obtain ⟨m, hm, rfl⟩ := h
  have hpos : (0 : ℚ) < 10 ^ e := by positivity
  refine ⟨|m|, ?_, ?_⟩
  · have habs := hm.abs
    rwa [abs_div, abs_of_pos hpos] at habs
  · rw [abs_mul, abs_of_pos hpos, Int.cast_abs]

theorem signed (h : RoundsTo e x y) (b : Bool) :
    RoundsTo e ((if b then -1 else 1) * x) ((if b then -1 else 1) * y) := by
  cases b with
  | false => simpa using h
  | true => simpa using h.neg

theorem of_isMultiple (h : IsMultiple e x) : RoundsTo e x x := by
  obtain ⟨n, rfl⟩ := h
  have hpos : (0 : ℚ) < 10 ^ e := by positivity
  refine ⟨n, ?_, rfl⟩
  rw [mul_div_cancel_right₀ _ hpos.ne']
  exact .intCast n

theorem le_of_le {n : ℤ} (h : RoundsTo e x y) (hn : (n : ℚ) * 10 ^ e ≤ x) :
    (n : ℚ) * 10 ^ e ≤ y := by
  obtain ⟨m, hm, rfl⟩ := h
  have hpos : (0 : ℚ) < 10 ^ e := by positivity
  have hle : n ≤ m := hm.le_of_le ((le_div_iff₀ hpos).2 hn)
  exact mul_le_mul_of_nonneg_right (by exact_mod_cast hle) hpos.le

theorem ge_of_ge {n : ℤ} (h : RoundsTo e x y) (hn : x ≤ (n : ℚ) * 10 ^ e) :
    y ≤ (n : ℚ) * 10 ^ e := by
  obtain ⟨m, hm, rfl⟩ := h
  have hpos : (0 : ℚ) < 10 ^ e := by positivity
  have hle : m ≤ n := hm.ge_of_ge ((div_le_iff₀ hpos).2 hn)
  exact mul_le_mul_of_nonneg_right (by exact_mod_cast hle) hpos.le

theorem even_le_iff {n : ℤ} (h : RoundsTo e x y) (hn : Even n) :
    (n : ℚ) * 10 ^ e ≤ y ↔ (n : ℚ) * 10 ^ e ≤ x + 10 ^ e / 2 := by
  obtain ⟨m, hm, rfl⟩ := h
  have hpos : (0 : ℚ) < 10 ^ e := by positivity
  have hhalf : x / 10 ^ e + 1 / 2 = (x + 10 ^ e / 2) / 10 ^ e := by
    field_simp
  rw [mul_le_mul_iff_left₀ hpos, Int.cast_le, hm.even_le_iff hn, hhalf, le_div_iff₀ hpos]

end RoundsTo

theorem pow_units (n : ℕ) (e : ℤ) : ((10 ^ n : ℤ) : ℚ) * 10 ^ e = 10 ^ (e + n) := by
  rw [Int.cast_pow, Int.cast_ofNat, zpow_add₀ (by norm_num), zpow_natCast, mul_comm]

theorem pow_lastPlace_le (hx : x ≠ 0) : (10 : ℚ) ^ (lastPlace x + 27) ≤ |x| := by
  rw [lastPlace, sub_add_cancel]
  exact_mod_cast Int.zpow_log_le_self (b := 10) (by decide) (abs_pos.2 hx)

theorem lt_pow_lastPlace (x : ℚ) : |x| < (10 : ℚ) ^ (lastPlace x + 28) := by
  rw [lastPlace, show Int.log 10 |x| - 27 + 28 = Int.log 10 |x| + 1 by ring]
  exact_mod_cast Int.lt_zpow_succ_log_self (b := 10) (by decide) |x|

theorem IsMultiple.zero (e : ℤ) : IsMultiple e 0 :=
  ⟨0, by rw [Int.cast_zero, zero_mul]⟩

theorem IsMultiple.of_digits {m : ℤ} (hm : |m| < 10 ^ 28) :
    IsMultiple (lastPlace (m * 10 ^ k)) (m * 10 ^ k) := by
  by_cases hzero : (m : ℚ) * 10 ^ k = 0
  · rw [hzero]
    exact .zero _
  have hpos : (0 : ℚ) < 10 ^ k := by positivity
  have hbound : (10 : ℚ) ^ (lastPlace (m * 10 ^ k) + 27) < 10 ^ (k + 28) := by
    refine (pow_lastPlace_le hzero).trans_lt ?_
    rw [abs_mul, abs_of_pos hpos, ← Int.cast_abs]
    have hlt : ((|m| : ℤ) : ℚ) < ((10 ^ 28 : ℤ) : ℚ) := by exact_mod_cast hm
    exact (mul_lt_mul_of_pos_right hlt hpos).trans_eq (pow_units 28 k)
  rw [zpow_lt_zpow_iff_right₀ (by norm_num)] at hbound
  exact IsMultiple.mono ⟨m, rfl⟩ (by omega)

theorem RoundsTo.abs_le_pow (h : RoundsTo e x y) (hle : lastPlace x ≤ e) :
    |y| ≤ 10 ^ (e + 28) := by
  have hupper : |x| ≤ 10 ^ (e + 28) :=
    (lt_pow_lastPlace x).le.trans (zpow_le_zpow_right₀ (by norm_num) (by omega))
  have hround := h.abs.ge_of_ge (n := 10 ^ 28) (hupper.trans_eq (pow_units 28 e).symm)
  rwa [pow_units 28] at hround

theorem RoundsTo.pow_le_abs (h : RoundsTo (lastPlace x) x y) (hx : x ≠ 0) :
    10 ^ (lastPlace x + 27) ≤ |y| := by
  have hround := h.abs.le_of_le (n := 10 ^ 27) ((pow_units 27 _).trans_le (pow_lastPlace_le hx))
  rwa [pow_units 27] at hround

/-- A power of ten is reached from half a unit below it on, a unit being one of the 28th place just
below the power. Where that is too coarse a rational has to be rounded at its own last place. -/
theorem RoundsTo.pow_le_abs_iff (h : RoundsTo e x y) (hle : lastPlace x ≤ e)
    (he : e ≤ k ∨ e = lastPlace x) :
    10 ^ (k + 28) ≤ |y| ↔ 10 ^ (k + 28) ≤ |x| + 10 ^ k / 2 := by
  have hpos : (0 : ℚ) < 10 ^ k := by positivity
  have hhalf := half_pow_lt (show k ≤ k + 27 by omega)
  have hten : (10 : ℚ) ^ (k + 28) = 10 * 10 ^ (k + 27) := by
    rw [← zpow_one_add₀ (by norm_num)]
    ring_nf
  by_cases hx : x = 0
  · subst hx
    rw [h.unique (.of_isMultiple (.zero _)), abs_zero]
    exact iff_of_false (by linarith) (by linarith)
  obtain hlt | rfl | hgt := lt_trichotomy e k
  · -- neither leaves the decade before the power
    have hupper : |x| ≤ 10 ^ (e + 28) :=
      (lt_pow_lastPlace x).le.trans (zpow_le_zpow_right₀ (by norm_num) (by omega))
    have hy := h.abs_le_pow hle
    have hstep : (10 : ℚ) ^ (e + 28) ≤ 10 ^ (k + 27) :=
      zpow_le_zpow_right₀ (by norm_num) (by omega)
    exact iff_of_false (by linarith) (by linarith)
  · have heven : Even (10 ^ 28 : ℤ) := by decide
    have hiff := h.abs.even_le_iff heven
    rwa [pow_units 28] at hiff
  · obtain rfl : e = lastPlace x := he.resolve_left (by omega)
    have hlower := pow_lastPlace_le hx
    have hy := h.pow_le_abs hx
    have hstep : (10 : ℚ) ^ (k + 28) ≤ 10 ^ (lastPlace x + 27) :=
      zpow_le_zpow_right₀ (by norm_num) (by omega)
    exact iff_of_true (by linarith) (by linarith)

end EnvoySidecar
