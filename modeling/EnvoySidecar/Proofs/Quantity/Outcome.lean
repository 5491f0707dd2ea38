import EnvoySidecar.Proofs.Decimal.Value
import EnvoySidecar.Proofs.Quantity.Spelling
import EnvoySidecar.Proofs.Text.Digits
import EnvoySidecar.Quantity

/-! How reading a quantity may end. Its text determines a rational number, and that number tells
whether the rounded amount has a place; only an exponent may fail by its written form alone. -/

namespace EnvoySidecar

open Text

namespace Quantity

namespace Numeral

def value (n : Numeral) : ℚ :=
  let f := n.fraction.getD []
  (if n.sign = .minus then -1 else 1) *
    (ofDigits 10 n.whole + ofDigits 10 f / 10 ^ f.length)

theorem toRat_amount (n : Numeral) : n.amount.toRat = n.value := by
  have hpos : (0 : ℚ) < 10 ^ (n.fraction.getD []).length := by positivity
  rw [value, Decimal.toRat, Decimal.magnitude, amount, ofDigits_append, zpow_neg, zpow_natCast]
  push_cast
  rw [← div_eq_mul_inv, add_div, mul_div_cancel_right₀ _ hpos.ne']
  simp only [decide_eq_true_eq]

end Numeral

namespace Scale

def multiplier : Scale → ℚ
  | suffix s => s.factor * 10 ^ s.power
  | exponent _ sign digits => 10 ^ Sign.apply sign (ofDigits 10 digits)

def unrounded (d : Decimal) : Scale → Decimal
  | suffix s => d.times s.multiple
  | exponent _ sign digits => d.shift (sign.apply (ofDigits 10 digits))

theorem toRat_unrounded (d : Decimal) (s : Scale) :
    (s.unrounded d).toRat = d.toRat * s.multiplier := by
  cases s with
  | suffix s =>
    have hmultiple : s.multiple.toRat = s.factor * 10 ^ s.power := one_mul _
    rw [unrounded, Decimal.toRat_times, hmultiple, multiplier]
  | exponent letter sign digits => exact d.toRat_shift _

theorem negative_unrounded (d : Decimal) (s : Scale) : (s.unrounded d).negative = d.negative := by
  cases s with
  | suffix s => exact Bool.xor_false _
  | exponent letter sign digits => rfl

def Unreadable : Scale → Prop
  | suffix _ => False
  | exponent _ _ digits => digitLimit < digits.length

def Unshiftable : Scale → Prop
  | suffix _ => False
  | exponent _ _ digits => exponentLimit < ofDigits 10 digits

def Applicable (s : Scale) : Prop :=
  ¬s.Unreadable ∧ ¬s.Unshiftable

theorem apply_of_unreadable {s : Scale} (h : s.Unreadable) (d : Decimal) :
    ∃ n, s.apply d = .error (.longExponent n) := by
  cases s with
  | suffix s => exact h.elim
  | exponent letter sign digits => exact ⟨_, if_pos h⟩

theorem apply_of_unshiftable {s : Scale} (hread : ¬s.Unreadable) (h : s.Unshiftable)
    (d : Decimal) : s.apply d = .error .shift := by
  cases s with
  | suffix s => exact h.elim
  | exponent letter sign digits => exact (if_neg hread).trans (if_pos h)

theorem apply_of_applicable {s : Scale} (h : s.Applicable) (d : Decimal) :
    s.apply d = rounded (s.unrounded d) := by
  cases s with
  | suffix s => rfl
  | exponent letter sign digits => exact (if_neg h.1).trans (if_neg h.2)

end Scale

theorem rounded_of_overflows {d : Decimal} (h : Decimal.Overflows d.magnitude) :
    rounded d = .error .overflow := by
  rw [rounded, (Decimal.round?_eq_none_iff d).2 h]

theorem rounded_of_not_overflows {d : Decimal} (h : ¬Decimal.Overflows d.magnitude) :
    ∃ r, rounded d = .ok r := by
  obtain ⟨r, hr⟩ := Option.ne_none_iff_exists'.1 fun hnone =>
    h ((Decimal.round?_eq_none_iff d).1 hnone)
  exact ⟨r, by rw [rounded, hr]⟩

namespace Spelling

def value (w : Spelling) : ℚ :=
  w.numeral.value * w.scale.multiplier

def unrounded (w : Spelling) : Decimal :=
  w.scale.unrounded w.numeral.amount

theorem toRat_unrounded (w : Spelling) : w.unrounded.toRat = w.value := by
  rw [unrounded, Scale.toRat_unrounded, Numeral.toRat_amount, value]

theorem magnitude_unrounded (w : Spelling) : w.unrounded.magnitude = |w.value| := by
  rw [← toRat_unrounded, Decimal.abs_toRat]

theorem amount_of_applicable {w : Spelling} (h : w.scale.Applicable) :
    w.amount = rounded w.unrounded :=
  Scale.apply_of_applicable h _

theorem applicable_of_amount {w : Spelling} {d : Decimal} (h : w.amount = .ok d) :
    w.scale.Applicable := by
  have hread : ¬w.scale.Unreadable := by
    intro hread
    obtain ⟨n, hn⟩ := Scale.apply_of_unreadable hread w.numeral.amount
    exact absurd (h.symm.trans hn) (by simp)
  refine ⟨hread, fun hshift => ?_⟩
  exact absurd (h.symm.trans (Scale.apply_of_unshiftable hread hshift _)) (by simp)

/-- Spellings that the reader fails on without naming them invalid. -/
def Escapes (w : Spelling) : Prop :=
  w.scale.Unreadable ∨ ¬w.scale.Unshiftable ∧ Decimal.Overflows |w.value|

theorem amount_of_escapes {w : Spelling} (h : w.Escapes) :
    w.amount = .error .overflow ∨ ∃ n, w.amount = .error (.longExponent n) := by
  by_cases hread : w.scale.Unreadable
  · exact .inr (Scale.apply_of_unreadable hread _)
  · obtain ⟨hshift, hover⟩ := h.resolve_left hread
    rw [← magnitude_unrounded] at hover
    exact .inl ((amount_of_applicable ⟨hread, hshift⟩).trans (rounded_of_overflows hover))

theorem amount_of_not_escapes {w : Spelling} (h : ¬w.Escapes) :
    (∃ d, w.amount = .ok d) ∨ w.amount = .error .shift := by
  obtain ⟨hread, hover⟩ := not_or.1 h
  by_cases hshift : w.scale.Unshiftable
  · exact .inr (Scale.apply_of_unshiftable hread hshift _)
  · have hbound : ¬Decimal.Overflows w.unrounded.magnitude := by
      rw [magnitude_unrounded]
      exact fun ho => hover ⟨hshift, ho⟩
    obtain ⟨d, hd⟩ := rounded_of_not_overflows hbound
    exact .inl ⟨d, (amount_of_applicable ⟨hread, hshift⟩).trans hd⟩

end Spelling

/-- Texts within the grammar whose exponent has too many digits to be read, or whose number is
too large to be rounded although its exponent may be scaled by. -/
def Escapes (value : String) : Prop :=
  ∃ w : Spelling, w.WellFormed ∧ w.text = value.toList ∧ w.Escapes

section Parse

variable {value : String} {w : Spelling} (field : ResourceField)

theorem parse_of_ok {d : Decimal} (h : Spelling.read? value.toList = some w)
    (hd : w.amount = .ok d) : parse field value = .ok ⟨value, d⟩ := by
  simp only [parse, h, hd]

theorem parse_of_trap {trap : Trap} (h : Spelling.read? value.toList = some w)
    (htrap : w.amount = .error trap) : parse field value = .error (trap.fault field value) := by
  simp only [parse, h, htrap]

theorem parse_eq_ok {field : ResourceField} {q : Quantity} (h : parse field value = .ok q) :
    ∃ w : Spelling, w.WellFormed ∧ w.text = value.toList ∧ w.amount = .ok q.amount ∧
      q.raw = value := by
  unfold parse at h
  split at h
  · cases h
  · next w hread =>
    obtain ⟨hwf, htext⟩ := Spelling.read?_eq_some_iff.1 hread
    split at h
    · next d hd =>
      cases h
      exact ⟨w, hwf, htext, hd, rfl⟩
    · cases h

theorem parse_of_escapes (h : Escapes value) :
    parse field value = .error .overflow ∨ ∃ n, parse field value = .error (.longExponent n) := by
  obtain ⟨w, hwf, htext, hesc⟩ := h
  have hread := Spelling.read?_eq_some_iff.2 ⟨hwf, htext⟩
  rcases Spelling.amount_of_escapes hesc with hover | ⟨n, hlong⟩
  · exact .inl (parse_of_trap field hread hover)
  · exact .inr ⟨n, parse_of_trap field hread hlong⟩

theorem parse_of_not_escapes (h : ¬Escapes value) :
    (∃ q, parse field value = .ok q ∧ q.raw = value) ∨
      parse field value = .error (.invalid field value) := by
  cases hread : Spelling.read? value.toList with
  | none => exact .inr (by simp only [parse, hread])
  | some w =>
    obtain ⟨hwf, htext⟩ := Spelling.read?_eq_some_iff.1 hread
    have hw : ¬w.Escapes := fun hesc => h ⟨w, hwf, htext, hesc⟩
    rcases Spelling.amount_of_not_escapes hw with ⟨d, hd⟩ | hshift
    · exact .inl ⟨_, parse_of_ok field hread hd, rfl⟩
    · exact .inr (parse_of_trap field hread hshift)

end Parse

end Quantity

end EnvoySidecar
