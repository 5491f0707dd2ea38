import EnvoySidecar.Proofs.Decimal.Kept
import EnvoySidecar.Proofs.Quantity.Amount
import EnvoySidecar.Proofs.Quantity.Exponent

/-! Amounts printed and read again. The text of a decimal is itself a quantity, whose number times
its scale is the decimal digit for digit, in either notation; and an amount has been rounded once, so
that rounding it again changes nothing. -/

namespace EnvoySidecar

open Text Quantity

namespace Decimal

def placed (sign : Sign) (ds : List Char) (point : ℤ) : Numeral :=
  if 0 < point then
    if point.toNat < ds.length then ⟨sign, ds.take point.toNat, some (ds.drop point.toNat)⟩
    else ⟨sign, ds, none⟩
  else ⟨sign, ['0'], some (List.replicate (-point).toNat '0' ++ ds)⟩

def mantissa (sign : Sign) : List Char → Numeral
  | d :: rest@(_ :: _) => ⟨sign, [d], some rest⟩
  | ds => ⟨sign, ds, none⟩

def spelling (d : Decimal) : Spelling :=
  let ds := digits d.coefficient
  let sign := if d.negative then Sign.minus else Sign.none
  if d.exponent ≤ 0 ∧ -6 ≤ d.leading then
    ⟨placed sign ds (d.exponent + ds.length), .suffix .unit⟩
  else
    ⟨mantissa sign ds,
      .exponent 'E' (if d.leading < 0 then Sign.minus else Sign.plus) (digits d.leading.natAbs)⟩

section Numerals

variable {sign : Sign} {ds : List Char} {point : ℤ}

theorem wellFormed_placed (hds : ds.all isDigit) (hne : ds ≠ []) :
    (placed sign ds point).WellFormed := by
  have hmem := List.all_eq_true.1 hds
  unfold placed
  split
  · next hpos =>
    split
    · next hlt =>
      refine ⟨List.all_eq_true.2 fun c hc => hmem c (List.mem_of_mem_take hc),
        List.all_eq_true.2 fun c hc => hmem c (List.mem_of_mem_drop hc), .inl ?_⟩
      exact List.ne_nil_of_length_pos (by rw [List.length_take]; omega)
    · exact ⟨hds, rfl, .inl hne⟩
  · refine ⟨rfl, List.all_eq_true.2 fun c hc => ?_, .inl (by simp)⟩
    rcases List.mem_append.1 hc with hc | hc
    · rw [List.eq_of_mem_replicate hc]
      rfl
    · exact hmem c hc

theorem text_placed : (placed sign ds point).text = sign.text ++ pointed ds point := by
  unfold placed pointed
  split
  · dsimp only
    split
    · rw [Numeral.text, List.append_assoc]
    · rw [Numeral.text, List.append_nil]
  · rw [Numeral.text, List.append_assoc]
    rfl

theorem amount_placed (h : point ≤ ds.length) :
    (placed sign ds point).amount = ⟨sign = .minus, ofDigits 10 ds, point - ds.length⟩ := by
  unfold placed
  split
  · split
    · rw [Numeral.amount, Option.getD_some, List.take_append_drop, List.length_drop]
      congr 1
      omega
    · have hlast : point = ds.length := by omega
      rw [Numeral.amount, Option.getD_none, List.append_nil, hlast, sub_self]
      rfl
  · have hzeros : ofDigits 10 (['0'] ++ (List.replicate (-point).toNat '0' ++ ds)) =
        ofDigits 10 ds := by
      rw [← List.append_assoc]
      exact ofDigits_replicate rfl 10 ((-point).toNat + 1) ds
    rw [Numeral.amount, Option.getD_some, hzeros, List.length_append, List.length_replicate]
    congr 1
    omega

theorem wellFormed_mantissa (hds : ds.all isDigit) (hne : ds ≠ []) :
    (mantissa sign ds).WellFormed := by
  unfold mantissa
  split
  · rw [List.all_cons, Bool.and_eq_true] at hds
    exact ⟨by simp [hds.1], hds.2, .inl (by simp)⟩
  · exact ⟨hds, rfl, .inl hne⟩

theorem amount_mantissa (hne : ds ≠ []) :
    (mantissa sign ds).amount = ⟨sign = .minus, ofDigits 10 ds, 1 - ds.length⟩ := by
  unfold mantissa
  split
  · next d c rest =>
    have hexponent : -((c :: rest).length : ℤ) = 1 - ((d :: c :: rest).length : ℤ) := by
      push_cast [List.length_cons]
      ring
    rw [Numeral.amount, Option.getD_some, List.singleton_append, hexponent]
  · next hshort =>
    have hone : ds.length = 1 := by
      cases ds with
      | nil => exact absurd rfl hne
      | cons d rest =>
        cases rest with
        | nil => rfl
        | cons c rest => exact absurd rfl (hshort d c rest)
    rw [Numeral.amount, Option.getD_none, List.append_nil, hone]
    rfl

theorem text_scientific (e : ℤ) :
    (mantissa sign ds).text ++ (Scale.exponent 'E' (if e < 0 then Sign.minus else Sign.plus)
      (digits e.natAbs)).text = sign.text ++ scientific ds e := by
  have hnumber : (mantissa sign ds).text = sign.text ++ (match ds with
      | d :: rest@(_ :: _) => d :: '.' :: rest
      | _ => ds) := by
    unfold mantissa
    split
    · rw [Numeral.text, List.append_assoc]
      rfl
    · rw [Numeral.text, List.append_nil]
  have hscale : (Scale.exponent 'E' (if e < 0 then Sign.minus else Sign.plus)
      (digits e.natAbs)).text = 'E' :: (if e < 0 then '-' else '+') :: digits e.natAbs := by
    split <;> rfl
  rw [hnumber, hscale, List.append_assoc]
  rfl

end Numerals

variable (d : Decimal)

theorem all_isDigit_digits (n : ℕ) : (digits n).all isDigit = true :=
  List.all_eq_true.2 fun _ hc => isDigit_of_mem_digits hc

theorem wellFormed_spelling : d.spelling.WellFormed := by
  have hds := all_isDigit_digits d.coefficient
  have hne := digits_ne_nil d.coefficient
  unfold spelling
  dsimp only
  split
  · exact ⟨wellFormed_placed hds hne, trivial⟩
  · exact ⟨wellFormed_mantissa hds hne, .inr rfl, digits_ne_nil _, all_isDigit_digits _⟩

theorem text_spelling : d.spelling.text = d.text := by
  have hsign (cs : List Char) : (if d.negative then Sign.minus else Sign.none).text ++ cs =
      if d.negative then '-' :: cs else cs := by
    cases d.negative <;> rfl
  unfold spelling Decimal.text
  dsimp only
  rw [← hsign]
  split
  · rw [Spelling.text, text_placed, Scale.text, Suffix.text, List.append_nil]
  · exact text_scientific _

theorem unrounded_spelling : d.spelling.unrounded = d := by
  obtain ⟨negative, coefficient, exponent⟩ := d
  have hsign : decide ((if negative then Sign.minus else Sign.none) = .minus) = negative := by
    cases negative <;> rfl
  unfold spelling
  dsimp only
  split
  · next hplain =>
    rw [Spelling.unrounded, amount_placed (by omega), Scale.unrounded, Suffix.multiple]
    refine (times_one _ _).trans ?_
    rw [shift, ofDigits_digits, hsign]
    congr 1
    simp [Suffix.power]
  · rw [Spelling.unrounded, amount_mantissa (digits_ne_nil _), Scale.unrounded, shift,
      ofDigits_digits, ofDigits_digits, hsign]
    have happly (e : ℤ) : (if e < 0 then Sign.minus else Sign.plus).apply e.natAbs = e := by
      split
      · rw [Sign.apply, if_pos rfl]
        omega
      · rw [Sign.apply, if_neg (by decide)]
        omega
    have hexponent : 1 - ((digits coefficient).length : ℤ) +
        leading ⟨negative, coefficient, exponent⟩ = exponent := by
      rw [leading, digitCount]
      ring
    rw [happly, hexponent]

variable {d}

theorem applicable_spelling (h : d.Kept) : d.spelling.scale.Applicable := by
  unfold spelling
  dsimp only
  split
  · exact ⟨id, id⟩
  · have hbound : d.leading.natAbs ≤ exponentLimit := by
      have hpos := digitCount_pos d.coefficient
      have hleast := h.least
      have hgreatest := h.greatest
      unfold tinyExponent leading maxExponent exponentLimit at *
      omega
    refine ⟨?_, ?_⟩
    · have hlength : (digits d.leading.natAbs).length ≤ digitLimit := by
        refine (Nat.length_toDigits_le_iff (by decide) (by decide)).2 (hbound.trans_lt ?_)
        exact lt_of_lt_of_le (by decide : exponentLimit < 10 ^ 7)
          (Nat.pow_le_pow_right (by decide) (by decide))
      exact not_lt.2 hlength
    · unfold Scale.Unshiftable
      dsimp only
      rw [ofDigits_digits]
      exact not_lt.2 hbound

theorem amount_spelling (h : d.Kept) : d.spelling.amount = .ok d := by
  rw [Spelling.amount_of_applicable (applicable_spelling h), unrounded_spelling, Quantity.rounded,
    round?_of_kept h]

theorem parse_toText (h : d.Kept) (field : ResourceField) :
    parse field d.toText = .ok ⟨d.toText, d⟩ := by
  have hread : Spelling.read? d.toText.toList = some d.spelling := by
    rw [toText, String.toList_ofList]
    exact Spelling.read?_eq_some_iff.2 ⟨wellFormed_spelling d, text_spelling d⟩
  exact parse_of_ok field hread (amount_spelling h)

end Decimal

namespace Quantity

/-- The text of an amount is a quantity of this very amount, with its sign, its coefficient and its
exponent. -/
theorem parse_printed {field : ResourceField} {s : String} {q : Quantity}
    (h : parse field s = .ok q) (field' : ResourceField) :
    parse field' q.amount.toText = .ok ⟨q.amount.toText, q.amount⟩ := by
  obtain ⟨w, -, -, hamount, -⟩ := parse_eq_ok h
  have hkept := Decimal.kept_of_round? (Spelling.round?_of_amount hamount)
  exact Decimal.parse_toText hkept field'

theorem parse_printed_negative_zero :
    parse .cpuRequest "-0.0e-2000054" =
        .ok ⟨"-0.0e-2000054", ⟨true, 0, -1000026⟩⟩ ∧
      parse .cpuLimit "-0E-1000026" = .ok ⟨"-0E-1000026", ⟨true, 0, -1000026⟩⟩ := by
  have hparse : parse .cpuRequest "-0.0e-2000054" =
      .ok ⟨"-0.0e-2000054", ⟨true, 0, -1000026⟩⟩ := by
    decide +kernel
  have htext : Decimal.toText ⟨true, 0, -1000026⟩ = "-0E-1000026" := by
    decide +kernel
  refine ⟨hparse, ?_⟩
  have hprinted := parse_printed hparse .cpuLimit
  rwa [htext] at hprinted

end Quantity

end EnvoySidecar
