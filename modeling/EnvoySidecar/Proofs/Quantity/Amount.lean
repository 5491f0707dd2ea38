import EnvoySidecar.Proofs.Quantity.Grammar

/-! The amount of a quantity is the exact value of its text rounded once, at the 28th digit or at
the least power of ten that decimals count in. The sign is that of the text, also of a zero. -/

namespace EnvoySidecar.Quantity

namespace Spelling

variable {w : Spelling} {d : Decimal}

theorem round?_of_amount (h : w.amount = .ok d) : w.unrounded.round? = some d := by
  rw [amount_of_applicable (applicable_of_amount h), rounded] at h
  split at h
  · next r hr =>
    cases h
    exact hr
  · cases h

theorem roundsTo_amount (h : w.amount = .ok d) :
    RoundsTo (max (lastPlace w.value) (-1000026)) w.value d.toRat := by
  have hround := Decimal.roundsTo_of_round? (round?_of_amount h)
  rwa [toRat_unrounded] at hround

theorem negative_amount (h : w.amount = .ok d) :
    d.negative = true ↔ w.numeral.sign = .minus := by
  rw [Decimal.negative_of_round? (round?_of_amount h), unrounded, Scale.negative_unrounded]
  exact decide_eq_true_iff

theorem head?_text (h : w.WellFormed) : w.text.head? = some '-' ↔ w.numeral.sign = .minus := by
  rw [text, Numeral.text_eq, List.append_assoc, List.append_assoc]
  cases hsign : w.numeral.sign with
  | minus => exact iff_of_true rfl rfl
  | plus => exact iff_of_false (by simp [Sign.text]) (by simp)
  | none =>
    refine iff_of_false (fun hhead => ?_) (by simp)
    obtain ⟨r, hr⟩ := List.head?_eq_some_iff.1 hhead
    exact absurd (Numeral.stopsAt_unsigned h.1 _ '-' r hr) (by decide)

end Spelling

variable {x : ℚ}

theorem isMultiple_of_digits {e : ℤ} (h : ∃ m k : ℤ, |m| < 10 ^ 28 ∧ x = m * 10 ^ k)
    (he : IsMultiple e x) : IsMultiple (max (lastPlace x) e) x := by
  obtain ⟨m, k, hm, rfl⟩ := h
  rcases max_choice (lastPlace (m * 10 ^ k)) e with hmax | hmax
  · rw [hmax]
    exact .of_digits hm
  · rw [hmax]
    exact he

/-- The amount is the one number that the exact value of the text rounds to, a half to the even
neighbour, and the exact value itself where its digits fit. -/
theorem amount_rounds {field : ResourceField} {s : String} {q : Quantity}
    (h : parse field s = .ok q) :
    ∃ x, (∀ y, Denotes s.toList y ↔ y = x) ∧
      (∀ y, RoundsTo (max (lastPlace x) (-1000026)) x y ↔ y = q.amount.toRat) ∧
      ((∃ m k : ℤ, |m| < 10 ^ 28 ∧ x = m * 10 ^ k) → IsMultiple (-1000026) x →
        q.amount.toRat = x) ∧
      (q.amount.negative = true ↔ s.toList.head? = some '-') := by
  obtain ⟨w, hwf, htext, hamount, -⟩ := parse_eq_ok h
  have hround := Spelling.roundsTo_amount hamount
  refine ⟨w.value, fun y => ?_, fun y => ?_, fun hdigits hunits => ?_, ?_⟩
  · rw [denotes_iff]
    constructor
    · rintro ⟨w', hwf', htext', rfl⟩
      rw [Spelling.eq_of_text hwf' hwf (htext'.trans htext.symm)]
    · rintro rfl
      exact ⟨w, hwf, htext, rfl⟩
  · constructor
    · exact fun hy => hy.unique hround
    · rintro rfl
      exact hround
  · exact hround.unique (.of_isMultiple (isMultiple_of_digits hdigits hunits))
  · rw [Spelling.negative_amount hamount, ← htext, Spelling.head?_text hwf]

theorem amount_rounds_carry :
    ∃ q, parse .cpuRequest "-99999999999999999999999999995m" = .ok q ∧
      q.amount = ⟨true, 10 ^ 27, -1⟩ ∧
      ∃ x, (∀ y, Denotes "-99999999999999999999999999995m".toList y ↔ y = x) ∧
        (∀ y, RoundsTo (max (lastPlace x) (-1000026)) x y ↔ y = q.amount.toRat) ∧
        ((∃ m k : ℤ, |m| < 10 ^ 28 ∧ x = m * 10 ^ k) → IsMultiple (-1000026) x →
          q.amount.toRat = x) ∧
        (q.amount.negative = true ↔ "-99999999999999999999999999995m".toList.head? = some '-') := by
  have hparse : parse .cpuRequest "-99999999999999999999999999995m" =
      .ok ⟨"-99999999999999999999999999995m", ⟨true, 10 ^ 27, -1⟩⟩ := by
    decide +kernel
  exact ⟨_, hparse, rfl, amount_rounds hparse⟩

end EnvoySidecar.Quantity
