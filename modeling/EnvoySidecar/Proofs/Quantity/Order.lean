import EnvoySidecar.Proofs.Decimal.Monotone
import EnvoySidecar.Proofs.Quantity.Amount

/-! Amounts are in the order of the exact values that their texts stand for. Whether a text has a
suffix or an exponent, and at which digit its amount is rounded, makes no difference. -/

namespace EnvoySidecar.Quantity

namespace Spelling

variable {w w' : Spelling} {d d' : Decimal}

theorem denotes_text_iff (h : w.WellFormed) {x : ℚ} : Denotes w.text x ↔ x = w.value := by
  rw [denotes_iff]
  constructor
  · rintro ⟨w', hwf', htext, rfl⟩
    rw [eq_of_text hwf' h htext]
  · rintro rfl
    exact ⟨w, h, rfl, rfl⟩

theorem amount_mono (h : w.amount = .ok d) (h' : w'.amount = .ok d')
    (hle : w.value ≤ w'.value) : d.toRat ≤ d'.toRat := by
  refine Decimal.toRat_le_of_round? (round?_of_amount h) (round?_of_amount h') ?_
  rwa [toRat_unrounded, toRat_unrounded]

end Spelling

variable {field field' : ResourceField} {s t : String} {q r : Quantity}

/-- Of two texts that are read as quantities the one of the smaller exact value has the smaller
amount, or an equal one, and two spellings of one value have equal amounts. -/
theorem amounts_ordered (hq : parse field s = .ok q) (hr : parse field' t = .ok r) :
    ∃ x y, (∀ z, Denotes s.toList z ↔ z = x) ∧ (∀ z, Denotes t.toList z ↔ z = y) ∧
      (x ≤ y → q.amount.toRat ≤ r.amount.toRat) ∧ (x = y → q.amount.toRat = r.amount.toRat) := by
  obtain ⟨w, hwf, htext, hamount, -⟩ := parse_eq_ok hq
  obtain ⟨w', hwf', htext', hamount', -⟩ := parse_eq_ok hr
  rw [← htext, ← htext']
  refine ⟨w.value, w'.value, fun _ => Spelling.denotes_text_iff hwf,
    fun _ => Spelling.denotes_text_iff hwf', Spelling.amount_mono hamount hamount', fun heq => ?_⟩
  exact le_antisymm (Spelling.amount_mono hamount hamount' heq.le)
    (Spelling.amount_mono hamount' hamount heq.ge)

theorem amounts_ordered_carry :
    ∃ q r, parse .cpuRequest "9999999999999999999999999999500m" = .ok q ∧
      parse .memoryLimit "1e28" = .ok r ∧
      Denotes "9999999999999999999999999999500m".toList (10 ^ 28 - 1 / 2) ∧
      Denotes "1e28".toList (10 ^ 28) ∧ q.amount.toRat ≤ r.amount.toRat := by
  have hq : parse .cpuRequest "9999999999999999999999999999500m" =
      .ok ⟨"9999999999999999999999999999500m", ⟨false, 10 ^ 27, 1⟩⟩ := by
    decide +kernel
  have hr : parse .memoryLimit "1e28" = .ok ⟨"1e28", ⟨false, 1, 28⟩⟩ := by
    decide +kernel
  obtain ⟨x, y, hx, hy, hle, -⟩ := amounts_ordered hq hr
  have hs : Denotes "9999999999999999999999999999500m".toList (10 ^ 28 - 1 / 2) := by
    refine denotes_iff.2 ⟨⟨⟨.none, "9999999999999999999999999999500".toList, none⟩, .suffix .milli⟩,
      ⟨by decide, trivial⟩, by decide, ?_⟩
    rw [← Spelling.toRat_unrounded, show Spelling.unrounded _ =
      ⟨false, 9999999999999999999999999999500, -3⟩ by decide]
    norm_num [Decimal.toRat, Decimal.magnitude]
  have ht : Denotes "1e28".toList (10 ^ 28) := by
    refine denotes_iff.2 ⟨⟨⟨.none, ['1'], none⟩, .exponent 'e' .none ['2', '8']⟩,
      ⟨by decide, .inl rfl, by decide⟩, by decide, ?_⟩
    rw [← Spelling.toRat_unrounded, show Spelling.unrounded _ = ⟨false, 1, 28⟩ by decide]
    norm_num [Decimal.toRat, Decimal.magnitude]
  refine ⟨_, _, hq, hr, hs, ht, hle ?_⟩
  rw [← (hx _).1 hs, ← (hy _).1 ht]
  norm_num

end EnvoySidecar.Quantity
