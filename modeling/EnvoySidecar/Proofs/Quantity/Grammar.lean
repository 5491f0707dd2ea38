import EnvoySidecar.Proofs.Quantity.Outcome

/-! The grammar of quantities as rules on characters, each with the rational number that its text
stands for. The rules derive the texts of well-formed spellings and no others, with the values of
those spellings. -/

namespace EnvoySidecar.Quantity

open Text

section Rules

def Digits (cs : List Char) : Prop :=
  ∀ c ∈ cs, '0' ≤ c ∧ c ≤ '9'

def natural (ds : List Char) : ℕ :=
  Nat.ofDigitChars 10 ds 0

inductive IsSign : List Char → ℤ → Prop
  | absent : IsSign [] 1
  | plus : IsSign ['+'] 1
  | minus : IsSign ['-'] (-1)

inductive IsUnsigned : List Char → ℚ → Prop
  | whole {ds : List Char} : Digits ds → ds ≠ [] → IsUnsigned ds (natural ds)
  | pointed {ds fs : List Char} : Digits ds → ds ≠ [] → Digits fs →
      IsUnsigned (ds ++ '.' :: fs) (natural ds + natural fs / 10 ^ fs.length)
  | leading {fs : List Char} : Digits fs → fs ≠ [] →
      IsUnsigned ('.' :: fs) (natural fs / 10 ^ fs.length)

inductive IsNumber : List Char → ℚ → Prop
  | signed {sign cs : List Char} {σ : ℤ} {v : ℚ} : IsSign sign σ → IsUnsigned cs v →
      IsNumber (sign ++ cs) (σ * v)

/-- An exponent with its digits and the power of ten that it names. -/
inductive IsExponent : List Char → List Char → ℤ → Prop
  | marked {letter : Char} {sign ds : List Char} {σ : ℤ} : letter = 'e' ∨ letter = 'E' →
      IsSign sign σ → Digits ds → ds ≠ [] → IsExponent (letter :: (sign ++ ds)) ds (σ * natural ds)

def decimalSuffixes : List (String × ℤ) :=
  [("n", -9), ("u", -6), ("m", -3), ("", 0), ("k", 3), ("M", 6), ("G", 9), ("T", 12), ("P", 15),
    ("E", 18)]

def binarySuffixes : List (String × ℕ) :=
  [("Ki", 1), ("Mi", 2), ("Gi", 3), ("Ti", 4), ("Pi", 5), ("Ei", 6)]

inductive IsSuffix : List Char → ℚ → Prop
  | decimal {s : String} {p : ℤ} : (s, p) ∈ decimalSuffixes → IsSuffix s.toList (10 ^ p)
  | binary {s : String} {i : ℕ} : (s, i) ∈ binarySuffixes → IsSuffix s.toList (1024 ^ i)

inductive IsScale : List Char → ℚ → Prop
  | suffix {cs : List Char} {m : ℚ} : IsSuffix cs m → IsScale cs m
  | exponent {cs ds : List Char} {p : ℤ} : IsExponent cs ds p → IsScale cs (10 ^ p)

structure Splits (cs number scale : List Char) : Prop where
  text : cs = number ++ scale
  number : ∃ v, IsNumber number v
  scale : ∃ m, IsScale scale m

/-- The text is a quantity of this exact value. -/
inductive Denotes : List Char → ℚ → Prop
  | scaled {number scale : List Char} {v m : ℚ} : IsNumber number v → IsScale scale m →
      Denotes (number ++ scale) (v * m)

end Rules

theorem digits_iff {cs : List Char} : Digits cs ↔ cs.all isDigit = true := by
  simp [Digits, isDigit]

theorem natural_eq {cs : List Char} (h : cs.all isDigit = true) : natural cs = ofDigits 10 cs :=
  (ofDigits_eq_ofDigitChars (List.all_eq_true.1 h)).symm

def Sign.factor (s : Sign) : ℤ :=
  s.apply 1

theorem Sign.apply_eq (s : Sign) (n : ℕ) : s.apply n = s.factor * n := by
  cases s <;> simp [factor, apply]

theorem isSign_iff {cs : List Char} {σ : ℤ} :
    IsSign cs σ ↔ ∃ s : Sign, s.text = cs ∧ s.factor = σ := by
  constructor
  · rintro (_ | _ | _)
    · exact ⟨.none, rfl, rfl⟩
    · exact ⟨.plus, rfl, rfl⟩
    · exact ⟨.minus, rfl, rfl⟩
  · rintro ⟨s, rfl, rfl⟩
    cases s with
    | none => exact .absent
    | plus => exact .plus
    | minus => exact .minus

namespace Numeral

theorem value_eq (n : Numeral) :
    n.value = n.sign.factor * (ofDigits 10 n.whole +
      ofDigits 10 (n.fraction.getD []) / 10 ^ (n.fraction.getD []).length) := by
  have hsign : ((n.sign.factor : ℤ) : ℚ) = if n.sign = .minus then -1 else 1 := by
    cases n.sign <;> simp [Sign.factor, Sign.apply]
  rw [value, hsign]

theorem isUnsigned {n : Numeral} (h : n.WellFormed) :
    IsUnsigned (n.whole ++ fractionText n.fraction) (ofDigits 10 n.whole +
      ofDigits 10 (n.fraction.getD []) / 10 ^ (n.fraction.getD []).length) := by
  obtain ⟨hwhole, hfraction, hsome⟩ := h
  have hds := digits_iff.2 hwhole
  rw [← natural_eq hwhole, ← natural_eq hfraction]
  cases hf : n.fraction with
  | none =>
    rw [hf] at hsome
    simpa [fractionText, natural] using IsUnsigned.whole hds (hsome.resolve_right (not_not.2 rfl))
  | some f =>
    rw [hf] at hfraction hsome
    have hfs := digits_iff.2 hfraction
    by_cases hempty : n.whole = []
    · rw [hempty]
      simpa [fractionText, natural] using
        IsUnsigned.leading hfs (hsome.resolve_left (not_not.2 hempty))
    · exact .pointed hds hempty hfs

theorem isNumber {n : Numeral} (h : n.WellFormed) : IsNumber n.text n.value := by
  rw [text_eq, value_eq]
  exact .signed (isSign_iff.2 ⟨_, rfl, rfl⟩) (isUnsigned h)

end Numeral

theorem IsUnsigned.exists_wellFormed {cs : List Char} {v : ℚ} (h : IsUnsigned cs v) (s : Sign) :
    ∃ n : Numeral, n.WellFormed ∧ n.text = s.text ++ cs ∧ n.value = s.factor * v := by
  cases h with
  | whole hds hne =>
    have hall := digits_iff.1 hds
    refine ⟨⟨s, cs, none⟩, ⟨hall, rfl, .inl hne⟩, ?_, ?_⟩
    · rw [Numeral.text, List.append_nil]
    · rw [Numeral.value_eq, natural_eq hall]
      simp [ofDigits]
  | @pointed ds fs hds hne hfs =>
    have hall := digits_iff.1 hds
    have hall' := digits_iff.1 hfs
    refine ⟨⟨s, ds, some fs⟩, ⟨hall, hall', .inl hne⟩, ?_, ?_⟩
    · rw [Numeral.text, List.append_assoc]
    · rw [Numeral.value_eq, natural_eq hall, natural_eq hall']
      rfl
  | @leading fs hfs hne =>
    have hall := digits_iff.1 hfs
    refine ⟨⟨s, [], some fs⟩, ⟨rfl, hall, .inr hne⟩, ?_, ?_⟩
    · rw [Numeral.text, List.append_nil]
    · rw [Numeral.value_eq, natural_eq hall]
      simp [ofDigits]

theorem isNumber_iff {cs : List Char} {v : ℚ} :
    IsNumber cs v ↔ ∃ n : Numeral, n.WellFormed ∧ n.text = cs ∧ n.value = v := by
  constructor
  · rintro ⟨hsign, hunsigned⟩
    obtain ⟨s, rfl, rfl⟩ := isSign_iff.1 hsign
    exact hunsigned.exists_wellFormed s
  · rintro ⟨n, hwf, rfl, rfl⟩
    exact Numeral.isNumber hwf

theorem suffixes_complete :
    (∀ row ∈ decimalSuffixes, ∃ s ∈ Suffix.all,
      s.text = row.1.toList ∧ s.factor = 1 ∧ s.power = row.2) ∧
    (∀ row ∈ binarySuffixes, ∃ s ∈ Suffix.all,
      s.text = row.1.toList ∧ s.factor = 1024 ^ row.2 ∧ s.power = 0) ∧
    (∀ s ∈ Suffix.all,
      (∃ row ∈ decimalSuffixes, s.text = row.1.toList ∧ s.factor = 1 ∧ s.power = row.2) ∨
      ∃ row ∈ binarySuffixes, s.text = row.1.toList ∧ s.factor = 1024 ^ row.2 ∧ s.power = 0) := by
  decide

theorem isSuffix_iff {cs : List Char} {m : ℚ} :
    IsSuffix cs m ↔ ∃ s : Suffix, s.text = cs ∧ (Scale.suffix s).multiplier = m := by
  obtain ⟨hdecimal, hbinary, hall⟩ := suffixes_complete
  constructor
  · rintro (hrow | hrow)
    · obtain ⟨s, -, htext, hfactor, hpower⟩ := hdecimal _ hrow
      exact ⟨s, htext, by simp [Scale.multiplier, hfactor, hpower]⟩
    · obtain ⟨s, -, htext, hfactor, hpower⟩ := hbinary _ hrow
      exact ⟨s, htext, by simp [Scale.multiplier, hfactor, hpower]⟩
  · rintro ⟨s, rfl, rfl⟩
    have hmem : s ∈ Suffix.all := by cases s <;> decide
    obtain ⟨row, hrow, htext, hfactor, hpower⟩ | ⟨row, hrow, htext, hfactor, hpower⟩ := hall s hmem
    · rw [htext, Scale.multiplier, hfactor, hpower, Nat.cast_one, one_mul]
      exact .decimal hrow
    · rw [htext, Scale.multiplier, hfactor, hpower, zpow_zero, mul_one, Nat.cast_pow]
      exact .binary hrow

theorem isExponent_iff {cs ds : List Char} {p : ℤ} :
    IsExponent cs ds p ↔ ∃ letter sign, (Scale.exponent letter sign ds).WellFormed ∧
      (Scale.exponent letter sign ds).text = cs ∧ sign.apply (ofDigits 10 ds) = p := by
  constructor
  · rintro ⟨hletter, hsign, hds, hne⟩
    obtain ⟨s, rfl, rfl⟩ := isSign_iff.1 hsign
    have hall := digits_iff.1 hds
    exact ⟨_, s, ⟨hletter, hne, hall⟩, rfl, by rw [s.apply_eq, natural_eq hall]⟩
  · rintro ⟨letter, s, ⟨hletter, hne, hall⟩, rfl, rfl⟩
    rw [s.apply_eq, ← natural_eq hall]
    exact .marked hletter (isSign_iff.2 ⟨s, rfl, rfl⟩) (digits_iff.2 hall) hne

theorem isScale_iff {cs : List Char} {m : ℚ} :
    IsScale cs m ↔ ∃ s : Scale, s.WellFormed ∧ s.text = cs ∧ s.multiplier = m := by
  constructor
  · rintro (hsuffix | hexponent)
    · obtain ⟨s, rfl, rfl⟩ := isSuffix_iff.1 hsuffix
      exact ⟨.suffix s, trivial, rfl, rfl⟩
    · obtain ⟨letter, sign, hwf, rfl, rfl⟩ := isExponent_iff.1 hexponent
      exact ⟨_, hwf, rfl, rfl⟩
  · rintro ⟨_ | _, hwf, rfl, rfl⟩
    · exact .suffix (isSuffix_iff.2 ⟨_, rfl, rfl⟩)
    · exact .exponent (isExponent_iff.2 ⟨_, _, hwf, rfl, rfl⟩)

theorem denotes_iff {cs : List Char} {x : ℚ} :
    Denotes cs x ↔ ∃ w : Spelling, w.WellFormed ∧ w.text = cs ∧ w.value = x := by
  constructor
  · rintro ⟨hnumber, hscale⟩
    obtain ⟨n, hn, rfl, rfl⟩ := isNumber_iff.1 hnumber
    obtain ⟨s, hs, rfl, rfl⟩ := isScale_iff.1 hscale
    exact ⟨⟨n, s⟩, ⟨hn, hs⟩, rfl, rfl⟩
  · rintro ⟨⟨n, s⟩, ⟨hn, hs⟩, rfl, rfl⟩
    exact .scaled (isNumber_iff.2 ⟨n, hn, rfl, rfl⟩) (isScale_iff.2 ⟨s, hs, rfl, rfl⟩)

theorem splits_iff {cs number scale : List Char} :
    Splits cs number scale ↔ ∃ w : Spelling, w.WellFormed ∧ w.text = cs ∧
      w.numeral.text = number ∧ w.scale.text = scale := by
  constructor
  · rintro ⟨rfl, ⟨v, hnumber⟩, m, hscale⟩
    obtain ⟨n, hn, rfl, -⟩ := isNumber_iff.1 hnumber
    obtain ⟨s, hs, rfl, -⟩ := isScale_iff.1 hscale
    exact ⟨⟨n, s⟩, ⟨hn, hs⟩, rfl, rfl, rfl⟩
  · rintro ⟨⟨n, s⟩, ⟨hn, hs⟩, rfl, rfl, rfl⟩
    exact ⟨rfl, ⟨_, isNumber_iff.2 ⟨n, hn, rfl, rfl⟩⟩, _, isScale_iff.2 ⟨s, hs, rfl, rfl⟩⟩

theorem Spelling.eq_of_text {w w' : Spelling} (h : w.WellFormed) (h' : w'.WellFormed)
    (htext : w.text = w'.text) : w = w' := by
  have hread : read? w.text = some w' := read?_eq_some_iff.2 ⟨h', htext.symm⟩
  exact Option.some_inj.1 ((read?_eq_some_iff.2 ⟨h, rfl⟩).symm.trans hread)

end EnvoySidecar.Quantity
