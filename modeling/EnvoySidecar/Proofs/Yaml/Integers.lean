import EnvoySidecar.Proofs.Yaml.Scalars
import EnvoySidecar.Yaml.Scalar

/-! Integers as plain scalars. One that can be written is read back as itself. -/

namespace EnvoySidecar.Yaml

open Text

variable {indent column : Nat} {cs : List Char} {c : Char} {n : Int}

theorem usual_of_isDigit (h : isDigit c = true) : Style.isUsual c = true := by
  refine Style.isUsual_of_isAlphanum ?_
  simp only [isDigit, Bool.and_eq_true, decide_eq_true_eq] at h
  simpa [Char.isAlphanum, Char.isDigit, Char.le_def] using .inr h

theorem ink_of_isDigit (h : isDigit c = true) : Plain.IsInk c := by
  refine ⟨usual_of_isDigit h, ?_⟩
  by_contra hedge
  simp only [Style.isEdge, isBreak, Bool.not_eq_false, Bool.or_eq_true, decide_eq_true_eq] at hedge
  obtain rfl | ((rfl | rfl) | rfl) | rfl := hedge <;> exact absurd h (by decide)

theorem ne_of_isDigit {d : Char} (hd : isDigit d = false) (h : isDigit c = true) : c ≠ d := by
  rintro rfl
  rw [hd] at h
  cases h

theorem integerText_cases (n : Int) : ∃ d r, digits n.natAbs = d :: r ∧
    (∀ c ∈ d :: r, isDigit c = true) ∧
    (integerText n = '-' :: d :: r ∧ n < 0 ∨ integerText n = d :: r ∧ 0 ≤ n) := by
  obtain ⟨d, r, heq⟩ := List.exists_cons_of_ne_nil (digits_ne_nil n.natAbs)
  refine ⟨d, r, heq, fun c hc => isDigit_of_mem_digits (heq ▸ hc), ?_⟩
  unfold integerText
  rw [heq]
  split_ifs with h
  · exact .inl ⟨rfl, h⟩
  · exact .inr ⟨rfl, Int.not_lt.1 h⟩

theorem ink_minus : Plain.IsInk '-' := by
  unfold Plain.IsInk
  decide

theorem isWord_integerText (n : Int) : Plain.IsWord (integerText n) := by
  obtain ⟨d, r, -, hdigits, hcases⟩ := integerText_cases n
  have hink : ∀ c ∈ d :: r, Plain.IsInk c := fun c hc => ink_of_isDigit (hdigits c hc)
  have hlast : (d :: r).getLast? ≠ some ':' := fun h =>
    ne_of_isDigit rfl (hdigits _ (List.mem_of_getLast? h)) rfl
  obtain ⟨heq, -⟩ | ⟨heq, -⟩ := hcases
  · rw [heq]
    exact ⟨List.cons_ne_nil _ _, List.forall_mem_cons.2 ⟨ink_minus, hink⟩,
      by rwa [List.getLast?_cons_cons]⟩
  · rw [heq]
    exact ⟨List.cons_ne_nil _ _, hink, hlast⟩

theorem not_indicator_of {q : Char → Bool}
    (hq : "-?:,[]\x7b\x7d#&*!|>'\"%@`".toList.all (fun d => !q d) = true) (h : q c = true) :
    isIndicator c = false := by
  rw [isIndicator, Bool.eq_false_iff, ne_eq, List.contains_iff_mem]
  intro hmem
  have hnone := List.all_eq_true.1 hq c hmem
  rw [h] at hnone
  cases hnone

theorem not_indicator_of_isDigit (h : isDigit c = true) : isIndicator c = false :=
  not_indicator_of (by decide) h

theorem unmarked_integerText (n : Int) : Fold.Unmarked (integerText n) := by
  obtain ⟨d, r, -, hdigits, hcases⟩ := integerText_cases n
  have hd := hdigits d List.mem_cons_self
  obtain ⟨heq, -⟩ | ⟨heq, -⟩ := hcases
  · exact ⟨'-', d :: r, heq, ink_minus, fun _ => ⟨rfl, d, r, rfl, ink_of_isDigit hd⟩⟩
  · refine ⟨d, r, heq, ink_of_isDigit hd, fun hind => ?_⟩
    rw [not_indicator_of_isDigit hd] at hind
    cases hind

theorem inscribed_integer (indent column : Nat) (n : Int) : ∃ lead body,
    Manifest.yamlInteger indent column n = lead ++ body ∧ Fold.Lead indent column lead ∧
      Fold.Inscribed indent body (.scalar (String.ofList (integerText n)) true) := by
  refine ⟨if Fold.turns indent column (integerText n) then Fold.newLine indent else [],
    integerText n, ?_, ?_, .plain (.word (isWord_integerText n)) (unmarked_integerText n)⟩
  · rw [Manifest.yamlInteger, Fold.plainPieces_word, Fold.plainPieces, List.append_nil]
  · split_ifs with hturns
    · exact .line (Fold.column_lt_of_turns hturns)
    · exact .none

/-! What an integer is taken for -/

theorem splitSign_digits {d : Char} {r : List Char} (h : isDigit d = true) :
    Decimal.splitSign (d :: r) = (false, d :: r) := by
  unfold Decimal.splitSign
  split
  · next heq =>
    cases heq
    cases h
  · next heq =>
    cases heq
    cases h
  · rfl

theorem splitSign_integerText (n : Int) :
    Decimal.splitSign (integerText n) = (decide (n < 0), digits n.natAbs) := by
  obtain ⟨d, r, hdigits, hall, ⟨heq, hn⟩ | ⟨heq, hn⟩⟩ := integerText_cases n
  · rw [heq, hdigits, decide_eq_true hn]
    rfl
  · rw [heq, hdigits, decide_eq_false (Int.not_lt.2 hn)]
    exact splitSign_digits (hall d List.mem_cons_self)

theorem not_words_integerText {ws : List String} (n : Int)
    (hws : ∀ w ∈ ws, w.toList.all (fun c => !isDigit c) = true) :
    Plain.words ws (integerText n) = false := by
  rw [Plain.words, Bool.eq_false_iff, ne_eq, List.contains_iff_mem]
  intro hmem
  obtain ⟨d, r, -, hdigits, hcases⟩ := integerText_cases n
  have hd : d ∈ integerText n := by
    obtain ⟨heq, -⟩ | ⟨heq, -⟩ := hcases <;> rw [heq] <;> simp
  have hnone := List.all_eq_true.1 (hws _ hmem) d (by rwa [String.toList_ofList])
  rw [hdigits d List.mem_cons_self] at hnone
  cases hnone

theorem unsigned_integerText (n : Int) : Plain.unsigned (integerText n) = digits n.natAbs := by
  rw [Plain.unsigned, splitSign_integerText]

theorem digits_filled (n : Nat) : (digits n).all (Plain.isFiller isDigit) = true :=
  List.all_eq_true.2 fun c hc => by simp [Plain.isFiller, isDigit_of_mem_digits hc]

theorem not_isFloat_integerText (n : Int) : Plain.isFloat .v12 (integerText n) = false := by
  have htail : (digits n.natAbs).dropWhile (Plain.isFiller isDigit) = [] :=
    List.dropWhile_eq_nil_iff.2 (List.all_eq_true.1 (digits_filled n.natAbs))
  unfold Plain.isFloat
  rw [unsigned_integerText]
  split
  · next heq =>
    have hpoint : isDigit '.' = true :=
      @isDigit_of_mem_digits '.' n.natAbs (heq ▸ List.mem_cons_self)
    cases hpoint
  · rw [htail]
    simp [Plain.isFloatTail, Plain.isExponent]

theorem isRun_digits (n : Nat) : Plain.isRun isDigit (digits n) = true := by
  simp [Plain.isRun, digits_ne_nil, digits_filled]

theorem digits_ne_base {n : Nat} {letter : Char} (h : isDigit letter = false) (r : List Char) :
    digits n ≠ '0' :: letter :: r := fun heq => by
  have hletter := @isDigit_of_mem_digits letter n (by simp [heq])
  rw [h] at hletter
  cases hletter

theorem isInteger_integerText (n : Int) : Plain.isInteger .v12 (integerText n) = true := by
  have hfirst : (Plain.isSigned (integerText n) || (integerText n).head?.any isDigit) = true := by
    obtain ⟨d, r, -, hdigits, ⟨heq, -⟩ | ⟨heq, -⟩⟩ := integerText_cases n
    · rw [heq]
      rfl
    · simp [heq, hdigits d List.mem_cons_self]
  unfold Plain.isInteger
  rw [hfirst, unsigned_integerText, Bool.true_and]
  split
  · next heq => exact absurd heq (digits_ne_base rfl _)
  · next heq => exact absurd heq (digits_ne_base rfl _)
  · next heq => exact absurd heq (digits_ne_base rfl _)
  · exact isRun_digits n.natAbs

theorem ofPlain_integerText (n : Int) :
    Tag.ofPlain .v12 (String.ofList (integerText n)) = .int := by
  have hflag : Plain.isFlag .v12 (integerText n) = false :=
    not_words_integerText n (by decide +kernel)
  simp only [Tag.ofPlain, String.toList_ofList, hflag, not_isFloat_integerText,
    isInteger_integerText, Bool.false_eq_true, if_false, if_true]

theorem toNat_of_isDigit (h : isDigit c = true) : 0x30 ≤ c.toNat ∧ c.toNat ≤ 0x39 := by
  simp only [isDigit, Bool.and_eq_true, decide_eq_true_eq, Char.le_def, UInt32.le_iff_toNat_le] at h
  exact h

theorem isDigitOf_of_isDigit (h : isDigit c = true) : Numeral.isDigitOf 10 c = true := by
  have hcode := toNat_of_isDigit h
  have hzero : '0'.toNat = 0x30 := rfl
  simp only [Numeral.isDigitOf, isHexDigit, h, digitValue_of_isDigit, hzero, Bool.true_or,
    Bool.true_and, decide_eq_true_eq]
  omega

theorem plainChar_of_isDigit (h : isDigit c = true) : Numeral.plainChar c = c := by
  have hcode := toNat_of_isDigit h
  exact if_pos (by omega)

theorem not_isPlainBlank_of_isDigit (h : isDigit c = true) : Numeral.isPlainBlank c = false := by
  have hcode := toNat_of_isDigit h
  have hspace : c ≠ ' ' := ne_of_isDigit rfl h
  have hbehind : ¬c ≤ '\r' := by
    rw [Char.le_def, UInt32.le_iff_toNat_le]
    exact Nat.not_le.2 (Nat.lt_of_lt_of_le (by decide : 0xD < 0x30) hcode.1)
  simp [Numeral.isPlainBlank, hspace, hbehind]

theorem dropBase_ten (cs : List Char) : Numeral.dropBase 10 cs = cs := by
  unfold Numeral.dropBase
  split <;> rfl

theorem read_digits {n : Nat} (hn : (digits n).length ≤ digitLimit) :
    Numeral.read 10 (digits n) = .ok (n : Int) := by
  have hall : ∀ c ∈ digits n, isDigit c = true := fun c hc => isDigit_of_mem_digits hc
  obtain ⟨d, r, heq⟩ := List.exists_cons_of_ne_nil (digits_ne_nil n)
  have hd : isDigit d = true := hall d (heq ▸ List.mem_cons_self)
  have hplain : (digits n).map Numeral.plainChar = digits n :=
    (List.map_congr_left fun c hc => plainChar_of_isDigit (hall c hc)).trans (List.map_id _)
  have hbody : (digits n).dropWhile Numeral.isPlainBlank = digits n := by
    rw [heq, List.dropWhile_cons_of_neg (by simp [not_isPlainBlank_of_isDigit hd])]
  have hsign : Decimal.splitSign (digits n) = (false, digits n) := by
    rw [heq]
    exact splitSign_digits hd
  have htake : (digits n).takeWhile (Numeral.isDigitOf 10) = digits n :=
    List.takeWhile_eq_self_iff.2 fun c hc => isDigitOf_of_isDigit (hall c hc)
  have hdrop : (digits n).dropWhile (Numeral.isDigitOf 10) = [] :=
    List.dropWhile_eq_nil_iff.2 fun c hc => isDigitOf_of_isDigit (hall c hc)
  simp [Numeral.read, hplain, hbody, hsign, dropBase_ten, htake, hdrop, Nat.not_lt.2 hn,
    digits_ne_nil, ofDigits_digits]

theorem value_integerText (hn : (digits n.natAbs).length ≤ digitLimit) :
    Scalar.value .v12 .int (String.ofList (integerText n)) = .ok (.int n) := by
  have hfilter : (integerText n).filter (· != '_') = integerText n := by
    refine List.filter_eq_self.2 fun c hc => ?_
    obtain ⟨d, r, -, hdigits, hcases⟩ := integerText_cases n
    have hchar : c = '-' ∨ isDigit c = true := by
      obtain ⟨heq, -⟩ | ⟨heq, -⟩ := hcases
      · rw [heq] at hc
        exact (List.mem_cons.1 hc).imp_right (hdigits c)
      · exact .inr (hdigits c (heq ▸ hc))
    rcases hchar with rfl | hdigit
    · rfl
    · exact bne_iff_ne.2 (ne_of_isDigit rfl hdigit)
  have hunsigned : Scalar.unsignedInteger .v12 (digits n.natAbs) = .ok (n.natAbs : Int) := by
    unfold Scalar.unsignedInteger
    split
    · next heq => exact absurd heq (digits_ne_base rfl _)
    · next heq => exact absurd heq (digits_ne_base rfl _)
    · next heq => exact absurd heq (digits_ne_base rfl _)
    · simp [Scalar.digits, read_digits hn, Except.mapError]
  have hne : (integerText n).isEmpty = false := by
    simpa using (isWord_integerText n).nonempty
  rw [Scalar.value, Scalar.integer]
  simp only [String.toList_ofList, hfilter, hne, splitSign_integerText, hunsigned,
    Bool.false_eq_true, if_false]
  split_ifs with hsign
  · have hself : -(n.natAbs : Int) = n := by
      have hneg := of_decide_eq_true hsign
      omega
    rw [hself]
  · have hself : (n.natAbs : Int) = n := by
      have hnonneg := mt decide_eq_true hsign
      omega
    rw [hself]

end EnvoySidecar.Yaml
