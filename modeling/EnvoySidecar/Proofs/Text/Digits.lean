import Mathlib.Data.List.Basic
import Mathlib.Data.Nat.Digits.Defs
import Mathlib.Tactic.Ring
import EnvoySidecar.Text.Digits

/-! Digit strings and their values. -/

namespace EnvoySidecar.Text

theorem digitValue_of_isDigit {c : Char} (h : isDigit c = true) :
    digitValue c = c.toNat - '0'.toNat := by
  rw [digitValue, if_pos h]

theorem isDigit_of_mem_digits {c : Char} {n : Nat} (h : c ∈ digits n) : isDigit c = true := by
  have hc : c.isDigit = true := Nat.isDigit_of_mem_toDigits (by decide) (by decide) h
  simpa [isDigit, Char.isDigit, Char.le_def] using hc

theorem digits_ne_nil (n : Nat) : digits n ≠ [] :=
  Nat.toDigits_ne_nil

theorem foldl_digitValue (base n : Nat) (cs : List Char) :
    cs.foldl (fun n c => base * n + digitValue c) n = n * base ^ cs.length + ofDigits base cs := by
  induction cs generalizing n with
  | nil => simp [ofDigits]
  | cons c cs ih =>
    rw [ofDigits, List.foldl_cons, List.foldl_cons, ih, ih, List.length_cons, pow_succ]
    ring

theorem ofDigits_append (base : Nat) (cs ds : List Char) :
    ofDigits base (cs ++ ds) = ofDigits base cs * base ^ ds.length + ofDigits base ds := by
  rw [ofDigits, List.foldl_append, foldl_digitValue]
  rfl

theorem ofDigits_replicate {z : Char} (hz : digitValue z = 0) (base k : Nat) (cs : List Char) :
    ofDigits base (List.replicate k z ++ cs) = ofDigits base cs := by
  induction k with
  | zero => rfl
  | succ k ih =>
    rw [List.replicate_succ, List.cons_append, ofDigits, List.foldl_cons, hz, Nat.mul_zero,
      Nat.add_zero]
    exact ih

theorem ofDigits_eq_ofDigitChars {cs : List Char} (h : ∀ c ∈ cs, isDigit c = true) :
    ofDigits 10 cs = Nat.ofDigitChars 10 cs 0 := by
  rw [ofDigits, Nat.ofDigitChars_eq_foldl]
  refine List.foldl_ext _ _ _ fun n c hc => ?_
  rw [digitValue_of_isDigit (h c hc)]

theorem ofDigits_digits (n : Nat) : ofDigits 10 (digits n) = n := by
  rw [ofDigits_eq_ofDigitChars fun c hc => isDigit_of_mem_digits hc]
  exact Nat.ofDigitChars_ten_toDigits

/-! Hexadecimal digits of a fixed width -/

variable {f : Char → Char}

theorem ofDigits_map_toDigits (hf : ∀ d < 16, digitValue (f (Nat.digitChar d)) = d) (n : Nat) :
    ofDigits 16 ((Nat.toDigits 16 n).map f) = n := by
  induction n using Nat.strongRecOn with
  | _ n ih =>
    have hdigit {d : Nat} (h : d < 16) : ofDigits 16 [f (Nat.digitChar d)] = d := by
      simpa [ofDigits] using hf d h
    rw [Nat.toDigits_eq_if (by decide)]
    split_ifs with hn
    · exact hdigit hn
    · rw [List.map_append, ofDigits_append, ih (n / 16) (by omega), List.map_singleton,
        hdigit (Nat.mod_lt n (by decide)), List.length_singleton]
      omega

theorem ofDigits_map_hexDigits (hf : ∀ d < 16, digitValue (f (Nat.digitChar d)) = d)
    (width n : Nat) : ofDigits 16 ((hexDigits width n).map f) = n := by
  have hzero : digitValue (f '0') = 0 := hf 0 (by decide)
  rw [hexDigits, List.map_append, List.map_replicate, ofDigits_replicate hzero,
    ofDigits_map_toDigits hf]

theorem ofDigits_hexDigits (width n : Nat) : ofDigits 16 (hexDigits width n) = n := by
  have h := ofDigits_map_hexDigits (f := id) (by decide) width n
  rwa [List.map_id] at h

theorem length_hexDigits {width n : Nat} (hwidth : 0 < width) (h : n < 16 ^ width) :
    (hexDigits width n).length = width := by
  have hdigits := Nat.toDigits_length 16 n width hwidth h
  simp only [hexDigits, List.length_append, List.length_replicate]
  omega

end EnvoySidecar.Text
