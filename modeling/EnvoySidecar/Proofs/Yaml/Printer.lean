import Mathlib.Data.List.Basic
import EnvoySidecar.Proofs.Text.Digits
import EnvoySidecar.Proofs.Text.Quoted
import EnvoySidecar.Yaml.Printer

/-! What the text of a manifest consists of. Whatever the texts in it hold, nothing is printed that a
document may not hold, and nothing that a reader or a console would drop or change. -/

namespace EnvoySidecar.Yaml

variable {indent column : Nat} {cs ds : List Char} {c : Char}

namespace Style

theorem toNat_of_isAlphanum (h : c.isAlphanum = true) : 0x30 ≤ c.toNat ∧ c.toNat ≤ 0x7A := by
  rcases Bool.or_eq_true_iff.1 (h : (c.isAlpha || c.isDigit) = true) with halpha | hdigit
  · rcases Bool.or_eq_true_iff.1 (halpha : (c.isUpper || c.isLower) = true) with hupper | hlower
    · have hrange : 0x41 ≤ c.toNat ∧ c.toNat ≤ 0x5A := of_decide_eq_true hupper
      omega
    · have hrange := Bool.and_eq_true_iff.1 hlower
      have hlo : 0x61 ≤ c.toNat := of_decide_eq_true hrange.1
      have hhi : c.toNat ≤ 0x7A := of_decide_eq_true hrange.2
      omega
  · have hrange := Bool.and_eq_true_iff.1 hdigit
    have hlo : 0x30 ≤ c.toNat := of_decide_eq_true hrange.1
    have hhi : c.toNat ≤ 0x39 := of_decide_eq_true hrange.2
    omega

theorem isUsual_of_isAlphanum (h : c.isAlphanum = true) : isUsual c = true := by
  have hcode := toNat_of_isAlphanum h
  have hmark : c ≠ byteOrderMark := by
    rintro rfl
    revert hcode
    decide
  simp [isUsual, hmark]
  omega

def Usual (cs : List Char) : Prop :=
  ∀ c ∈ cs, isUsual c = true

instance : Decidable (Usual cs) :=
  List.decidableBAll (fun c => isUsual c = true) cs

@[simp] theorem usual_nil : Usual [] :=
  fun _ hc => nomatch hc

@[simp] theorem usual_cons : Usual (c :: cs) ↔ isUsual c = true ∧ Usual cs :=
  List.forall_mem_cons

@[simp] theorem usual_append : Usual (cs ++ ds) ↔ Usual cs ∧ Usual ds :=
  List.forall_mem_append

@[simp] theorem usual_spaces (n : Nat) : Usual (List.replicate n ' ') :=
  fun _ hc => List.eq_of_mem_replicate hc ▸ by decide

@[simp] theorem isUsual_marks : isUsual '\n' = true ∧ isUsual ' ' = true ∧ isUsual '-' = true ∧
    isUsual ':' = true ∧ isUsual '\'' = true ∧ isUsual '"' = true ∧ isUsual '\\' = true := by
  decide

theorem usual_of_isPlain (h : isPlain cs = true) : Usual cs := by
  simp only [isPlain, Bool.and_eq_true, List.all_eq_true] at h
  exact fun c hc => (h.1.1.1.1.2 c hc).1

theorem usual_of_isSingle (h : isSingle cs = true) : Usual cs := by
  simp only [isSingle, Bool.and_eq_true, List.all_eq_true] at h
  exact fun c hc => (h.1 c hc).1.1

theorem isPlain_of_ofText (h : ofText cs = .plain) : isPlain cs = true := by
  unfold ofText at h
  split_ifs at h with hplain
  exact hplain

theorem isSingle_of_ofText (h : ofText cs = .single) : isSingle cs = true := by
  unfold ofText at h
  split_ifs at h with hplain hsingle
  exact hsingle

end Style

namespace Fold

open Style

theorem text_cons (c : Char) (ps : List Piece) :
    (Piece.cons c ps).flatMap Piece.text = c :: ps.flatMap Piece.text := by
  unfold Piece.cons
  split_ifs with hspace
  · subst hspace
    split <;> rfl
  · split <;> rfl
  · split <;> rfl

theorem text_pieces (cs : List Char) : (pieces cs).flatMap Piece.text = cs := by
  induction cs with
  | nil => rfl
  | cons c r ih => rw [pieces, text_cons, ih]

@[simp] theorem usual_newLine : Usual (newLine indent) := by
  simp [newLine]

theorem usual_plainPieces {ps : List Piece} (h : Usual (ps.flatMap Piece.text)) :
    Usual (plainPieces indent column ps) := by
  induction ps generalizing column with
  | nil => exact usual_nil
  | cons p rest ih =>
    rw [List.flatMap_cons, usual_append] at h
    obtain ⟨hp, hrest⟩ := h
    cases p with
    | word w =>
      rw [plainPieces]
      split_ifs
      · simpa using ⟨hp, ih hrest⟩
      · simpa using ⟨hp, ih hrest⟩
    | spaces n =>
      rw [plainPieces]
      split_ifs
      · simpa using ih hrest
      · simpa using ih hrest
    | breaks bs => simpa [plainPieces] using ⟨hp, ih hrest⟩

theorem usual_singlePieces {first : Bool} {ps : List Piece} (h : Usual (ps.flatMap Piece.text)) :
    Usual (singlePieces indent column first ps) := by
  induction ps generalizing column first with
  | nil => exact usual_nil
  | cons p rest ih =>
    rw [List.flatMap_cons, usual_append] at h
    obtain ⟨hp, hrest⟩ := h
    cases p with
    | word w => simpa [singlePieces] using ⟨hp, ih hrest⟩
    | spaces n =>
      rw [singlePieces]
      split_ifs
      · simpa using ih hrest
      · simpa using ih hrest
    | breaks bs => simpa [singlePieces] using ⟨hp, ih hrest⟩

theorem escapeLetter?_eq_none_iff (h : isUsual c = true) :
    escapeLetter? c = none ↔ isBreak c = false ∧ c ≠ '"' ∧ c ≠ '\\' := by
  constructor
  · intro hnone
    by_contra hother
    have hc : c = '\n' ∨ c = '\x85' ∨ c = '\u2028' ∨ c = '\u2029' ∨ c = '"' ∨ c = '\\' := by
      simp only [isBreak, Bool.or_eq_false_iff, decide_eq_false_iff_not] at hother
      tauto
    obtain rfl | rfl | rfl | rfl | rfl | rfl := hc <;> cases hnone
  · rintro ⟨hbreak, hquote, hslash⟩
    unfold escapeLetter?
    split
    case h_15 => rfl
    all_goals revert h hbreak hquote hslash; decide

theorem escape?_eq_none_iff : escape? c = none ↔
    isUsual c = true ∧ isBreak c = false ∧ c ≠ '"' ∧ c ≠ '\\' := by
  by_cases husual : isUsual c = true
  · have hletter := escapeLetter?_eq_none_iff husual
    unfold escape?
    cases h : escapeLetter? c with
    | none => simp [husual, hletter.1 h]
    | some letter => exact iff_of_false (by simp) fun hc => by simp [hletter.2 hc.2] at h
  · unfold escape?
    cases escapeLetter? c with
    | none =>
      dsimp only
      split_ifs <;> simp [husual]
    | some letter => simp [husual]

theorem usual_upperHex (width n : Nat) : Usual (upperHex width n) := by
  intro c hc
  obtain ⟨d, hd, rfl⟩ := List.mem_map.1 hc
  exact isUsual_of_isAlphanum
    (Text.forall_mem_hexDigits (p := fun d => d.toUpper.isAlphanum = true) (by decide) width n d hd)

theorem usual_escape? {e : List Char} (h : escape? c = some e) : Usual e := by
  unfold escape? at h
  cases hletter : escapeLetter? c with
  | some letter =>
    rw [hletter] at h
    cases h
    unfold escapeLetter? at hletter
    split at hletter <;> cases hletter <;> simp <;> decide
  | none =>
    rw [hletter] at h
    dsimp only at h
    split_ifs at h <;> cases Option.some.inj h <;> simp [usual_upperHex] <;> decide

theorem usual_doubleChars {before : Before} : Usual (doubleChars indent column before cs) := by
  induction cs generalizing column before with
  | nil => exact usual_nil
  | cons c r ih =>
    rw [doubleChars]
    cases he : escape? c with
    | some e =>
      have hescape := usual_escape? he
      dsimp only
      split_ifs <;> simp [hescape, ih]
    | none =>
      have hc := (escape?_eq_none_iff.1 he).1
      dsimp only
      split_ifs <;> simp [hc, ih]

theorem usual_scalar : Usual (scalar indent column cs) := by
  unfold scalar
  split
  · next h =>
    refine usual_plainPieces ?_
    rw [text_pieces]
    exact usual_of_isPlain (isPlain_of_ofText h)
  · next h =>
    have hpieces : Usual (singlePieces indent (column + 1) true (pieces cs)) := by
      refine usual_singlePieces ?_
      rw [text_pieces]
      exact usual_of_isSingle (isSingle_of_ofText h)
    simpa using hpieces
  · simp [usual_doubleChars]

end Fold

end EnvoySidecar.Yaml

namespace EnvoySidecar.Manifest

open Yaml Style

theorem usual_integerText (n : Int) : Usual (Text.integerText n) := by
  have hdigits : Usual (Text.digits n.natAbs) := fun c hc => by
    have hdigit := Text.isDigit_of_mem_digits hc
    refine isUsual_of_isAlphanum ?_
    simp only [Text.isDigit, Bool.and_eq_true, decide_eq_true_eq] at hdigit
    simpa [Char.isAlphanum, Char.isDigit, Char.le_def] using .inr hdigit
  unfold Text.integerText
  split_ifs <;> simp [hdigits]

theorem usual_yamlName (name : String) : Usual (yamlName name) := by
  unfold yamlName
  split
  · next h => exact usual_of_isPlain (isPlain_of_ofText h)
  · next h => simpa using usual_of_isSingle (isSingle_of_ofText h)
  · have hchars : Usual (name.toList.flatMap fun c => (Fold.escape? c).getD [c]) := by
      intro d hd
      obtain ⟨c, -, hd⟩ := List.mem_flatMap.1 hd
      cases he : Fold.escape? c with
      | some e => exact Fold.usual_escape? he d (by simpa [he] using hd)
      | none =>
        obtain rfl : d = c := by simpa [he] using hd
        exact (Fold.escape?_eq_none_iff.1 he).1
    simpa using hchars

theorem usual_yamlInteger (indent column : Nat) (n : Int) :
    Usual (yamlInteger indent column n) := by
  refine Fold.usual_plainPieces ?_
  simpa [Fold.Piece.text] using usual_integerText n

@[simp] theorem usual_indentation (n : Nat) : Usual (indentation n) :=
  usual_spaces n

mutual

theorem usual_yamlFrom (column : Nat) : (m : Manifest) → Usual (yamlFrom column m)
  | .null | .list [] | .record [] => by
    rw [yamlFrom]
    decide
  | .int n => by
    simpa [yamlFrom] using usual_yamlInteger column column n
  | .text s => by
    simpa [yamlFrom] using Fold.usual_scalar
  | .list (m :: rest) => by
    simpa [yamlFrom] using ⟨usual_yamlFrom (column + 2) m, usual_yamlItems column rest⟩
  | .record (f :: rest) => by
    simpa [yamlFrom] using ⟨usual_yamlField column f, usual_yamlFields column rest⟩

theorem usual_yamlItems (column : Nat) : (ms : List Manifest) → Usual (yamlItems column ms)
  | [] => by
    rw [yamlItems]
    exact usual_nil
  | m :: rest => by
    simpa [yamlItems] using ⟨usual_yamlFrom (column + 2) m, usual_yamlItems column rest⟩

theorem usual_yamlValue (column start : Nat) : (m : Manifest) → Usual (yamlValue column start m)
  | .null | .list [] | .record [] => by
    rw [yamlValue]
    decide
  | .int n => by
    simpa [yamlValue] using usual_yamlInteger _ _ n
  | .text s => by
    simpa [yamlValue] using Fold.usual_scalar
  | .list (m :: rest) => by
    simpa [yamlValue] using usual_yamlItems column (m :: rest)
  | .record (f :: rest) => by
    simpa [yamlValue] using usual_yamlFields (column + 2) (f :: rest)

theorem usual_yamlField (column : Nat) : (f : String × Manifest) → Usual (yamlField column f)
  | (name, m) => by
    simpa [yamlField] using ⟨usual_yamlName name, usual_yamlValue column _ m⟩

theorem usual_yamlFields (column : Nat) :
    (fs : List (String × Manifest)) → Usual (yamlFields column fs)
  | [] => by
    rw [yamlFields]
    exact usual_nil
  | f :: rest => by
    simpa [yamlFields] using ⟨usual_yamlField column f, usual_yamlFields column rest⟩

end

theorem usual_toYaml (m : Manifest) : Usual m.toYaml.toList := by
  rw [toYaml, String.toList_ofList]
  exact usual_yamlFrom 0 m

end EnvoySidecar.Manifest
