import EnvoySidecar.Proofs.Yaml.Folding

/-! Text between double quotes, written and read back. Every escape is read as the character that it
was written for, so that a text changes only where its line ends without a backslash. -/

namespace EnvoySidecar.Yaml

open Text

/-! Escapes by code -/

theorem digitValue_upperDigit {d : Nat} (h : d < 16) :
    digitValue (Nat.digitChar d).toUpper = d := by
  revert d
  decide

namespace Fold

open Style
open Quoted (Escapes Body Solid)
open Plain (IsInk)

variable {indent column k n : Nat} {before : Before} {cs r e : List Char} {c : Char}

theorem ofDigits_upperHex (k n : Nat) : ofDigits 16 (upperHex k n) = n :=
  ofDigits_map_hexDigits (fun _ => digitValue_upperDigit) k n

theorem length_upperHex (hk : 0 < k) (h : n < 16 ^ k) : (upperHex k n).length = k := by
  rw [upperHex, List.length_map, length_hexDigits hk h]

theorem isHexDigit_upperHex (k n : Nat) : (upperHex k n).all isHexDigit = true := by
  rw [upperHex, List.all_map, List.all_eq_true]
  exact forall_mem_hexDigits (p := fun c => isHexDigit c.toUpper = true) (by decide) k n

theorem characterOf_toNat (c : Char) : Quoted.characterOf c.toNat = .ok c := by
  have hvalid : c.toNat.isValidChar := c.valid
  have hcode : ¬0x10FFFF < c.toNat := by
    unfold Nat.isValidChar at hvalid
    omega
  rw [Quoted.characterOf, if_neg hcode, dif_pos hvalid]
  rfl

theorem escapes_code {letter : Char} (hletter : Quoted.escape? letter = none)
    (hwidth : Quoted.escapeWidth? letter = some k) (hpos : 0 < k)
    (hcode : c.toNat < 16 ^ k) : Escapes (letter :: upperHex k c.toNat) c where
  head := ⟨letter, _, rfl, by
    by_contra hbreak
    rw [Bool.not_eq_false] at hbreak
    simp only [isBreak, Bool.or_eq_true, decide_eq_true_eq] at hbreak
    obtain ((rfl | rfl) | rfl) | rfl := hbreak <;> cases hwidth⟩
  reads rest p := by
    have hlength := length_upperHex hpos hcode
    have htake : (upperHex k c.toNat ++ rest).take k = upperHex k c.toNat := by
      rw [List.take_append_of_le_length hlength.ge, List.take_of_length_le hlength.le]
    have hsteps := Cursor.steps_append (letter :: upperHex k c.toNat) rest p
    rw [List.length_cons, hlength] at hsteps
    rw [Quoted.readEscape]
    simp only [List.cons_append, hletter, hwidth, htake, hlength, isHexDigit_upperHex,
      ofDigits_upperHex, characterOf_toNat, decide_true, Bool.and_self, if_true]
    exact congrArg (fun k => Except.ok (c, k)) hsteps

theorem escapes_letter {letter : Char} (h : escapeLetter? c = some letter) :
    Escapes [letter] c := by
  unfold escapeLetter? at h
  split at h <;> cases h <;> exact ⟨⟨_, _, rfl, by decide⟩, fun _ _ => rfl⟩

theorem escapes_escape? (h : escape? c = some e) : ∃ r, e = '\\' :: r ∧ Escapes r c := by
  unfold escape? at h
  cases hletter : escapeLetter? c with
  | some letter =>
    rw [hletter] at h
    cases h
    exact ⟨_, rfl, escapes_letter hletter⟩
  | none =>
    rw [hletter] at h
    have hvalid : c.toNat.isValidChar := c.valid
    unfold Nat.isValidChar at hvalid
    dsimp only at h
    split_ifs at h with husual hbyte hshort <;> cases h
    · exact ⟨_, rfl, escapes_code rfl rfl (by decide) (by omega)⟩
    · exact ⟨_, rfl, escapes_code rfl rfl (by decide) (by omega)⟩
    · exact ⟨_, rfl, escapes_code rfl rfl (by decide) (by omega)⟩

theorem escapes_space : Escapes [' '] ' ' :=
  ⟨⟨_, _, rfl, by decide⟩, fun _ _ => rfl⟩

/-! Lines between double quotes -/

def doubleLeft (indent : Nat) : Nat → Before → List Char → List Char
  | _, _, [] => []
  | column, before, c :: r =>
    let inside := before != .quote && !r.isEmpty
    match escape? c with
    | some e =>
      let after := column + e.length
      if inside && width + 1 < after then
        if endsOpenly (c :: r) then c :: ' ' :: doubleLeft indent indent .escape r
        else if r.head? = some ' ' then c :: doubleLeft indent (indent + 1) .escape r
        else c :: doubleLeft indent indent .escape r
      else c :: doubleLeft indent after .escape r
    | none =>
      if c = ' ' then
        if inside && width < column then
          if endsOpenly (c :: r) && before != .space then c :: doubleLeft indent indent .space r
          else c :: doubleLeft indent (indent + 2) .space r
        else c :: doubleLeft indent (column + 1) .space r
      else if inside && width < column && before = .escape then
        let line := c :: doubleLeft indent (indent + 1) .other r
        if endsOpenly (c :: r) then ' ' :: line else line
      else c :: doubleLeft indent (column + 1) .other r

theorem not_special_double (h : IsInk c) (hquote : c ≠ '"') (hslash : c ≠ '\\') :
    Quoted.isSpecial .double c = false := by
  have hbreak := h.2
  simp only [isEdge, Bool.or_eq_false_iff] at hbreak
  simp [Quoted.isSpecial, h.not_gap, hbreak.2, Quoted.Style.mark, hquote, hslash]

theorem not_special_of_escape? (h : escape? c = none) (hspace : c ≠ ' ') :
    Quoted.isSpecial .double c = false := by
  obtain ⟨husual, hbreak, hquote, hslash⟩ := escape?_eq_none_iff.1 h
  exact not_special_double ⟨husual, by simp [isEdge, hspace, hbreak]⟩ hquote hslash

theorem solid_doubleChars (hcolumn : column ≤ width) (h : cs.head? ≠ some ' ') :
    Solid (doubleChars indent column before cs) := by
  cases cs with
  | nil => exact stopsAt_nil
  | cons c r =>
    have hfull : (decide (width < column)) = false := by simpa using hcolumn
    rw [doubleChars]
    cases he : escape? c with
    | some e =>
      obtain ⟨e, rfl, -⟩ := escapes_escape? he
      dsimp only
      split_ifs <;> exact stopsAt_cons rfl
    | none =>
      have hspace : c ≠ ' ' := by simpa using h
      simp only [hspace, hfull, Bool.and_false, Bool.false_and, Bool.false_eq_true, if_false]
      exact stopsAt_cons (Quoted.not_gap_of_not_special (not_special_of_escape? he hspace))

theorem not_break_doubleChars : StopsAt isBreak (doubleChars indent column .space cs) := by
  cases cs with
  | nil => exact stopsAt_nil
  | cons c r =>
    rw [doubleChars]
    cases he : escape? c with
    | some e =>
      obtain ⟨e, rfl, -⟩ := escapes_escape? he
      dsimp only
      split_ifs <;> exact stopsAt_cons rfl
    | none =>
      have hbreak := (escape?_eq_none_iff.1 he).2.1
      simp only [bne_self_eq_false, Bool.and_false, Bool.false_eq_true, if_false,
        reduceCtorEq, decide_false]
      split_ifs <;> exact stopsAt_cons (by first | rfl | exact hbreak)

theorem endsOpenly_next (h : endsOpenly (c :: r) = true) : r.head? ≠ some ' ' := by
  rw [endsOpenly] at h
  simp only [Bool.and_eq_true, bne_iff_ne] at h
  exact h.2

theorem doubleChars_space (h : column ≤ width) : doubleChars indent column before (' ' :: r) =
    ' ' :: doubleChars indent (column + 1) .space r := by
  have hfull : (decide (width < column)) = false := by simpa using h
  have he : escape? ' ' = none := rfl
  simp [doubleChars, he, hfull]

theorem doubleLeft_space (h : column ≤ width) : doubleLeft indent column before (' ' :: r) =
    ' ' :: doubleLeft indent (column + 1) .space r := by
  have hfull : (decide (width < column)) = false := by simpa using h
  have he : escape? ' ' = none := rfl
  simp [doubleLeft, he, hfull]

theorem body_doubleChars (hindent : 0 < indent) (hwidth : indent < width) (cs : List Char)
    (column : Nat) (before : Before) : Body .double (doubleChars indent column before cs)
      (doubleLeft indent column before cs) := by
  induction hn : cs.length using Nat.strong_induction_on generalizing cs column before with
  | _ n ih =>
  cases cs with
  | nil => exact .nil
  | cons c r =>
    have hmore (column : Nat) (before : Before) : Body .double (doubleChars indent column before r)
        (doubleLeft indent column before r) :=
      ih r.length (by simp [← hn]) r column before rfl
    rw [doubleChars, doubleLeft]
    cases he : escape? c with
    | some e =>
      obtain ⟨e, rfl, hescapes⟩ := escapes_escape? he
      dsimp only
      split_ifs with hfull hopen hspace
      · have hsolid : Solid (doubleChars indent indent .escape r) :=
          solid_doubleChars hwidth.le (by simpa using endsOpenly_next hopen)
        have h := Body.line hindent hsolid (hmore indent .escape)
        simpa [newLine] using Body.escape rfl hescapes h
      · obtain ⟨r, rfl⟩ := List.head?_eq_some_iff.1 hspace
        have hshorter : r.length < n := by
          rw [← hn, List.length_cons, List.length_cons]
          omega
        have hrest := ih r.length hshorter r (indent + 2) .space rfl
        have hline : Body .double ('\\' :: doubleChars indent (indent + 1) .escape (' ' :: r))
            (doubleLeft indent (indent + 1) .escape (' ' :: r)) := by
          rw [doubleChars_space (by omega), doubleLeft_space (by omega)]
          exact .escape rfl escapes_space hrest
        have h := Body.joined rfl hindent (stopsAt_cons rfl) hline
        simpa [newLine] using Body.escape rfl hescapes h
      · have hsolid : Solid (doubleChars indent indent .escape r) :=
          solid_doubleChars hwidth.le hspace
        have h := Body.joined rfl hindent hsolid (hmore indent .escape)
        simpa [newLine] using Body.escape rfl hescapes h
      · exact .escape rfl hescapes (hmore _ _)
    | none =>
      by_cases hspace : c = ' '
      · subst hspace
        simp only [if_true]
        split_ifs with hfull hopen
        · rw [Bool.and_eq_true] at hopen
          have hsolid : Solid (doubleChars indent indent .space r) :=
            solid_doubleChars hwidth.le (endsOpenly_next hopen.1)
          exact .line hindent hsolid (hmore _ _)
        · have h := Body.escape rfl escapes_space (hmore (indent + 2) .space)
          exact .joined rfl hindent (stopsAt_cons rfl) h
        · exact .space (hmore _ _) not_break_doubleChars
      · have hordinary := not_special_of_escape? he hspace
        have hword (column : Nat) := Body.ordinary hordinary (hmore column .other)
        have hsolid : Solid (c :: doubleChars indent (indent + 1) .other r) :=
          stopsAt_cons (Quoted.not_gap_of_not_special hordinary)
        simp only [hspace, if_false]
        split_ifs with hfull hopen
        · exact .line hindent hsolid (hword (indent + 1))
        · exact .joined rfl hindent hsolid (hword (indent + 1))
        · exact hword (column + 1)

end Fold

end EnvoySidecar.Yaml
