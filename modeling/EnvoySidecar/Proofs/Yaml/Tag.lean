import Mathlib.Data.List.TakeWhile
import Mathlib.Tactic.SplitIfs
import EnvoySidecar.Yaml.Tag

/-! The tags of plain scalars with spaces in them. Only dates may hold spaces among the shapes that
denote something other than a text, and it does not matter for them how many there are. -/

namespace EnvoySidecar.Yaml

open Text

namespace Plain

variable {cs ds r : List Char} {c : Char} {n : Nat}

/-! Shapes without spaces -/

theorem not_mem_splitSign (h : ' ' ∉ unsigned cs) : ' ' ∉ cs := by
  unfold unsigned Decimal.splitSign at h
  split at h
  · simpa using h
  · simpa using h
  · exact h

theorem not_mem_of_all {p : Char → Bool} (hp : p ' ' = false) (h : cs.all p = true) : ' ' ∉ cs :=
  fun hmem => by
    have hspace := List.all_eq_true.1 h _ hmem
    rw [hp] at hspace
    exact absurd hspace Bool.false_ne_true

theorem not_mem_of_isRun {p : Char → Bool} (hp : p ' ' = false) (h : isRun p cs = true) :
    ' ' ∉ cs := by
  unfold isRun at h
  rw [Bool.and_eq_true] at h
  exact not_mem_of_all (by simp [isFiller, hp]) h.2

theorem not_mem_of_words {ws : List String} (hws : ∀ w ∈ ws, ' ' ∉ w.toList)
    (h : words ws cs = true) : ' ' ∉ cs := by
  have hw := hws _ (List.contains_iff_mem.1 h)
  rwa [String.toList_ofList] at hw

theorem not_mem_of_isFlag (h : isFlag .v12 cs = true) : ' ' ∉ cs :=
  not_mem_of_words (by decide +kernel) h

theorem not_mem_of_isNull (h : isNull cs = true) : ' ' ∉ cs :=
  not_mem_of_words (by decide +kernel) h

theorem not_mem_of_isInteger (h : isInteger .v12 cs = true) : ' ' ∉ cs := by
  unfold isInteger at h
  rw [Bool.and_eq_true] at h
  refine not_mem_splitSign ?_
  have h := h.2
  split at h
  · next heq => simpa [heq] using not_mem_of_isRun (by decide) h
  · next heq => simpa [heq] using not_mem_of_isRun (by decide) h
  · next heq =>
    rw [Bool.and_eq_true] at h
    simpa [heq] using not_mem_of_isRun (by decide) h.2
  · exact not_mem_of_isRun (by decide) h

theorem not_mem_of_isExponent {signRequired : Bool} (h : isExponent signRequired cs = true) :
    ' ' ∉ cs := by
  unfold isExponent at h
  split at h
  · next c r =>
    simp only [Bool.and_eq_true, Bool.or_eq_true, decide_eq_true_eq] at h
    obtain ⟨⟨⟨hc, -⟩, -⟩, hr⟩ := h
    have hrest := not_mem_splitSign (not_mem_of_all (by decide) hr)
    rintro hmem
    rcases List.mem_cons.1 hmem with rfl | hmem
    · exact absurd hc (by decide)
    · exact hrest hmem
  · exact absurd h Bool.false_ne_true

theorem not_mem_of_dropWhile (h : ' ' ∉ cs.dropWhile (isFiller isDigit)) : ' ' ∉ cs := by
  rw [← @List.takeWhile_append_dropWhile _ (isFiller isDigit) cs, List.mem_append, not_or]
  refine ⟨fun hmem => ?_, h⟩
  exact absurd (List.mem_takeWhile_imp hmem) (by decide)

theorem not_mem_of_isFraction (h : isFraction cs = true) : ' ' ∉ cs := by
  unfold isFraction at h
  simp only [Bool.and_eq_true, Bool.or_eq_true] at h
  refine not_mem_of_dropWhile ?_
  rcases h.2 with hnil | hexponent
  · simp [List.isEmpty_iff.1 hnil]
  · exact not_mem_of_isExponent hexponent

theorem not_mem_of_isFloatTail (h : isFloatTail cs = true) : ' ' ∉ cs := by
  unfold isFloatTail at h
  split at h
  · next f =>
    simp only [Bool.or_eq_true] at h
    have hf : ' ' ∉ f := by
      refine not_mem_of_dropWhile ?_
      rcases h with hnil | hexponent
      · simp [List.isEmpty_iff.1 hnil]
      · exact not_mem_of_isExponent hexponent
    simpa using hf
  · exact not_mem_of_isExponent h

theorem not_mem_of_isFloat (h : isFloat .v12 cs = true) : ' ' ∉ cs := by
  unfold isFloat at h
  refine not_mem_splitSign ?_
  split at h
  · next r heq =>
    simp only [Bool.or_eq_true, Bool.and_eq_true] at h
    rw [heq]
    have hr : ' ' ∉ r := by
      rcases h with (hinf | ⟨-, hnan⟩) | ⟨hfraction, -⟩
      · exact not_mem_of_words (by decide +kernel) hinf
      · exact not_mem_of_words (by decide) hnan
      · exact not_mem_of_isFraction hfraction
    simpa using hr
  · simp only [Bool.and_eq_true, Bool.or_eq_true, reduceCtorEq, decide_false, Bool.false_eq_true,
      false_and, or_false] at h
    exact not_mem_of_dropWhile (not_mem_of_isFloatTail h.2)

/-! Dates -/

def squeeze : List Char → List Char
  | [] => []
  | c :: r => if c = ' ' && r.head? = some ' ' then squeeze r else c :: squeeze r

@[simp] theorem squeeze_nil : squeeze [] = [] := rfl

theorem squeeze_cons (h : c ≠ ' ') : squeeze (c :: r) = c :: squeeze r := by
  simp [squeeze, h]

theorem squeeze_space (h : r.head? ≠ some ' ') : squeeze (' ' :: r) = ' ' :: squeeze r := by
  simp [squeeze, h]

theorem squeeze_sublist (cs : List Char) : (squeeze cs).Sublist cs := by
  induction cs with
  | nil => exact .slnil
  | cons c r ih =>
    rw [squeeze]
    split_ifs
    · exact .cons c ih
    · exact .cons_cons c ih

@[simp] theorem head?_squeeze (cs : List Char) : (squeeze cs).head? = cs.head? := by
  induction cs with
  | nil => rfl
  | cons c r ih =>
    rw [squeeze]
    split_ifs with h
    · simp only [Bool.and_eq_true, decide_eq_true_eq] at h
      rw [ih, h.1, h.2, List.head?_cons]
    · rfl

@[simp] theorem squeeze_eq_nil_iff : squeeze cs = [] ↔ cs = [] := by
  rw [← List.head?_eq_none_iff, head?_squeeze, List.head?_eq_none_iff]

theorem isEmpty_squeeze (cs : List Char) : (squeeze cs).isEmpty = cs.isEmpty := by
  rw [Bool.eq_iff_iff, List.isEmpty_iff, List.isEmpty_iff, squeeze_eq_nil_iff]

theorem squeeze_spaces (hn : 0 < n) (cs : List Char) :
    squeeze (List.replicate n ' ' ++ cs) = squeeze (' ' :: cs) := by
  induction n with
  | zero => exact absurd hn (Nat.lt_irrefl 0)
  | succ n ih =>
    cases n with
    | zero => rfl
    | succ n =>
      rw [← ih (Nat.succ_pos n), List.replicate_succ, List.cons_append, squeeze]
      exact if_pos (by simp [List.replicate_succ])

theorem squeeze_append (h : ' ' ∉ cs) (ds : List Char) : squeeze (cs ++ ds) = cs ++ squeeze ds := by
  induction cs with
  | nil => rfl
  | cons c r ih =>
    rw [List.mem_cons, not_or] at h
    rw [List.cons_append, squeeze_cons (Ne.symm h.1), ih h.2, List.cons_append]

theorem mem_squeeze : c ∈ squeeze cs ↔ c ∈ cs := by
  induction cs with
  | nil => rfl
  | cons d r ih =>
    rw [squeeze]
    split_ifs with h
    · simp only [Bool.and_eq_true, decide_eq_true_eq] at h
      have hmem : ' ' ∈ r := List.mem_of_head? h.2
      rw [ih, List.mem_cons]
      exact ⟨.inr, fun hc => hc.elim (fun heq => heq ▸ h.1 ▸ hmem) id⟩
    · rw [List.mem_cons, List.mem_cons, ih]

theorem exists_squeeze_space (r : List Char) : ∃ tail, squeeze (' ' :: r) = ' ' :: tail :=
  List.head?_eq_some_iff.1 (head?_squeeze (' ' :: r))

theorem dropWhile_squeeze {p : Char → Bool} (cs : List Char) :
    (squeeze cs).dropWhile p = squeeze (cs.dropWhile p) := by
  induction cs with
  | nil => rfl
  | cons c r ih =>
    by_cases hrun : (c = ' ' && r.head? = some ' ') = true
    · rw [squeeze, if_pos hrun, ih]
      simp only [Bool.and_eq_true, decide_eq_true_eq] at hrun
      obtain ⟨rfl, hhead⟩ := hrun
      by_cases hp : p ' ' = true
      · rw [List.dropWhile_cons_of_pos hp]
      · obtain ⟨tail, rfl⟩ := List.head?_eq_some_iff.1 hhead
        rw [List.dropWhile_cons_of_neg hp, List.dropWhile_cons_of_neg hp]
        exact (if_pos rfl).symm
    · rw [squeeze, if_neg hrun]
      by_cases hp : p c = true
      · rw [List.dropWhile_cons_of_pos hp, List.dropWhile_cons_of_pos hp, ih]
      · rw [List.dropWhile_cons_of_neg hp, List.dropWhile_cons_of_neg hp, squeeze, if_neg hrun]

theorem takeWhile_squeeze {p : Char → Bool} (hp : p ' ' = false) (cs : List Char) :
    (squeeze cs).takeWhile p = cs.takeWhile p := by
  induction cs with
  | nil => rfl
  | cons c r ih =>
    by_cases hspace : c = ' '
    · subst hspace
      obtain ⟨tail, htail⟩ := exists_squeeze_space r
      rw [htail, List.takeWhile_cons_of_neg (by simp [hp]),
        List.takeWhile_cons_of_neg (by simp [hp])]
    · rw [squeeze_cons hspace, List.takeWhile_cons, List.takeWhile_cons, ih]

def Ignores {α : Type} (read : List Char → Option (α × List Char)) : Prop :=
  ∀ cs, read (squeeze cs) = (read cs).map fun s => (s.1, squeeze s.2)

theorem twoDigits_cons (h : isDigit c = false) : twoDigits (c :: r) = none := by
  cases r <;> simp [twoDigits, h]

theorem shortNumber_cons (h : isDigit c = false) : shortNumber (c :: r) = none := by
  cases r <;> simp [shortNumber, h]

theorem ignores_twoDigits : Ignores twoDigits := by
  rintro (_ | ⟨a, cs⟩)
  · rfl
  by_cases ha : a = ' '
  · subst ha
    obtain ⟨tail, htail⟩ := exists_squeeze_space cs
    rw [htail, twoDigits_cons rfl, twoDigits_cons rfl, Option.map_none]
  obtain _ | ⟨b, r⟩ := cs
  · rw [squeeze_cons ha]
    rfl
  by_cases hb : b = ' '
  · subst hb
    obtain ⟨tail, htail⟩ := exists_squeeze_space r
    simp [squeeze_cons ha, htail, twoDigits, isDigit]
  · rw [squeeze_cons ha, squeeze_cons hb, twoDigits, twoDigits]
    split_ifs <;> rfl

theorem ignores_shortNumber : Ignores shortNumber := by
  rintro (_ | ⟨a, cs⟩)
  · rfl
  by_cases ha : a = ' '
  · subst ha
    obtain ⟨tail, htail⟩ := exists_squeeze_space cs
    rw [htail, shortNumber_cons rfl, shortNumber_cons rfl, Option.map_none]
  obtain _ | ⟨b, r⟩ := cs
  · rw [squeeze_cons ha, squeeze_nil, shortNumber]
    split_ifs <;> rfl
  by_cases hb : b = ' '
  · subst hb
    obtain ⟨tail, htail⟩ := exists_squeeze_space r
    have hdigit : ¬isDigit ' ' = true := by decide
    rw [squeeze_cons ha, htail, shortNumber, shortNumber, if_neg hdigit, if_neg hdigit]
    split_ifs <;> simp [htail]
  · rw [squeeze_cons ha, squeeze_cons hb, shortNumber, shortNumber]
    split_ifs <;> simp [squeeze_cons hb]

theorem expect_squeeze (hc : c ≠ ' ') (cs : List Char) :
    expect c (squeeze cs) = (expect c cs).map squeeze := by
  obtain _ | ⟨d, r⟩ := cs
  · rfl
  by_cases hd : d = ' '
  · subst hd
    obtain ⟨tail, htail⟩ := exists_squeeze_space r
    simp [htail, expect, Ne.symm hc]
  · rw [squeeze_cons hd, expect, expect]
    split_ifs <;> rfl

theorem splitFraction_squeeze (cs : List Char) : splitFraction (squeeze cs) =
    ((splitFraction cs).1, squeeze (splitFraction cs).2) := by
  obtain _ | ⟨d, r⟩ := cs
  · rfl
  by_cases hpoint : d = '.'
  · subst hpoint
    rw [squeeze_cons (by decide), splitFraction, splitFraction, takeWhile_squeeze rfl,
      dropWhile_squeeze]
  · have hself : ∀ ds : List Char, ds.head? = some d → splitFraction ds = ([], ds) := by
      intro ds hds
      unfold splitFraction
      split
      · exact absurd (Option.some.inj hds).symm hpoint
      · rfl
    rw [hself (d :: r) rfl, hself _ (head?_squeeze (d :: r))]

theorem skipJoint_squeeze (cs : List Char) :
    skipJoint (squeeze cs) = (skipJoint cs).map squeeze := by
  obtain _ | ⟨d, r⟩ := cs
  · rfl
  by_cases hgap : isGap d = true
  · have hself : ∀ ds : List Char,
        ds.head? = some d → skipJoint ds = some (ds.dropWhile isGap) := by
      intro ds hds
      obtain ⟨tail, rfl⟩ := List.head?_eq_some_iff.1 hds
      have hletter : ¬(d = 'T' || d = 't') = true := by
        rintro h
        simp only [Bool.or_eq_true, decide_eq_true_eq] at h
        rcases h with rfl | rfl <;> exact absurd hgap (by decide)
      rw [skipJoint, if_neg hletter, if_pos hgap, List.dropWhile_cons_of_pos hgap]
    rw [hself _ (head?_squeeze (d :: r)), hself (d :: r) rfl, Option.map_some, dropWhile_squeeze]
  · have hd : d ≠ ' ' := by
      rintro rfl
      exact hgap rfl
    rw [squeeze_cons hd, skipJoint, skipJoint]
    split_ifs <;> rfl

theorem minutes?_cons (h : c ≠ ':') : minutes? (c :: r) = none := by
  unfold minutes?
  split
  · contradiction
  · next heq => exact absurd (List.cons.inj heq).1 h
  · rfl

theorem minutes?_squeeze (cs : List Char) : minutes? (squeeze cs) = minutes? cs := by
  obtain _ | ⟨d, r⟩ := cs
  · rfl
  by_cases hcolon : d = ':'
  · subst hcolon
    rw [squeeze_cons (by decide), minutes?, minutes?, ignores_twoDigits, Option.bind_map]
    exact congrArg (Option.bind (twoDigits r)) (funext fun s => by
      simp only [Function.comp_apply, isEmpty_squeeze])
  · obtain ⟨tail, htail⟩ := List.head?_eq_some_iff.1 (head?_squeeze (d :: r))
    rw [htail, minutes?_cons hcolon, minutes?_cons hcolon]

theorem zone?_squeeze (cs : List Char) : zone? (squeeze cs) = zone? cs := by
  rw [zone?, zone?, dropWhile_squeeze, isEmpty_squeeze]
  cases hzone : cs.dropWhile isGap with
  | nil => rfl
  | cons c r =>
    have hc : c ≠ ' ' := by
      rintro rfl
      have hhead := List.head?_dropWhile_not isGap cs
      rw [hzone] at hhead
      simp [isGap] at hhead
    rw [squeeze_cons hc]
    simp only [isEmpty_squeeze, ignores_shortNumber r, Option.bind_map, Function.comp_def,
      minutes?_squeeze]

theorem clock?_squeeze (cs : List Char) : clock? (squeeze cs) = clock? cs := by
  simp only [clock?, skipJoint_squeeze, ignores_twoDigits _, ignores_shortNumber _,
    expect_squeeze (show ':' ≠ ' ' by decide), splitFraction_squeeze, zone?_squeeze,
    Option.bind_map, Function.comp_def, Option.bind_eq_bind]

theorem moment?_squeeze (cs : List Char) : moment? (squeeze cs) = moment? cs := by
  simp only [moment?, ignores_twoDigits _, ignores_shortNumber _,
    expect_squeeze (show '-' ≠ ' ' by decide), clock?_squeeze,
    isEmpty_squeeze, Option.bind_map, Function.comp_def, Option.bind_eq_bind]

theorem isMoment_squeeze (cs : List Char) : isMoment (squeeze cs) = isMoment cs := by
  rw [isMoment, isMoment, moment?_squeeze]

end Plain

open Plain

theorem Tag.ofPlain_of_space {cs : List Char} (h : ' ' ∈ cs) :
    Tag.ofPlain .v12 (String.ofList cs) = if isMoment cs then .timestamp else .text := by
  have hflag : isFlag .v12 cs = false := Bool.eq_false_iff.2 fun hf => not_mem_of_isFlag hf h
  have hfloat : isFloat .v12 cs = false := Bool.eq_false_iff.2 fun hf => not_mem_of_isFloat hf h
  have hint : isInteger .v12 cs = false := Bool.eq_false_iff.2 fun hi => not_mem_of_isInteger hi h
  have hnull : isNull cs = false := Bool.eq_false_iff.2 fun hn => not_mem_of_isNull hn h
  have hmerge : String.ofList cs ≠ "<<" := by
    rintro heq
    rw [String.ext_iff, String.toList_ofList] at heq
    subst heq
    exact absurd h (by decide)
  have hvalue : String.ofList cs ≠ "=" := by
    rintro heq
    rw [String.ext_iff, String.toList_ofList] at heq
    subst heq
    exact absurd h (by decide)
  simp only [Tag.ofPlain, String.toList_ofList, hflag, hfloat, hint, hnull, hmerge, hvalue,
    Bool.false_eq_true, if_false]

theorem Tag.ofPlain_congr {cs ds : List Char} (h : squeeze cs = squeeze ds) :
    Tag.ofPlain .v12 (String.ofList cs) = Tag.ofPlain .v12 (String.ofList ds) := by
  have hmem : ' ' ∈ cs ↔ ' ' ∈ ds := by rw [← mem_squeeze, h, mem_squeeze]
  by_cases hspace : ' ' ∈ cs
  · rw [Tag.ofPlain_of_space hspace, Tag.ofPlain_of_space (hmem.1 hspace), ← isMoment_squeeze cs, h,
      isMoment_squeeze]
  · have hcs := squeeze_append hspace []
    have hds := squeeze_append (mt hmem.2 hspace) []
    rw [squeeze_nil, List.append_nil] at hcs hds
    rw [← hcs, h, hds]

end EnvoySidecar.Yaml
