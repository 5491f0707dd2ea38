import Mathlib.Data.List.Chain
import Mathlib.Data.List.Infix
import EnvoySidecar.Text.Lines

/-! Texts that one character is never followed in by some others, and what becomes of a text whose
line ends are unified. -/

namespace EnvoySidecar.Text

variable {a c : Char} {bad cs ds : List Char}

def Avoids (a : Char) (bad cs : List Char) : Prop :=
  ∀ c ∈ bad, ¬[a, c] <:+: cs

instance (a : Char) (bad cs : List Char) : Decidable (Avoids a bad cs) :=
  List.decidableBAll (fun c => ¬[a, c] <:+: cs) bad

theorem avoids_iff_isChain : Avoids a bad cs ↔ cs.IsChain fun x y => x = a → y ∉ bad := by
  rw [List.isChain_iff_forall_rel_of_append_cons_cons]
  constructor
  · rintro h _ c before after rfl rfl hc
    exact h c hc ⟨before, after, by simp⟩
  · rintro h c hc ⟨before, after, rfl⟩
    have hsplit : before ++ [a, c] ++ after = before ++ a :: c :: after := List.append_assoc _ _ _
    exact h hsplit rfl hc

theorem Avoids.tail (h : Avoids a bad (c :: cs)) : Avoids a bad cs :=
  fun d hd hinside => h d hd (hinside.trans (List.suffix_cons c cs).isInfix)

theorem Avoids.notMem (h : Avoids a bad (a :: c :: cs)) : c ∉ bad :=
  fun hc => h c hc ⟨[], cs, rfl⟩

theorem Avoids.dropLast (h : Avoids a bad cs) : Avoids a bad cs.dropLast :=
  fun d hd hinside => h d hd (hinside.trans (List.dropLast_prefix cs).isInfix)

theorem unifyLines_cons (h : c ≠ '\r') : unifyLines (c :: cs) = c :: unifyLines cs := by
  rw [unifyLines]
  · rintro r rfl
    exact absurd rfl h
  · exact h

theorem unifyLines_of_notMem (h : '\r' ∉ cs) : unifyLines cs = cs := by
  induction cs with
  | nil => rfl
  | cons c r ih =>
    rw [List.mem_cons, not_or] at h
    rw [unifyLines_cons (Ne.symm h.1), ih h.2]

theorem unifyLines_append (h : cs.getLast? = some '\r' → ds.head? ≠ some '\n') :
    unifyLines (cs ++ ds) = unifyLines cs ++ unifyLines ds := by
  have htail (c : Char) (r : List Char)
      (h : (c :: r).getLast? = some '\r' → ds.head? ≠ some '\n') :
      r.getLast? = some '\r' → ds.head? ≠ some '\n' := by
    intro hr
    exact h (by rw [List.getLast?_cons, hr, Option.getD_some])
  induction cs using unifyLines.induct with
  | case1 r ih =>
    have ih' := ih (htail _ _ (htail _ _ h))
    rw [List.cons_append, List.cons_append, unifyLines, unifyLines, ih', List.cons_append]
  | case2 r hr ih =>
    have hfirst : ∀ t, r ++ ds ≠ '\n' :: t := by
      rintro t ht
      cases r with
      | nil => exact h rfl (by rw [← List.nil_append ds, ht, List.head?_cons])
      | cons c r => exact hr r (by rw [(List.cons.inj ht).1])
    rw [List.cons_append, unifyLines, unifyLines, ih (htail _ _ h), List.cons_append]
    · exact hr
    · exact hfirst
  | case3 c r hpair hc ih =>
    rw [List.cons_append, unifyLines_cons hc, unifyLines_cons hc, ih (htail _ _ h),
      List.cons_append]
  | case4 => rfl

def unifyChar (c : Char) : Char :=
  if c = '\r' then '\n' else c

theorem unifyChar_of_ne (h : c ≠ '\r') : unifyChar c = c :=
  if_neg h

theorem eq_of_unifyChar (h : unifyChar c = a) (ha : a ≠ '\n') : c = a := by
  unfold unifyChar at h
  split at h
  · exact absurd h.symm ha
  · exact h

theorem unifyChar_notMem (hbad : '\n' ∉ bad) (h : c ∉ bad) : unifyChar c ∉ bad := by
  unfold unifyChar
  split
  · exact hbad
  · exact h

theorem head?_unifyLines (cs : List Char) : (unifyLines cs).head? = cs.head?.map unifyChar := by
  cases cs using unifyLines.fun_cases with
  | case1 r => rfl
  | case2 r hr =>
    rw [unifyLines]
    · rfl
    · exact hr
  | case3 c r hpair hc =>
    rw [unifyLines_cons hc, List.head?_cons, List.head?_cons, Option.map_some, unifyChar_of_ne hc]
  | case4 => rfl

theorem getLast?_unifyLines (cs : List Char) :
    (unifyLines cs).getLast? = cs.getLast?.map unifyChar := by
  induction cs using unifyLines.induct with
  | case1 r ih =>
    rw [unifyLines, List.getLast?_cons, ih, List.getLast?_cons_cons, List.getLast?_cons]
    cases r.getLast? with
    | none => rfl
    | some c => rfl
  | case2 r hr ih =>
    rw [unifyLines, List.getLast?_cons, ih, List.getLast?_cons]
    · cases r.getLast? with
      | none => rfl
      | some c => rfl
    · exact hr
  | case3 c r hpair hc ih =>
    rw [unifyLines_cons hc, List.getLast?_cons, ih, List.getLast?_cons]
    cases r.getLast? with
    | none => exact congrArg some (unifyChar_of_ne hc).symm
    | some d => rfl
  | case4 => rfl

theorem Avoids.unifyLines (h : Avoids a bad cs) (ha : a ≠ '\n') (hbad : '\n' ∉ bad) :
    Avoids a bad (unifyLines cs) := by
  rw [avoids_iff_isChain] at h ⊢
  induction cs using Text.unifyLines.induct with
  | case1 r ih =>
    rw [Text.unifyLines, List.isChain_cons]
    exact ⟨fun y _ hn => absurd hn.symm ha, ih h.tail.tail⟩
  | case2 r hr ih =>
    rw [Text.unifyLines, List.isChain_cons]
    · exact ⟨fun y _ hn => absurd hn.symm ha, ih h.tail⟩
    · exact hr
  | case3 c r hpair hc ih =>
    rw [unifyLines_cons hc, List.isChain_cons]
    refine ⟨fun y hy hca hmem => ?_, ih h.tail⟩
    have hline : y ≠ '\n' := by
      rintro rfl
      exact hbad hmem
    rw [Option.mem_def, head?_unifyLines, Option.map_eq_some_iff] at hy
    obtain ⟨x, hx, hxy⟩ := hy
    obtain rfl := eq_of_unifyChar hxy hline
    exact (List.isChain_cons.1 h).1 x hx hca hmem
  | case4 => exact .nil

end EnvoySidecar.Text
