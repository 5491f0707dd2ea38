import Mathlib.Data.List.Perm.Basic
import EnvoySidecar.Proofs.Env.Managed
import EnvoySidecar.Proofs.Env.Overwriting

/-! The managed entries rule by rule. They are those of every sidecar and behind them, in parts,
those of the rules that are on. No name comes twice, so that the rules may be gone through in any
order. -/

namespace EnvoySidecar.Env

def Parts (c : Config) (rs : List Rule) (parts : List (List Entry)) : Prop :=
  List.Forall₂ (fun r own => r.entries c = .ok own) (rs.filter fun r => r.enabled c) parts

def foldRules (c : Config) (rs : List Rule) : Except Failure Store :=
  rs.foldlM (fun s r => if r.enabled c then (r.entries c).map s.overwrite else .ok s)
    (Store.empty.overwrite (baseEntries c))

variable {c : Config} {rs rs' : List Rule} {es : List Entry} {parts : List (List Entry)}

theorem ruleEntries_eq_ok_iff :
    (ruleEntries c rs).result = .ok es ↔ ∃ parts, Parts c rs parts ∧ parts.flatten = es := by
  unfold Parts
  induction rs generalizing es with
  | nil =>
    simp only [ruleEntries, Run.result_pure, Except.ok.injEq, List.filter_nil,
      List.forall₂_nil_left_iff, exists_eq_left, List.flatten_nil]
  | cons r rs ih =>
    rw [ruleEntries_cons_eq_ok_iff, List.filter_cons]
    split
    · simp only [List.forall₂_cons_left_iff, ih]
      constructor
      · rintro ⟨own, -, hown, ⟨parts, hparts, rfl⟩, rfl⟩
        exact ⟨own :: parts, ⟨own, parts, hown, hparts, rfl⟩, rfl⟩
      · rintro ⟨-, ⟨own, parts, hown, hparts, rfl⟩, rfl⟩
        exact ⟨own, _, hown, ⟨parts, hparts, rfl⟩, rfl⟩
    · exact ih

theorem ruleEntries_append_eq_ok_iff :
    (ruleEntries c (rs ++ rs')).result = .ok es ↔ ∃ before after,
      (ruleEntries c rs).result = .ok before ∧ (ruleEntries c rs').result = .ok after ∧
        before ++ after = es := by
  induction rs generalizing es with
  | nil => simp [ruleEntries]
  | cons r rs ih =>
    simp only [List.cons_append, ruleEntries_cons_eq_ok_iff, ih]
    split
    · constructor
      · rintro ⟨own, _, hown, ⟨before, after, hbefore, hafter, rfl⟩, rfl⟩
        exact ⟨_, after, ⟨own, before, hown, hbefore, rfl⟩, hafter, List.append_assoc _ _ _⟩
      · rintro ⟨_, after, ⟨own, before, hown, hbefore, rfl⟩, hafter, rfl⟩
        exact ⟨own, _, hown, ⟨before, after, hbefore, hafter, rfl⟩,
          (List.append_assoc _ _ _).symm⟩
    · exact Iff.rfl

theorem foldRules_of_parts (h : Parts c rs parts) :
    foldRules c rs = .ok (Store.empty.overwrite (baseEntries c ++ parts.flatten)) := by
  have key (s : Store) : rs.foldlM (fun s r => if r.enabled c then (r.entries c).map s.overwrite
      else .ok s) s = Except.ok (s.overwrite parts.flatten) := by
    unfold Parts at h
    induction rs generalizing s parts with
    | nil =>
      cases List.forall₂_nil_left_iff.1 h
      rfl
    | cons r rs ih =>
      rw [List.filter_cons] at h
      rw [List.foldlM_cons]
      split at h
      · next hon =>
        obtain ⟨own, rest, hown, hrest, rfl⟩ := List.forall₂_cons_left_iff.1 h
        rw [if_pos hon, hown, List.flatten_cons, Store.overwrite_append]
        exact ih hrest _
      · next hoff =>
        rw [if_neg hoff]
        exact ih h s
  rw [Store.overwrite_append]
  exact key _

theorem Parts.perm (h : Parts c rs parts) (hrs : rs'.Perm rs) :
    ∃ parts', Parts c rs' parts' ∧ parts'.Perm parts :=
  List.perm_comp_forall₂ (hrs.filter _) h

theorem managedEntries_eq_parts (h : Parts c Rule.all parts) :
    (managedEntries c).result = .ok (baseEntries c ++ parts.flatten) :=
  managedEntries_eq_ok_iff.2 ⟨_, ruleEntries_eq_ok_iff.2 ⟨parts, h, rfl⟩, rfl⟩

theorem foldRules_perm (h : Parts c Rule.all parts) (hrs : rs.Perm Rule.all) :
    foldRules c rs = .ok (Store.empty.overwrite (baseEntries c ++ parts.flatten)) := by
  obtain ⟨parts', hparts', hperm⟩ := h.perm hrs
  have hentries : (baseEntries c ++ parts'.flatten).Perm (baseEntries c ++ parts.flatten) :=
    hperm.flatten.append_left _
  have hnodup := managedEntries_nodup (managedEntries_eq_parts h)
  rw [foldRules_of_parts hparts',
    Store.overwrite_perm hentries ((hentries.map Prod.fst).nodup_iff.2 hnodup)]

end EnvoySidecar.Env
