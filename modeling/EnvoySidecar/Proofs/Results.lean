import Mathlib.Data.List.Forall2
import EnvoySidecar.Log.Run

/-! When computations that may fail succeed, alone and one after the other, and what can be said of
their results and of their faults. -/

namespace EnvoySidecar

variable {ε α β : Type}

theorem except_bind_eq_ok_iff {x : Except ε α} {f : α → Except ε β} {b : β} :
    x >>= f = .ok b ↔ ∃ a, x = .ok a ∧ f a = .ok b := by
  cases x with
  | error e =>
    constructor
    · intro h
      cases h
    · rintro ⟨a, h, _⟩
      cases h
  | ok a =>
    constructor
    · intro h
      exact ⟨a, rfl, h⟩
    · rintro ⟨a', h, h'⟩
      cases h
      exact h'

theorem exists_eq_ok_of_isOk {x : Except ε α} (h : x.isOk = true) : ∃ a, x = .ok a := by
  cases x with
  | error e => cases h
  | ok a => exact ⟨a, rfl⟩

theorem mapError_eq_ok_iff {ε' : Type} {x : Except ε α} {g : ε → ε'} {a : α} :
    x.mapError g = .ok a ↔ x = .ok a := by
  cases x with
  | ok b => simp [Except.mapError]
  | error e => simp [Except.mapError]

theorem mapM_eq_ok_iff {f : α → Except ε β} {as : List α} {bs : List β} :
    as.mapM f = .ok bs ↔ List.Forall₂ (fun a b => f a = .ok b) as bs := by
  induction as generalizing bs with
  | nil =>
    rw [List.mapM_nil, List.forall₂_nil_left_iff]
    constructor
    · intro h
      cases h
      rfl
    · rintro rfl
      rfl
  | cons a as ih =>
    rw [List.mapM_cons, List.forall₂_cons_left_iff, except_bind_eq_ok_iff]
    constructor
    · rintro ⟨b, hb, h⟩
      obtain ⟨rest, hrest, h⟩ := except_bind_eq_ok_iff.1 h
      cases h
      exact ⟨b, rest, hb, ih.1 hrest, rfl⟩
    · rintro ⟨b, rest, hb, hrest, rfl⟩
      exact ⟨b, hb, except_bind_eq_ok_iff.2 ⟨rest, ih.2 hrest, rfl⟩⟩

theorem mapM_total {f : α → Except ε β} {as : List α} (h : ∀ a ∈ as, ∃ b, f a = .ok b) :
    ∃ bs, as.mapM f = .ok bs := by
  induction as with
  | nil => exact ⟨[], rfl⟩
  | cons a as ih =>
    obtain ⟨b, hb⟩ := h a List.mem_cons_self
    obtain ⟨bs, hbs⟩ := ih fun a ha => h a (List.mem_cons_of_mem _ ha)
    exact ⟨b :: bs, mapM_eq_ok_iff.2 (.cons hb (mapM_eq_ok_iff.1 hbs))⟩

theorem exists_mem_of_mem_right {R : α → β → Prop} {as : List α} {bs : List β}
    (h : List.Forall₂ R as bs) {b : β} (hb : b ∈ bs) : ∃ a ∈ as, R a b := by
  induction h with
  | nil => simp at hb
  | @cons a b' as bs hr _ ih =>
    rcases List.mem_cons.1 hb with rfl | hb
    · exact ⟨a, List.mem_cons_self, hr⟩
    · obtain ⟨a', ha', hr'⟩ := ih hb
      exact ⟨a', List.mem_cons_of_mem _ ha', hr'⟩

theorem forall_mem_congr {R : α → β → Prop} {P : α → Prop} {Q : β → Prop} {as : List α}
    {bs : List β} (h : List.Forall₂ R as bs) (hR : ∀ a b, R a b → (P a ↔ Q b)) :
    (∀ a ∈ as, P a) ↔ ∀ b ∈ bs, Q b := by
  induction h with
  | nil => simp
  | cons hr _ ih => rw [List.forall_mem_cons, List.forall_mem_cons, hR _ _ hr, ih]

theorem mem_iff_of_mapM_eq_ok {f : α → Except ε β} {as : List α} {bs : List β}
    (h : as.mapM f = .ok bs) {b : β} : b ∈ bs ↔ ∃ a ∈ as, f a = .ok b := by
  have hsteps := mapM_eq_ok_iff.1 h
  constructor
  · exact exists_mem_of_mem_right hsteps
  · rintro ⟨a, ha, hb⟩
    obtain ⟨b', hb', heq⟩ := exists_mem_of_mem_right hsteps.flip ha
    rw [hb] at heq
    cases heq
    exact hb'

def Yields (P : ε → Prop) (Q : α → Prop) : Except ε α → Prop
  | .ok a => Q a
  | .error e => P e

namespace Yields

variable {P : ε → Prop} {Q : α → Prop} {R : β → Prop}

theorem of_ok {x : Except ε α} {a : α} (h : Yields P Q x) (hx : x = .ok a) : Q a := by
  rwa [hx] at h

theorem of_error {x : Except ε α} {e : ε} (h : Yields P Q x) (hx : x = .error e) : P e := by
  rwa [hx] at h

protected theorem mono {Q' : α → Prop} {x : Except ε α} (hx : Yields P Q x)
    (hq : ∀ a, Q a → Q' a) : Yields P Q' x := by
  cases x with
  | error e => exact hx
  | ok a => exact hq a hx

protected theorem bind {x : Except ε α} {f : α → Except ε β} (hx : Yields P Q x)
    (hf : ∀ a, Q a → Yields P R (f a)) : Yields P R (x >>= f) := by
  cases x with
  | error e => exact hx
  | ok a => exact hf a hx

protected theorem map {x : Except ε α} {f : α → β} (hx : Yields P Q x)
    (hf : ∀ a, Q a → R (f a)) : Yields P R (x.map f) := by
  cases x with
  | error e => exact hx
  | ok a => exact hf a hx

protected theorem mapError {ε' : Type} {P' : ε' → Prop} {x : Except ε α} {g : ε → ε'}
    (hx : Yields P Q x) (hg : ∀ e, P e → P' (g e)) : Yields P' Q (x.mapError g) := by
  cases x with
  | error e => exact hg e hx
  | ok a => exact hx

protected theorem ite {c : Prop} [Decidable c] {x y : Except ε α} (hx : c → Yields P Q x)
    (hy : ¬c → Yields P Q y) : Yields P Q (if c then x else y) := by
  split
  · next h => exact hx h
  · next h => exact hy h

protected theorem mapM {f : α → Except ε β} {as : List α} (hf : ∀ a ∈ as, Yields P R (f a)) :
    Yields P (fun bs => ∀ b ∈ bs, R b) (as.mapM f) := by
  induction as with
  | nil => exact fun b hb => nomatch hb
  | cons a rest ih =>
    rw [List.mapM_cons]
    refine (hf a List.mem_cons_self).bind fun b hb => ?_
    refine (ih fun a ha => hf a (List.mem_cons_of_mem _ ha)).bind fun bs hbs => ?_
    exact List.forall_mem_cons.2 ⟨hb, hbs⟩

protected theorem foldlM {f : β → α → Except ε β} {as : List α}
    (hf : ∀ b, R b → ∀ a ∈ as, Yields P R (f b a)) {b : β} (hb : R b) :
    Yields P R (as.foldlM f b) := by
  induction as generalizing b with
  | nil => exact hb
  | cons a rest ih =>
    rw [List.foldlM_cons]
    exact (hf b hb a List.mem_cons_self).bind fun b hb =>
      ih (fun b hb a ha => hf b hb a (List.mem_cons_of_mem _ ha)) hb

end Yields

namespace Run

@[simp] theorem result_pure (a : α) : (pure a : Run α).result = .ok a := rfl

@[simp] theorem result_ofExcept (r : Except Failure α) : (ofExcept r).result = r := rfl

@[simp] theorem result_note (n : Log.Notice) : (note n).result = .ok () := rfl

theorem result_bind (x : Run α) (f : α → Run β) :
    (x >>= f).result = x.result >>= fun a => (f a).result := by
  change (bind x f).result = _
  unfold bind
  cases x.result with
  | ok a => rfl
  | error e => rfl

theorem result_bind_of_ok {x : Run α} {a : α} (h : x.result = .ok a) (f : α → Run β) :
    (x >>= f).result = (f a).result := by
  rw [result_bind, h]
  rfl

theorem result_bind_of_error {x : Run α} {e : Failure} (h : x.result = .error e)
    (f : α → Run β) : (x >>= f).result = .error e := by
  rw [result_bind, h]
  rfl

theorem result_bind_eq_ok_iff {x : Run α} {f : α → Run β} {b : β} :
    (x >>= f).result = .ok b ↔ ∃ a, x.result = .ok a ∧ (f a).result = .ok b := by
  rw [result_bind, except_bind_eq_ok_iff]

theorem result_map_eq_ok_iff {g : α → β} {x : Run α} {b : β} :
    (g <$> x).result = .ok b ↔ ∃ a, x.result = .ok a ∧ g a = b := by
  have hbind : g <$> x = x >>= fun a => pure (g a) := rfl
  simp only [hbind, result_bind_eq_ok_iff, result_pure, Except.ok.injEq]

theorem mem_notices_bind {x : Run α} {f : α → Run β} {n : Log.Notice}
    (h : n ∈ (x >>= f).notices) : n ∈ x.notices ∨ ∃ a, n ∈ (f a).notices := by
  cases hx : x.result with
  | error failure =>
    have hbind : x >>= f = ⟨x.notices, .error failure⟩ := bind_of_error hx f
    rw [hbind] at h
    exact .inl h
  | ok a =>
    have hbind : x >>= f = ⟨x.notices ++ (f a).notices, (f a).result⟩ := bind_of_ok hx f
    rw [hbind, List.mem_append] at h
    exact h.imp_right fun hn => ⟨a, hn⟩

end Run

end EnvoySidecar
