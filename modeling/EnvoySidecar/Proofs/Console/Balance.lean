import EnvoySidecar.Proofs.Console.Markup
import EnvoySidecar.Proofs.Console.Style

/-! Which texts have markup in balance. Their tags open and close each other: a closing tag closes
the open one of its name that was opened last, and one without a name the last of all. -/

namespace EnvoySidecar.Console

variable {named : String → Bool}

namespace Markup

open Text

section Relations

variable (named : String → Bool)

def Tag.Handled (t : Tag) : Prop :=
  ∀ rest parameters, t.name = '@' :: rest → t.parameters = some parameters → parameters ≠ [] →
    isHandler named parameters = true

/-- What is open before a tag and behind it. -/
inductive Turns : List Tag → Tag → List Tag → Prop
  | opens {opened : List Tag} {t : Tag} {n : List Char} : t.name.head? ≠ some '/' →
      Style.normalize t.name = .ok n → Turns opened t (⟨n, t.parameters⟩ :: opened)
  | closesLast {last t : Tag} {opened : List Tag} {blank : List Char} : t.name = '/' :: blank →
      trimWith isBlank blank = [] → last.Handled named → Turns (last :: opened) t opened
  | closes {before after : List Tag} {closed t : Tag} {name : List Char} : t.name = '/' :: name →
      trimWith isBlank name ≠ [] → Style.normalize (trimWith isBlank name) = .ok closed.name →
      (∀ u ∈ before, u.name ≠ closed.name) → closed.Handled named →
      Turns (before ++ closed :: after) t (before ++ after)

/-- Every tag that closes something finds it open. -/
inductive Balanced : List Tag → List Piece → Prop
  | nil (opened : List Tag) : Balanced opened []
  | text {opened : List Tag} {rest : List Piece} (cs : List Char) : Balanced opened rest →
      Balanced opened (.text cs :: rest)
  | tag {opened opened' : List Tag} {t : Tag} {rest : List Piece} (position : Nat) :
      Turns named opened t opened' → Balanced opened' rest →
      Balanced opened (.tag position t :: rest)

end Relations

variable {opened opened' : List Tag} {t : Tag} {position used : Nat} {cs : List Char}
  {rest ps : List Piece} {r : Rendered}

theorem balanced_text_iff :
    Balanced named opened (.text cs :: rest) ↔ Balanced named opened rest := by
  constructor
  · rintro (_ | ⟨_, hrest⟩)
    exact hrest
  · exact .text cs

theorem balanced_tag_iff : Balanced named opened (.tag position t :: rest) ↔
    ∃ opened', Turns named opened t opened' ∧ Balanced named opened' rest := by
  constructor
  · rintro (_ | _ | ⟨_, hturns, hrest⟩)
    exact ⟨_, hturns, hrest⟩
  · rintro ⟨opened', hturns, hrest⟩
    exact .tag position hturns hrest

theorem checkHandler_eq_ok_iff : checkHandler named t = .ok () ↔ t.Handled named := by
  unfold checkHandler Tag.Handled
  split
  · next rest parameters hname hparameters =>
    rw [hname, hparameters]
    simp
  · next hother =>
    refine iff_of_true rfl fun rest parameters hname hparameters => ?_
    exact absurd hparameters (hother rest parameters hname)

theorem close_eq_some_iff {name : List Char} {opened others : List Tag} {t : Tag} :
    close name opened = some (t, others) ↔ ∃ before after, opened = before ++ t :: after ∧
      others = before ++ after ∧ t.name = name ∧ ∀ u ∈ before, u.name ≠ name := by
  induction opened generalizing others with
  | nil => simp [close]
  | cons u rest ih =>
    rw [close]
    by_cases hu : u.name = name
    · rw [if_pos hu]
      constructor
      · intro h
        cases h
        exact ⟨[], rest, rfl, rfl, hu, by simp⟩
      · rintro ⟨before, after, hopened, rfl, ht, hbefore⟩
        cases before with
        | nil =>
          cases hopened
          rfl
        | cons b before =>
          cases hopened
          exact absurd hu (hbefore u List.mem_cons_self)
    · rw [if_neg hu]
      constructor
      · intro h
        obtain ⟨⟨t', others'⟩, hclose, heq⟩ := Option.map_eq_some_iff.1 h
        cases heq
        obtain ⟨before, after, rfl, rfl, ht, hbefore⟩ := ih.1 hclose
        exact ⟨u :: before, after, rfl, rfl, ht, List.forall_mem_cons.2 ⟨hu, hbefore⟩⟩
      · rintro ⟨before, after, hopened, rfl, ht, hbefore⟩
        cases before with
        | nil =>
          cases hopened
          exact absurd ht hu
        | cons b before =>
          cases hopened
          have hclose := ih.2 ⟨before, after, rfl, rfl, ht,
            fun v hv => hbefore v (List.mem_cons_of_mem _ hv)⟩
          rw [hclose]
          rfl

theorem step_eq_ok_iff : step named opened position t = .ok opened' ↔
    Turns named opened t opened' := by
  constructor
  · intro h
    unfold step at h
    split at h
    · next name hname =>
      dsimp only at h
      split at h
      · next hblank =>
        split at h
        · cases h
        · next last others =>
          obtain ⟨_, hhandled, h⟩ := except_bind_eq_ok_iff.1 h
          cases h
          exact .closesLast hname (by simpa using hblank) (checkHandler_eq_ok_iff.1 hhandled)
      · next hblank =>
        obtain ⟨n, hn, h⟩ := except_bind_eq_ok_iff.1 h
        split at h
        · cases h
        · next closed others hclose =>
          obtain ⟨_, hhandled, h⟩ := except_bind_eq_ok_iff.1 h
          cases h
          obtain ⟨before, after, rfl, rfl, rfl, hbefore⟩ := close_eq_some_iff.1 hclose
          exact .closes hname (by simpa using hblank) (mapError_eq_ok_iff.1 hn) hbefore
            (checkHandler_eq_ok_iff.1 hhandled)
    · next hname =>
      obtain ⟨n, hn, h⟩ := except_bind_eq_ok_iff.1 h
      cases h
      refine .opens (fun hhead => ?_) (mapError_eq_ok_iff.1 hn)
      obtain ⟨rest, hrest⟩ := List.head?_eq_some_iff.1 hhead
      exact hname rest hrest
  · intro h
    cases h with
    | opens hhead hn =>
      unfold step
      split
      · next name hname => simp [hname] at hhead
      · exact except_bind_eq_ok_iff.2 ⟨_, mapError_eq_ok_iff.2 hn, rfl⟩
    | closesLast hname hblank hhandled =>
      simp only [step, hname, hblank]
      exact except_bind_eq_ok_iff.2 ⟨(), checkHandler_eq_ok_iff.2 hhandled, rfl⟩
    | @closes before after closed _ name hname hblank hn hbefore hhandled =>
      have hclose : close closed.name (before ++ closed :: after) =
          some (closed, before ++ after) :=
        close_eq_some_iff.2 ⟨before, after, rfl, rfl, rfl, hbefore⟩
      simp only [step, hname]
      rw [if_neg (by simpa using hblank)]
      refine except_bind_eq_ok_iff.2 ⟨_, mapError_eq_ok_iff.2 hn, ?_⟩
      rw [hclose]
      exact except_bind_eq_ok_iff.2 ⟨(), checkHandler_eq_ok_iff.2 hhandled, rfl⟩

def Piece.shown : Piece → List Char
  | .text cs => shownChars cs
  | .tag _ _ => []

theorem fill_total_iff : (∃ r, fill named opened used ps = .ok r) ↔ Balanced named opened ps := by
  induction ps generalizing opened used with
  | nil => exact iff_of_true ⟨_, rfl⟩ (.nil _)
  | cons p rest ih =>
    cases p with
    | text cs =>
      rw [balanced_text_iff, ← ih]
      simp only [fill, except_bind_eq_ok_iff]
      exact ⟨fun ⟨_, r, hr, _⟩ => ⟨r, hr⟩, fun ⟨r, hr⟩ => ⟨_, r, hr, rfl⟩⟩
    | tag position t =>
      simp only [balanced_tag_iff, ← @step_eq_ok_iff named _ _ _ position, fill,
        except_bind_eq_ok_iff]
      constructor
      · rintro ⟨_, opened', hstep, r, hr, -⟩
        exact ⟨opened', hstep, ih.1 ⟨r, hr⟩⟩
      · rintro ⟨opened', hstep, hrest⟩
        obtain ⟨r, hr⟩ := ih.2 hrest
        exact ⟨_, opened', hstep, r, hr, rfl⟩

theorem text_of_fill (h : fill named opened used ps = .ok r) :
    r.text = ps.flatMap Piece.shown := by
  induction ps generalizing opened used r with
  | nil =>
    cases h
    rfl
  | cons p rest ih =>
    cases p with
    | text cs =>
      obtain ⟨r', hr, h⟩ := except_bind_eq_ok_iff.1 h
      cases h
      exact congrArg (shownChars cs ++ ·) (ih hr)
    | tag position t =>
      obtain ⟨opened', -, h⟩ := except_bind_eq_ok_iff.1 h
      obtain ⟨r', hr, h⟩ := except_bind_eq_ok_iff.1 h
      cases h
      exact (ih hr :)

theorem shown_literal (cs : List Char) :
    (literal cs).flatMap Piece.shown = shownChars (unescape cs.reverse) := by
  unfold literal
  split
  · next h =>
    rw [List.isEmpty_iff.1 h]
    rfl
  · exact List.append_nil _

end Markup

/-- The markup of a text opens and closes its tags. -/
def Balanced (named : String → Bool) (s : String) : Prop :=
  Markup.Balanced named [] (Markup.read s.toList)

/-- The text between the tags, with its emoji and without what a console drops. -/
def shownText (s : String) : List Char :=
  (Markup.read s.toList).flatMap Markup.Piece.shown

end EnvoySidecar.Console
