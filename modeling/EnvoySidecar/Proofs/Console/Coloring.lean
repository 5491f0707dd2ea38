import EnvoySidecar.Proofs.Console.Balance

/-! The styles on what is printed. They are those of tags around a character or, in one piece of
text, of tags that are opened in it, and a text is shown if its tags are in balance and those styles
can be read. -/

namespace EnvoySidecar.Console

open Markup (Tag Piece Rendered)

variable {named : String → Bool} {α : Type}

def Markup.Tag.Readable (t : Tag) : Prop :=
  ∃ n, Style.normalize t.style = .ok n

/-- Every tag that is there to colour what is printed has a style that can be read. -/
def Colored (named : String → Bool) (s : String) : Prop :=
  ∀ r, Markup.render named s.toList = .ok r → ∀ t ∈ printedTags lineWidth r, t.Readable

theorem checkStyles_eq_ok_iff {ts : List Tag} :
    checkStyles ts = .ok () ↔ ∀ t ∈ ts, t.Readable := by
  induction ts with
  | nil => exact iff_of_true rfl (List.forall_mem_nil _)
  | cons t rest ih =>
    have hstep : checkStyles (t :: rest) =
        Markup.normalize t.style >>= fun _ => checkStyles rest := by
      show ((Markup.normalize t.style >>= fun _ => pure ()) >>= fun _ => checkStyles rest) = _
      cases Markup.normalize t.style <;> rfl
    rw [hstep, except_bind_eq_ok_iff, List.forall_mem_cons, ← ih]
    simp only [Markup.normalize, mapError_eq_ok_iff, exists_and_right, Tag.Readable]

/-- A text is shown if its tags are in balance and the styles on it can be read. -/
theorem show?_eq_ok_iff {s line : String} : show? named s = .ok line ↔
    Balanced named s ∧ Colored named s ∧ line = joinLines (wrap lineWidth (shownText s)) := by
  have hread (line : String) : show? named s = .ok line ↔
      ∃ r, Markup.render named s.toList = .ok r ∧ checkStyles (printedTags lineWidth r) = .ok () ∧
        joinLines (wrap lineWidth r.text) = line := by
    simp only [show?, except_bind_eq_ok_iff]
    exact exists_congr fun r => and_congr_right fun _ =>
      ⟨fun ⟨_, hcheck, h⟩ => ⟨hcheck, Except.ok.inj h⟩,
        fun ⟨hcheck, h⟩ => ⟨(), hcheck, congrArg _ h⟩⟩
  rw [hread]
  constructor
  · rintro ⟨r, hr, hcheck, rfl⟩
    refine ⟨Markup.fill_total_iff.1 ⟨r, hr⟩, fun r' hr' => ?_, ?_⟩
    · rw [hr] at hr'
      cases hr'
      exact checkStyles_eq_ok_iff.1 hcheck
    · rw [Markup.text_of_fill hr]
      rfl
  · rintro ⟨hbalanced, hcolored, rfl⟩
    obtain ⟨r, hr⟩ := Markup.fill_total_iff.2 hbalanced
    refine ⟨r, hr, checkStyles_eq_ok_iff.2 (hcolored r hr), ?_⟩
    rw [Markup.text_of_fill hr]
    rfl

theorem shown_iff {s : String} :
    (∃ line, show? named s = .ok line) ↔ Balanced named s ∧ Colored named s := by
  simp only [show?_eq_ok_iff, exists_and_left, exists_eq, and_true]

section Printed

end Printed

section Plain

structure Markup.Tag.Plain (t : Tag) : Prop where
  name : '(' ∉ t.name
  parameters : ∀ ps ∈ t.parameters, '(' ∉ ps

theorem Markup.Turns.plain {opened opened' : List Tag} {t : Tag}
    (h : Markup.Turns named opened t opened') (ht : t.Plain) (hopened : ∀ u ∈ opened, u.Plain) :
    ∀ u ∈ opened', u.Plain := by
  cases h with
  | opens _ hn =>
    obtain ⟨n, hn', hparen⟩ := Style.normalize_of_notMem ht.name
    rw [hn'] at hn
    cases hn
    exact List.forall_mem_cons.2 ⟨⟨hparen, ht.parameters⟩, hopened⟩
  | closesLast => exact fun u hu => hopened u (List.mem_cons_of_mem _ hu)
  | closes =>
    refine fun u hu => hopened u ?_
    rcases List.mem_append.1 hu with hu | hu
    · exact List.mem_append_left _ hu
    · exact List.mem_append_right _ (List.mem_cons_of_mem _ hu)

end Plain

end EnvoySidecar.Console
