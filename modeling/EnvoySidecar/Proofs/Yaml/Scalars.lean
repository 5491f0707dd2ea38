import EnvoySidecar.Proofs.Yaml.Escaping
import EnvoySidecar.Proofs.Yaml.Tag

/-! Scalars in lines of a limited width: the text that is written for a text, the token that it is
read as, and when nothing is lost between the two. -/

namespace EnvoySidecar.Yaml.Fold

open Style
open Text (stopsAt_cons)
open Plain (IsInk IsWord Folded squeeze)
open Quoted (Body)

variable {indent column n : Nat} {cs body : List Char} {c : Char}

/-- What is left of a text that was written from a column on. -/
def left (indent column : Nat) (cs : List Char) : List Char :=
  match Style.ofText cs with
  | .plain => plainLeft indent column (pieces cs)
  | .single => singleLeft (pieces cs)
  | .double => doubleLeft indent (column + 1) .quote cs

def token (indent column : Nat) (cs : List Char) : Token :=
  .scalar (String.ofList (left indent column cs)) (Style.ofText cs = .plain)

def Unmarked (cs : List Char) : Prop :=
  ∃ c r, cs = c :: r ∧ IsInk c ∧
    (isIndicator c = true → isLooseIndicator c = true ∧ ∃ d r', r = d :: r' ∧ IsInk d)

theorem Unmarked.append (h : Unmarked cs) (ds : List Char) : Unmarked (cs ++ ds) := by
  obtain ⟨c, r, rfl, hc, hmark⟩ := h
  refine ⟨c, r ++ ds, rfl, hc, fun hind => ⟨(hmark hind).1, ?_⟩⟩
  obtain ⟨d, r', rfl, hd⟩ := (hmark hind).2
  exact ⟨d, r' ++ ds, rfl, hd⟩

inductive Inscribed (indent : Nat) : List Char → Token → Prop
  | plain {body vs : List Char} : Folded indent body vs → Unmarked body →
      Inscribed indent body (.scalar (String.ofList vs) true)
  | quoted {style : Quoted.Style} {ps vs : List Char} : Body style ps vs →
      Inscribed indent (style.mark :: (ps ++ [style.mark])) (.scalar (String.ofList vs) false)

inductive Lead (indent column : Nat) : List Char → Prop
  | none : Lead indent column []
  | line : indent < column → Lead indent column (newLine indent)

theorem unmarked_of_isPlain (h : isPlain cs = true) : Unmarked cs := by
  simp only [isPlain, Bool.and_eq_true, decide_eq_true_eq, Bool.not_eq_true', List.all_eq_true]
    at h
  obtain ⟨⟨⟨⟨⟨htag, hchars⟩, hfirst⟩, -⟩, hbegins⟩, -⟩ := h
  have hink : ∀ d ∈ cs, d ≠ ' ' → IsInk d := fun d hd hspace =>
    ⟨(hchars d hd).1, by simp [isEdge, hspace, (hchars d hd).2]⟩
  cases cs with
  | nil => exact absurd htag (by decide +kernel)
  | cons c r =>
    have hc : IsInk c := ⟨(hchars c List.mem_cons_self).1, hfirst⟩
    refine ⟨c, r, rfl, hc, fun hind => ?_⟩
    have hbegins : (!isLooseIndicator c || wordEnds r) = false := by
      unfold beginsOtherwise at hbegins
      split at hbegins
      · cases hbegins
      · cases hbegins
      · next heq =>
        cases heq
        rwa [hind, Bool.true_and] at hbegins
      · next heq => cases heq
    rw [Bool.or_eq_false_iff, Bool.not_eq_false'] at hbegins
    refine ⟨hbegins.1, ?_⟩
    cases r with
    | nil => exact absurd hbegins.2 (by decide)
    | cons d tail =>
      have hspace : d ≠ ' ' := by simpa [wordEnds] using hbegins.2
      exact ⟨d, tail, rfl, hink d (by simp) hspace⟩

theorem SameStart.unmarked {ds : List Char} (h : SameStart cs ds) (hcs : Unmarked cs) :
    Unmarked ds := by
  obtain ⟨c, r, rfl, hc, hmark⟩ := hcs
  obtain ⟨r', rfl⟩ := List.head?_eq_some_iff.1 (h.head.trans List.head?_cons)
  refine ⟨c, r', rfl, hc, fun hind => ⟨(hmark hind).1, ?_⟩⟩
  obtain ⟨d, tail, rfl, hd⟩ := (hmark hind).2
  obtain ⟨tail', heq⟩ := h.next c d tail rfl hd.2
  exact ⟨d, tail', (List.cons.inj heq).2, hd⟩

theorem column_lt_of_turns {w : List Char} (h : turns indent column w = true) :
    indent < column := by
  simp only [turns, Bool.and_eq_true, decide_eq_true_eq] at h
  exact h.2

theorem column_lt_of_turnsNext {ps : List Piece} (h : turnsNext indent column ps = true) :
    indent < column := by
  unfold turnsNext at h
  split at h
  · exact column_lt_of_turns h
  · cases h

theorem inscribed_plain (h : isPlain cs = true) : ∃ lead body,
    plainPieces indent column (pieces cs) = lead ++ body ∧ Lead indent column lead ∧
      Inscribed indent body
        (.scalar (String.ofList (plainLeft indent column (pieces cs))) true) := by
  obtain ⟨body, hbody, hfolded, hstart⟩ := (spaced_of_isPlain h).folded indent column
  refine ⟨_, body, hbody, ?_, .plain hfolded (hstart.unmarked (unmarked_of_isPlain h))⟩
  split_ifs with hturns
  · exact .line (column_lt_of_turnsNext hturns)
  · exact .none

theorem inscribed_scalar (hindent : 0 < indent) (hwidth : indent < width) (column : Nat)
    (cs : List Char) : ∃ lead body, scalar indent column cs = lead ++ body ∧
      Lead indent column lead ∧ Inscribed indent body (token indent column cs) := by
  unfold scalar token left
  cases hstyle : ofText cs with
  | plain => exact inscribed_plain (isPlain_of_ofText hstyle)
  | single =>
    have hsingle := isSingle_of_ofText hstyle
    simp only [isSingle, Bool.and_eq_true, Bool.not_eq_true', List.all_eq_true, bne_iff_ne]
      at hsingle
    have hchars : Unquoted cs := fun c hc => (hsingle.1 c hc).1
    exact ⟨[], _, rfl, .none,
      @Inscribed.quoted indent .single _ _ ((runs cs).body hchars hsingle.2 hindent _ _)⟩
  | double =>
    exact ⟨[], _, rfl, .none,
      @Inscribed.quoted indent .double _ _ (body_doubleChars hindent hwidth cs _ _)⟩

/-! What a plain scalar is taken for -/

theorem Spaced.not_space (h : Spaced cs) : cs.head? ≠ some ' ' := by
  intro hspace
  obtain ⟨r, rfl⟩ := List.head?_eq_some_iff.1 hspace
  have hfirm := h.firm []
  rw [List.append_nil] at hfirm
  exact absurd (hfirm ' ' r rfl) (by decide)

theorem Spaced.squeeze_left (h : Spaced cs) (indent column : Nat) :
    squeeze (plainLeft indent column (pieces cs)) = squeeze cs := by
  induction h generalizing column with
  | @word w hw => rw [pieces_isWord hw, plainLeft, plainLeft, List.append_nil]
  | @spaces w cs n hw hn hcs hhead ih =>
    have hword : ' ' ∉ w := fun hmem => absurd (hw.ink _ hmem).2 (by decide)
    have hmore (column : Nat) : squeeze (' ' :: plainLeft indent column (pieces cs)) =
        squeeze (' ' :: cs) := by
      have hleft : (plainLeft indent column (pieces cs)).head? ≠ some ' ' := by
        rw [← Plain.head?_squeeze, ih, Plain.head?_squeeze]
        exact hcs.not_space
      rw [Plain.squeeze_space hleft, Plain.squeeze_space hcs.not_space, ih]
    rw [pieces_spaced hw hn hcs, plainLeft, Plain.squeeze_append hword, Plain.squeeze_append hword,
      Plain.squeeze_spaces hn]
    generalize (if turns indent column w then indent else column) + w.length = behind
    rw [plainLeft]
    split_ifs
    · rw [hmore]
    · rw [hmore]
    · rw [Plain.squeeze_spaces hn, hmore]

theorem Spaced.left_sublist (h : Spaced cs) (indent column : Nat) :
    (plainLeft indent column (pieces cs)).Sublist cs := by
  induction h generalizing column with
  | @word w hw =>
    rw [pieces_isWord hw, plainLeft, plainLeft, List.append_nil]
  | @spaces w cs n hw hn hcs hhead ih =>
    have hone (column : Nat) : (' ' :: plainLeft indent column (pieces cs)).Sublist
        (List.replicate n ' ' ++ cs) :=
      List.Sublist.append ((List.replicate_sublist_replicate ' ' (m := 1)).2 hn) (ih column)
    rw [pieces_spaced hw hn hcs, plainLeft]
    refine List.Sublist.append (List.Sublist.refl w) ?_
    generalize (if turns indent column w then indent else column) + w.length = behind
    rw [plainLeft]
    split_ifs
    · exact hone _
    · exact hone _
    · exact List.Sublist.append (List.Sublist.refl _) (ih _)

theorem ofPlain_plainLeft (h : isPlain cs = true) (indent column : Nat) :
    Tag.ofPlain .v12 (String.ofList (plainLeft indent column (pieces cs))) = .text := by
  rw [Tag.ofPlain_congr ((spaced_of_isPlain h).squeeze_left indent column)]
  simp only [isPlain, Bool.and_eq_true, decide_eq_true_eq] at h
  exact h.1.1.1.1.1

theorem tag_left (indent column : Nat) (cs : List Char) :
    (if decide (Style.ofText cs = .plain) then
      Tag.ofPlain .v12 (String.ofList (left indent column cs)) else .text) = .text := by
  unfold left
  cases hstyle : Style.ofText cs with
  | plain => simpa using ofPlain_plainLeft (isPlain_of_ofText hstyle) indent column
  | single => rfl
  | double => rfl

/-! What cannot be lost -/

def bare (cs : List Char) : List Char :=
  cs.filter (!isEdge ·)

theorem bare_append (cs ds : List Char) : bare (cs ++ ds) = bare cs ++ bare ds :=
  List.filter_append cs ds

theorem bare_cons_edge (h : isEdge c = true) (cs : List Char) : bare (c :: cs) = bare cs :=
  List.filter_cons_of_neg (by simp [h])

theorem bare_cons_congr {ds : List Char} (c : Char) (h : bare cs = bare ds) :
    bare (c :: cs) = bare (c :: ds) := by
  rw [bare, bare, List.filter_cons, List.filter_cons]
  exact congrArg (fun r => if (!isEdge c) = true then c :: r else r) h

theorem bare_spaces (n : Nat) : bare (List.replicate n ' ') = [] :=
  List.filter_eq_nil_iff.2 fun c hc => by
    rw [List.eq_of_mem_replicate hc]
    decide

theorem bare_foldBreak (c : Char) (cs : List Char) : bare (foldBreak c :: cs) = bare (c :: cs) := by
  unfold foldBreak
  split_ifs with hline
  · have hedge : isEdge c = true := by
      simp only [isLineEnd, Bool.or_eq_true, decide_eq_true_eq] at hline
      rcases hline with rfl | rfl <;> decide
    rw [bare_cons_edge hedge, bare_cons_edge (by decide)]
  · rfl

theorem bare_map_foldBreak (cs : List Char) : bare (cs.map foldBreak) = bare cs := by
  induction cs with
  | nil => rfl
  | cons c r ih => rw [List.map_cons, bare_foldBreak, bare_cons_congr c ih]

theorem bare_fold (first : Char) (others : List Char) :
    bare (fold first others) = bare (first :: others) := by
  unfold fold
  split_ifs with hline hnone
  · rfl
  · have hfirst : foldBreak first = '\n' := by simpa using hline
    rw [← bare_foldBreak first, hfirst, List.isEmpty_iff.1 hnone]
    rfl
  · have hfirst : foldBreak first = '\n' := by simpa using hline
    rw [← bare_foldBreak, hfirst, bare_cons_edge (by decide)]

theorem bare_plainLeft (ps : List Piece) (column : Nat) :
    bare (plainLeft indent column ps) = bare (ps.flatMap Piece.text) := by
  induction ps generalizing column with
  | nil => rfl
  | cons p ps ih =>
    rw [List.flatMap_cons, bare_append]
    cases p with
    | word w => rw [plainLeft, bare_append, ih, Piece.text]
    | breaks bs => rw [plainLeft, bare_append, ih, Piece.text]
    | spaces n =>
      rw [plainLeft, Piece.text, bare_spaces, List.nil_append]
      split_ifs
      · rw [bare_cons_edge (by decide), ih]
      · rw [bare_cons_edge (by decide), ih]
      · rw [bare_append, bare_spaces, List.nil_append, ih]

theorem bare_singleLeft (ps : List Piece) :
    bare (singleLeft ps) = bare (ps.flatMap Piece.text) := by
  induction ps with
  | nil => rfl
  | cons p ps ih =>
    rw [singleLeft, List.flatMap_cons, List.flatMap_cons, bare_append, bare_append, ← ih]
    refine congrArg (· ++ _) ?_
    split
    · next b bs =>
      rw [bare_fold, bare_foldBreak, bare_cons_congr b (bare_map_foldBreak bs)]
      rfl
    · rfl

theorem bare_doubleLeft (cs : List Char) (column : Nat) (before : Before) :
    bare (doubleLeft indent column before cs) = bare cs := by
  induction cs generalizing column before with
  | nil => rfl
  | cons c r ih =>
    have hkept (column : Nat) (before : Before) :=
      bare_cons_congr c (ih column before)
    have hspace (cs : List Char) : bare (' ' :: cs) = bare cs := bare_cons_edge (by decide) cs
    have hmore (column : Nat) (before : Before) :=
      bare_cons_congr c ((hspace _).trans (ih column before))
    rw [doubleLeft]
    cases escape? c with
    | some e =>
      dsimp only
      split_ifs <;> simp only [hkept, hmore]
    | none =>
      dsimp only
      split_ifs <;> simp only [hkept, hspace]

theorem bare_left (indent column : Nat) (cs : List Char) :
    bare (left indent column cs) = bare cs := by
  unfold left
  cases Style.ofText cs with
  | plain => rw [bare_plainLeft, text_pieces]
  | single => rw [bare_singleLeft, text_pieces]
  | double => exact bare_doubleLeft cs (column + 1) .quote

/-! Texts of which nothing is lost -/

/-- Nothing but printable characters that are no breaks, spaces apart from each other, and not both
kinds of what has to be escaped between quotes. -/
structure Clear (cs : List Char) : Prop where
  inline : Position.Inline cs
  spaces : squeeze cs = cs
  quotes : '\'' ∉ cs ∨ '"' ∉ cs ∧ '\\' ∉ cs

instance : Decidable (Clear cs) :=
  decidable_of_iff
    (Position.Inline cs ∧ squeeze cs = cs ∧ ('\'' ∉ cs ∨ '"' ∉ cs ∧ '\\' ∉ cs))
    ⟨fun ⟨hinline, hspaces, hquotes⟩ => ⟨hinline, hspaces, hquotes⟩,
      fun ⟨hinline, hspaces, hquotes⟩ => ⟨hinline, hspaces, hquotes⟩⟩

theorem plainLeft_of_squeeze (h : isPlain cs = true) (hcs : squeeze cs = cs) (indent column : Nat) :
    plainLeft indent column (pieces cs) = cs := by
  have hspaced := spaced_of_isPlain h
  refine (hspaced.left_sublist indent column).antisymm ?_
  have hsub := Plain.squeeze_sublist (plainLeft indent column (pieces cs))
  rwa [hspaced.squeeze_left, hcs] at hsub

theorem foldBreak_of_not_lineEnd (h : isLineEnd c = false) : foldBreak c = c := by
  rw [foldBreak, h]
  exact if_neg Bool.false_ne_true

theorem singleLeft_of_not_lineEnd {ps : List Piece}
    (h : ∀ c ∈ ps.flatMap Piece.text, isLineEnd c = false) :
    singleLeft ps = ps.flatMap Piece.text := by
  induction ps with
  | nil => rfl
  | cons p ps ih =>
    rw [List.flatMap_cons, List.forall_mem_append] at h
    obtain ⟨hp, hps⟩ := h
    rw [singleLeft, List.flatMap_cons, List.flatMap_cons]
    refine congrArg₂ (· ++ ·) ?_ (ih hps)
    split
    · next b bs =>
      obtain ⟨hb, hbs⟩ := List.forall_mem_cons.1 hp
      have hself : bs.map foldBreak = bs :=
        (List.map_congr_left fun d hd => foldBreak_of_not_lineEnd (hbs d hd)).trans (List.map_id bs)
      have hline : b ≠ '\n' := by
        rintro rfl
        exact absurd hb (by decide)
      rw [foldBreak_of_not_lineEnd hb, hself, fold, foldBreak_of_not_lineEnd hb]
      simp [hline, Piece.text]
    · rfl

theorem isLineEnd_of_not_break (h : isBreak c = false) : isLineEnd c = false := by
  simp only [isBreak, Bool.or_eq_false_iff] at h
  simp [isLineEnd, h.1.1]

theorem doubleLeft_of_ordinary (h : ∀ c ∈ cs, escape? c = none) {before : Before}
    (hbefore : before ≠ .escape) (indent column : Nat) :
    doubleLeft indent column before cs = cs := by
  induction cs generalizing before column with
  | nil => rfl
  | cons c r ih =>
    obtain ⟨hc, hr⟩ := List.forall_mem_cons.1 h
    have hspace (column : Nat) := ih hr (show Before.space ≠ .escape by decide) column
    have hother (column : Nat) := ih hr (show Before.other ≠ .escape by decide) column
    simp only [doubleLeft, hc, hspace, hother, hbefore, decide_false, Bool.and_false,
      Bool.false_eq_true, if_false, ite_self]

theorem mixesGaps_of_not_break (h : ∀ c ∈ cs, isBreak c = false) : mixesGaps cs = false := by
  induction cs with
  | nil => rfl
  | cons c r ih =>
    obtain ⟨hc, hr⟩ := List.forall_mem_cons.1 h
    cases r with
    | nil => rfl
    | cons d r =>
      rw [mixesGaps, ih hr, hc, hr d List.mem_cons_self]
      simp

theorem Clear.quote_of_double (h : Clear cs) (hstyle : ofText cs = .double) : '\'' ∈ cs := by
  by_contra hquote
  have hsingle : isSingle cs = true := by
    rw [isSingle, mixesGaps_of_not_break fun c hc => (h.inline c hc).2, Bool.not_false,
      Bool.and_true, List.all_eq_true]
    intro c hc
    have hmark : c ≠ '\'' := by
      rintro rfl
      exact hquote hc
    have hline : c ≠ '\n' := by
      rintro rfl
      exact absurd (h.inline _ hc).2 (by decide)
    simp [(h.inline c hc).1, hmark, hline]
  unfold ofText at hstyle
  rw [if_pos hsingle] at hstyle
  split_ifs at hstyle

theorem left_of_clear (h : Clear cs) (indent column : Nat) : left indent column cs = cs := by
  unfold left
  cases hstyle : ofText cs with
  | plain => exact plainLeft_of_squeeze (isPlain_of_ofText hstyle) h.spaces indent column
  | single =>
    have hlines : ∀ c ∈ (pieces cs).flatMap Piece.text, isLineEnd c = false := by
      rw [text_pieces]
      exact fun c hc => isLineEnd_of_not_break (h.inline c hc).2
    exact (singleLeft_of_not_lineEnd hlines).trans (text_pieces cs)
  | double =>
    obtain ⟨hquote, hslash⟩ := h.quotes.resolve_left (not_not_intro (h.quote_of_double hstyle))
    refine doubleLeft_of_ordinary (fun c hc => ?_) (by decide) _ _
    refine escape?_eq_none_iff.2 ⟨(h.inline c hc).1, (h.inline c hc).2, ?_, ?_⟩
    · rintro rfl
      exact hquote hc
    · rintro rfl
      exact hslash hc

end EnvoySidecar.Yaml.Fold
