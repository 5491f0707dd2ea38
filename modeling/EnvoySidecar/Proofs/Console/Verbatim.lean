import EnvoySidecar.Proofs.Console.Coloring
import EnvoySidecar.Proofs.Console.Wrapping

/-! Texts that are shown as they are. No bracket in them begins a tag, no code an emoji, and there is
nothing that a console drops or spells out in spaces. -/

namespace EnvoySidecar.Console

open Text

theorem Markup.unescape_of_plain {cs : List Char}
    (h : ∀ before after, cs ≠ before ++ '\\' :: '[' :: after) : unescape cs = cs := by
  induction cs with
  | nil => rfl
  | cons c r ih =>
    have hrest := ih fun before after heq => h (c :: before) after (congrArg (c :: ·) heq)
    unfold unescape
    split
    · next r' heq => exact absurd heq (h [] r')
    · next heq =>
      cases heq
      rw [hrest]
    · next heq => cases heq

namespace Emoji

def Free (cs : List Char) : Prop :=
  ∀ before code after, cs = before ++ ':' :: code ++ ':' :: after →
    (∀ c ∈ code, c ≠ ':' ∧ isBlank c = false) → ofCode? code = none

theorem Free.of_append {cs ds : List Char} (h : Free (cs ++ ds)) : Free ds := by
  intro before code after hds
  refine h (cs ++ before) code after ?_
  rw [hds]
  simp only [List.append_assoc]

theorem replaceFrom_of_free {cs : List Char} (h : Free cs) (fuel : Nat) :
    replaceFrom fuel cs = cs := by
  induction fuel generalizing cs with
  | zero => rfl
  | succ fuel ih =>
    cases cs with
    | nil => rfl
    | cons c r =>
      have hr := ih (@Free.of_append [c] r h)
      rw [replaceFrom]
      split_ifs with hcolon
      · have hcode : ∀ d ∈ r.takeWhile fun d => d != ':' && !isBlank d,
            d ≠ ':' ∧ isBlank d = false := fun d hd => by simpa using List.mem_takeWhile_imp hd
        have hsplit := List.takeWhile_append_dropWhile (p := fun d => d != ':' && !isBlank d) (l := r)
        simp only [drop_length_takeWhile]
        generalize r.takeWhile (fun d => d != ':' && !isBlank d) = code at hcode hsplit ⊢
        split
        · next rest hdrop =>
          have heq : c :: r = [] ++ ':' :: code ++ ':' :: rest := by
            rw [← hsplit, hdrop, hcolon]
            rfl
          have hrest : Free rest := by
            refine @Free.of_append (':' :: code ++ [':']) rest ?_
            rw [List.append_assoc]
            exact heq ▸ h
          rw [h [] code rest heq hcode, Option.getD_none, ih hrest, heq]
          simp
        · rw [hr]
      · rw [hr]

theorem replace_of_free {cs : List Char} (h : Free cs) : replace cs = cs :=
  replaceFrom_of_free h _

end Emoji

def isKept (c : Char) : Bool :=
  !isStripped c && c != '\t'

theorem joined_lines (cs : List Char) :
    ['\n'].intercalate ((splitLines cs).map (expandTabs 0)) = untab 0 cs := by
  by_cases h : '\n' ∈ cs
  · obtain ⟨line, rest, hcs, hline⟩ := List.eq_append_cons_of_mem h
    have hrest := joined_lines rest
    rw [hcs, splitLines_append hline, untab_append hline, List.map_cons,
      List.intercalate_cons_of_ne_nil (by simpa using splitLines_ne_nil rest), hrest]
    simp
  · rw [splitLines_line h, untab_line h]
    simp
termination_by cs.length
decreasing_by
  rw [hcs, List.length_append, List.length_cons]
  omega

theorem showRaw_of_kept {s : String} (h : ∀ c ∈ s.toList, isKept c = true) : showRaw s = s := by
  have hstripped : s.toList.filter (!isStripped ·) = s.toList :=
    List.filter_eq_self.2 fun c hc => (Bool.and_eq_true _ _ ▸ h c hc).1
  have htabs : '\t' ∉ s.toList := fun hc => by simpa [isKept] using h _ hc
  simp only [showRaw, hstripped, joined_lines, untab_of_notMem htabs, String.ofList_toList]

/-- Nothing in the text is taken for something else, or dropped. -/
structure Verbatim (s : String) : Prop where
  tags : ∀ before after, s.toList = before ++ '[' :: after → Markup.splitTag after = none
  slashes : ∀ before after, s.toList ≠ before ++ '\\' :: '[' :: after
  codes : Emoji.Free s.toList
  controls : ∀ c ∈ s.toList, isKept c = true

namespace Verbatim

variable {s : String}

theorem read (h : Verbatim s) : Markup.read s.toList = Markup.literal s.toList.reverse := by
  rw [Markup.read, Markup.pieces_of_untagged _ _ _ h.tags, List.append_nil]

theorem filter_isStripped (h : Verbatim s) : s.toList.filter (!isStripped ·) = s.toList :=
  List.filter_eq_self.2 fun c hc => (Bool.and_eq_true_iff.1 (h.controls c hc)).1

theorem shownText (h : Verbatim s) : shownText s = s.toList := by
  rw [Console.shownText, h.read, Markup.shown_literal, Markup.shownChars, List.reverse_reverse,
    Markup.unescape_of_plain h.slashes, Emoji.replace_of_free h.codes, h.filter_isStripped]

end Verbatim

end EnvoySidecar.Console
