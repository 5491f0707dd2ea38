import EnvoySidecar.Console.Wrap
import EnvoySidecar.Proofs.Text.Scanning

/-! What wrapping does to a text. Its lines are parts of it one after the other; only blanks at the
end of a part are left out, and no line is wider than it may be. -/

namespace EnvoySidecar.Console

open Text

theorem charCells_le (c : Char) : charCells c ≤ 2 := by
  unfold charCells
  split_ifs <;> decide

theorem cells_append (cs ds : List Char) : cells (cs ++ ds) = cells cs + cells ds := by
  induction cs with
  | nil => exact (Nat.zero_add _).symm
  | cons c r ih => rw [List.cons_append, cells, ih, cells, Nat.add_assoc]

theorem cells_reverse (cs : List Char) : cells cs.reverse = cells cs := by
  induction cs with
  | nil => rfl
  | cons c r ih =>
    rw [List.reverse_cons, cells_append, ih, cells, cells, cells, Nat.add_zero, Nat.add_comm]

def Blank (cs : List Char) : Prop :=
  ∀ c ∈ cs, isBlank c = true

structure Shows (width : Nat) (part line : List Char) : Prop where
  kept : ∃ core gap, part = core ++ gap ∧ Blank gap ∧
    (line = core ∨ line = core ++ [' '] ∧ ∃ c rest, gap = c :: rest ∧ charCells c = 2)
  narrow : cells line ≤ width
  single : '\n' ∉ line

inductive Wraps (width : Nat) : List Char → List (List Char) → Prop
  | nil : Wraps width [] []
  | cons {part line rest : List Char} {lines : List (List Char)} : Shows width part line →
      Wraps width rest lines → Wraps width (part ++ rest) (line :: lines)

variable {width : Nat} {cs ds line part : List Char} {lines more : List (List Char)}

theorem Shows.blank (h : Shows width part line) (hds : Blank ds) : Shows width (part ++ ds) line := by
  obtain ⟨core, gap, rfl, hgap, hline⟩ := h.kept
  refine ⟨⟨core, gap ++ ds, List.append_assoc .., ?_, hline.imp_right ?_⟩, h.narrow, h.single⟩
  · exact fun c hc => (List.mem_append.1 hc).elim (hgap c) (hds c)
  · rintro ⟨hspace, c, rest, rfl, hwide⟩
    exact ⟨hspace, c, rest ++ ds, rfl, hwide⟩

theorem Wraps.append (h : Wraps width cs lines) (h' : Wraps width ds more) :
    Wraps width (cs ++ ds) (lines ++ more) := by
  induction h with
  | nil => exact h'
  | cons hshows _ ih =>
    rw [List.append_assoc, List.cons_append]
    exact .cons hshows ih

theorem Wraps.blank (h : Wraps width cs lines) (hlines : lines ≠ []) (hds : Blank ds) :
    Wraps width (cs ++ ds) lines := by
  induction h with
  | nil => exact absurd rfl hlines
  | @cons part line rest lines hshows hrest ih =>
    cases hrest with
    | nil =>
      have hlast := Wraps.cons (hshows.blank hds) .nil
      rwa [List.append_nil] at hlast ⊢
    | cons =>
      rw [List.append_assoc]
      exact .cons hshows (ih (List.cons_ne_nil _ _))

section Trimming

def Inked (width : Nat) (cs : List Char) : Prop :=
  ∃ core gap, cs = core ++ gap ∧ Blank gap ∧ cells core ≤ width

theorem Inked.of_cells (h : cells cs ≤ width) : Inked width cs :=
  ⟨cs, [], (List.append_nil _).symm, by simp [Blank], h⟩

theorem Inked.of_append (h : Inked width (cs ++ ds)) : Inked width cs := by
  obtain ⟨core, gap, heq, hgap, hcore⟩ := h
  rcases List.append_eq_append_iff.1 heq with ⟨rest, rfl, rfl⟩ | ⟨rest, rfl, rfl⟩
  · refine .of_cells (Nat.le_trans ?_ hcore)
    rw [cells_append]
    exact Nat.le_add_right _ _
  · exact ⟨core, rest, rfl, fun c hc => hgap c (List.mem_append_left _ hc), hcore⟩

theorem eq_ink_append (cs : List Char) :
    ∃ gap, Blank gap ∧ cs = (cs.reverse.dropWhile isBlank).reverse ++ gap := by
  refine ⟨(cs.reverse.takeWhile isBlank).reverse, fun c hc => ?_, ?_⟩
  · exact List.mem_takeWhile_imp (List.mem_reverse.1 hc)
  · rw [← List.reverse_append, List.takeWhile_append_dropWhile, List.reverse_reverse]

end Trimming

section Words

theorem chop_spec (hwidth : 2 ≤ width) (cs line : List Char) {used : Nat} (hused : used = cells line)
    (hline : used ≤ width) :
    (chop width used line cs).flatten = line.reverse ++ cs ∧
      ∀ part ∈ chop width used line cs, cells part ≤ width := by
  induction cs generalizing used line with
  | nil =>
    rw [chop]
    simp [cells_reverse, ← hused, hline]
  | cons c r ih =>
    have hwide := charCells_le c
    rw [chop]
    split_ifs with hfull
    · -- a character alone fits, since the line has room for two cells
      have hcells : charCells c = cells [c] := (Nat.add_zero _).symm
      obtain ⟨hflat, hparts⟩ := ih [c] hcells (by omega)
      rw [List.flatten_cons, hflat, List.forall_mem_cons, cells_reverse]
      exact ⟨rfl, by omega, hparts⟩
    · have hcells : used + charCells c = cells (c :: line) := by rw [cells, hused, Nat.add_comm]
      obtain ⟨hflat, hparts⟩ := ih (c :: line) hcells (by omega)
      refine ⟨?_, hparts⟩
      rw [hflat, List.reverse_cons, List.append_assoc]
      rfl

end Words

section Filling

structure Filling.Holds (width : Nat) (f : Filling) (cs : List Char) : Prop where
  text : f.lines.flatten = cs
  used : f.used = cells f.line
  inked : ∀ l ∈ f.lines, Inked width l

variable {f : Filling}

theorem Filling.text_next (f : Filling) : f.next.lines.flatten = f.lines.flatten := by
  unfold Filling.next
  split_ifs
  · rfl
  · simp [Filling.lines]

theorem Filling.Holds.next_put (h : f.Holds width cs) (hpart : Inked width part) :
    (f.next.put part (cells part)).Holds width (cs ++ part) := by
  have hnext : f.next.line = [] ∧ ∀ l ∈ f.next.full, Inked width l := by
    unfold Filling.next
    split_ifs with hfresh
    · rw [Bool.and_eq_true, List.isEmpty_iff, List.isEmpty_iff] at hfresh
      rw [hfresh.1]
      exact ⟨hfresh.2, by simp⟩
    · exact ⟨rfl, fun l hl => h.inked l (List.mem_reverse.2 hl)⟩
  refine ⟨?_, ?_, ?_⟩
  · have htext := f.text_next
    rw [h.text, Filling.lines, hnext.1] at htext
    rw [← htext, Filling.lines, Filling.put, hnext.1]
    simp
  · rw [Filling.put, hnext.1]
    rfl
  · intro l hl
    rw [Filling.lines, List.mem_reverse, Filling.put, hnext.1, List.nil_append] at hl
    rcases List.mem_cons.1 hl with rfl | hl
    · exact hpart
    · exact hnext.2 l hl

theorem Filling.Holds.next_puts {parts : List (List Char)} (h : f.Holds width cs)
    (hparts : ∀ part ∈ parts, cells part ≤ width) :
    (parts.foldl (fun f part => f.next.put part (cells part)) f).Holds width
      (cs ++ parts.flatten) := by
  induction parts generalizing f cs with
  | nil =>
    rw [List.flatten_nil, List.append_nil]
    exact h
  | cons part rest ih =>
    obtain ⟨hpart, hrest⟩ := List.forall_mem_cons.1 hparts
    rw [List.foldl_cons, List.flatten_cons, ← List.append_assoc]
    exact ih (h.next_put (.of_cells hpart)) hrest

theorem Filling.Holds.add (hwidth : 2 ≤ width) (h : f.Holds width cs) (word : List Char) :
    (f.add width word).Holds width (cs ++ word) := by
  obtain ⟨gap, hgap, hword⟩ := eq_ink_append word
  rw [Filling.add, ← cells_reverse (word.reverse.dropWhile isBlank)]
  generalize (word.reverse.dropWhile isBlank).reverse = ink at hword ⊢
  -- the word goes behind the line, into lines of its own, or into the next one
  split_ifs with hfits hwide
  · refine ⟨?_, ?_, ?_⟩
    · rw [← h.text]
      simp [Filling.lines, Filling.put]
    · rw [Filling.put, cells_append, h.used]
    · intro l hl
      rw [Filling.lines, List.mem_reverse] at hl
      rcases List.mem_cons.1 hl with rfl | hl
      · refine ⟨f.line ++ ink, gap, ?_, hgap, ?_⟩
        · rw [List.append_assoc, ← hword]
          rfl
        · rwa [cells_append, ← h.used]
      · exact h.inked l (List.mem_reverse.2 (List.mem_cons_of_mem _ hl))
  · obtain ⟨hflat, hparts⟩ := chop_spec hwidth word [] rfl (Nat.zero_le _)
    have hcut := h.next_puts hparts
    rw [hflat] at hcut
    exact hcut
  · exact h.next_put ⟨ink, gap, hword, hgap, Nat.le_of_not_lt hwide⟩

theorem Filling.Holds.foldl (hwidth : 2 ≤ width) (h : f.Holds width cs) (ws : List (List Char)) :
    (ws.foldl (Filling.add width) f).Holds width (cs ++ ws.flatten) := by
  induction ws generalizing f cs with
  | nil =>
    rw [List.flatten_nil, List.append_nil]
    exact h
  | cons w ws ih =>
    rw [List.foldl_cons, List.flatten_cons, ← List.append_assoc]
    exact ih (h.add hwidth w)

end Filling

section Lines

def untab : Nat → List Char → List Char
  | _, [] => []
  | column, c :: r =>
    if c = '\n' then c :: untab 0 r
    else if c = '\t' then
      let n := tabWidth - column % tabWidth
      List.replicate n ' ' ++ untab (column + n) r
    else c :: untab (column + charCells c) r

theorem untab_of_notMem {column : Nat} (h : '\t' ∉ cs) : untab column cs = cs := by
  induction cs generalizing column with
  | nil => rfl
  | cons c r ih =>
    obtain ⟨hc, hr⟩ := not_or.1 (mt List.mem_cons.2 h)
    rw [untab, ih hr, ih hr, if_neg (Ne.symm hc), ite_self]

theorem untab_line {column : Nat} (h : '\n' ∉ cs) : untab column cs = expandTabs column cs := by
  induction cs generalizing column with
  | nil => rfl
  | cons c r ih =>
    obtain ⟨hc, hr⟩ := not_or.1 (mt List.mem_cons.2 h)
    rw [untab, expandTabs, if_neg (Ne.symm hc)]
    dsimp only
    rw [ih hr, ih hr]

theorem untab_append {column : Nat} (h : '\n' ∉ cs) :
    untab column (cs ++ '\n' :: ds) = expandTabs column cs ++ '\n' :: untab 0 ds := by
  induction cs generalizing column with
  | nil => rfl
  | cons c r ih =>
    obtain ⟨hc, hr⟩ := not_or.1 (mt List.mem_cons.2 h)
    rw [List.cons_append, untab, expandTabs, if_neg (Ne.symm hc)]
    dsimp only
    rw [ih hr, ih hr]
    split_ifs
    · rw [List.append_assoc]
    · rfl

theorem splitLines_line (h : '\n' ∉ cs) : splitLines cs = [cs] := by
  induction cs with
  | nil => rfl
  | cons c r ih =>
    obtain ⟨hc, hr⟩ := not_or.1 (mt List.mem_cons.2 h)
    rw [splitLines, if_neg (Ne.symm hc), ih hr]

theorem splitLines_append (h : '\n' ∉ cs) :
    splitLines (cs ++ '\n' :: ds) = cs :: splitLines ds := by
  induction cs with
  | nil => rfl
  | cons c r ih =>
    obtain ⟨hc, hr⟩ := not_or.1 (mt List.mem_cons.2 h)
    rw [List.cons_append, splitLines, if_neg (Ne.symm hc), ih hr]

theorem splitLines_ne_nil (cs : List Char) : splitLines cs ≠ [] := by
  by_cases h : '\n' ∈ cs
  · obtain ⟨line, rest, rfl, hline⟩ := List.eq_append_cons_of_mem h
    rw [splitLines_append hline]
    exact List.cons_ne_nil _ _
  · rw [splitLines_line h]
    exact List.cons_ne_nil _ _

end Lines

end EnvoySidecar.Console
