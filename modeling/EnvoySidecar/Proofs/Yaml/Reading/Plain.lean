import EnvoySidecar.Proofs.Yaml.Reading.Cursor
import EnvoySidecar.Yaml.Token.Plain

/-! Reading plain scalars that were written in lines of a limited width. Where a line ends between
two words there is one space between them, however many were written. -/

namespace EnvoySidecar.Yaml

open Text (StopsAt stopsAt_cons)

theorem all_replicate {p : Char → Bool} {c : Char} (h : p c = true) (n : Nat) :
    (List.replicate n c).all p = true :=
  List.all_eq_true.2 fun _ hd => List.eq_of_mem_replicate hd ▸ h

abbrev Firm (cs : List Char) : Prop :=
  StopsAt Style.isEdge cs

namespace Plain

variable {w cs vs rest : List Char} {p : Position} {n k : Nat}

def IsInk (c : Char) : Prop :=
  Style.isUsual c = true ∧ Style.isEdge c = false

theorem IsInk.not_gap {c : Char} (h : IsInk c) : isGap c = false := by
  obtain ⟨husual, hedge⟩ := h
  have htab : c ≠ '\t' := by
    rintro rfl
    exact absurd husual (by decide)
  simp only [Style.isEdge, Bool.or_eq_false_iff, decide_eq_false_iff_not] at hedge
  simp [isGap, htab, hedge.1]

theorem IsInk.not_lineEnd {c : Char} (h : IsInk c) : isLineEnd c = false := by
  have hedge := h.2
  simp only [Style.isEdge, isBreak, Bool.or_eq_false_iff, decide_eq_false_iff_not] at hedge
  simp [isLineEnd, hedge.2.1.1]

structure IsWord (w : List Char) : Prop where
  nonempty : w ≠ []
  ink : ∀ c ∈ w, IsInk c
  colon : w.getLast? ≠ some ':'

theorem IsWord.inline (h : IsWord w) : Position.Inline w := fun c hc => by
  obtain ⟨husual, hedge⟩ := h.ink c hc
  simp only [Style.isEdge, Bool.or_eq_false_iff] at hedge
  exact ⟨husual, hedge.2⟩

theorem IsWord.firm (h : IsWord w) (cs : List Char) : Firm (w ++ cs) := by
  obtain ⟨c, r, rfl⟩ := List.exists_cons_of_ne_nil h.nonempty
  exact stopsAt_cons (h.ink c List.mem_cons_self).2

theorem word_append (hink : ∀ c ∈ w, IsInk c) (hcolon : w.getLast? ≠ some ':')
    (hrest : ∀ c r, rest = c :: r → stops .v12 false c r = true) :
    word .v12 false (w ++ rest) p = (w, ⟨rest, p.past w⟩) := by
  induction w generalizing p with
  | nil =>
    cases rest with
    | nil => rfl
    | cons c r => simp [word, hrest c r rfl]
  | cons c r ih =>
    obtain ⟨hc, hr⟩ := List.forall_mem_cons.1 hink
    have hgoes : stops .v12 false c (r ++ rest) = false := by
      -- a colon ends a word only before a gap, and another letter follows this one
      cases r with
      | nil =>
        have hne : c ≠ ':' := by simpa using hcolon
        simp [stops, hc.not_gap, hc.not_lineEnd, hne]
      | cons d r =>
        have hd := hr d List.mem_cons_self
        simp [stops, gapFollows, hc.not_gap, hc.not_lineEnd, hd.not_gap, hd.not_lineEnd]
    have hlast : r.getLast? ≠ some ':' := by
      cases r with
      | nil => simp
      | cons d r => rwa [List.getLast?_cons_cons] at hcolon
    rw [List.cons_append, word, hgoes]
    simp only [Bool.false_eq_true, if_false, ih hr hlast, Position.past_cons]

theorem breaks_spaces (hfirm : Firm cs)
    (hmarker : p.column + k = 0 → markerFollows cs = false) :
    breaks (List.replicate k ' ' ++ cs) p = ([], ⟨cs, p.past (List.replicate k ' ')⟩) := by
  induction k generalizing p with
  | zero =>
    cases cs with
    | nil => rfl
    | cons c r =>
      have hc := hfirm c r rfl
      simp only [Style.isEdge, Bool.or_eq_false_iff, decide_eq_false_iff_not] at hc
      rw [List.replicate_zero, List.nil_append, breaks]
      split_ifs with h h' h''
      · rfl
      · exact absurd h' hc.1
      · simp [hc.2] at h''
      · rfl
  | succ k ih =>
    have hspace : markerFollows (' ' :: (List.replicate k ' ' ++ cs)) = false := rfl
    rw [List.replicate_succ, List.cons_append, breaks, hspace, ih]
    · simp
    · intro h
      rw [Position.after_space] at h
      exact absurd h (by simp)

theorem gap_spaces (hfirm : Firm cs) : gap ⟨List.replicate n ' ' ++ cs, p⟩ =
    ⟨List.replicate n ' ', false, ⟨cs, p.past (List.replicate n ' ')⟩⟩ := by
  have hstop : StopsAt (fun c => decide (c = ' ')) cs := fun c r h => by
    have hc := hfirm c r h
    simp only [Style.isEdge, Bool.or_eq_false_iff] at hc
    exact hc.1
  rw [gap, Cursor.span_append (all_replicate (by decide) n) hstop]
  cases cs with
  | nil => rfl
  | cons c r =>
    have hc := hfirm c r rfl
    simp only [Style.isEdge, Bool.or_eq_false_iff] at hc
    simp [hc.2]

theorem gap_line (hfirm : Firm cs) (hmarker : k = 0 → markerFollows cs = false) :
    gap ⟨List.replicate n ' ' ++ '\n' :: (List.replicate k ' ' ++ cs), p⟩ =
      ⟨[' '], true, ⟨cs, p.past (List.replicate n ' ' ++ '\n' :: List.replicate k ' ')⟩⟩ := by
  have hstop : StopsAt (fun c => decide (c = ' ')) ('\n' :: (List.replicate k ' ' ++ cs)) :=
    stopsAt_cons (by decide)
  have hbreaks : ∀ q : Position, breaks (List.replicate k ' ' ++ cs) (q.after '\n') =
      ([], ⟨cs, (q.after '\n').past (List.replicate k ' ')⟩) :=
    fun q => breaks_spaces hfirm fun h => hmarker (by simpa using h)
  have hcolumn : ∀ q : Position, ((q.after '\n').past (List.replicate k ' ')).column = k :=
    fun q => Position.column_newLine q k
  rw [gap, Cursor.span_append (all_replicate (by decide) n) hstop]
  have hbreak : isBreak '\n' = true := rfl
  have hfold : fold (foldBreak '\n') [] = [' '] := rfl
  simp only [hbreak, if_true, hbreaks, hcolumn, hfold, Position.past_append, Position.past_cons]
  split_ifs with h
  · simp only [Bool.and_eq_true, decide_eq_true_eq] at h
    rw [hmarker h.1] at h
    exact absurd h.2 (by decide)
  · rfl

inductive Folded (indent : Nat) : List Char → List Char → Prop
  | word {w : List Char} : IsWord w → Folded indent w w
  | spaces {w cs vs : List Char} {n : Nat} : IsWord w → 0 < n → Folded indent cs vs →
      cs.head? ≠ some '#' →
      Folded indent (w ++ (List.replicate n ' ' ++ cs)) (w ++ (List.replicate n ' ' ++ vs))
  | line {w cs vs : List Char} {n : Nat} : IsWord w → Folded indent cs vs →
      cs.head? ≠ some '#' →
      Folded indent (w ++ (List.replicate n ' ' ++ '\n' :: (List.replicate indent ' ' ++ cs)))
        (w ++ ' ' :: vs)

theorem Folded.firm {indent : Nat} (h : Folded indent cs vs) (rest : List Char) :
    Firm (cs ++ rest) := by
  cases h with
  | word hw => exact hw.firm rest
  | spaces hw | line hw =>
    rw [List.append_assoc]
    exact hw.firm _

theorem Folded.text_ne_nil {indent : Nat} (h : Folded indent cs vs) : cs ≠ [] := by
  cases h with
  | word hw => exact hw.nonempty
  | spaces hw | line hw => simp [hw.nonempty]

theorem Folded.ne_nil {indent : Nat} (h : Folded indent cs vs) : vs ≠ [] := by
  cases h with
  | word hw => exact hw.nonempty
  | spaces hw | line hw => simp [hw.nonempty]

structure Resumes (least : Nat) (rest : List Char) (k : Nat) (next : List Char) : Prop where
  split : rest = '\n' :: (List.replicate k ' ' ++ next)
  column : k < least
  firm : Firm next
  comment : next.head? ≠ some '#'
  marker : markerFollows next = false

section Steps

variable {text behind vs : List Char} {least fuel : Nat} {q : Position} {g : Gap} {after : Cursor}

theorem read_more (hword : word .v12 false text p = (w, ⟨behind, q⟩)) (hgap : gap ⟨behind, q⟩ = g)
    (hgoes : g.goesOn false least = true)
    (hmore : read .v12 false least fuel g.cursor = ⟨vs, true, after⟩) (hvs : vs ≠ []) :
    read .v12 false least (fuel + 1) ⟨text, p⟩ = ⟨w ++ g.text ++ vs, true, after⟩ := by
  rw [read]
  simp only [hword, hgap, hgoes, hmore, if_true]
  simp [hvs]

theorem read_last (hword : word .v12 false text p = (w, ⟨behind, q⟩)) (hgap : gap ⟨behind, q⟩ = g)
    (hgoes : g.goesOn false least = false) (fuel : Nat) :
    read .v12 false least (fuel + 1) ⟨text, p⟩ = ⟨w, g.endsLine, g.cursor⟩ := by
  rw [read]
  simp only [hword, hgap, hgoes, Bool.false_eq_true, if_false]

theorem Folded.goesOn {indent : Nat} (h : Folded indent cs vs) (hhead : cs.head? ≠ some '#')
    (htext : text ≠ []) (hcolumn : least ≤ q.column) (endsLine : Bool) (rest : List Char) :
    Gap.goesOn ⟨text, endsLine, ⟨cs ++ rest, q⟩⟩ false least = true := by
  simp [Gap.goesOn, htext, hhead, h.text_ne_nil, hcolumn]

end Steps

theorem read_folded {indent least fuel : Nat} {next : List Char} (h : Folded indent cs vs)
    (hzero : 0 < least)
    (hleast : least ≤ indent) (hp : least ≤ p.column) (hrest : Resumes least rest k next)
    (hfuel : cs.length < fuel) :
    read .v12 false least fuel ⟨cs ++ rest, p⟩ =
      ⟨vs, true, ⟨next, p.past (cs ++ '\n' :: List.replicate k ' ')⟩⟩ := by
  obtain ⟨fuel, rfl⟩ : ∃ n, fuel = n + 1 := ⟨fuel - 1, by omega⟩
  induction h generalizing p fuel with
  | @word w hw =>
    have hword : word .v12 false (w ++ rest) p = (w, ⟨rest, p.past w⟩) :=
      word_append hw.ink hw.colon fun c r heq => by
        rw [hrest.split] at heq
        cases heq
        rfl
    have hgap := @gap_line next (p.past w) 0 k hrest.firm fun _ => hrest.marker
    rw [List.replicate_zero, List.nil_append, List.nil_append, ← hrest.split] at hgap
    have hstops : Gap.goesOn ⟨[' '], true, ⟨next, (p.past w).past ('\n' :: List.replicate k ' ')⟩⟩
        false least = false := by
      simp only [Gap.goesOn, Position.column_newLine, Nat.not_le.2 hrest.column, decide_false,
        Bool.or_self, Bool.and_false]
    rw [read_last hword hgap hstops fuel, Position.past_append]
  | @spaces w cs vs n hw hn hcs hhead ih =>
    have hword : word .v12 false (w ++ (List.replicate n ' ' ++ (cs ++ rest))) p =
        (w, ⟨List.replicate n ' ' ++ (cs ++ rest), p.past w⟩) :=
      word_append hw.ink hw.colon fun c r heq => by
        obtain ⟨n, rfl⟩ := Nat.exists_eq_succ_of_ne_zero hn.ne'
        cases heq
        rfl
    have hcolumn : least ≤ ((p.past w).past (List.replicate n ' ')).column := by
      rw [Position.column_spaces, Position.column_inline p hw.inline]
      omega
    obtain ⟨fuel, rfl⟩ : ∃ m, fuel = m + 1 := ⟨fuel - 1, by simp at hfuel; omega⟩
    have hmore := ih hcolumn fuel (by simp at hfuel; omega)
    have hspaces : List.replicate n ' ' ≠ [] := by simpa using hn.ne'
    have hgoes := hcs.goesOn hhead hspaces hcolumn false rest
    have h := read_more hword (gap_spaces (hcs.firm rest)) hgoes hmore hcs.ne_nil
    simpa [Position.past_append] using h
  | @line w cs vs n hw hcs hhead ih =>
    have hword : word .v12 false (w ++ (List.replicate n ' ' ++ '\n' ::
          (List.replicate indent ' ' ++ (cs ++ rest)))) p =
        (w, ⟨List.replicate n ' ' ++ '\n' :: (List.replicate indent ' ' ++ (cs ++ rest)),
          p.past w⟩) :=
      word_append hw.ink hw.colon fun c r heq => by
        cases n <;> cases heq <;> rfl
    have hgap := @gap_line (cs ++ rest) (p.past w) n indent (hcs.firm rest) fun h => by omega
    have hcolumn : least ≤ ((p.past w).past
        (List.replicate n ' ' ++ '\n' :: List.replicate indent ' ')).column := by
      rw [Position.past_append, Position.column_newLine]
      exact hleast
    obtain ⟨fuel, rfl⟩ : ∃ m, fuel = m + 1 := ⟨fuel - 1, by simp at hfuel; omega⟩
    have hmore := ih hcolumn fuel (by simp at hfuel; omega)
    have hgoes := hcs.goesOn hhead (List.cons_ne_nil ' ' []) hcolumn true rest
    have h := read_more hword hgap hgoes hmore hcs.ne_nil
    simpa [Position.past_append] using h

end Plain

end EnvoySidecar.Yaml
