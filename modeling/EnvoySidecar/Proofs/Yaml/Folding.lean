import EnvoySidecar.Proofs.Yaml.Reading.Plain
import EnvoySidecar.Proofs.Yaml.Reading.Quoted

/-! What is left of a text once it was written in lines of a limited width and read back. Most of it
is: lost are the lengths of some runs of spaces in plain scalars, next lines among the breaks in
single quotes, and a few places between double quotes where a space comes in. -/

namespace EnvoySidecar.Yaml.Fold

open Style
open Text (StopsAt stopsAt_cons stopsAt_nil)
open Plain (IsInk IsWord Folded)

variable {indent column n : Nat} {w cs ds : List Char} {c : Char}

/-! Runs of a text -/

def Piece.Fits (c : Char) : Piece → Prop
  | .word _ => isEdge c = false
  | .spaces _ => c = ' '
  | .breaks _ => isBreak c = true

theorem exists_fits (c : Char) (r : List Char) :
    ∃ p ps, pieces (c :: r) = p :: ps ∧ p.Fits c := by
  rw [pieces]
  unfold Piece.cons
  split_ifs with hspace hbreak
  · split
    · next n ps _ => exact ⟨.spaces (n + 1), ps, rfl, hspace⟩
    · exact ⟨.spaces 1, _, rfl, hspace⟩
  · split
    · next bs ps _ => exact ⟨.breaks (c :: bs), ps, rfl, hbreak⟩
    · exact ⟨.breaks [c], _, rfl, hbreak⟩
  · have hink : isEdge c = false := by simp [isEdge, hspace, hbreak]
    split
    · next w ps _ => exact ⟨.word (c :: w), ps, rfl, hink⟩
    · exact ⟨.word [c], _, rfl, hink⟩

def Piece.Ends (p : Piece) (cs : List Char) : Prop :=
  ∀ c r, cs = c :: r → ¬p.Fits c

theorem pieces_ne (p : Piece) (h : p.Ends cs) (ps : List Piece) : pieces cs ≠ p :: ps := by
  rintro heq
  cases cs with
  | nil => cases heq
  | cons c r =>
    obtain ⟨q, qs, hq, hfits⟩ := exists_fits c r
    rw [hq] at heq
    cases heq
    exact h c r rfl hfits

theorem pieces_word (hw : w ≠ []) (hink : ∀ c ∈ w, isEdge c = false) (h : Piece.Ends (.word w) cs) :
    pieces (w ++ cs) = .word w :: pieces cs := by
  induction w with
  | nil => exact absurd rfl hw
  | cons c r ih =>
    obtain ⟨hc, hr⟩ := List.forall_mem_cons.1 hink
    simp only [isEdge, Bool.or_eq_false_iff, decide_eq_false_iff_not] at hc
    rw [List.cons_append, pieces]
    cases r with
    | nil =>
      unfold Piece.cons
      rw [if_neg hc.1, if_neg (by simp [hc.2]), List.nil_append]
      split
      · next v ps heq => exact absurd heq (pieces_ne (.word v) h ps)
      · rfl
    | cons d r =>
      rw [ih (List.cons_ne_nil d r) hr h]
      unfold Piece.cons
      rw [if_neg hc.1, if_neg (by simp [hc.2])]

theorem pieces_spaces (hn : 0 < n) (h : Piece.Ends (.spaces n) cs) :
    pieces (List.replicate n ' ' ++ cs) = .spaces n :: pieces cs := by
  induction n with
  | zero => exact absurd hn (Nat.lt_irrefl 0)
  | succ n ih =>
    rw [List.replicate_succ, List.cons_append, pieces]
    cases n with
    | zero =>
      unfold Piece.cons
      rw [if_pos rfl, List.replicate_zero, List.nil_append]
      split
      · next m ps heq => exact absurd heq (pieces_ne (.spaces m) h ps)
      · rfl
    | succ n =>
      rw [ih (Nat.succ_pos n) h]
      rfl

theorem pieces_breaks (hw : w ≠ []) (hbreaks : ∀ c ∈ w, isBreak c = true)
    (h : Piece.Ends (.breaks w) cs) : pieces (w ++ cs) = .breaks w :: pieces cs := by
  induction w with
  | nil => exact absurd rfl hw
  | cons c r ih =>
    obtain ⟨hc, hr⟩ := List.forall_mem_cons.1 hbreaks
    have hspace : c ≠ ' ' := by
      rintro rfl
      exact absurd hc (by decide)
    rw [List.cons_append, pieces]
    cases r with
    | nil =>
      unfold Piece.cons
      rw [if_neg hspace, if_pos hc, List.nil_append]
      split
      · next v ps heq => exact absurd heq (pieces_ne (.breaks v) h ps)
      · rfl
    | cons d r =>
      rw [ih (List.cons_ne_nil d r) hr h]
      unfold Piece.cons
      rw [if_neg hspace, if_pos hc]

/-! Plain scalars -/

/-- A text of words with spaces between them, that are not mistaken for keys or comments. -/
inductive Spaced : List Char → Prop
  | word {w : List Char} : IsWord w → Spaced w
  | spaces {w cs : List Char} {n : Nat} : IsWord w → 0 < n → Spaced cs → cs.head? ≠ some '#' →
      Spaced (w ++ (List.replicate n ' ' ++ cs))

theorem isWord_cons (hc : IsInk c) (h : IsWord w) : IsWord (c :: w) where
  nonempty := List.cons_ne_nil c w
  ink := List.forall_mem_cons.2 ⟨hc, h.ink⟩
  colon := by
    obtain ⟨d, r, rfl⟩ := List.exists_cons_of_ne_nil h.nonempty
    rw [List.getLast?_cons_cons]
    exact h.colon

theorem isWord_singleton (hc : IsInk c) (hcolon : c ≠ ':') : IsWord [c] where
  nonempty := List.cons_ne_nil c []
  ink := by simpa using hc
  colon := by simpa using hcolon

theorem Spaced.cons (hc : IsInk c) (h : Spaced cs) : Spaced (c :: cs) := by
  cases h with
  | word hw => exact .word (isWord_cons hc hw)
  | spaces hw hn hcs hhead => exact .spaces (isWord_cons hc hw) hn hcs hhead

theorem Spaced.firm (h : Spaced cs) (ds : List Char) : Firm (cs ++ ds) := by
  cases h with
  | word hw => exact hw.firm ds
  | spaces hw =>
    rw [List.append_assoc]
    exact hw.firm _

theorem breaksOff_cons {r : List Char} (h : breaksOff (c :: r) = false) : breaksOff r = false ∧
    (c = ':' → wordEnds r = false) ∧ (c = ' ' → r.head? ≠ some '#') := by
  unfold breaksOff at h
  split at h
  · next r heq =>
    cases heq
    rw [Bool.or_eq_false_iff] at h
    exact ⟨h.2, fun _ => h.1, fun hc => absurd hc (by decide)⟩
  · cases h
  · next hcolon hcomment heq =>
    cases heq
    refine ⟨h, fun hc => (hcolon hc).elim, fun hc hhead => ?_⟩
    obtain ⟨tail, rfl⟩ := List.head?_eq_some_iff.1 hhead
    exact hcomment tail hc rfl
  · next heq => cases heq

theorem exists_spaced (hchars : ∀ c ∈ cs, isUsual c = true ∧ isBreak c = false) (hne : cs ≠ [])
    (hlast : cs.getLast? ≠ some ' ') (hbreaks : breaksOff cs = false) :
    ∃ n ds, cs = List.replicate n ' ' ++ ds ∧ Spaced ds ∧ (0 < n → ds.head? ≠ some '#') := by
  induction cs with
  | nil => exact absurd rfl hne
  | cons c r ih =>
    obtain ⟨hc, hr⟩ := List.forall_mem_cons.1 hchars
    obtain ⟨hoff, hcolon, hcomment⟩ := breaksOff_cons hbreaks
    have hink : c ≠ ' ' → IsInk c := fun h => ⟨hc.1, by simp [isEdge, h, hc.2]⟩
    by_cases hnil : r = []
    · subst hnil
      have hspace : c ≠ ' ' := by simpa using hlast
      have hword := isWord_singleton (hink hspace) fun h => absurd (hcolon h) (by decide)
      exact ⟨0, [c], rfl, .word hword, fun h => absurd h (Nat.lt_irrefl 0)⟩
    · obtain ⟨d, r', rfl⟩ := List.exists_cons_of_ne_nil hnil
      obtain ⟨n, ds, heq, hds, hhead⟩ := ih hr hnil (by rwa [List.getLast?_cons_cons] at hlast) hoff
      by_cases hspace : c = ' '
      · refine ⟨n + 1, ds, by rw [heq, hspace]; rfl, hds, fun _ => ?_⟩
        cases n with
        | zero =>
          rw [List.replicate_zero, List.nil_append] at heq
          exact heq ▸ hcomment hspace
        | succ n => exact hhead (Nat.succ_pos n)
      · refine ⟨0, c :: d :: r', rfl, ?_, fun h => absurd h (Nat.lt_irrefl 0)⟩
        rw [heq]
        cases n with
        | zero => exact hds.cons (hink hspace)
        | succ n =>
          have hne : c ≠ ':' := fun h => by
            have hends := hcolon h
            rw [heq] at hends
            exact absurd hends (by simp [wordEnds, List.replicate_succ])
          exact .spaces (isWord_singleton (hink hspace) hne) (Nat.succ_pos n) hds
            (hhead (Nat.succ_pos n))

theorem spaced_of_isPlain (h : isPlain cs = true) : Spaced cs := by
  simp only [isPlain, Bool.and_eq_true, decide_eq_true_eq, Bool.not_eq_true', List.all_eq_true]
    at h
  obtain ⟨⟨⟨⟨⟨htag, hchars⟩, hfirst⟩, hlast⟩, -⟩, hbreaks⟩ := h
  have hne : cs ≠ [] := by
    rintro rfl
    exact absurd htag (by decide +kernel)
  have hend : cs.getLast? ≠ some ' ' := by
    intro hspace
    rw [hspace] at hlast
    cases hlast
  obtain ⟨n, ds, rfl, hds, -⟩ := exists_spaced hchars hne hend hbreaks
  cases n with
  | zero => exact hds
  | succ n =>
    simp [List.replicate_succ, isEdge] at hfirst

def turns (indent column : Nat) (w : List Char) : Bool :=
  width < column + w.length && indent < column

def turnsNext (indent column : Nat) : List Piece → Bool
  | .word w :: _ => turns indent column w
  | _ => false

def plainLeft (indent : Nat) : Nat → List Piece → List Char
  | _, [] => []
  | column, .word w :: rest =>
    w ++ plainLeft indent ((if turns indent column w then indent else column) + w.length) rest
  | column, .spaces n :: rest =>
    if n = 1 && width < column then ' ' :: plainLeft indent indent rest
    else if turnsNext indent (column + n) rest then ' ' :: plainLeft indent (column + n) rest
    else List.replicate n ' ' ++ plainLeft indent (column + n) rest
  | column, .breaks cs :: rest => cs ++ plainLeft indent column rest

theorem not_turnsNext (ps : List Piece) : turnsNext indent indent ps = false := by
  unfold turnsNext turns
  split <;> simp

theorem Spaced.ends_spaces (h : Spaced cs) (n : Nat) : Piece.Ends (.spaces n) cs := by
  rintro c r heq rfl
  have hfirm := h.firm [] ' ' r (by rw [List.append_nil, heq])
  exact absurd hfirm (by decide)

theorem ends_word_spaces (hn : 0 < n) (w cs : List Char) :
    Piece.Ends (.word w) (List.replicate n ' ' ++ cs) := by
  obtain ⟨n, rfl⟩ := Nat.exists_eq_succ_of_ne_zero hn.ne'
  rintro c r heq hfits
  cases heq
  exact absurd hfits (by simp [Piece.Fits, isEdge])

theorem IsWord.edge (h : IsWord w) : ∀ c ∈ w, isEdge c = false :=
  fun c hc => (h.ink c hc).2

theorem pieces_isWord (hw : IsWord w) : pieces w = [.word w] := by
  have h := @pieces_word w [] hw.nonempty (IsWord.edge hw) fun c r heq => nomatch heq
  rwa [List.append_nil] at h

theorem pieces_spaced (hw : IsWord w) (hn : 0 < n) (hcs : Spaced cs) :
    pieces (w ++ (List.replicate n ' ' ++ cs)) = .word w :: .spaces n :: pieces cs := by
  rw [pieces_word hw.nonempty (IsWord.edge hw) (ends_word_spaces hn w cs),
    pieces_spaces hn (hcs.ends_spaces n)]

theorem plainPieces_word (w : List Char) (ps : List Piece) :
    plainPieces indent column (.word w :: ps) =
      (if turns indent column w then newLine indent else []) ++ (w ++
        plainPieces indent ((if turns indent column w then indent else column) + w.length) ps) := by
  rw [plainPieces, turns]
  split_ifs
  · rw [List.append_assoc]
  · rfl

structure SameStart (cs ds : List Char) : Prop where
  head : ds.head? = cs.head?
  next : ∀ c d r, cs = c :: d :: r → isEdge d = false → ∃ r', ds = c :: d :: r'

theorem SameStart.refl (cs : List Char) : SameStart cs cs :=
  ⟨rfl, fun _ _ r heq _ => ⟨r, heq⟩⟩

theorem SameStart.word (hw : w ≠ []) (hn : 0 < n) (cs ds : List Char) :
    SameStart (w ++ (List.replicate n ' ' ++ cs)) (w ++ ds) where
  head := by rw [List.head?_append_of_ne_nil _ hw, List.head?_append_of_ne_nil _ hw]
  next := by
    rintro c d r heq hd
    obtain ⟨n, rfl⟩ := Nat.exists_eq_succ_of_ne_zero hn.ne'
    match w, hw with
    | [_], _ =>
      cases heq
      exact absurd hd (by decide)
    | _ :: _ :: w, _ =>
      cases heq
      exact ⟨w ++ ds, rfl⟩

theorem Spaced.folded (h : Spaced cs) (indent column : Nat) :
    ∃ body, plainPieces indent column (pieces cs) =
        (if turnsNext indent column (pieces cs) then newLine indent else []) ++ body ∧
      Folded indent body (plainLeft indent column (pieces cs)) ∧ SameStart cs body := by
  induction h generalizing column with
  | @word w hw =>
    rw [pieces_isWord hw, plainPieces_word, plainPieces, plainLeft, plainLeft, List.append_nil]
    exact ⟨w, rfl, .word hw, .refl w⟩
  | @spaces w cs n hw hn hcs hhead ih =>
    rw [pieces_spaced hw hn hcs, plainPieces_word, plainLeft]
    refine ⟨_, rfl, ?_, .word hw.nonempty hn cs _⟩
    generalize (if turns indent column w then indent else column) + w.length = behind
    rw [plainPieces, plainLeft]
    split_ifs with hline hturns
    · obtain ⟨body, hbody, hfolded, hfirst⟩ := ih indent
      rw [not_turnsNext, if_neg Bool.false_ne_true, List.nil_append] at hbody
      rw [hbody]
      have h := @Folded.line indent w body _ 0 hw hfolded (hfirst.head ▸ hhead)
      simpa [newLine] using h
    · obtain ⟨body, hbody, hfolded, hfirst⟩ := ih (behind + n)
      rw [hturns, if_pos rfl] at hbody
      rw [hbody]
      have h := @Folded.line indent w body _ n hw hfolded (hfirst.head ▸ hhead)
      simpa [newLine] using h
    · obtain ⟨body, hbody, hfolded, hfirst⟩ := ih (behind + n)
      rw [if_neg hturns, List.nil_append] at hbody
      rw [hbody]
      exact .spaces hw hn hfolded (hfirst.head ▸ hhead)

/-! Single quotes -/

def singleLeft (ps : List Piece) : List Char :=
  ps.flatMap fun
    | .breaks (b :: bs) => fold (foldBreak b) (bs.map foldBreak)
    | p => p.text

inductive Runs : List Char → Prop
  | nil : Runs []
  | word {w cs : List Char} : w ≠ [] → (∀ c ∈ w, isEdge c = false) → Piece.Ends (.word w) cs →
      Runs cs → Runs (w ++ cs)
  | spaces {cs : List Char} {n : Nat} : 0 < n → Piece.Ends (.spaces n) cs → Runs cs →
      Runs (List.replicate n ' ' ++ cs)
  | breaks {b : Char} {bs cs : List Char} : (∀ c ∈ b :: bs, isBreak c = true) →
      Piece.Ends (.breaks (b :: bs)) cs → Runs cs → Runs (b :: (bs ++ cs))

theorem not_of_dropWhile {q : Char → Bool} {r : List Char} (h : cs.dropWhile q = c :: r) :
    q c = false := by
  have hhead := List.head?_dropWhile_not q cs
  rw [h] at hhead
  simpa using hhead

theorem runs (cs : List Char) : Runs cs := by
  induction hn : cs.length using Nat.strong_induction_on generalizing cs with
  | _ n ih =>
  cases cs with
  | nil => exact .nil
  | cons c r =>
    have hsplit (q : Char → Bool) : c :: r = (c :: r).takeWhile q ++ (c :: r).dropWhile q :=
      List.takeWhile_append_dropWhile.symm
    have hrest (q : Char → Bool) (hq : q c = true) : Runs ((c :: r).dropWhile q) := by
      refine ih _ ?_ _ rfl
      rw [← hn, List.dropWhile_cons_of_pos hq]
      exact Nat.lt_succ_of_le (List.length_dropWhile_le q r)
    by_cases hspace : c = ' '
    · have hq : (fun d => decide (d = ' ')) c = true := decide_eq_true hspace
      rw [hsplit fun d => decide (d = ' '), Text.takeWhile_eq_replicate]
      refine .spaces ?_ (fun d ds h hd => ?_) (hrest _ hq)
      · simp [hspace]
      · exact of_decide_eq_false (not_of_dropWhile h) hd
    · by_cases hbreak : isBreak c = true
      · rw [hsplit isBreak, List.takeWhile_cons_of_pos hbreak]
        refine .breaks (fun d hd => ?_) (fun d ds h hd => ?_) (hrest _ hbreak)
        · rw [← List.takeWhile_cons_of_pos hbreak] at hd
          exact List.mem_takeWhile_imp hd
        · exact Bool.eq_false_iff.1 (not_of_dropWhile h) hd
      · have hq : (fun d => !isEdge d) c = true := by simp [isEdge, hspace, hbreak]
        rw [hsplit fun d => !isEdge d]
        refine .word ?_ (fun d hd => ?_) (fun d ds h hd => ?_) (hrest _ hq)
        · simp [isEdge, hspace, hbreak]
        · simpa using List.mem_takeWhile_imp hd
        · have hedge : isEdge d = true := by simpa using not_of_dropWhile h
          exact absurd (hedge.symm.trans hd) (by decide)

theorem mixesGaps_cons (h : mixesGaps (c :: cs) = false) : mixesGaps cs = false := by
  cases cs with
  | nil => rfl
  | cons d r =>
    rw [mixesGaps, Bool.or_eq_false_iff] at h
    exact h.2

theorem mixesGaps_append (h : mixesGaps (cs ++ ds) = false) : mixesGaps ds = false := by
  induction cs with
  | nil => exact h
  | cons c r ih => exact ih (mixesGaps_cons h)

theorem firm_behind_spaces (hn : 0 < n) (h : mixesGaps (List.replicate n ' ' ++ cs) = false)
    (hends : Piece.Ends (.spaces n) cs) : Firm cs := by
  obtain ⟨n, rfl⟩ := Nat.exists_eq_succ_of_ne_zero hn.ne'
  rw [List.replicate_succ', List.append_assoc] at h
  have hlast := mixesGaps_append h
  rintro d r rfl
  have hspace : d ≠ ' ' := hends d r rfl
  rw [List.singleton_append, mixesGaps, Bool.or_eq_false_iff, Bool.or_eq_false_iff] at hlast
  simpa [isEdge, hspace] using hlast.1.1

theorem firm_behind_breaks (hw : w ≠ []) (hbreaks : ∀ c ∈ w, isBreak c = true)
    (h : mixesGaps (w ++ cs) = false) (hends : Piece.Ends (.breaks w) cs) : Firm cs := by
  rw [← List.dropLast_append_getLast hw, List.append_assoc] at h
  have hlast := mixesGaps_append h
  have hbreak := hbreaks _ (List.getLast_mem hw)
  rintro d r rfl
  have hd : ¬isBreak d = true := hends d r rfl
  rw [List.singleton_append, mixesGaps, Bool.or_eq_false_iff, Bool.or_eq_false_iff] at hlast
  simpa [isEdge, hd, hbreak] using hlast.1.2

theorem solid_word (hw : w ≠ []) (hink : ∀ c ∈ w, IsInk c) (cs : List Char) :
    Quoted.Solid (w ++ cs) := by
  obtain ⟨c, r, rfl⟩ := List.exists_cons_of_ne_nil hw
  have hc := hink c List.mem_cons_self
  have hbreak := hc.2
  simp only [isEdge, Bool.or_eq_false_iff] at hbreak
  exact stopsAt_cons (by rw [hc.not_gap, hbreak.2]; rfl)

theorem solid_singlePieces {first : Bool} (hcs : Usual cs) (h : Firm cs) :
    Quoted.Solid (singlePieces indent column first (pieces cs)) := by
  cases runs cs with
  | nil => exact stopsAt_nil
  | @word w cs hw hink hends hcs' =>
    rw [pieces_word hw hink hends, singlePieces]
    exact solid_word hw (fun c hc => ⟨hcs c (List.mem_append_left _ hc), hink c hc⟩) _
  | @spaces cs n hn =>
    obtain ⟨n, rfl⟩ := Nat.exists_eq_succ_of_ne_zero hn.ne'
    exact absurd (h ' ' _ rfl) (by decide)
  | @breaks b bs cs hbs =>
    have hb := h b _ rfl
    simp [isEdge, hbs b List.mem_cons_self] at hb

def Unquoted (cs : List Char) : Prop :=
  ∀ c ∈ cs, isUsual c = true ∧ c ≠ '\''

theorem Unquoted.usual (h : Unquoted cs) : Usual cs :=
  fun c hc => (h c hc).1

theorem not_special_single (h : IsInk c) (hquote : c ≠ '\'') :
    Quoted.isSpecial .single c = false := by
  have hbreak := h.2
  simp only [isEdge, Bool.or_eq_false_iff] at hbreak
  simp [Quoted.isSpecial, h.not_gap, hbreak.2, Quoted.Style.mark, hquote]

theorem Runs.body (h : Runs cs) (hcs : Unquoted cs) (hmixes : mixesGaps cs = false)
    (hindent : 0 < indent) (column : Nat) (first : Bool) :
    Quoted.Body .single (singlePieces indent column first (pieces cs))
      (singleLeft (pieces cs)) := by
  induction h generalizing column first with
  | nil => exact .nil
  | @word w cs hw hink hends hcs' ih =>
    obtain ⟨hword, hrest⟩ := List.forall_mem_append.1 hcs
    rw [pieces_word hw hink hends, singlePieces]
    exact .word (fun c hc => not_special_single ⟨(hword c hc).1, hink c hc⟩ (hword c hc).2)
      (ih hrest (mixesGaps_append hmixes) _ _)
  | @spaces cs n hn hends hcs' ih =>
    obtain ⟨-, hrest⟩ := List.forall_mem_append.1 hcs
    have hfirm := firm_behind_spaces hn hmixes hends
    have hmore := ih hrest (mixesGaps_append hmixes)
    rw [pieces_spaces hn hends, singlePieces]
    split_ifs with hline
    · simp only [Bool.and_eq_true, decide_eq_true_eq] at hline
      obtain ⟨⟨⟨rfl, -⟩, -⟩, -⟩ := hline
      exact .line hindent (solid_singlePieces (Unquoted.usual hrest) hfirm) (hmore indent false)
    · exact .spaces hn (solid_singlePieces (Unquoted.usual hrest) hfirm) (hmore _ _)
  | @breaks b bs cs hbs hends hcs' ih =>
    obtain ⟨-, hrest⟩ := @List.forall_mem_append _ _ (b :: bs) cs |>.1 hcs
    have hfirm := @firm_behind_breaks (b :: bs) cs (List.cons_ne_nil b bs) hbs hmixes hends
    have hmore := ih hrest (@mixesGaps_append (b :: bs) cs hmixes) indent false
    have hpieces := @pieces_breaks (b :: bs) cs (List.cons_ne_nil b bs) hbs hends
    rw [List.cons_append] at hpieces
    rw [hpieces, singlePieces, List.append_assoc]
    exact .breaks hbs hindent (solid_singlePieces (Unquoted.usual hrest) hfirm) hmore

end EnvoySidecar.Yaml.Fold
