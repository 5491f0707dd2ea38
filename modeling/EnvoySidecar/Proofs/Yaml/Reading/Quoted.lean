import EnvoySidecar.Proofs.Yaml.Reading.Plain
import EnvoySidecar.Yaml.Token.Quoted

/-! Reading quoted scalars that were written in lines of a limited width, piece by piece. -/

namespace EnvoySidecar.Yaml.Quoted

open Text (StopsAt stopsAt_cons stopsAt_nil)

variable {style : Style} {ps vs bs cs rest : List Char} {p : Position} {c : Char} {n k fuel : Nat}

def Solid (cs : List Char) : Prop :=
  StopsAt (fun c => isGap c || isBreak c) cs

theorem Solid.not_gap (h : Solid cs) : StopsAt isGap cs := fun c r heq => by
  have hc := h c r heq
  rw [Bool.or_eq_false_iff] at hc
  exact hc.1

structure Escapes (e : List Char) (c : Char) : Prop where
  head : ∃ d r, e = d :: r ∧ isBreak d = false
  reads : ∀ rest p, readEscape ⟨e ++ rest, p⟩ = .ok (c, ⟨rest, p.past e⟩)

inductive Body (style : Style) : List Char → List Char → Prop
  | nil : Body style [] []
  | ordinary {c : Char} {ps vs : List Char} : isSpecial style c = false → Body style ps vs →
      Body style (c :: ps) (c :: vs)
  | spaces {n : Nat} {ps vs : List Char} : 0 < n → Solid ps → Body style ps vs →
      Body style (List.replicate n ' ' ++ ps) (List.replicate n ' ' ++ vs)
  | breaks {b : Char} {bs ps vs : List Char} {k : Nat} : (∀ c ∈ b :: bs, isBreak c = true) →
      0 < k → Solid ps → Body style ps vs →
      Body style (b :: (bs ++ (List.replicate k ' ' ++ ps)))
        (fold (foldBreak b) (bs.map foldBreak) ++ vs)
  | escape {e : List Char} {c : Char} {ps vs : List Char} : style = .double → Escapes e c →
      Body style ps vs → Body style ('\\' :: (e ++ ps)) (c :: vs)
  | joined {ps vs : List Char} {k : Nat} : style = .double → 0 < k → Solid ps →
      Body style ps vs → Body style ('\\' :: '\n' :: (List.replicate k ' ' ++ ps)) vs

theorem not_gap_of_isBreak (h : isBreak c = true) : isGap c = false := by
  simp only [isBreak, Bool.or_eq_true, decide_eq_true_eq] at h
  obtain ((rfl | rfl) | rfl) | rfl := h <;> rfl

theorem not_marker (h : c ≠ '-') (h' : c ≠ '.') (r : List Char) :
    markerFollows (c :: r) = false := by
  unfold markerFollows
  split
  · next heq => exact absurd (List.cons.inj heq).1 h
  · next heq => exact absurd (List.cons.inj heq).1 h'
  · rfl

theorem readBreaks_spec (hbs : ∀ c ∈ bs, isBreak c = true) (hk : 0 < k) (hsolid : Solid cs)
    (hfuel : bs.length < fuel) :
    readBreaks fuel ⟨bs ++ (List.replicate k ' ' ++ cs), p⟩ =
      .ok (bs.map foldBreak, ⟨cs, p.past (bs ++ List.replicate k ' ')⟩) := by
  obtain ⟨fuel, rfl⟩ : ∃ m, fuel = m + 1 := ⟨fuel - 1, by omega⟩
  induction bs generalizing p fuel with
  | nil =>
    obtain ⟨k, rfl⟩ := Nat.exists_eq_succ_of_ne_zero hk.ne'
    have hmarker : markerFollows (List.replicate (k + 1) ' ' ++ cs) = false :=
      not_marker (by decide) (by decide) _
    have hskip : Cursor.skip isGap ⟨List.replicate (k + 1) ' ' ++ cs, p⟩ =
        ⟨cs, p.past (List.replicate (k + 1) ' ')⟩ :=
      Cursor.skip_append (all_replicate (by decide) _) hsolid.not_gap
    rw [List.nil_append, readBreaks, hmarker]
    simp only [Bool.false_eq_true, if_false, hskip]
    cases cs with
    | nil => rfl
    | cons c r =>
      have hc := hsolid c r rfl
      simp only [Bool.or_eq_false_iff] at hc
      simp [hc.2]
  | cons b bs ih =>
    obtain ⟨hb, hbs⟩ := List.forall_mem_cons.1 hbs
    obtain ⟨fuel, rfl⟩ : ∃ m, fuel = m + 1 := ⟨fuel - 1, by simp at hfuel; omega⟩
    have hmarker : ∀ r, markerFollows (b :: r) = false := by
      refine not_marker ?_ ?_ <;> rintro rfl <;> exact absurd hb (by decide)
    have hskip : ∀ r, Cursor.skip isGap ⟨b :: r, p⟩ = ⟨b :: r, p⟩ := fun r =>
      @Cursor.skip_append isGap [] (b :: r) p rfl (stopsAt_cons (not_gap_of_isBreak hb))
    have hmore := @ih (p.after b) hbs fuel (by simp at hfuel; omega)
    rw [List.cons_append, readBreaks, hmarker]
    simp only [Bool.false_eq_true, if_false, hskip, hb, if_true, Cursor.step, hmore]
    rfl

theorem span_cons_of_pos {q : Char → Bool} (h : q c = true) : Cursor.span q ⟨c :: cs, p⟩ =
    (c :: (Cursor.span q ⟨cs, p.after c⟩).1, (Cursor.span q ⟨cs, p.after c⟩).2) := by
  rw [Cursor.span, Cursor.span.go, if_pos h]
  rfl

theorem readBody_ordinary (h : isSpecial style c = false) :
    readBody style (fuel + 1) ⟨c :: cs, p⟩ =
      (readBody style (fuel + 1) ⟨cs, p.after c⟩).map fun s => (c :: s.1, s.2) := by
  rw [readBody, readBody, span_cons_of_pos (by simpa using h)]
  generalize Cursor.span (fun c => !isSpecial style c) ⟨cs, p.after c⟩ = run
  obtain ⟨run, behind⟩ := run
  dsimp only
  cases behind.rest with
  | nil => rfl
  | cons d r =>
    dsimp only
    split_ifs
    · cases readGap behind with
      | error f => rfl
      | ok gap => cases h : readBody style fuel gap.2 <;> simp only [h, bind, Except.bind] <;> rfl
    · cases readBreaks r.length (behind.steps 2) with
      | error f => rfl
      | ok joined =>
        cases h : readBody style fuel joined.2 <;> simp only [h, bind, Except.bind] <;> rfl
    · cases readEscape behind.step with
      | error f => rfl
      | ok e => cases h : readBody style fuel e.2 <;> simp only [h, bind, Except.bind] <;> rfl
    · cases h : readBody style fuel (behind.steps 2) <;> simp only [bind, Except.bind] <;> rfl
    · rfl

theorem span_special (hspecial : isSpecial style c = true) (cs : List Char) (p : Position) :
    Cursor.span (!isSpecial style ·) ⟨c :: cs, p⟩ = ([], ⟨c :: cs, p⟩) :=
  Cursor.span_stopped (stopsAt_cons (by simp [hspecial]))

theorem isSpecial_of_isGap_or_isBreak (h : (isGap c || isBreak c) = true) (style : Style) :
    isSpecial style c = true := by
  simp only [isSpecial, h, Bool.true_or]

theorem readBody_mark (style : Style) (hrest : rest.head? ≠ some '\'') (fuel : Nat) (p : Position) :
    readBody style (fuel + 1) ⟨style.mark :: rest, p⟩ =
      .ok ([], ⟨rest, p.past [style.mark]⟩) := by
  rw [readBody, span_special (by simp [isSpecial])]
  cases style with
  | single => simp [Style.mark, isGap, isBreak, hrest, Cursor.step]
  | double => simp [Style.mark, isGap, isBreak, Cursor.step]

theorem readBody_gap {gap more : List Char × Cursor} (hc : (isGap c || isBreak c) = true)
    (hgap : readGap ⟨c :: cs, p⟩ = .ok gap) (hmore : readBody style fuel gap.2 = .ok more) :
    readBody style (fuel + 1) ⟨c :: cs, p⟩ = .ok (gap.1 ++ more.1, more.2) := by
  rw [readBody, span_special (isSpecial_of_isGap_or_isBreak hc style)]
  simp only [hc, if_true, hgap]
  change (readBody style fuel gap.2 >>= _) = _
  rw [hmore]
  rfl

theorem readBody_joined {joined more : List Char × Cursor} (hc : isBreak c = true)
    (hjoined : readBreaks (c :: cs).length ⟨cs, p.past ['\\', c]⟩ = .ok joined)
    (hmore : readBody .double fuel joined.2 = .ok more) :
    readBody .double (fuel + 1) ⟨'\\' :: c :: cs, p⟩ = .ok (joined.1 ++ more.1, more.2) := by
  rw [readBody, span_special rfl]
  have hsteps : Cursor.steps ⟨'\\' :: c :: cs, p⟩ 2 = ⟨cs, p.past ['\\', c]⟩ := rfl
  have hslash : (isGap '\\' || isBreak '\\') = false := rfl
  simp only [hslash, Bool.false_eq_true, if_false, if_true, List.head?_cons, Option.any_some, hc,
    hsteps, hjoined]
  change (readBody .double fuel joined.2 >>= _) = _
  rw [hmore]
  rfl

theorem readBody_escape {e : List Char} {more : List Char × Cursor} (he : Escapes e c)
    (hmore : readBody .double fuel ⟨cs, p.past ('\\' :: e)⟩ = .ok more) :
    readBody .double (fuel + 1) ⟨'\\' :: (e ++ cs), p⟩ = .ok (c :: more.1, more.2) := by
  obtain ⟨d, r, rfl, hd⟩ := he.head
  have hread : readEscape (Cursor.step ⟨'\\' :: (d :: r ++ cs), p⟩) = _ :=
    he.reads cs (p.after '\\')
  rw [readBody, span_special rfl]
  have hslash : (isGap '\\' || isBreak '\\') = false := rfl
  simp only [hslash, Bool.false_eq_true, if_false, if_true, List.cons_append, List.head?_cons,
    Option.any_some, hd] at hread ⊢
  rw [hread]
  change (readBody .double fuel _ >>= _) = _
  rw [← Position.past_cons, hmore]
  rfl

theorem solid_append_mark (h : Solid ps) (style : Style) (rest : List Char) :
    Solid (ps ++ style.mark :: rest) := by
  cases ps with
  | nil => exact stopsAt_cons (by cases style <;> rfl)
  | cons c r => exact stopsAt_cons (h c r rfl)

theorem readGap_spaces (hsolid : Solid cs) (hne : cs ≠ []) :
    readGap ⟨List.replicate n ' ' ++ cs, p⟩ =
      .ok (List.replicate n ' ', ⟨cs, p.past (List.replicate n ' ')⟩) := by
  obtain ⟨c, r, rfl⟩ := List.exists_cons_of_ne_nil hne
  have hc := hsolid c r rfl
  rw [Bool.or_eq_false_iff] at hc
  rw [readGap, Cursor.span_append (all_replicate (by decide) n) hsolid.not_gap]
  simp [hc.2]

theorem readGap_breaks {b : Char} (hbs : ∀ c ∈ b :: bs, isBreak c = true) (hk : 0 < k)
    (hsolid : Solid cs) : readGap ⟨b :: (bs ++ (List.replicate k ' ' ++ cs)), p⟩ =
      .ok (fold (foldBreak b) (bs.map foldBreak),
        ⟨cs, p.past (b :: (bs ++ List.replicate k ' '))⟩) := by
  obtain ⟨hb, hbs⟩ := List.forall_mem_cons.1 hbs
  have hbreaks := @readBreaks_spec bs cs (p.after b) k
    (b :: (bs ++ (List.replicate k ' ' ++ cs))).length hbs hk hsolid
    (by rw [List.length_cons, List.length_append]; omega)
  rw [readGap, Cursor.span_stopped (stopsAt_cons (not_gap_of_isBreak hb))]
  simp only [hb, if_true, Cursor.step, hbreaks]
  rfl

theorem readBody_of_body (h : Body style ps vs) (hrest : rest.head? ≠ some '\'')
    (hfuel : ps.length < fuel) :
    readBody style fuel ⟨ps ++ style.mark :: rest, p⟩ =
      .ok (vs, ⟨rest, p.past (ps ++ [style.mark])⟩) := by
  obtain ⟨fuel, rfl⟩ : ∃ m, fuel = m + 1 := ⟨fuel - 1, by omega⟩
  induction h generalizing p fuel with
  | nil => exact readBody_mark style hrest fuel p
  | @ordinary c ps vs hc hps ih =>
    rw [List.cons_append, readBody_ordinary hc, ih fuel (by simp at hfuel; omega)]
    rfl
  | @spaces n ps vs hn hsolid hps ih =>
    obtain ⟨n, rfl⟩ := Nat.exists_eq_succ_of_ne_zero hn.ne'
    obtain ⟨fuel, rfl⟩ : ∃ m, fuel = m + 1 := ⟨fuel - 1, by simp at hfuel; omega⟩
    have hgap := @readGap_spaces (ps ++ style.mark :: rest) p (n + 1)
      (solid_append_mark hsolid style rest) (by simp)
    have hmore := @ih (p.past (List.replicate (n + 1) ' ')) fuel (by simp at hfuel; omega)
    have h := @readBody_gap style _ _ ' ' (fuel + 1) _ _ rfl hgap hmore
    simpa [List.replicate_succ, Position.past_append] using h
  | @breaks b bs ps vs k hbs hk hsolid hps ih =>
    obtain ⟨fuel, rfl⟩ : ∃ m, fuel = m + 1 := ⟨fuel - 1, by simp at hfuel; omega⟩
    have hgap := @readGap_breaks bs (ps ++ style.mark :: rest) p k b hbs hk
      (solid_append_mark hsolid style rest)
    have hmore := @ih (p.past (b :: (bs ++ List.replicate k ' '))) fuel (by simp at hfuel; omega)
    have hb : (isGap b || isBreak b) = true := by rw [hbs b List.mem_cons_self, Bool.or_true]
    have h := readBody_gap hb hgap hmore
    simpa [Position.past_append] using h
  | @escape e c ps vs hstyle he hps ih =>
    subst hstyle
    obtain ⟨fuel, rfl⟩ : ∃ m, fuel = m + 1 := ⟨fuel - 1, by simp at hfuel; omega⟩
    have hmore := @ih (p.past ('\\' :: e)) fuel (by simp at hfuel; omega)
    have h := readBody_escape he hmore
    simpa [Position.past_append] using h
  | @joined ps vs k hstyle hk hsolid hps ih =>
    subst hstyle
    obtain ⟨fuel, rfl⟩ : ∃ m, fuel = m + 1 := ⟨fuel - 1, by simp at hfuel; omega⟩
    have hjoined := @readBreaks_spec [] (ps ++ Style.mark .double :: rest) (p.past ['\\', '\n']) k
      ('\n' :: (List.replicate k ' ' ++ (ps ++ Style.mark .double :: rest))).length
      (fun c hc => nomatch hc) hk (solid_append_mark hsolid .double rest) (by simp)
    have hmore := @ih (p.past ('\\' :: '\n' :: List.replicate k ' ')) fuel
      (by simp at hfuel; omega)
    have h := readBody_joined rfl hjoined hmore
    simpa [Position.past_append] using h

theorem read_of_body (h : Body style ps vs) (hrest : rest.head? ≠ some '\'') :
    read style ⟨style.mark :: (ps ++ style.mark :: rest), p⟩ =
      .ok (String.ofList vs, ⟨rest, p.past (style.mark :: (ps ++ [style.mark]))⟩) := by
  have hbody := @readBody_of_body style ps vs rest (p.after style.mark)
    (style.mark :: (ps ++ style.mark :: rest)).length h hrest
    (by rw [List.length_cons, List.length_append]; omega)
  rw [read]
  simp only [Cursor.step, hbody]
  rfl

theorem Body.word (hw : ∀ c ∈ cs, isSpecial style c = false) (h : Body style ps vs) :
    Body style (cs ++ ps) (cs ++ vs) := by
  induction cs with
  | nil => exact h
  | cons c r ih =>
    obtain ⟨hc, hr⟩ := List.forall_mem_cons.1 hw
    exact .ordinary hc (ih hr)

theorem Body.line (hk : 0 < k) (hsolid : Solid ps) (h : Body style ps vs) :
    Body style ('\n' :: (List.replicate k ' ' ++ ps)) (' ' :: vs) :=
  @Body.breaks style '\n' [] ps vs k (List.forall_mem_singleton.2 rfl) hk hsolid h

theorem not_gap_of_not_special (h : isSpecial style c = false) :
    (isGap c || isBreak c) = false := by
  unfold isSpecial at h
  simp only [Bool.or_eq_false_iff] at h ⊢
  exact h.1.1

theorem Body.space (h : Body style ps vs)
    (hps : StopsAt isBreak ps) : Body style (' ' :: ps) (' ' :: vs) := by
  have hone (hsolid : Solid ps) : Body style (' ' :: ps) (' ' :: vs) :=
    @Body.spaces style 1 _ _ Nat.one_pos hsolid h
  cases h with
  | nil => exact hone stopsAt_nil
  | ordinary hc => exact hone (stopsAt_cons (not_gap_of_not_special hc))
  | @spaces n _ _ hn hsolid hrest =>
    exact @Body.spaces style (n + 1) _ _ (Nat.succ_pos n) hsolid hrest
  | breaks hbs => exact absurd (hps _ _ rfl) (by simp [hbs _ List.mem_cons_self])
  | escape => exact hone (stopsAt_cons rfl)
  | joined => exact hone (stopsAt_cons rfl)

end EnvoySidecar.Yaml.Quoted
