import EnvoySidecar.Proofs.Yaml.Integers
import EnvoySidecar.Yaml.Layout

/-! Reading the layout of block collections, token by token. What is between two tokens is skipped
first and closes the collections that end there; then a scalar, a key with its colon, or the mark of
an entry is read. -/

namespace EnvoySidecar.Yaml.Layout

open Text (StopsAt stopsAt_cons)
open Fold (Unmarked Inscribed)

variable {a b s : Layout} {cs body name next rest r : List Char} {c : Char} {p q : Position}
  {indents inner : List Nat} {key : Option SavedKey} {allowed : Bool} {ts opening : List Token}
  {t : Token} {column indent k n fuel : Nat}

/-! Runs -/

/-- A run at the token where `a` stands comes to the one where `b` stands. -/
def Leads (a b : Layout) : Prop :=
  ∀ fuel s, s.toNext = .ok a → a.cursor.rest.length < fuel →
    ∃ fuel' s', s'.toNext = .ok b ∧ b.cursor.rest.length < fuel' ∧ run fuel s = run fuel' s'

theorem Leads.trans {d : Layout} (h : Leads a b) (h' : Leads b d) : Leads a d := by
  intro fuel s hs hfuel
  obtain ⟨fuel, s, hs, hfuel, hrun⟩ := h fuel s hs hfuel
  obtain ⟨fuel, s, hs, hfuel, hrun'⟩ := h' fuel s hs hfuel
  exact ⟨fuel, s, hs, hfuel, hrun.trans hrun'⟩

theorem Leads.token (hrest : a.cursor.rest = c :: r) (htoken : ∀ held, a.token held c r = .ok s)
    (hnext : s.toNext = .ok b) (hless : b.cursor.rest.length ≤ r.length) : Leads a b := by
  intro fuel s₀ hs hfuel
  rw [hrest, List.length_cons] at hfuel
  obtain ⟨fuel, rfl⟩ : ∃ m, fuel = m + 1 := ⟨fuel - 1, by omega⟩
  refine ⟨fuel, s, hnext, by omega, ?_⟩
  rw [run]
  simp only [hs, bind, Except.bind, hrest, htoken]
  rfl

theorem run_finish {f : Layout} (hs : s.toNext = .ok a) (hrest : a.cursor.rest = [])
    (hfinish : a.finish = .ok f) (hfuel : 0 < fuel) : run fuel s = f.emitted.reverse := by
  obtain ⟨fuel, rfl⟩ : ∃ m, fuel = m + 1 := ⟨fuel - 1, by omega⟩
  rw [run]
  simp only [hs, bind, Except.bind, hrest, hfinish]
  rfl

/-! Layouts outside brackets -/

def outside (k : Cursor) (indents : List Nat) (key : Option SavedKey) (allowed : Bool)
    (ts : List Token) : Layout :=
  { cursor := k, indents, level := ⟨none, key⟩, keyAllowed := allowed, emitted := ts,
    count := ts.length }

def arrive (k : Cursor) (indents : List Nat) (key : Option SavedKey) (allowed : Bool)
    (ts : List Token) : Layout :=
  outside k (indents.dropWhile (k.place.column < ·)) key allowed
    (List.replicate (indents.takeWhile (k.place.column < ·)).length .blockEnd ++ ts)

theorem arrive_stays {k : Cursor} (h : ∀ column ∈ indents.head?, column ≤ k.place.column) :
    arrive k indents key allowed ts = outside k indents key allowed ts := by
  cases indents with
  | nil => rfl
  | cons column inner =>
    have hstays : ¬k.place.column < column := Nat.not_lt.2 (h column rfl)
    rw [arrive, List.dropWhile_cons_of_neg (by simpa using hstays),
      List.takeWhile_cons_of_neg (by simpa using hstays)]
    rfl

theorem arrive_closes {k : Cursor} (h : k.place.column < column) :
    arrive k (column :: indents) key allowed ts =
      arrive k indents key allowed (.blockEnd :: ts) := by
  rw [arrive, arrive, List.dropWhile_cons_of_pos (by simpa using h),
    List.takeWhile_cons_of_pos (by simpa using h), List.length_cons, List.replicate_succ',
    List.append_assoc]
  rfl

structure Onward (next : List Char) : Prop where
  firm : Firm next
  comment : next.head? ≠ some '#'

theorem skip_spaces (h : Onward next) (n : Nat) (p : Position) :
    Cursor.skip (fun c => c = ' ' || (false && c = '\t')) ⟨List.replicate n ' ' ++ next, p⟩ =
      ⟨next, p.past (List.replicate n ' ')⟩ := by
  refine Cursor.skip_append (all_replicate (by decide) n) fun c r heq => ?_
  have hc := h.firm c r heq
  simp only [Style.isEdge, Bool.or_eq_false_iff] at hc
  simpa using hc.1

theorem Onward.not_break (h : Onward next) : next.head?.any isBreak = false := by
  cases next with
  | nil => rfl
  | cons c r =>
    have hc := h.firm c r rfl
    simp only [Style.isEdge, Bool.or_eq_false_iff] at hc
    exact hc.2

theorem skipBetween_spaces (h : Onward next) (n fuel : Nat) (p : Position) :
    skipBetween false (fuel + 1) ⟨List.replicate n ' ' ++ next, p⟩ =
      (false, ⟨next, p.past (List.replicate n ' ')⟩) := by
  simp only [skipBetween, skip_spaces h, h.comment, h.not_break, Bool.false_eq_true, if_false]

theorem skipBetween_line (h : Onward next) (n k fuel : Nat) (p : Position) :
    skipBetween false (fuel + 2)
        ⟨List.replicate n ' ' ++ '\n' :: (List.replicate k ' ' ++ next), p⟩ =
      (true, ⟨next, p.past (List.replicate n ' ' ++ '\n' :: List.replicate k ' ')⟩) := by
  have hskip : Cursor.skip (fun c => c = ' ' || (false && c = '\t'))
      ⟨List.replicate n ' ' ++ '\n' :: (List.replicate k ' ' ++ next), p⟩ =
        ⟨'\n' :: (List.replicate k ' ' ++ next), p.past (List.replicate n ' ')⟩ :=
    Cursor.skip_append (all_replicate (by decide) n) (stopsAt_cons (by decide))
  have hbreak : isBreak '\n' = true := rfl
  rw [skipBetween]
  simp only [hskip, List.head?_cons, Option.some.injEq, Char.reduceEq, if_false, Option.any_some,
    hbreak, if_true, Cursor.step, skipBetween_spaces h, Position.past_append, Position.past_cons]

theorem toNext_outside {k k' : Cursor} {key' : Option SavedKey} {endsLine : Bool}
    (hskip : skipBetween false (k.rest.length + 1) k = (endsLine, k'))
    (hkey : Level.refresh k'.place ⟨none, key⟩ = .ok ⟨none, key'⟩) :
    (outside k indents key allowed ts).toNext =
      .ok (arrive k' indents key' (allowed || endsLine) ts) := by
  have hrefresh : refresh (outside k' indents key (allowed || endsLine) ts) =
      .ok (outside k' indents key' (allowed || endsLine) ts) := by
    rw [refresh]
    change (Level.refresh k'.place ⟨none, key⟩ >>= _) = _
    rw [hkey]
    rfl
  have hclose : (outside k' indents key' (allowed || endsLine) ts).close (some k'.place.column) =
      arrive k' indents key' (allowed || endsLine) ts := by
    simp only [close, inFlow, outside, arrive, Option.isSome_none, Bool.false_eq_true, if_false,
      Option.all_some, Text.drop_length_takeWhile, List.length_append, List.length_replicate,
      Nat.add_comm]
  have hcursor : skipBetween (outside k indents key allowed ts).inFlow
      ((outside k indents key allowed ts).cursor.rest.length + 1)
      (outside k indents key allowed ts).cursor = (endsLine, k') := hskip
  rw [toNext, hcursor]
  change (refresh (outside k' indents key (allowed || (endsLine && true)) ts) >>=
    fun s => Except.ok (s.close (some k'.place.column))) = _
  rw [Bool.and_true, hrefresh]
  exact congrArg Except.ok hclose

/-! Saved keys -/

theorem refresh_passed (h : ∀ saved ∈ key, saved.place.line < p.line ∧ saved.required = false) :
    Level.refresh p ⟨none, key⟩ = .ok ⟨none, none⟩ := by
  cases key with
  | none => rfl
  | some saved =>
    obtain ⟨hline, hrequired⟩ := h saved rfl
    have hstale : saved.isStale p = true := by simp [SavedKey.isStale, Nat.ne_of_lt hline]
    simp [Level.refresh, hstale, hrequired]

theorem refresh_kept {saved : SavedKey} (hline : saved.place.line = p.line)
    (hindex : p.index ≤ saved.place.index + SavedKey.reach) :
    Level.refresh p ⟨none, some saved⟩ = .ok ⟨none, some saved⟩ := by
  have hstale : saved.isStale p = false := by
    simp [SavedKey.isStale, hline, Nat.not_lt.2 hindex]
  simp [Level.refresh, hstale]

def saved (indents : List Nat) (p : Position) (allowed : Bool) (count : Nat) : Option SavedKey :=
  if allowed then some ⟨count, p, indents.head? = some p.column⟩ else none

theorem saveKey_outside (k : Cursor) : (outside k indents none allowed ts).saveKey =
    .ok (outside k indents (saved indents k.place allowed ts.length) allowed ts) := by
  cases allowed with
  | false => rfl
  | true =>
    have hrequired : (outside k indents none true ts).least = k.place.column + 1 ↔
        indents.head? = some k.place.column := by
      cases indents with
      | nil => simp [least, outside]
      | cons column inner => simp [least, outside]
    simp only [saveKey, dropKey, outside, bind, Except.bind, inFlow] at hrequired ⊢
    simp [saved, hrequired, pure, Except.pure]

/-! Scalars -/

theorem not_gapFollows {d : Char} (hd : Plain.IsInk d) (r : List Char) :
    gapFollows (d :: r) = false := by
  rw [gapFollows, hd.not_gap, hd.not_lineEnd]
  rfl

section Unmarked

variable {d : Char} {version : Version}

theorem ne_of_unmarked (h : Unmarked (c :: r)) (hind : isIndicator d = true)
    (hloose : Style.isLooseIndicator d = false) : c ≠ d := by
  obtain ⟨_, _, heq, -, hmark⟩ := h
  cases heq
  rintro rfl
  rw [(hmark hind).1] at hloose
  cases hloose

theorem gapFollows_of_unmarked (h : Unmarked (c :: r)) (hind : isIndicator c = true) :
    gapFollows r = false := by
  obtain ⟨_, _, heq, -, hmark⟩ := h
  cases heq
  obtain ⟨d, r', rfl, hd⟩ := (hmark hind).2
  exact not_gapFollows hd r'

theorem starts_of_unmarked (h : Unmarked (c :: r)) : Plain.starts version false c r = true := by
  have hgap := gapFollows_of_unmarked h
  obtain ⟨_, _, heq, hink, hmark⟩ := h
  cases heq
  unfold Plain.starts
  split_ifs with hind
  · have hloose := (hmark hind).1
    simp only [Style.isLooseIndicator, Bool.or_eq_true, decide_eq_true_eq] at hloose
    rcases hloose with (rfl | rfl) | rfl <;> simp [hgap rfl]
  · have hbreak := hink.2
    simp only [Style.isEdge, Bool.or_eq_false_iff] at hbreak
    simp [hink.not_gap, hbreak.2]

theorem mark_of_unmarked (h : Unmarked (c :: r)) (hind : isIndicator d = true) {other : Bool}
    (hother : gapFollows r = false → other = false) : (c = d && other) = false := by
  by_cases hc : c = d
  · rw [hother (gapFollows_of_unmarked h (hc ▸ hind)), Bool.and_false]
  · rw [decide_eq_false hc, Bool.false_and]

end Unmarked

theorem token_plain (h : Unmarked (c :: r)) (hbracket : s.level.bracket = none)
    (hmarker : s.cursor.place.column = 0 → markerFollows (c :: r) = false) (held : Bool) :
    s.token held c r = s.plain := by
  have hflow : s.inFlow = false := by simp [inFlow, hbracket]
  have hstarts : Plain.starts s.version s.inFlow c r = true := hflow ▸ starts_of_unmarked h
  have hmarks : (c = ':' && s.marksValue held r) = false :=
    mark_of_unmarked h rfl fun hgap => by simp [marksValue, hgap, hbracket]
  have hdash : (c = '-' && gapFollows r) = false := mark_of_unmarked h rfl id
  have hquestion : (c = '?' && (s.inFlow || gapFollows r)) = false :=
    mark_of_unmarked h rfl fun hgap => by rw [hflow, hgap, Bool.or_self]
  have hpercent : c ≠ '%' := ne_of_unmarked h rfl rfl
  have hbar : c ≠ '|' := ne_of_unmarked h rfl rfl
  have hangle : c ≠ '>' := ne_of_unmarked h rfl rfl
  have hdocument : (decide (s.cursor.place.column = 0) && markerFollows (c :: r)) = false := by
    by_cases hzero : s.cursor.place.column = 0
    · rw [hmarker hzero, Bool.and_false]
    · rw [decide_eq_false hzero, Bool.false_and]
  unfold token
  simp only [hpercent, hdocument, hdash, hquestion, hmarks, hbar, hangle, hstarts, decide_false,
    Bool.and_false, Bool.or_self, Bool.false_and, Bool.false_eq_true, if_false, if_true]
  split
  case h_11 => rfl
  all_goals exact absurd rfl (ne_of_unmarked h rfl rfl)

theorem least_outside (h : indents.head? = some column) (k : Cursor) :
    (outside k indents key allowed ts).least = column + 1 := by
  obtain ⟨inner, rfl⟩ := List.head?_eq_some_iff.1 h
  rfl

theorem plain_outside (k : Cursor) {scalar : Plain.Scalar}
    (hread : Plain.read .v12 false (outside k indents none allowed ts).least (k.rest.length + 1) k =
      scalar) : (outside k indents none allowed ts).plain =
        .ok (outside scalar.cursor indents (saved indents k.place allowed ts.length) scalar.endsLine
          (.scalar (String.ofList scalar.text) true :: ts)) := by
  rw [plain, saveKey_outside]
  subst hread
  rfl

theorem refresh_saved (hindents : indents.head? = some column) (hcolumn : column < p.column)
    (hline : p.line < q.line) (count : Nat) :
    Level.refresh q ⟨none, saved indents p allowed count⟩ = .ok ⟨none, none⟩ := by
  refine refresh_passed fun key hkey => ?_
  unfold saved at hkey
  split_ifs at hkey
  · cases hkey
    exact ⟨hline, by simp [hindents, Nat.ne_of_lt hcolumn]⟩
  · cases hkey

theorem leads_plain (hindents : indents.head? = some column) (hcolumn : column < p.column)
    (hindent : column < indent) {vs : List Char} (hfolded : Plain.Folded indent body vs)
    (hunmarked : Unmarked body) (hnext : Onward next) (hmarker : markerFollows next = false)
    (hk : k ≤ column) : ∃ q, q.column = k ∧
      Leads (outside ⟨body ++ '\n' :: (List.replicate k ' ' ++ next), p⟩ indents none allowed ts)
        (arrive ⟨next, q⟩ indents none true (.scalar (String.ofList vs) true :: ts)) := by
  obtain ⟨c, r, rfl, -⟩ := id hunmarked
  generalize hrest : '\n' :: (List.replicate k ' ' ++ next) = rest
  generalize hq : p.past (c :: r ++ '\n' :: List.replicate k ' ') = q
  have hresumes : Plain.Resumes (column + 1) rest k next :=
    ⟨hrest.symm, Nat.lt_succ_of_le hk, hnext.firm, hnext.comment, hmarker⟩
  have hread : Plain.read .v12 false (outside ⟨c :: r ++ rest, p⟩ indents none allowed ts).least
      ((c :: r ++ rest).length + 1) ⟨c :: r ++ rest, p⟩ = ⟨vs, true, ⟨next, q⟩⟩ := by
    rw [least_outside hindents, ← hq]
    refine Plain.read_folded hfolded (Nat.succ_pos column) hindent hcolumn hresumes ?_
    rw [List.length_append]
    omega
  have htoken (held : Bool) :
      (outside ⟨c :: r ++ rest, p⟩ indents none allowed ts).token held c (r ++ rest) = _ :=
    (token_plain (hunmarked.append rest) rfl (fun hzero => absurd hzero (Nat.ne_of_gt
      (Nat.zero_lt_of_lt hcolumn))) held).trans (plain_outside _ hread)
  have hline : p.line < q.line := hq ▸ Position.line_lt_past p (c := '\n') rfl (by simp)
  have hcolumn' : q.column = k := by rw [← hq, Position.past_append, Position.column_newLine]
  refine ⟨q, hcolumn', Leads.token rfl htoken (toNext_outside (skipBetween_spaces hnext 0 _ _)
    (refresh_saved hindents hcolumn hline _)) ?_⟩
  rw [← hrest]
  simp [arrive, outside]
  omega

theorem keyed_outside {k k' : Cursor} {read : Reader Token} (hread : read k = .ok (t, k')) :
    (outside k indents none allowed ts).keyed read =
      .ok (outside k' indents (saved indents k.place allowed ts.length) false (t :: ts)) := by
  rw [keyed, saveKey_outside]
  change (read k >>= _) = _
  rw [hread]
  rfl

theorem token_quoted (style : Quoted.Style) (held : Bool) (s : Layout) (r : List Char) :
    s.token held style.mark r = s.keyed (readQuoted style) := by
  cases style <;> simp [token, Quoted.Style.mark, markerFollows]

theorem leads_quoted (hindents : indents.head? = some column) (hcolumn : column < p.column)
    {style : Quoted.Style} {ps vs : List Char} (hbody : Quoted.Body style ps vs)
    (hnext : Onward next) : ∃ q, q.column = k ∧
      Leads (outside
          ⟨style.mark :: (ps ++ [style.mark]) ++ '\n' :: (List.replicate k ' ' ++ next), p⟩
          indents none allowed ts)
        (arrive ⟨next, q⟩ indents none true (.scalar (String.ofList vs) false :: ts)) := by
  generalize hrest : '\n' :: (List.replicate k ' ' ++ next) = rest
  generalize hq : p.past (style.mark :: (ps ++ [style.mark])) = q
  have hread : readQuoted style ⟨style.mark :: (ps ++ [style.mark]) ++ rest, p⟩ =
      .ok (.scalar (String.ofList vs) false, ⟨rest, q⟩) := by
    have hmark : rest.head? ≠ some '\'' := by simp [← hrest]
    rw [readQuoted, List.cons_append, List.append_assoc, List.singleton_append,
      Quoted.read_of_body hbody hmark, hq]
    rfl
  have hline : p.line < (q.past ('\n' :: List.replicate k ' ')).line :=
    Nat.lt_of_le_of_lt (hq ▸ Position.line_le_past p _)
      (Position.line_lt_past q (c := '\n') rfl (by simp))
  refine ⟨q.past ('\n' :: List.replicate k ' '), Position.column_newLine q k, ?_⟩
  subst hrest
  refine Leads.token rfl (fun held => (token_quoted style held _ _).trans (keyed_outside hread))
    (toNext_outside (skipBetween_line hnext 0 k _ q) (refresh_saved hindents hcolumn hline _)) ?_
  simp [arrive, outside]
  omega

theorem leads_scalar (hindents : indents.head? = some column) (hcolumn : column < p.column)
    (hindent : column < indent) (h : Inscribed indent body t) (hnext : Onward next)
    (hmarker : markerFollows next = false) (hk : k ≤ column) : ∃ q, q.column = k ∧
      Leads (outside ⟨body ++ '\n' :: (List.replicate k ' ' ++ next), p⟩ indents none allowed ts)
        (arrive ⟨next, q⟩ indents none true (t :: ts)) := by
  cases h with
  | plain hfolded hunmarked =>
    exact leads_plain hindents hcolumn hindent hfolded hunmarked hnext hmarker hk
  | quoted hbody => exact leads_quoted hindents hcolumn hbody hnext

/-! Keys and entries -/

structure IsName (name : List Char) : Prop where
  nonempty : name ≠ []
  alphanum : ∀ c ∈ name, c.isAlphanum = true
  short : name.length ≤ SavedKey.reach

theorem ink_of_isAlphanum (h : c.isAlphanum = true) : Plain.IsInk c := by
  refine ⟨Style.isUsual_of_isAlphanum h, ?_⟩
  by_contra hedge
  simp only [Style.isEdge, isBreak, Bool.not_eq_false, Bool.or_eq_true, decide_eq_true_eq] at hedge
  obtain rfl | ((rfl | rfl) | rfl) | rfl := hedge <;> exact absurd h (by decide)

theorem not_indicator_of_isAlphanum (h : c.isAlphanum = true) : isIndicator c = false := by
  exact not_indicator_of (by decide) h

theorem IsName.ink (h : IsName name) : ∀ c ∈ name, Plain.IsInk c :=
  fun c hc => ink_of_isAlphanum (h.alphanum c hc)

theorem IsName.colon (h : IsName name) : name.getLast? ≠ some ':' := fun hlast => by
  have hcolon := h.alphanum ':' (List.mem_of_getLast? hlast)
  exact absurd hcolon (by decide)

theorem IsName.inline (h : IsName name) : Position.Inline name := fun c hc => by
  obtain ⟨husual, hedge⟩ := h.ink c hc
  simp only [Style.isEdge, Bool.or_eq_false_iff] at hedge
  exact ⟨husual, hedge.2⟩

theorem IsName.unmarked (h : IsName name) : Unmarked name := by
  obtain ⟨c, r, rfl⟩ := List.exists_cons_of_ne_nil h.nonempty
  have hc := h.alphanum c List.mem_cons_self
  refine ⟨c, r, rfl, ink_of_isAlphanum hc, fun hind => ?_⟩
  rw [not_indicator_of_isAlphanum hc] at hind
  cases hind

theorem IsName.not_marker (h : IsName (c :: r)) (ds : List Char) :
    markerFollows (c :: ds) = false := by
  have hc := h.alphanum c List.mem_cons_self
  refine Quoted.not_marker ?_ ?_ ds <;> rintro rfl <;> exact absurd hc (by decide)

theorem onward_cons (h : Plain.IsInk c) (hcomment : c ≠ '#') (r : List Char) : Onward (c :: r) :=
  ⟨stopsAt_cons h.2, by simpa using hcomment⟩

theorem not_comment_of_unmarked (h : Unmarked cs) : cs.head? ≠ some '#' := by
  obtain ⟨c, r, rfl, -, hmark⟩ := h
  rintro ⟨⟩
  exact absurd (hmark rfl).1 (by decide)

theorem onward_of_unmarked (h : Unmarked cs) : Onward cs where
  firm := by
    obtain ⟨c, r, rfl, hc, -⟩ := h
    exact stopsAt_cons hc.2
  comment := not_comment_of_unmarked h

theorem onward_of_inscribed (h : Inscribed indent body t) (rest : List Char) :
    Onward (body ++ rest) := by
  cases h with
  | plain _ hunmarked => exact onward_of_unmarked (hunmarked.append rest)
  | @quoted style ps vs =>
    cases style with
    | single => exact ⟨stopsAt_cons (by decide), by simp [Quoted.Style.mark]⟩
    | double => exact ⟨stopsAt_cons (by decide), by simp [Quoted.Style.mark]⟩

theorem onward_colon (r : List Char) : Onward (':' :: r) :=
  onward_cons (by unfold Plain.IsInk; decide) (by decide) r

theorem read_name (h : IsName name) (hgap : gapFollows rest = true) (least fuel : Nat) :
    Plain.read .v12 false least (fuel + 1) ⟨name ++ ':' :: rest, p⟩ =
      ⟨name, false, ⟨':' :: rest, p.past name⟩⟩ := by
  have hword : Plain.word .v12 false (name ++ ':' :: rest) p =
      (name, ⟨':' :: rest, p.past name⟩) :=
    Plain.word_append h.ink h.colon fun c r heq => by
      cases heq
      simp [Plain.stops, hgap]
  have hend : Plain.gap ⟨':' :: rest, p.past name⟩ = ⟨[], false, ⟨':' :: rest, p.past name⟩⟩ :=
    @Plain.gap_spaces (':' :: rest) (p.past name) 0 (onward_colon rest).firm
  rw [Plain.read]
  simp only [hword, hend, Plain.Gap.goesOn, List.isEmpty_nil, Bool.not_true, Bool.false_and,
    Bool.false_eq_true, if_false]

inductive Enters (column : Nat) : List Nat → List Nat → List Token → Prop
  | opens {indents : List Nat} : (∀ outer ∈ indents.head?, outer < column) →
      Enters column indents (column :: indents) [.blockMapping]
  | stays {indents : List Nat} : Enters column (column :: indents) (column :: indents) []

theorem Enters.le (h : Enters column indents inner opening) :
    ∀ outer ∈ indents.head?, outer ≤ column := by
  cases h with
  | opens hindents => exact fun outer houter => (hindents outer houter).le
  | stays => exact fun outer houter => (Option.some.inj houter).ge

theorem Enters.opens_iff (h : Enters column indents inner opening) (k : Cursor) :
    (outside k indents key allowed ts).opens column = true ↔ opening = [.blockMapping] := by
  cases h with
  | opens hindents =>
    refine iff_of_true (decide_eq_true ?_) rfl
    cases indents with
    | nil => exact Nat.zero_le column
    | cons outer _ => exact hindents outer rfl
  | stays => exact iff_of_false (by simp [Layout.opens, least, outside]) (by simp)

theorem emitAt_last (s : Layout) (hcount : s.count = s.emitted.length)
    (hs : s.emitted = t :: ts) (new : List Token) :
    s.emitAt ts.length new =
      { s with emitted := t :: (new ++ ts), count := ts.length + 1 + new.length } := by
  rw [hs, List.length_cons] at hcount
  simp [emitAt, hcount, hs]

theorem value_outside (h : Enters p.column indents inner opening) (k : Cursor) (required : Bool) :
    (outside k indents (some ⟨ts.length, p, required⟩) false (t :: ts)).value =
      .ok (outside k.step inner none false (.value :: t :: .key :: (opening ++ ts))) := by
  have hopens : (outside k indents none false (t :: ts)).opens p.column = true ↔
      opening = [.blockMapping] := h.opens_iff k
  have hsettle : (outside k indents (some ⟨ts.length, p, required⟩) false (t :: ts)).settleKey
      ⟨ts.length, p, required⟩ = outside k inner none false (t :: .key :: (opening ++ ts)) := by
    unfold settleKey
    change (if (true && (outside k indents none false (t :: ts)).opens p.column) = true then _
      else _) = _
    cases h with
    | opens =>
      rw [Bool.true_and, if_pos (hopens.2 rfl)]
      exact emitAt_last _ rfl rfl _
    | stays =>
      rw [Bool.true_and, if_neg (mt hopens.1 (by simp))]
      exact emitAt_last _ rfl rfl _
  rw [value]
  change Except.ok (Layout.emit { (outside k indents (some ⟨ts.length, p, required⟩) false
    (t :: ts)).settleKey ⟨ts.length, p, required⟩ with cursor := _ } .value) = _
  rw [hsettle]
  rfl

theorem token_colon (hgap : gapFollows r = true) (held : Bool) : s.token held ':' r = s.value := by
  simp [token, marksValue, hgap, markerFollows]

theorem leads_key (hname : IsName name) (hgap : gapFollows rest = true)
    (henters : Enters p.column indents inner opening)
    (hvalue : (outside ⟨rest, p.past (name ++ [':'])⟩ inner none false
      (.value :: .scalar (String.ofList name) true :: .key :: (opening ++ ts))).toNext = .ok b)
    (hless : b.cursor.rest.length ≤ rest.length) :
    Leads (outside ⟨name ++ ':' :: rest, p⟩ indents none true ts) b := by
  obtain ⟨c, r, rfl⟩ := List.exists_cons_of_ne_nil hname.nonempty
  generalize hq : p.past (c :: r) = q
  have hinline : q = ⟨p.index + (c :: r).length, p.line, p.column + (c :: r).length⟩ :=
    hq ▸ Position.past_inline hname.inline
  have hscalar : Leads (outside ⟨c :: r ++ ':' :: rest, p⟩ indents none true ts)
      (outside ⟨':' :: rest, q⟩ indents (saved indents p true ts.length) false
        (.scalar (String.ofList (c :: r)) true :: ts)) := by
    have htoken (held : Bool) : (outside ⟨c :: r ++ ':' :: rest, p⟩ indents none true ts).token held
        c (r ++ ':' :: rest) = _ :=
      (token_plain (hname.unmarked.append (':' :: rest)) rfl (fun _ => hname.not_marker _) held).trans
        (plain_outside _ (hq ▸ read_name hname hgap _ _))
    have hkept : Level.refresh q ⟨none, saved indents p true ts.length⟩ =
        .ok ⟨none, saved indents p true ts.length⟩ :=
      refresh_kept (by rw [hinline]) (by rw [hinline]; exact Nat.add_le_add_left hname.short _)
    have hnext : (outside ⟨':' :: rest, q⟩ indents (saved indents p true ts.length) false
        (.scalar (String.ofList (c :: r)) true :: ts)).toNext = .ok _ :=
      toNext_outside (skipBetween_spaces (onward_colon rest) 0 _ q) hkept
    rw [arrive_stays] at hnext
    · exact Leads.token rfl htoken hnext (by simp [outside])
    · intro outer houter
      rw [hinline]
      exact (henters.le outer houter).trans (Nat.le_add_right _ _)
  have hcolon (held : Bool) : (outside ⟨':' :: rest, q⟩ indents (saved indents p true ts.length) false
      (.scalar (String.ofList (c :: r)) true :: ts)).token held ':' rest = _ :=
    (token_colon hgap held).trans (value_outside henters ⟨':' :: rest, q⟩ _)
  refine hscalar.trans (Leads.token rfl hcolon ?_ hless)
  rwa [Position.past_append, hq] at hvalue

theorem column_entry (p : Position) : (p.past ['-', ' ']).column = p.column + 2 :=
  Position.column_inline p (by decide)

theorem leads_entry (hindents : indents.head? = some p.column) (hnext : Onward next) :
    Leads (outside ⟨'-' :: ' ' :: next, p⟩ indents none true ts)
      (outside ⟨next, p.past ['-', ' ']⟩ indents none true (.entry :: ts)) := by
  have hopens : (outside ⟨'-' :: ' ' :: next, p⟩ indents none true ts).opens p.column = false := by
    rw [Layout.opens, least_outside hindents]
    simp
  have hblock : (outside ⟨'-' :: ' ' :: next, p⟩ indents none true ts).openBlock .blockSequence =
      .ok (outside ⟨'-' :: ' ' :: next, p⟩ indents none true ts) := by
    unfold openBlock
    change (if (outside _ indents none true ts).opens p.column = true then _ else _) = _
    rw [hopens]
    rfl
  have htoken (held : Bool) : (outside ⟨'-' :: ' ' :: next, p⟩ indents none true ts).token held '-'
      (' ' :: next) = .ok (outside ⟨' ' :: next, p.after '-'⟩ indents none true (.entry :: ts)) := by
    have hentry : (outside ⟨'-' :: ' ' :: next, p⟩ indents none true ts).token held '-'
        (' ' :: next) = (outside ⟨'-' :: ' ' :: next, p⟩ indents none true ts).entry := by
      simp [token, markerFollows, gapFollows, isGap]
    rw [hentry, entry, hblock]
    rfl
  have hskip :
      (outside ⟨' ' :: next, p.after '-'⟩ indents none true (.entry :: ts)).toNext = .ok _ :=
    toNext_outside (skipBetween_spaces hnext 1 _ (p.after '-'))
      rfl
  rw [arrive_stays] at hskip
  · exact Leads.token rfl htoken hskip (by simp [outside])
  · intro outer houter
    rw [hindents] at houter
    cases houter
    exact (Nat.le_add_right p.column 2).trans (column_entry p).ge

end EnvoySidecar.Yaml.Layout
