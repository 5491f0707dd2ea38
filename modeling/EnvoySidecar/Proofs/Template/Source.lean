import EnvoySidecar.Proofs.Text.Lines
import EnvoySidecar.Proofs.Text.Scanning
import EnvoySidecar.Template

/-! How templates are written, and that they are read as they were written. A well-formed template
is the text of its pieces. Reading gives the pieces back, once the line ends are unified and the
last one is dropped, with nothing between them but literals of no text. -/

namespace EnvoySidecar.Template

open Text

def reserved : List String :=
  ["true", "True", "false", "False", "none", "None", "and", "or", "not", "in", "is", "if", "else",
    "range", "dict", "lipsum", "cycler", "joiner", "namespace", "self", "template_str"]

/-- No brace, percent sign or hash stands behind an opening brace. -/
def IsText (text : List Char) : Prop :=
  Avoids '\x7b' ['\x7b', '%', '#'] text

instance (text : List Char) : Decidable (IsText text) :=
  inferInstanceAs (Decidable (Avoids '\x7b' ['\x7b', '%', '#'] text))

/-- An identifier that no other one is the same as, whatever form their characters have. -/
structure IsName (name : List Char) : Prop where
  identifier : isIdentifier name
  invariant : name.all isInvariant
  free : String.ofList name ∉ reserved

/-- A comment does not end early, and has no sign at its edges. -/
structure IsBody (body : List Char) : Prop where
  inside : Avoids '#' ['\x7d'] body
  first : ∀ c ∈ body.head?, c ∉ ['-', '+']
  last : ∀ c ∈ body.getLast?, c ∉ ['-', '+']

namespace Piece

def source : Piece → List Char
  | literal text => text
  | placeholder name => '\x7b' :: '\x7b' :: ' ' :: (name ++ [' ', '\x7d', '\x7d'])
  | comment body => '\x7b' :: '#' :: (body ++ ['#', '\x7d'])

inductive IsTag : Piece → Prop
  | placeholder {name : List Char} : IsName name → IsTag (.placeholder name)
  | comment {body : List Char} : IsBody body → IsTag (.comment body)

def unified : Piece → Piece
  | literal text => .literal (unifyLines text)
  | placeholder name => .placeholder name
  | comment body => .comment (unifyLines body)

end Piece

def source (ps : List Piece) : List Char :=
  ps.flatMap Piece.source

/-- Pieces that can be told apart in their text: no two literals meet, and none ends in a brace
before a tag. -/
inductive WellFormed : List Piece → Prop
  | nil : WellFormed []
  | text {t : List Char} : IsText t → WellFormed [.literal t]
  | tag {p : Piece} {ps : List Piece} : p.IsTag → WellFormed ps → WellFormed (p :: ps)
  | textTag {t : List Char} {p : Piece} {ps : List Piece} : IsText t → t.getLast? ≠ some '\x7b' →
      p.IsTag → WellFormed ps → WellFormed (.literal t :: p :: ps)

def chop (cs : List Char) : List Char :=
  if cs.getLast? = some '\n' then cs.dropLast else cs

def chopLast : List Piece → List Piece
  | [] => []
  | [.literal t] => [.literal (chop t)]
  | p :: ps => p :: chopLast ps

/-- What the pieces come to: their line ends are unified, and the last one is dropped. -/
def settled (ps : List Piece) : List Piece :=
  chopLast (ps.map Piece.unified)

variable {t name body cs r rest : List Char} {p : Piece} {ps qs : List Piece} {c : Char}
  {o : Opener} {size fuel : Nat}

theorem WellFormed.isName (h : WellFormed ps) : ∀ name, .placeholder name ∈ ps → IsName name := by
  have htag {p : Piece} (hp : p.IsTag) (name : List Char) (heq : .placeholder name = p) :
      IsName name := by
    subst heq
    cases hp with
    | placeholder hname => exact hname
  induction h with
  | nil =>
    intro name hmem
    cases hmem
  | text =>
    intro name hmem
    cases List.mem_singleton.1 hmem
  | tag hp _ ih =>
    intro name hmem
    rcases List.mem_cons.1 hmem with heq | hmem
    · exact htag hp name heq
    · exact ih name hmem
  | textTag _ _ hp _ ih =>
    intro name hmem
    rcases List.mem_cons.1 ((List.mem_cons.1 hmem).resolve_left Piece.noConfusion) with heq | hmem
    · exact htag hp name heq
    · exact ih name hmem

theorem source_cons (p : Piece) (ps : List Piece) : source (p :: ps) = p.source ++ source ps := rfl

theorem normalize_eq (cs : List Char) : normalize cs = chop (unifyLines cs) := rfl

/-! Reading from one place on -/

theorem ofChar?_eq_none_iff : Opener.ofChar? c = none ↔ c ∉ ['\x7b', '%', '#'] := by
  unfold Opener.ofChar?
  split
  · simp
  · simp
  · simp
  · next hbrace hhash hpercent =>
    have hnone : ¬c = '\x7b' ∧ ¬c = '%' ∧ ¬c = '#' := ⟨hbrace, hpercent, hhash⟩
    simpa using hnone

theorem splitOpener_cons (h : c = '\x7b' → ∀ d ∈ r.head?, Opener.ofChar? d = none) :
    splitOpener (c :: r) = (c :: (splitOpener r).1, (splitOpener r).2) := by
  by_cases hc : c = '\x7b'
  · subst hc
    cases r with
    | nil => rfl
    | cons d r => rw [splitOpener, h rfl d rfl]
  · rw [splitOpener]
    exact fun _ _ hbrace => absurd hbrace hc

theorem splitOpener_append (ht : IsText t) (hlast : t.getLast? = some '\x7b' → r = []) :
    splitOpener (t ++ r) = (t ++ (splitOpener r).1, (splitOpener r).2) := by
  induction t with
  | nil => rfl
  | cons c t ih =>
    have hstep : c = '\x7b' → ∀ d ∈ (t ++ r).head?, Opener.ofChar? d = none := by
      rintro rfl d hd
      cases t with
      | nil =>
        rw [hlast rfl] at hd
        cases hd
      | cons e t =>
        cases hd
        exact ofChar?_eq_none_iff.2 ht.notMem
    have hrest : t.getLast? = some '\x7b' → r = [] := by
      intro h
      exact hlast (by rw [List.getLast?_cons, h, Option.getD_some])
    rw [List.cons_append, splitOpener_cons hstep, ih ht.tail hrest, List.cons_append]

theorem splitComment_append (h : Avoids '#' ['\x7d'] body) :
    splitComment (body ++ '#' :: '\x7d' :: r) = some (body, r) := by
  induction body with
  | nil => rfl
  | cons c body ih =>
    -- the closing mark cannot begin with the last character of the body
    have hopen : ∀ s, c = '#' → body ++ '#' :: '\x7d' :: r ≠ '\x7d' :: s := by
      rintro s rfl hs
      cases body with
      | nil => cases hs
      | cons d body =>
        cases hs
        exact h.notMem (List.mem_singleton_self _)
    rw [List.cons_append, splitComment, ih h.tail, Option.map_some]
    exact hopen

theorem dropSign_of_head? (h : ∀ c ∈ r.head?, c ∉ ['-', '+']) : dropSign r = (false, r) := by
  cases r with
  | nil => rfl
  | cons c r =>
    have hc : c ≠ '-' ∧ c ≠ '+' := by simpa using h c rfl
    rw [dropSign]
    · rintro s ⟨⟩
      exact hc.1 rfl
    · rintro s ⟨⟩
      exact hc.2 rfl

def blanks : List Nat :=
  [0x9, 0xA, 0xB, 0xC, 0xD, 0x1C, 0x1D, 0x1E, 0x1F, 0x20, 0x85, 0xA0, 0x1680, 0x2000, 0x2001,
    0x2002, 0x2003, 0x2004, 0x2005, 0x2006, 0x2007, 0x2008, 0x2009, 0x200A, 0x2028, 0x2029, 0x202F,
    0x205F, 0x3000]

theorem mem_blanks (h : isBlank c = true) : c.toNat ∈ blanks := by
  simp only [isBlank, isSpace, Bool.or_eq_true, Bool.and_eq_true, decide_eq_true_eq] at h
  simp only [blanks, List.mem_cons, List.not_mem_nil, or_false]
  omega

theorem isBlank_of_isNameChar (h : isNameChar c = true) : isBlank c = false := by
  by_contra hblank
  rw [Bool.not_eq_false] at hblank
  have hnone : ∀ n ∈ blanks, isNameChar (Char.ofNat n) = false := by decide +kernel
  have hc := hnone c.toNat (mem_blanks hblank)
  rw [Char.ofNat_toNat, h] at hc
  cases hc

theorem not_isDigit_of_isIdentifierStart (h : isIdentifierStart c = true) : isDigit c = false := by
  by_contra hdigit
  rw [Bool.not_eq_false] at hdigit
  have hascii : c.toNat < 0x80 := by
    simp only [isDigit, Bool.and_eq_true, decide_eq_true_eq, Char.le_def,
      UInt32.le_iff_toNat_le] at hdigit
    exact Nat.lt_of_le_of_lt hdigit.2 (by decide)
  rw [isIdentifierStart, if_pos hascii, hdigit] at h
  simp at h

theorem IsName.chars (h : IsName name) : name.all isNameChar := by
  refine List.all_eq_true.2 fun c hc => ?_
  have hword := (Bool.and_eq_true_iff.1 (List.all_eq_true.1 h.invariant c hc)).1
  rw [isNameChar, hword, Bool.true_or]

theorem IsName.start (h : IsName name) : ∃ c ∈ name.head?, isDigit c = false := by
  have hident := h.identifier
  obtain _ | ⟨c, rest⟩ := name
  · cases hident
  · exact ⟨c, rfl, not_isDigit_of_isIdentifierStart (Bool.and_eq_true_iff.1 hident).1⟩

theorem readPrint_append (h : IsName name) :
    readPrint size (' ' :: (name ++ ' ' :: '\x7d' :: '\x7d' :: r)) = .ok (name, r) := by
  obtain ⟨c, hc, hdigit⟩ := h.start
  obtain ⟨rest, rfl⟩ := List.head?_eq_some_iff.1 hc
  have hblank : isBlank c = false :=
    isBlank_of_isNameChar (List.all_eq_true.1 h.chars c List.mem_cons_self)
  have hbody : (' ' :: (c :: rest ++ ' ' :: '\x7d' :: '\x7d' :: r)).dropWhile isBlank =
      c :: rest ++ ' ' :: '\x7d' :: '\x7d' :: r := by
    rw [List.dropWhile_cons_of_pos (by decide), List.cons_append,
      List.dropWhile_cons_of_neg (by rw [hblank]; exact Bool.false_ne_true)]
  have hstop : StopsAt isNameChar (' ' :: '\x7d' :: '\x7d' :: r) := stopsAt_cons (by decide)
  have htail : (' ' :: '\x7d' :: '\x7d' :: r).dropWhile isBlank = '\x7d' :: '\x7d' :: r := by
    rw [List.dropWhile_cons_of_pos (by decide), List.dropWhile_cons_of_neg (by decide)]
  unfold readPrint
  simp only [hbody, takeWhile_append h.chars hstop, dropWhile_append h.chars hstop, hdigit, htail,
    h.identifier]
  rfl

theorem splitOpener_opener (ht : IsText t) (hlast : t.getLast? ≠ some '\x7b')
    (ho : Opener.ofChar? c = some o) : splitOpener (t ++ '\x7b' :: c :: r) = (t, some (o, r)) := by
  have hopen : splitOpener ('\x7b' :: c :: r) = ([], some (o, r)) := by rw [splitOpener, ho]
  rw [splitOpener_append ht fun h => absurd h hlast, hopen, List.append_nil]

theorem readPieces_print (hsplit : splitOpener cs = (t, some (.print, r)))
    (hsign : dropSign r = (false, r)) (hread : readPrint size r = .ok (name, rest)) :
    readPieces size (fuel + 1) cs = do
      let tail ← readPieces size fuel rest
      return .literal t :: .placeholder name :: tail := by
  simp only [readPieces, hsplit, hsign, hread]
  rfl

theorem readPieces_comment (hsplit : splitOpener cs = (t, some (.comment, r)))
    (hsign : dropSign r = (false, r)) (hread : splitComment r = some (body, rest))
    (hlast : body.getLast? ≠ some '-') :
    readPieces size (fuel + 1) cs = do
      let tail ← readPieces size fuel rest
      return .literal t :: .comment body :: tail := by
  simp only [readPieces, hsplit, hsign, hread, if_neg hlast]
  rfl

theorem readPieces_append (ht : IsText t) (hlast : t.getLast? ≠ some '\x7b') (hp : p.IsTag) :
    readPieces size (fuel + 1) (t ++ (p.source ++ r)) = do
      let tail ← readPieces size fuel r
      return .literal t :: p :: tail := by
  cases hp with
  | @placeholder name hname =>
    have hsource : (Piece.placeholder name).source ++ r =
        '\x7b' :: '\x7b' :: ' ' :: (name ++ ' ' :: '\x7d' :: '\x7d' :: r) := by
      simp [Piece.source]
    rw [hsource]
    exact readPieces_print (splitOpener_opener ht hlast rfl) rfl (readPrint_append hname)
  | @comment body hbody =>
    have hsource : (Piece.comment body).source ++ r =
        '\x7b' :: '#' :: (body ++ '#' :: '\x7d' :: r) := by
      simp [Piece.source]
    have hsign : ∀ c ∈ (body ++ '#' :: '\x7d' :: r).head?, c ∉ ['-', '+'] := by
      cases body with
      | nil =>
        rintro c ⟨⟩
        decide
      | cons d body => exact hbody.first
    have hend : body.getLast? ≠ some '-' := by
      intro h
      exact hbody.last '-' h List.mem_cons_self
    rw [hsource]
    exact readPieces_comment (splitOpener_opener ht hlast rfl) (dropSign_of_head? hsign)
      (splitComment_append hbody.inside) hend

theorem readPieces_of_isText (ht : IsText t) :
    readPieces size (fuel + 1) t = .ok [.literal t] := by
  have hsplit := splitOpener_append (r := []) ht fun _ => rfl
  rw [List.append_nil] at hsplit
  rw [readPieces, hsplit]
  simp [splitOpener]

def core (ps : List Piece) : List Piece :=
  ps.filter (· ≠ .literal [])

theorem length_source_pos (hp : p.IsTag) : 0 < p.source.length := by
  cases hp <;> exact Nat.succ_pos _

theorem core_empty (ps : List Piece) : core (.literal [] :: ps) = core ps := rfl

theorem core_congr (p : Piece) (h : core qs = core ps) : core (p :: qs) = core (p :: ps) := by
  rw [core, core] at h
  rw [core, core, List.filter_cons, List.filter_cons, h]

theorem readPieces_tag (ht : IsText t) (hlast : t.getLast? ≠ some '\x7b') (hp : p.IsTag)
    (hps : ∀ {fuel}, (source ps).length < fuel →
      ∃ qs, readPieces size fuel (source ps) = .ok qs ∧ core qs = core ps)
    (hfuel : (t ++ (p.source ++ source ps)).length < fuel) :
    ∃ qs, readPieces size fuel (t ++ (p.source ++ source ps)) = .ok (.literal t :: p :: qs) ∧
      core qs = core ps := by
  obtain ⟨fuel, rfl⟩ := Nat.exists_eq_succ_of_ne_zero (Nat.ne_zero_of_lt hfuel)
  have hpos := length_source_pos hp
  rw [List.length_append, List.length_append] at hfuel
  obtain ⟨qs, hread, hcore⟩ := hps (by omega : (source ps).length < fuel)
  refine ⟨qs, ?_, hcore⟩
  rw [readPieces_append ht hlast hp, hread]
  rfl

theorem readPieces_source (h : WellFormed ps) (hfuel : (source ps).length < fuel) :
    ∃ qs, readPieces size fuel (source ps) = .ok qs ∧ core qs = core ps := by
  have hempty : IsText [] := by
    intro c _ hinside
    cases List.infix_nil.1 hinside
  induction h generalizing fuel with
  | nil =>
    obtain ⟨fuel, rfl⟩ := Nat.exists_eq_succ_of_ne_zero (Nat.ne_zero_of_lt hfuel)
    exact ⟨_, readPieces_of_isText hempty, rfl⟩
  | @text t ht =>
    obtain ⟨fuel, rfl⟩ := Nat.exists_eq_succ_of_ne_zero (Nat.ne_zero_of_lt hfuel)
    refine ⟨_, ?_, rfl⟩
    rw [source, List.flatMap_singleton]
    exact readPieces_of_isText ht
  | @tag p ps hp _ ih =>
    obtain ⟨qs, hread, hcore⟩ := readPieces_tag hempty (by simp) hp (@ih) hfuel
    exact ⟨_, hread, (core_empty _).trans (core_congr p hcore)⟩
  | @textTag t p ps ht hlast hp _ ih =>
    obtain ⟨qs, hread, hcore⟩ := readPieces_tag ht hlast hp (@ih) hfuel
    exact ⟨_, hread, core_congr _ (core_congr p hcore)⟩

/-! Line ends -/

theorem IsText.unified (h : IsText t) : IsText (unifyLines t) :=
  Avoids.unifyLines h (by decide) (by decide)

theorem IsText.chop (h : IsText t) : IsText (chop t) := by
  unfold Template.chop
  split
  · exact Avoids.dropLast h
  · exact h

theorem IsBody.unified (h : IsBody body) : IsBody (unifyLines body) where
  inside := h.inside.unifyLines (by decide) (by decide)
  first := by
    intro c hc
    rw [Option.mem_def, head?_unifyLines, Option.map_eq_some_iff] at hc
    obtain ⟨d, hd, rfl⟩ := hc
    exact unifyChar_notMem (by decide) (h.first d hd)
  last := by
    intro c hc
    rw [Option.mem_def, getLast?_unifyLines, Option.map_eq_some_iff] at hc
    obtain ⟨d, hd, rfl⟩ := hc
    exact unifyChar_notMem (by decide) (h.last d hd)

theorem Piece.IsTag.unified (h : p.IsTag) : p.unified.IsTag := by
  cases h with
  | placeholder hname => exact .placeholder hname
  | comment hbody => exact .comment hbody.unified

theorem getLast?_unified (h : t.getLast? ≠ some '\x7b') :
    (unifyLines t).getLast? ≠ some '\x7b' := by
  intro hlast
  rw [getLast?_unifyLines, Option.map_eq_some_iff] at hlast
  obtain ⟨c, hc, hbrace⟩ := hlast
  rw [eq_of_unifyChar hbrace (by decide)] at hc
  exact h hc

theorem WellFormed.unified (h : WellFormed ps) : WellFormed (ps.map Piece.unified) := by
  induction h with
  | nil => exact .nil
  | text ht => exact .text ht.unified
  | tag hp _ ih => exact .tag hp.unified ih
  | textTag ht hlast hp _ ih => exact .textTag ht.unified (getLast?_unified hlast) hp.unified ih

theorem chopLast_cons (hp : p.IsTag) (ps : List Piece) : chopLast (p :: ps) = p :: chopLast ps := by
  cases hp with
  | placeholder => rw [chopLast]; simp
  | comment => rw [chopLast]; simp

theorem chopLast_literal (t : List Char) (p : Piece) (ps : List Piece) :
    chopLast (.literal t :: p :: ps) = .literal t :: chopLast (p :: ps) := rfl

theorem WellFormed.chopLast (h : WellFormed ps) : WellFormed (chopLast ps) := by
  induction h with
  | nil => exact .nil
  | text ht => exact .text ht.chop
  | tag hp _ ih =>
    rw [chopLast_cons hp]
    exact .tag hp ih
  | textTag ht hlast hp _ ih =>
    rw [chopLast_literal, chopLast_cons hp]
    exact .textTag ht hlast hp ih

theorem WellFormed.settled (h : WellFormed ps) : WellFormed (settled ps) :=
  h.unified.chopLast

theorem getLast?_source (hp : p.IsTag) : p.source.getLast? = some '\x7d' := by
  cases hp with
  | placeholder hname => simp [Piece.source, List.getLast?_cons]
  | comment hbody => simp [Piece.source, List.getLast?_cons]

theorem head?_source (hp : p.IsTag) (r : List Char) : (p.source ++ r).head? = some '\x7b' := by
  cases hp with
  | placeholder hname => rfl
  | comment hbody => rfl

theorem unifyLines_source_tag (hp : p.IsTag) : unifyLines p.source = p.unified.source := by
  cases hp with
  | @placeholder name hname =>
    refine unifyLines_of_notMem fun hmem => ?_
    have hreturn : '\r' ∈ name := by simpa [Piece.source] using hmem
    have hchar := List.all_eq_true.1 hname.chars _ hreturn
    exact absurd hchar (by decide)
  | @comment body hbody =>
    have hend : unifyLines (body ++ ['#', '\x7d']) = unifyLines body ++ ['#', '\x7d'] := by
      rw [unifyLines_append fun _ => by decide]
      rfl
    rw [Piece.source, unifyLines_cons (by decide), unifyLines_cons (by decide), hend]
    rfl

theorem unifyLines_tag (hp : p.IsTag) (cs : List Char) :
    unifyLines (p.source ++ cs) = p.unified.source ++ unifyLines cs := by
  rw [unifyLines_append, unifyLines_source_tag hp]
  intro h
  rw [getLast?_source hp] at h
  cases h

theorem unifyLines_source (h : WellFormed ps) :
    unifyLines (source ps) = source (ps.map Piece.unified) := by
  induction h with
  | nil => rfl
  | text ht => simp [source, Piece.source, Piece.unified]
  | tag hp _ ih => rw [source_cons, unifyLines_tag hp, ih, List.map_cons, source_cons]
  | @textTag t p ps ht _ hp _ ih =>
    have hcut : t.getLast? = some '\r' → (p.source ++ source ps).head? ≠ some '\n' := by
      intro _ hhead
      rw [head?_source hp] at hhead
      cases hhead
    rw [source_cons, source_cons, Piece.source, unifyLines_append hcut, unifyLines_tag hp, ih]
    rfl

theorem chop_append (h : cs.getLast? ≠ some '\n') (r : List Char) :
    chop (cs ++ r) = cs ++ chop r := by
  cases r with
  | nil =>
    have hchop : chop cs = cs := if_neg h
    rw [List.append_nil, hchop]
    exact (List.append_nil cs).symm
  | cons c r =>
    have hlast : (cs ++ c :: r).getLast? = (c :: r).getLast? := by simp [List.getLast?_cons]
    have hdrop : (cs ++ c :: r).dropLast = cs ++ (c :: r).dropLast :=
      List.dropLast_append_of_ne_nil (by simp)
    rw [chop, chop, hlast, hdrop, apply_ite (cs ++ ·)]

theorem chop_tag (hp : p.IsTag) (r : List Char) : chop (p.source ++ r) = p.source ++ chop r := by
  apply chop_append
  rw [getLast?_source hp]
  decide

theorem chop_source (h : WellFormed ps) : chop (source ps) = source (chopLast ps) := by
  induction h with
  | nil => rfl
  | text ht => simp [source, Piece.source, chopLast]
  | tag hp _ ih => rw [source_cons, chop_tag hp, ih, chopLast_cons hp, source_cons]
  | @textTag t p ps ht _ hp _ ih =>
    have hlast : (t ++ p.source).getLast? ≠ some '\n' := by
      rw [List.getLast?_append, getLast?_source hp, Option.some_or]
      decide
    rw [source_cons, source_cons, ← List.append_assoc, Piece.source, chop_append hlast, ih,
      chopLast_literal, chopLast_cons hp, source_cons, source_cons, List.append_assoc]
    rfl

theorem read_source (h : WellFormed ps) :
    ∃ qs, read (source ps) = .ok qs ∧ core qs = core (settled ps) := by
  have hnormal : normalize (source ps) = source (settled ps) := by
    rw [normalize_eq, unifyLines_source h, chop_source h.unified, settled]
  rw [read, hnormal]
  exact readPieces_source h.settled (Nat.lt_succ_self _)

end EnvoySidecar.Template
