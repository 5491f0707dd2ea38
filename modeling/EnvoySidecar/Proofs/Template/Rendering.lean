import Mathlib.Algebra.Group.Nat.Defs
import EnvoySidecar.Proofs.Sidecar.Container
import EnvoySidecar.Proofs.Template.Source

/-! What a well-formed template is filled in with. Its pieces are looked at once, from the first to
the last, and the first one that has no text decides. A value is not looked at again. -/

namespace EnvoySidecar.Template

open Text

namespace Datum

def str : Datum → List Char
  | text s => s.toList
  | integer n => (toString n).toList
  | flag true => "True".toList
  | flag false => "False".toList
  | nothing => "None".toList

def Writable : Datum → Prop
  | integer n => n.natAbs < 10 ^ digitLimit
  | _ => True

instance : (d : Datum) → Decidable d.Writable
  | integer n => inferInstanceAs (Decidable (n.natAbs < 10 ^ digitLimit))
  | text _ | flag _ | nothing => inferInstanceAs (Decidable True)

theorem integerText_eq (n : Int) : integerText n = (toString n).toList := by
  cases n with
  | ofNat m =>
    have hsign : ¬Int.ofNat m < 0 := by simp
    rw [integerText, if_neg hsign]
    exact (String.toList_ofList (l := digits m)).symm
  | negSucc m =>
    have htext : toString (Int.negSucc m) = "-" ++ String.ofList (digits (m + 1)) := rfl
    have hdigits : (String.ofList (digits (m + 1))).toList = digits (m + 1) :=
      String.toList_ofList
    rw [integerText, if_pos (Int.negSucc_lt_zero m), htext, String.toList_append, hdigits]
    rfl

theorem render_eq (d : Datum) :
    d.render = if d.Writable then .ok d.str else .error .longInteger := by
  cases d with
  | integer n =>
    have hdigits : (digits n.natAbs).length ≤ digitLimit ↔ (integer n).Writable :=
      Nat.length_toDigits_le_iff (by decide) (by decide)
    by_cases h : (integer n).Writable
    · rw [if_pos h, render, integerText?, if_pos (hdigits.2 h)]
      simp only [String.toList_ofList, integerText_eq, str]
    · rw [if_neg h, render, integerText?, if_neg fun hlong => h (hdigits.1 hlong)]
  | flag b => cases b <;> rfl
  | text s => rfl
  | nothing => rfl

end Datum

namespace Piece

def fault? (context : Context) : Piece → Option Fault
  | placeholder name =>
    match context.lookup (String.ofList name) with
    | some d => if d.Writable then none else some .longInteger
    | none => some (.undefined (String.ofList name))
  | _ => none

def shown (context : Context) : Piece → List Char
  | literal text => text
  | placeholder name => ((context.lookup (String.ofList name)).map Datum.str).getD []
  | comment _ => []

end Piece

def firstFault? (context : Context) (ps : List Piece) : Option Fault :=
  ps.findSome? (Piece.fault? context)

/-- The context has a value under this name, and the value has a text. -/
def Filled (context : Context) (name : List Char) : Prop :=
  ∃ d, context.lookup (String.ofList name) = some d ∧ d.Writable

variable {name : List Char} {p : Piece} {ps qs : List Piece} {context : Context} {d : Datum}

/-! Filling in -/

theorem firstFault?_cons (context : Context) (p : Piece) (ps : List Piece) :
    firstFault? context (p :: ps) = (p.fault? context).or (firstFault? context ps) := by
  rw [firstFault?, List.findSome?_cons]
  cases p.fault? context with
  | some fault => rfl
  | none => rfl

theorem constant?_of_isName (h : IsName name) : constant? (String.ofList name) = none := by
  have hdigits : name.all isDigit = false := by
    obtain ⟨c, hc, hdigit⟩ := h.start
    obtain ⟨rest, rfl⟩ := List.head?_eq_some_iff.1 hc
    rw [List.all_cons, hdigit, Bool.false_and]
  have hfree := h.free
  unfold constant?
  split
  case h_7 => simp [hdigits]
  all_goals
    next heq =>
      rw [heq] at hfree
      exact absurd (by decide) hfree

theorem lookup_eq_find? (context : Context) (key : String) :
    context.lookup key = (context.find? fun e => e.1 == key).map Prod.snd := by
  induction context with
  | nil => rfl
  | cons e rest ih =>
    obtain ⟨k, d⟩ := e
    by_cases hk : k = key
    · subst hk
      rw [List.lookup_cons_self, List.find?_cons_of_pos (by simp), Option.map_some]
    · have hne : (key == k) = false := beq_false_of_ne (Ne.symm hk)
      rw [List.lookup_cons, hne, ih, List.find?_cons_of_neg (by simpa using hk)]

theorem lookup_of_isName (h : IsName name) (context : Context) :
    lookup context (String.ofList name) =
      match context.lookup (String.ofList name) with
      | some d => .ok d
      | none => .error (.undefined (String.ofList name)) := by
  rw [lookup, constant?_of_isName h, lookup_eq_find?]
  cases context.find? fun e => e.1 == String.ofList name with
  | none => rfl
  | some e => rfl

theorem fill_piece (h : ∀ name, p = .placeholder name → IsName name) :
    p.fill context = match p.fault? context with
      | some fault => .error fault
      | none => .ok (p.shown context) := by
  cases p with
  | literal t => rfl
  | comment body => rfl
  | placeholder name =>
    rw [Piece.fill, lookup_of_isName (h name rfl), Piece.fault?, Piece.shown]
    cases context.lookup (String.ofList name) with
    | none => rfl
    | some d =>
      change d.render = _
      rw [Datum.render_eq]
      by_cases hd : d.Writable
      · simp only [if_pos hd]
        rfl
      · simp only [if_neg hd]

theorem fill_cons (context : Context) (p : Piece) (ps : List Piece) :
    fill context (p :: ps) = do
      let text ← p.fill context
      let texts ← fill context ps
      return text ++ texts := by
  rw [fill, fill, List.mapM_cons]
  cases p.fill context with
  | error fault => rfl
  | ok text =>
    cases ps.mapM (Piece.fill context) with
    | error fault => rfl
    | ok texts => rfl

theorem fill_core (context : Context) (ps : List Piece) :
    fill context (core ps) = fill context ps := by
  induction ps with
  | nil => rfl
  | cons p ps ih =>
    by_cases hp : p = .literal []
    · subst hp
      rw [core_empty, ih, fill_cons]
      cases fill context ps <;> rfl
    · have hcore : core (p :: ps) = p :: core ps := List.filter_cons_of_pos (by simpa using hp)
      rw [hcore, fill_cons, ih, fill_cons]

theorem fill_eq (h : ∀ name, .placeholder name ∈ ps → IsName name) :
    fill context ps = match firstFault? context ps with
      | some fault => .error fault
      | none => .ok (ps.flatMap (Piece.shown context)) := by
  induction ps with
  | nil => rfl
  | cons p ps ih =>
    have hp : ∀ name, p = .placeholder name → IsName name := by
      rintro name rfl
      exact h name List.mem_cons_self
    have htail := ih fun name hname => h name (List.mem_cons_of_mem p hname)
    rw [fill_cons, fill_piece hp, htail, firstFault?_cons, List.flatMap_cons]
    cases p.fault? context with
    | some fault => rfl
    | none =>
      cases firstFault? context ps with
      | some fault => rfl
      | none => rfl

theorem firstFault?_settled (context : Context) (ps : List Piece) :
    firstFault? context (settled ps) = firstFault? context ps := by
  have hunified : firstFault? context (ps.map Piece.unified) = firstFault? context ps := by
    rw [firstFault?, List.findSome?_map]
    congr 1
    funext p
    cases p <;> rfl
  have hchop : ∀ qs, firstFault? context (chopLast qs) = firstFault? context qs := by
    intro qs
    induction qs using chopLast.induct with
    | case1 => rfl
    | case2 t => rfl
    | case3 p qs hp ih =>
      rw [chopLast, firstFault?_cons, firstFault?_cons, ih]
      exact hp
  rw [settled, hchop, hunified]

theorem render_source (h : WellFormed ps) (context : Context) :
    render (String.ofList (source ps)) context = match firstFault? context ps with
      | some fault => .error fault
      | none => .ok (String.ofList ((settled ps).flatMap (Piece.shown context))) := by
  obtain ⟨qs, hread, hcore⟩ := read_source h
  -- empty literals, the only pieces that reading may add, are filled in with nothing
  have hfill : fill context qs = fill context (settled ps) := by
    rw [← fill_core, hcore, fill_core]
  rw [render, String.toList_ofList, hread]
  change (do return String.ofList (← fill context qs)) = _
  rw [hfill, fill_eq h.settled.isName, firstFault?_settled]
  cases firstFault? context ps with
  | some fault => rfl
  | none => rfl

/-! The first fault -/

theorem fault?_eq_none_iff :
    (Piece.placeholder name).fault? context = none ↔ Filled context name := by
  rw [Piece.fault?, Filled]
  cases context.lookup (String.ofList name) with
  | none => simp
  | some d => simp

theorem firstFault?_eq_none_iff :
    firstFault? context ps = none ↔ ∀ name, .placeholder name ∈ ps → Filled context name := by
  rw [firstFault?, List.findSome?_eq_none_iff]
  constructor
  · intro h name hname
    exact fault?_eq_none_iff.1 (h _ hname)
  · intro h p hp
    cases p with
    | placeholder name => exact fault?_eq_none_iff.2 (h name hp)
    | literal t => rfl
    | comment body => rfl

theorem exists_of_firstFault? {fault : Fault} (h : firstFault? context ps = some fault) :
    ∃ name, .placeholder name ∈ ps ∧ (Piece.placeholder name).fault? context = some fault := by
  obtain ⟨p, hp, hfault⟩ := List.exists_of_findSome?_eq_some h
  cases p with
  | placeholder name => exact ⟨name, hp, hfault⟩
  | literal t => cases hfault
  | comment body => cases hfault

theorem firstFault?_split {before : List Piece}
    (h : ∀ other, .placeholder other ∈ before → Filled context other) (p : Piece)
    (after : List Piece) :
    firstFault? context (before ++ p :: after) =
      (p.fault? context).or (firstFault? context after) := by
  have hbefore : before.findSome? (Piece.fault? context) = none := firstFault?_eq_none_iff.2 h
  rw [firstFault?, List.findSome?_append, hbefore, Option.none_or, ← firstFault?, firstFault?_cons]

theorem lookup_eq_none_iff {key : String} :
    context.lookup key = none ↔ key ∉ context.map Prod.fst := by
  simp only [List.lookup_eq_none_iff, bne_iff_ne, List.mem_map, not_exists, not_and, ne_eq]
  constructor
  · intro h e he heq
    exact h e he heq.symm
  · intro h e he heq
    exact h e he heq.symm

theorem exists_value {key : String} (h : key ∈ context.map Prod.fst) :
    ∃ d, context.lookup key = some d :=
  Option.ne_none_iff_exists'.1 fun hnone => lookup_eq_none_iff.1 hnone h

theorem fault?_of_missing (h : String.ofList name ∉ context.map Prod.fst) :
    (Piece.placeholder name).fault? context = some (.undefined (String.ofList name)) := by
  rw [Piece.fault?, lookup_eq_none_iff.2 h]

theorem fault?_of_long (h : context.lookup (String.ofList name) = some d) (hd : ¬d.Writable) :
    (Piece.placeholder name).fault? context = some .longInteger := by
  simp only [Piece.fault?, h, if_neg hd]

/-! The record of a fault -/

theorem noting_of_none (h : WellFormed ps) (hnone : firstFault? context ps = none) :
    Sidecar.noteTemplate (render (String.ofList (source ps)) context) =
      ⟨[], .ok (String.ofList ((settled ps).flatMap (Piece.shown context)))⟩ := by
  rw [render_source h, hnone]
  rfl

theorem noting_of_some {fault : Fault} (h : WellFormed ps)
    (hfault : firstFault? context ps = some fault) :
    Sidecar.noteTemplate (render (String.ofList (source ps)) context) =
      Sidecar.noteTemplate (.error fault) := by
  rw [render_source h, hfault]

theorem noteTemplate_undefined (name : String) :
    (Sidecar.noteTemplate (.error (.undefined name)) : Run String) =
      ⟨[.templateFailed (.undefined name)], .error (.template (.undefined name))⟩ := rfl

theorem record_undefined (name : String) :
    (Log.Notice.templateFailed (.undefined name)).record = ⟨.error, "meshsidecar.utils.templates",
      "Template rendering error: '" ++ name ++ "' is undefined"⟩ := by
  have htext : (Log.Notice.templateFailed (.undefined name)).text =
      "Template rendering error: " ++ ("'" ++ name ++ "' is undefined") := rfl
  have hstart : "Template rendering error: '" = "Template rendering error: " ++ "'" := by decide
  rw [Log.Notice.record, htext, hstart, String.append_assoc, String.append_assoc,
    String.append_assoc]
  rfl

section Writable

variable (hwritable : ∀ name d, .placeholder name ∈ ps →
  context.lookup (String.ofList name) = some d → d.Writable)

include hwritable

theorem exists_missing {fault : Fault} (hfault : firstFault? context ps = some fault) :
    ∃ name, .placeholder name ∈ ps ∧ String.ofList name ∉ context.map Prod.fst ∧
      fault = .undefined (String.ofList name) := by
  obtain ⟨name, hname, hpiece⟩ := exists_of_firstFault? hfault
  by_cases hmem : String.ofList name ∈ context.map Prod.fst
  · obtain ⟨d, hd⟩ := exists_value hmem
    rw [fault?_eq_none_iff.2 ⟨d, hd, hwritable name d hname hd⟩] at hpiece
    cases hpiece
  · rw [fault?_of_missing hmem] at hpiece
    cases hpiece
    exact ⟨name, hname, hmem, rfl⟩

theorem firstFault?_of_present
    (hall : ∀ name, .placeholder name ∈ ps → String.ofList name ∈ context.map Prod.fst) :
    firstFault? context ps = none := by
  rw [firstFault?_eq_none_iff]
  intro name hname
  obtain ⟨d, hd⟩ := exists_value (hall name hname)
  exact ⟨d, hd, hwritable name d hname hd⟩

theorem noting_undefined_iff (h : WellFormed ps) :
    (∃ name,
      (Sidecar.noteTemplate (render (String.ofList (source ps)) context)).result =
        .error (.template (.undefined name)) ∧
      (Sidecar.noteTemplate (render (String.ofList (source ps)) context)).notices.map
        Log.Notice.record = [⟨.error, "meshsidecar.utils.templates",
          "Template rendering error: '" ++ name ++ "' is undefined"⟩]) ↔
      ∃ name, .placeholder name ∈ ps ∧ String.ofList name ∉ context.map Prod.fst := by
  constructor
  · rintro ⟨name, hresult, -⟩
    cases hfault : firstFault? context ps with
    | none =>
      rw [noting_of_none h hfault] at hresult
      cases hresult
    | some fault =>
      obtain ⟨other, hother, hmissing, -⟩ := exists_missing hwritable hfault
      exact ⟨other, hother, hmissing⟩
  · rintro ⟨name, hname, hmissing⟩
    cases hfault : firstFault? context ps with
    | none =>
      obtain ⟨d, hd, -⟩ := firstFault?_eq_none_iff.1 hfault name hname
      rw [lookup_eq_none_iff.2 hmissing] at hd
      cases hd
    | some fault =>
      obtain ⟨other, -, -, rfl⟩ := exists_missing hwritable hfault
      rw [noting_of_some h hfault]
      refine ⟨String.ofList other, rfl, ?_⟩
      rw [noteTemplate_undefined, List.map_singleton, record_undefined]

end Writable

theorem noting_of_first {before after : List Piece}
    (h : WellFormed (before ++ .placeholder name :: after))
    (hbefore : ∀ other, .placeholder other ∈ before → Filled context other) {fault : Fault}
    (hfault : (Piece.placeholder name).fault? context = some fault) :
    Sidecar.noteTemplate (render (String.ofList (source (before ++ .placeholder name :: after)))
      context) = Sidecar.noteTemplate (.error fault) := by
  apply noting_of_some h
  rw [firstFault?_split hbefore, hfault, Option.some_or]

/-- A well-formed template is filled in by looking once at each of its pieces. As long as all values
can be written, it fails exactly if a name is missing, with one record of it, and comes to the
literals and the values otherwise. In any case the first placeholder without a text decides, and an
integer that cannot be written leaves no record. The command before a container's stop has
the delay in it as it is. -/
theorem rendering_answers (h : WellFormed ps) (context : Context) :
    let run := Sidecar.noteTemplate (render (String.ofList (source ps)) context)
    ((∀ name d, .placeholder name ∈ ps → context.lookup (String.ofList name) = some d →
        d.Writable) →
      ((∃ name, run.result = .error (.template (.undefined name)) ∧
          run.notices.map Log.Notice.record = [⟨.error, "meshsidecar.utils.templates",
            "Template rendering error: '" ++ name ++ "' is undefined"⟩]) ↔
        ∃ name, .placeholder name ∈ ps ∧ String.ofList name ∉ context.map Prod.fst) ∧
      ((∀ name, .placeholder name ∈ ps → String.ofList name ∈ context.map Prod.fst) →
        run = ⟨[], .ok (String.ofList ((settled ps).flatMap (Piece.shown context)))⟩)) ∧
    (∀ before name after, ps = before ++ .placeholder name :: after →
      (∀ other, .placeholder other ∈ before → Filled context other) →
      (String.ofList name ∉ context.map Prod.fst →
        run = ⟨[.templateFailed (.undefined (String.ofList name))],
          .error (.template (.undefined (String.ofList name)))⟩) ∧
      ∀ d, context.lookup (String.ofList name) = some d → ¬d.Writable →
        run = ⟨[], .error (.template .longInteger)⟩) ∧
    ∀ c s k, (Sidecar.build c s).run.result = .ok k ∨ (Sidecar.render c s).run.result = .ok k →
      k.preStop = some ["sh", "-c", "sleep " ++ c.preStopDelay] := by
  refine ⟨fun hwritable => ⟨noting_undefined_iff hwritable h, fun hall => ?shown⟩, ?first, ?stop⟩
  case shown => exact noting_of_none h (firstFault?_of_present hwritable hall)
  case first =>
    rintro before name after rfl hbefore
    refine ⟨fun hmissing => ?_, fun d hd hlong => ?_⟩
    · exact noting_of_first h hbefore (fault?_of_missing hmissing)
    · exact noting_of_first h hbefore (fault?_of_long hd hlong)
  case stop =>
    rintro c s k (hk | hk)
    · obtain ⟨env, -, rfl⟩ := Sidecar.build_eq_ok_iff.1 hk
      rfl
    · obtain ⟨r, env, -, -, rfl⟩ := Sidecar.render_eq_ok_iff.1 hk
      rfl

theorem rendering_answers_braces :
    let ps : List Piece := [.literal ['a', '\r', '\n', '\x7b', ' '], .placeholder ['x'],
      .comment ['\x7b', '\x7b', '\r'], .literal [';'], .placeholder ['y'], .literal ['\r', '\n']]
    let context : Context :=
      [("x", .text "\x7b\x7b y \x7d\x7d\x7b##\x7d\r\n"), ("y", .integer (-5))]
    WellFormed ps ∧
      String.ofList (source ps) =
        "a\r\n\x7b \x7b\x7b x \x7d\x7d\x7b#\x7b\x7b\r#\x7d;\x7b\x7b y \x7d\x7d\r\n" ∧
      Sidecar.noteTemplate (render (String.ofList (source ps)) context) =
        ⟨[], .ok "a\n\x7b \x7b\x7b y \x7d\x7d\x7b##\x7d\r\n;-5"⟩ ∧
      Sidecar.noteTemplate (render (String.ofList (source ps)) [("x", .nothing)]) =
        ⟨[.templateFailed (.undefined "y")], .error (.template (.undefined "y"))⟩ := by
  intro ps context
  have hx : IsName ['x'] := ⟨by decide, by decide, by decide⟩
  have hy : IsName ['y'] := ⟨by decide, by decide, by decide⟩
  have hbody : IsBody ['\x7b', '\x7b', '\r'] := by
    refine ⟨by decide, ?_, ?_⟩
    · rintro c ⟨⟩
      decide
    · rintro c ⟨⟩
      decide
  have hps : WellFormed ps :=
    .textTag (by decide) (by decide) (.placeholder hx)
      (.tag (.comment hbody)
        (.textTag (by decide) (by decide) (.placeholder hy) (.text (by decide))))
  have hnames : ∀ name, .placeholder name ∈ ps → name = ['x'] ∨ name = ['y'] := by
    intro name hmem
    simpa [ps] using hmem
  refine ⟨hps, by decide +kernel, ?_, ?_⟩
  · have hsmall : (Datum.integer (-5)).Writable :=
      Nat.lt_of_lt_of_le (by decide : 5 < 10 ^ 1) (Nat.pow_le_pow_right (by decide) (by decide))
    have hwritable : ∀ name d, .placeholder name ∈ ps →
        context.lookup (String.ofList name) = some d → d.Writable := by
      intro name d hmem hd
      rcases hnames name hmem with rfl | rfl
      · cases hd
        exact trivial
      · cases hd
        exact hsmall
    have hshown := ((rendering_answers hps context).1 hwritable).2 fun name hmem => by
      rcases hnames name hmem with rfl | rfl <;> decide
    have htext : String.ofList ((settled ps).flatMap (Piece.shown context)) =
        "a\n\x7b \x7b\x7b y \x7d\x7d\x7b##\x7d\r\n;-5" := by decide +kernel
    rw [hshown, htext]
  · have hbefore : ∀ other, .placeholder other ∈ ps.take 4 →
        Filled [("x", .nothing)] other := by
      intro other hmem
      have hother : other = ['x'] := by simpa [ps] using hmem
      subst hother
      exact ⟨.nothing, rfl, trivial⟩
    exact ((rendering_answers hps [("x", .nothing)]).2.1 (ps.take 4) ['y'] (ps.drop 5) rfl
      hbefore).1 (by decide)

end EnvoySidecar.Template
