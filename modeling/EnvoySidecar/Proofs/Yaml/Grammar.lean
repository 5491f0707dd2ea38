import EnvoySidecar.Yaml.Grammar

/-! What the grammar blames: every fault of its own is one of form, but for a version that it does
not know, and the faults that it hands on are written among the tokens. -/

namespace EnvoySidecar.Yaml

namespace Grammar

inductive Blames (ts : List Token) : Fault → Prop
  | form (reason : String) : Blames ts (.malformed reason)
  | text {f : Fault} : .fault f ∈ ts → Blames ts f
  | version {minor : Nat} : .directive (.version 1 minor) ∈ ts → minor ≠ 1 → minor ≠ 2 →
      Blames ts (.unknownVersion 1 minor)

def Traced {α : Type} (ts : List Token) (x : Parse α) : Prop :=
  ∀ r : Rest, r.tokens ⊆ ts →
    match x.run r with
    | .ok (_, r') => r'.tokens ⊆ ts
    | .error f => Blames ts f

namespace Traced

variable {α β : Type} {ts : List Token}

protected theorem pure (a : α) : Traced ts (pure a) :=
  fun _ hr => hr

protected theorem throw {f : Fault} (h : Blames ts f) : Traced ts (throw f : Parse α) :=
  fun _ _ => h

protected theorem bind {x : Parse α} {f : α → Parse β} (hx : Traced ts x)
    (hf : ∀ a, Traced ts (f a)) : Traced ts (x >>= f) := by
  intro r hr
  have hrun := hx r hr
  rw [StateT.run_bind]
  cases h : x.run r with
  | error e => rwa [h] at hrun
  | ok p =>
    rw [h] at hrun
    exact hf p.1 p.2 hrun

protected theorem ite {c : Prop} [Decidable c] {x y : Parse α} (hx : Traced ts x)
    (hy : Traced ts y) : Traced ts (if c then x else y) := by
  split
  · exact hx
  · exact hy

protected theorem choice {c : Prop} [Decidable c] {x y : Parse α} {f : α → Parse β}
    (hx : Traced ts x) (hy : Traced ts y) (hf : ∀ a, Traced ts (f a)) :
    Traced ts (if c then x >>= f else y >>= f) :=
  .ite (hx.bind hf) (hy.bind hf)

protected theorem check {c : Prop} [Decidable c] {e : Fault} {f : Unit → Parse β}
    (he : Blames ts e) (hf : ¬c → Traced ts (f ())) :
    Traced ts (if c then throw e >>= f else f ()) := by
  split
  · exact fun _ _ => he
  · next hc => exact hf hc

theorem peek_bind {f : Token → Parse β} (h : ∀ t, t ∈ ts ∨ t = .finish → Traced ts (f t)) :
    Traced ts (peek >>= f) := by
  intro r hr
  have hnext : r.tokens.headD .finish ∈ ts ∨ r.tokens.headD .finish = .finish := by
    cases htokens : r.tokens with
    | nil => exact .inr rfl
    | cons t rest =>
      rw [htokens] at hr
      exact .inl (hr List.mem_cons_self)
  exact h _ hnext r hr

theorem refuse {t : Token} (ht : t ∈ ts ∨ t = .finish) : Traced ts (refuse t : Parse α) := by
  refine Traced.throw ?_
  cases t with
  | fault f =>
    rcases ht with ht | ht
    · exact .text ht
    · cases ht
  | _ => exact .form _

theorem peek_refuse : Traced ts (peek >>= Grammar.refuse : Parse α) :=
  peek_bind fun _ ht => refuse ht

theorem skip : Traced ts skip :=
  fun _ hr _ h => hr (List.mem_of_mem_drop h)

theorem take? (t : Token) : Traced ts (take? t) :=
  peek_bind fun _ _ => .ite (skip.bind fun _ => .pure _) (.pure _)

theorem expect (t : Token) : Traced ts (expect t) :=
  (take? t).bind fun _ => .ite peek_refuse (.pure _)

theorem comesOneOf (others : List Token) : Traced ts (comesOneOf others) :=
  peek_bind fun _ _ => .pure _

theorem get_bind {f : Rest → Parse β} (h : ∀ r, Traced ts (f r)) : Traced ts (get >>= f) :=
  fun r hr => h r r hr

theorem resolve (name : String) : Traced ts (resolve name) := by
  refine get_bind fun r => ?_
  split
  · exact .pure _
  · exact .throw (.form _)

theorem named (name : String) (n : Node) : Traced ts (Grammar.bind name n) :=
  fun _ hr => hr

theorem rebind (count : Nat) (name : String) (n : Node) : Traced ts (rebind count name n) :=
  fun _ hr => hr

theorem expand (h : Head) (handle : Option String) (suffix : String) :
    Traced ts (h.expand handle suffix) := by
  unfold Head.expand
  split
  · exact .pure _
  · split
    · exact .pure _
    · exact .throw (.form _)

theorem tag? (h : Head) : Traced ts (tag? h) := by
  refine peek_bind fun t _ => ?_
  split
  · exact skip.bind fun _ => (expand h _ _).bind fun _ => .pure _
  · exact .pure _

theorem anchor? : Traced ts anchor? := by
  refine peek_bind fun t _ => ?_
  split
  · exact skip.bind fun _ => .pure _
  · exact .pure _

theorem properties (h : Head) : Traced ts (properties h) := by
  refine anchor?.bind fun name => ?_
  split
  · exact (tag? h).bind fun _ => .pure _
  · refine (tag? h).bind fun tag => ?_
    split
    · exact anchor?.bind fun _ => .pure _
    · exact .pure _

structure All (ts : List Token) (h : Head) (fuel : Nat) : Prop where
  node : ∀ block indentless, Traced ts (node h block indentless fuel)
  content : ∀ block indentless p, Traced ts (content h block indentless p fuel)
  entries : Traced ts (entries h fuel)
  bareEntries : Traced ts (bareEntries h fuel)
  pairs : Traced ts (pairs h fuel)
  pairValue : Traced ts (pairValue h fuel)
  flowItems : ∀ first, Traced ts (flowItems h first fuel)
  flowPairs : ∀ first, Traced ts (flowPairs h first fuel)
  flowValue : ∀ closing, Traced ts (flowValue h closing fuel)

section Step

variable {h : Head} {fuel : Nat}

theorem node_succ (ih : All ts h fuel) (block indentless : Bool) :
    Traced ts (Grammar.node h block indentless (fuel + 1)) := by
  rw [Grammar.node]
  refine peek_bind fun t _ => ?_
  split
  · exact skip.bind fun _ => resolve _
  · refine (properties h).bind fun p => ?_
    split
    · exact ih.content _ _ p
    · exact get_bind fun r => peek_bind fun _ _ => (named _ _).bind fun _ =>
        (ih.content _ _ p).bind fun _ => (rebind _ _ _).bind fun _ => .pure _

theorem content_succ (ih : All ts h fuel) (block indentless : Bool) (p : Properties) :
    Traced ts (Grammar.content h block indentless p (fuel + 1)) := by
  rw [Grammar.content]
  refine peek_bind fun t ht => ?_
  split
  · exact skip.bind fun _ => .pure _
  · exact skip.bind fun _ => (ih.flowItems true).bind fun _ => .pure _
  · exact skip.bind fun _ => (ih.flowPairs true).bind fun _ => .pure _
  · refine .ite (ih.bareEntries.bind fun _ => .pure _) (.ite ?_ (.ite ?_ ?_))
    · exact skip.bind fun _ => ih.entries.bind fun _ => .pure _
    · exact skip.bind fun _ => ih.pairs.bind fun _ => .pure _
    · exact .ite (.pure _) (refuse ht)

theorem entries_succ (ih : All ts h fuel) : Traced ts (Grammar.entries h (fuel + 1)) := by
  rw [Grammar.entries]
  refine (take? _).bind fun _ => .ite ?_ ?_
  · exact (comesOneOf _).bind fun _ =>
      .choice (.pure _) (ih.node _ _) fun _ => ih.entries.bind fun _ => .pure _
  · exact (take? _).bind fun _ => .ite (.pure _) peek_refuse

theorem bareEntries_succ (ih : All ts h fuel) : Traced ts (Grammar.bareEntries h (fuel + 1)) := by
  rw [Grammar.bareEntries]
  refine (take? _).bind fun _ => .ite ?_ (.pure _)
  exact (comesOneOf _).bind fun _ =>
    .choice (.pure _) (ih.node _ _) fun _ => ih.bareEntries.bind fun _ => .pure _

theorem pairs_succ (ih : All ts h fuel) : Traced ts (Grammar.pairs h (fuel + 1)) := by
  rw [Grammar.pairs]
  have hmore : ∀ key, Traced ts (Grammar.pairValue h fuel >>= fun value =>
      Grammar.pairs h fuel >>= fun others => pure ((key, value) :: others)) :=
    fun key => ih.pairValue.bind fun _ => ih.pairs.bind fun _ => .pure _
  refine (take? _).bind fun _ => .ite ?_ ?_
  · exact (comesOneOf _).bind fun _ => .choice (.pure _) (ih.node _ _) hmore
  · refine (comesOneOf _).bind fun _ => .ite (hmore _) ?_
    exact (take? _).bind fun _ => .ite (.pure _) peek_refuse

theorem pairValue_succ (ih : All ts h fuel) : Traced ts (Grammar.pairValue h (fuel + 1)) := by
  rw [Grammar.pairValue]
  refine (take? _).bind fun _ => .ite ?_ (.pure _)
  exact (comesOneOf _).bind fun _ => .ite (.pure _) (ih.node _ _)

theorem flowValue_succ (ih : All ts h fuel) (closing : Token) :
    Traced ts (Grammar.flowValue h closing (fuel + 1)) := by
  rw [Grammar.flowValue]
  refine (take? _).bind fun _ => .ite ?_ (.pure _)
  exact (comesOneOf _).bind fun _ => .ite (.pure _) (ih.node _ _)

theorem flowItems_succ (ih : All ts h fuel) (first : Bool) :
    Traced ts (Grammar.flowItems h first (fuel + 1)) := by
  rw [Grammar.flowItems]
  refine (take? _).bind fun _ => .ite (.pure _) (.choice (y := pure ()) (expect _) (.pure _) ?_)
  refine fun _ => (take? _).bind fun _ => .ite (.pure _) ((take? _).bind fun _ => .ite ?_ ?_)
  · exact (comesOneOf _).bind fun _ => .choice (.pure _) (ih.node _ _) fun _ =>
      (ih.flowValue _).bind fun _ => (ih.flowItems _).bind fun _ => .pure _
  · exact (ih.node _ _).bind fun _ => (ih.flowItems _).bind fun _ => .pure _

theorem flowPairs_succ (ih : All ts h fuel) (first : Bool) :
    Traced ts (Grammar.flowPairs h first (fuel + 1)) := by
  rw [Grammar.flowPairs]
  have hmore : ∀ key, Traced ts (Grammar.flowValue h .flowMappingEnd fuel >>= fun value =>
      Grammar.flowPairs h false fuel >>= fun others => pure ((key, value) :: others)) :=
    fun key => (ih.flowValue _).bind fun _ => (ih.flowPairs _).bind fun _ => .pure _
  refine (take? _).bind fun _ => .ite (.pure _) (.choice (y := pure ()) (expect _) (.pure _) ?_)
  refine fun _ => (take? _).bind fun _ => .ite (.pure _) ((take? _).bind fun _ => .ite ?_ ?_)
  · exact (comesOneOf _).bind fun _ => .choice (.pure _) (ih.node _ _) hmore
  · refine (comesOneOf _).bind fun _ => .ite (hmore _) ?_
    exact (ih.node _ _).bind fun _ => (ih.flowPairs _).bind fun _ => .pure _

end Step

theorem all (h : Head) (fuel : Nat) : All ts h fuel := by
  -- every parser calls the others with less fuel, and one that has none left is at fault by form
  induction fuel with
  | zero => constructor <;> intros <;> exact .throw (.form _)
  | succ fuel ih =>
    exact ⟨node_succ ih, content_succ ih, entries_succ ih, bareEntries_succ ih, pairs_succ ih,
      pairValue_succ ih, flowItems_succ ih, flowPairs_succ ih, flowValue_succ ih⟩

theorem directives (fuel : Nat) (version : Option Version) (h : Head) :
    Traced ts (directives fuel version h) := by
  induction fuel generalizing version h with
  | zero => exact .pure _
  | succ fuel ih =>
    rw [Grammar.directives]
    refine peek_bind fun t ht => ?_
    split
    · next major minor =>
      have hset : ∀ v : Version, Traced ts (Grammar.skip >>= fun _ =>
          Grammar.directives fuel (some v) { h with version := v }) :=
        fun v => skip.bind fun _ => ih _ _
      refine .check (.form _) fun _ => .check (.form _) fun hmajor => ?_
      obtain rfl : major = 1 := by simpa using hmajor
      rcases ht with hmem | hfinish
      · split
        · exact (Traced.pure _).bind hset
        · exact (Traced.pure _).bind hset
        · next hone htwo => exact Traced.bind (.throw (.version hmem hone htwo)) hset
      · cases hfinish
    · exact .check (.form _) fun _ => skip.bind fun _ => ih _ _
    · exact skip.bind fun _ => ih _ _
    · exact .pure _

theorem dropEnds (fuel : Nat) : Traced ts (dropEnds fuel) := by
  induction fuel with
  | zero => exact .pure _
  | succ fuel ih =>
    rw [Grammar.dropEnds]
    exact (take? _).bind fun _ => .ite ih (.pure _)

theorem explicitDocument (fuel : Nat) : Traced ts (explicitDocument fuel) := by
  refine (directives _ _ _).bind fun h => (expect _).bind fun _ => peek_bind fun _ _ => ?_
  exact .ite (.pure _) (((all h fuel).node _ _).bind fun _ => .pure _)

theorem document (fuel : Nat) : Traced ts (document fuel) := by
  refine peek_bind fun t _ => ?_
  split
  · exact .pure _
  · have hend : ∀ (h : Head) (n : Node), Traced ts (if h.version = .v11 then
        Grammar.dropEnds fuel >>= fun _ => Grammar.expect .finish >>= fun _ => pure (h, n)
        else discard (Grammar.take? .documentEnd) >>= fun _ =>
          Grammar.expect .finish >>= fun _ => pure (h, n)) :=
      fun h n => .choice (dropEnds fuel) ((take? _).bind fun _ => .pure _) fun _ =>
        (expect _).bind fun _ => .pure _
    exact .ite ((explicitDocument fuel).bind fun made => hend made.1 made.2)
      (((all {} fuel).node true false).bind fun n => (Traced.pure _).bind fun _ => hend _ _)

end Traced

end Grammar

theorem Node.ofTokens_error {ts : List Token} {f : Fault} (h : Node.ofTokens ts = .error f) :
    Grammar.Blames ts f := by
  have hdocument := Grammar.Traced.document (3 * ts.length + 3) ⟨ts, []⟩ (List.Subset.refl ts)
  rw [Node.ofTokens] at h
  cases hrun : (Grammar.document (3 * ts.length + 3)).run ⟨ts, []⟩ with
  | error e =>
    rw [hrun] at h hdocument
    cases h
    exact hdocument
  | ok p =>
    rw [hrun] at h
    cases h

end EnvoySidecar.Yaml
