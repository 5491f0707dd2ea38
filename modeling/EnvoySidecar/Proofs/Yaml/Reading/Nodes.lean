import EnvoySidecar.Proofs.Yaml.Reading.Manifest
import EnvoySidecar.Yaml.Grammar

/-! The nodes of a manifest's tokens. What a tree is read back as shows in its nodes already: every
text is under the tag of texts, and every integer under that of integers. -/

namespace EnvoySidecar

namespace Manifest

mutual

/-- The tree with what is left of its texts. -/
def readBack (indent column : Nat) : Manifest → Manifest
  | .text s => .text (String.ofList (Yaml.Fold.left indent column s.toList))
  | .list items => .list (itemsBack indent items)
  | .record fields => .record (fieldsBack indent fields)
  | .null => .null
  | .int n => .int n

def itemsBack (indent : Nat) : List Manifest → List Manifest
  | [] => []
  | m :: rest => readBack indent indent m :: itemsBack indent rest

def fieldsBack (indent : Nat) : List (String × Manifest) → List (String × Manifest)
  | [] => []
  | (name, m) :: rest =>
    (name, readBack (indent + 2) (indent + name.toList.length + 2) m) :: fieldsBack indent rest

end

mutual

def toNode : Manifest → Yaml.Node
  | .null => .empty
  | .int n => .scalar .int (String.ofList (Text.integerText n))
  | .text s => .scalar .text s
  | .list items => .list .list (itemNodes items)
  | .record fields => .map .map (fieldNodes fields)

def itemNodes : List Manifest → List Yaml.Node
  | [] => []
  | m :: rest => m.toNode :: itemNodes rest

def fieldNodes : List (String × Manifest) → List (Yaml.Node × Yaml.Node)
  | [] => []
  | (name, m) :: rest => (.scalar .text name, m.toNode) :: fieldNodes rest

end

end Manifest

namespace Yaml.Grammar

variable {α β : Type} {x : Parse α} {f : α → Parse β} {ts mid rest : List Token} {a : α} {b : β}
  {t : Token} {fuel : Nat}

def Parses (x : Parse α) (ts : List Token) (a : α) (rest : List Token) : Prop :=
  ∀ anchors, x.run ⟨ts, anchors⟩ = .ok (a, ⟨rest, anchors⟩)

namespace Parses

protected theorem pure (a : α) (ts : List Token) : Parses (pure a) ts a ts :=
  fun _ => rfl

protected theorem bind (hx : Parses x ts a mid) (hf : Parses (f a) mid b rest) :
    Parses (x >>= f) ts b rest := fun anchors => by
  rw [StateT.run_bind, hx anchors]
  exact hf anchors

theorem peek (t : Token) (ts : List Token) : Parses peek (t :: ts) t (t :: ts) :=
  fun _ => rfl

theorem skip (t : Token) (ts : List Token) : Parses skip (t :: ts) () ts :=
  fun _ => rfl

theorem take? (t : Token) (ts : List Token) : Parses (take? t) (t :: ts) true ts :=
  (peek t ts).bind (by rw [if_pos rfl]; exact (skip t ts).bind (.pure true ts))

theorem take?_other {other : Token} (h : t ≠ other) (ts : List Token) :
    Parses (Grammar.take? other) (t :: ts) false (t :: ts) :=
  (peek t ts).bind (by rw [if_neg h]; exact .pure false _)

protected theorem discard (h : Parses x ts a rest) : Parses (discard x) ts () rest :=
  fun anchors => by
    change ((fun _ => ()) <$> x).run ⟨ts, anchors⟩ = _
    rw [StateT.run_map, h anchors]
    rfl

theorem expect (t : Token) (ts : List Token) : Parses (Grammar.expect t) (t :: ts) () ts :=
  (take? t ts).bind (.pure () ts)

theorem comesOneOf (others : List Token) (t : Token) (ts : List Token) :
    Parses (Grammar.comesOneOf others) (t :: ts) (others.contains t) (t :: ts) :=
  (peek t ts).bind (.pure _ _)

def IsBare (t : Token) : Prop :=
  (∀ name, t ≠ .anchor name) ∧ (∀ handle suffix, t ≠ .tag handle suffix) ∧ ∀ name, t ≠ .alias name

theorem properties (h : Head) (ht : IsBare t) (ts : List Token) :
    Parses (Grammar.properties h) (t :: ts) ⟨none, none⟩ (t :: ts) := by
  have hanchor : Parses anchor? (t :: ts) none (t :: ts) := by
    refine (peek t ts).bind ?_
    split
    · next name => exact absurd rfl (ht.1 name)
    · exact .pure none _
  have htag : Parses (tag? h) (t :: ts) none (t :: ts) := by
    refine (peek t ts).bind ?_
    split
    · next handle suffix => exact absurd rfl (ht.2.1 handle suffix)
    · exact .pure none _
  exact hanchor.bind (htag.bind (.pure _ _))

theorem node {h : Head} {block indentless : Bool} {n : Node} (ht : IsBare t)
    (hcontent : Parses (content h block indentless ⟨none, none⟩ fuel) (t :: ts) n rest) :
    Parses (Grammar.node h block indentless (fuel + 1)) (t :: ts) n rest := by
  rw [Grammar.node]
  refine (peek t ts).bind ?_
  split
  · next name => exact absurd rfl (ht.2.2 name)
  · exact (properties h ht ts).bind hcontent

theorem scalar {block indentless : Bool} (text : String) (plain : Bool) (ts : List Token) :
    Parses (Grammar.node {} block indentless (fuel + 2)) (.scalar text plain :: ts)
      (.scalar (if plain then Tag.ofPlain .v12 text else .text) text) ts := by
  have hbare : IsBare (.scalar text plain) := ⟨by simp, by simp, by simp⟩
  refine node hbare ?_
  rw [content]
  refine (peek _ ts).bind ((skip _ ts).bind ?_)
  have htag : Properties.scalarTag ⟨none, none⟩ .v12 text plain =
      if plain then Tag.ofPlain .v12 text else .text := by
    cases plain <;> rfl
  rw [← htag]
  exact .pure _ ts

theorem map {indentless : Bool} {es : List (Node × Node)} (h : Parses (pairs {} fuel) ts es rest) :
    Parses (Grammar.node {} true indentless (fuel + 2)) (.blockMapping :: ts) (.map .map es)
      rest := by
  refine node ⟨by simp, by simp, by simp⟩ ?_
  rw [content]
  refine (peek _ ts).bind ?_
  simp only [reduceCtorEq, decide_false, decide_true, Bool.false_and, Bool.true_and,
    Bool.false_eq_true, if_false, if_true]
  exact (skip _ ts).bind (h.bind (.pure _ rest))

theorem bareList {block : Bool} {items : List Node}
    (h : Parses (bareEntries {} fuel) (.entry :: ts) items rest) :
    Parses (Grammar.node {} block true (fuel + 2)) (.entry :: ts) (.list .list items) rest := by
  refine node ⟨by simp, by simp, by simp⟩ ?_
  rw [content]
  refine (peek _ ts).bind ?_
  simp only [decide_true, Bool.true_and, if_true]
  exact h.bind (.pure _ rest)

theorem bareEntries_cons {next : Token} {n : Node} {ns : List Node}
    (hnext : [Token.entry, .key, .value, .blockEnd].contains next = false)
    (hitem : Parses (Grammar.node {} true false fuel) (next :: ts) n mid)
    (hrest : Parses (bareEntries {} fuel) mid ns rest) :
    Parses (bareEntries {} (fuel + 1)) (.entry :: next :: ts) (n :: ns) rest := by
  rw [bareEntries]
  refine (take? .entry (next :: ts)).bind ?_
  rw [if_pos rfl]
  refine (comesOneOf _ next ts).bind ?_
  rw [hnext, if_neg Bool.false_ne_true]
  exact hitem.bind (hrest.bind (.pure _ rest))

theorem bareEntries_nil (ht : t ≠ .entry) (ts : List Token) :
    Parses (bareEntries {} (fuel + 1)) (t :: ts) [] (t :: ts) := by
  rw [bareEntries]
  refine (take?_other ht ts).bind ?_
  exact .pure _ _

theorem pairs_cons {next : Token} {value : Node} {es : List (Node × Node)} (name : String)
    (hnext : [Token.key, .value, .blockEnd].contains next = false)
    (hvalue : Parses (Grammar.node {} true true (fuel + 1)) (next :: ts) value mid)
    (hrest : Parses (pairs {} (fuel + 2)) mid es rest) :
    Parses (pairs {} (fuel + 3)) (.key :: .scalar name true :: .value :: next :: ts)
      ((.scalar (Tag.ofPlain .v12 name) name, value) :: es) rest := by
  rw [pairs]
  refine (take? .key _).bind ?_
  rw [if_pos rfl]
  refine (comesOneOf _ (.scalar name true) _).bind ?_
  rw [if_neg (by simp)]
  refine (scalar name true _).bind ?_
  refine Parses.bind ?_ (hrest.bind (.pure _ rest))
  rw [pairValue]
  refine (take? .value _).bind ?_
  rw [if_pos rfl]
  refine (comesOneOf _ next ts).bind ?_
  rw [hnext, if_neg Bool.false_ne_true]
  exact hvalue

theorem pairs_nil (ts : List Token) : Parses (pairs {} (fuel + 1)) (.blockEnd :: ts) [] ts := by
  rw [pairs]
  refine (take?_other (by simp) ts).bind ?_
  rw [if_neg Bool.false_ne_true]
  refine (comesOneOf _ .blockEnd ts).bind ?_
  rw [if_neg (by decide)]
  exact (take? .blockEnd ts).bind (.pure _ ts)

end Parses

end Yaml.Grammar

namespace Manifest

open Yaml Yaml.Grammar

variable {indent column fuel : Nat} {m : Manifest} {rest : List Token}

theorem Shaped.tokens_cons (h : Shaped indent m) (column : Nat) : ∃ t ts,
    tokens indent column m = t :: ts ∧ [Token.key, .value, .blockEnd].contains t = false ∧
      ((∀ inner, m ≠ .list inner) → t ≠ .entry) := by
  cases h with
  | int => exact ⟨_, _, by rw [tokens], by simp, by simp⟩
  | text => exact ⟨_, _, by rw [tokens], by simp [Fold.token], by simp [Fold.token]⟩
  | @list _ items hne =>
    obtain ⟨i, items, rfl⟩ := List.exists_cons_of_ne_nil hne
    exact ⟨_, _, by rw [tokens, itemTokens], by simp, fun h => absurd rfl (h _)⟩
  | record => exact ⟨_, _, by rw [tokens], by simp, by simp⟩

def NodeParses (indent : Nat) (m : Manifest) : Prop :=
  ∀ (column fuel : Nat) (rest : List Token) (indentless : Bool),
    3 * (tokens indent column m).length < fuel →
    ((∃ inner, m = .list inner) → indentless = true ∧ ∃ t ts, rest = t :: ts ∧ t ≠ .entry) →
    Parses (node {} true indentless fuel) (tokens indent column m ++ rest)
      (readBack indent column m).toNode rest

theorem parses_items {items : List Manifest} (hshaped : ∀ i ∈ items, Shaped indent i)
    (hinner : ∀ i ∈ items, ∀ inner, i ≠ .list inner) (hitems : ∀ i ∈ items, NodeParses indent i)
    {t : Token} {ts : List Token} (ht : t ≠ .entry)
    (hpos : 0 < fuel) (hfuel : 3 * (itemTokens indent items).length < fuel + 2) :
    Parses (bareEntries {} fuel) (itemTokens indent items ++ t :: ts)
      (itemNodes (itemsBack indent items)) (t :: ts) := by
  induction items generalizing fuel with
  | nil =>
    obtain ⟨fuel, rfl⟩ : ∃ n, fuel = n + 1 := ⟨fuel - 1, by omega⟩
    exact .bareEntries_nil ht ts
  | cons i items ih =>
    obtain ⟨hi, hshaped⟩ := List.forall_mem_cons.1 hshaped
    obtain ⟨hleaf, hinner⟩ := List.forall_mem_cons.1 hinner
    obtain ⟨hparses, hitems⟩ := List.forall_mem_cons.1 hitems
    obtain ⟨fuel, rfl⟩ : ∃ n, fuel = n + 1 := ⟨fuel - 1, by omega⟩
    simp only [itemTokens, List.length_cons, List.length_append] at hfuel
    obtain ⟨next, more, htokens, hnext, hentry⟩ := hi.tokens_cons indent
    have hitem := hparses indent fuel (itemTokens indent items ++ t :: ts) false (by omega)
      fun hlist => hlist.elim fun inner heq => absurd heq (hleaf inner)
    rw [htokens, List.cons_append] at hitem
    have hrest := @ih fuel hshaped hinner hitems (by omega) (by omega)
    rw [itemTokens, htokens, List.cons_append, List.append_assoc, List.cons_append]
    refine .bareEntries_cons ?_ hitem hrest
    rw [List.contains_cons, hnext, Bool.or_false]
    exact beq_false_of_ne (hentry hleaf)

theorem ofPlain_of_isField {name : String} (h : IsField name) : Tag.ofPlain .v12 name = .text := by
  have hplain := Style.isPlain_of_ofText h.plain
  simp only [Style.isPlain, Bool.and_eq_true, decide_eq_true_eq, String.ofList_toList] at hplain
  exact hplain.1.1.1.1.1

theorem parses_fields {fields : List (String × Manifest)} (hnames : ∀ f ∈ fields, IsField f.1)
    (hshaped : ∀ f ∈ fields, Shaped (indent + 2) f.2)
    (hfields : ∀ f ∈ fields, NodeParses (indent + 2) f.2)
    (hfuel : 3 * (fieldTokens indent fields).length < fuel) :
    Parses (pairs {} fuel) (fieldTokens indent fields ++ .blockEnd :: rest)
      (fieldNodes (fieldsBack indent fields)) rest := by
  induction fields generalizing fuel with
  | nil =>
    obtain ⟨fuel, rfl⟩ : ∃ n, fuel = n + 1 := ⟨fuel - 1, by omega⟩
    exact .pairs_nil rest
  | cons f fields ih =>
    obtain ⟨name, m⟩ := f
    obtain ⟨hname, hnames⟩ := List.forall_mem_cons.1 hnames
    obtain ⟨hm, hshaped⟩ := List.forall_mem_cons.1 hshaped
    obtain ⟨hparses, hfields⟩ := List.forall_mem_cons.1 hfields
    simp only [fieldTokens, List.length_cons, List.length_append] at hfuel
    obtain ⟨fuel, rfl⟩ : ∃ n, fuel = n + 3 := ⟨fuel - 3, by omega⟩
    obtain ⟨next, more, htokens, hnext, -⟩ := hm.tokens_cons (indent + name.toList.length + 2)
    have hrest := @ih (fuel + 2) hnames hshaped hfields (by omega)
    have hbehind : ∃ t ts,
        fieldTokens indent fields ++ .blockEnd :: rest = t :: ts ∧ t ≠ .entry := by
      cases fields with
      | nil => exact ⟨_, _, rfl, by simp⟩
      | cons g fields => exact ⟨_, _, by rw [fieldTokens]; rfl, by simp⟩
    have hparses : NodeParses (indent + 2) m := hparses
    have hvalue := hparses (indent + name.toList.length + 2) (fuel + 1) _ true (by omega)
      fun _ => ⟨rfl, hbehind⟩
    rw [htokens, List.cons_append] at hvalue
    have hpair := Parses.pairs_cons name hnext hvalue hrest
    rw [fieldTokens, htokens]
    simpa [fieldsBack, fieldNodes, ofPlain_of_isField hname] using hpair

theorem Shaped.parses (h : Shaped indent m) : NodeParses indent m := by
  induction h with
  | @int indent n =>
    intro column fuel rest indentless hfuel _
    obtain ⟨fuel, rfl⟩ : ∃ n, fuel = n + 2 := ⟨fuel - 2, by simp [tokens] at hfuel; omega⟩
    have h := @Parses.scalar fuel true indentless (String.ofList (Text.integerText n)) true rest
    rw [if_pos rfl, ofPlain_integerText] at h
    rw [tokens, readBack, toNode]
    exact h
  | @text indent s =>
    intro column fuel rest indentless hfuel _
    obtain ⟨fuel, rfl⟩ : ∃ n, fuel = n + 2 := ⟨fuel - 2, by simp [tokens] at hfuel; omega⟩
    have h := @Parses.scalar fuel true indentless (String.ofList (Fold.left indent column s.toList))
      (Style.ofText s.toList = .plain) rest
    rw [Fold.tag_left] at h
    rw [tokens, readBack, toNode]
    exact h
  | @list indent items hne hitems hinner ih =>
    intro column fuel rest indentless hfuel hrest
    obtain ⟨rfl, t, ts, rfl, ht⟩ := hrest ⟨items, rfl⟩
    obtain ⟨i, items, rfl⟩ := List.exists_cons_of_ne_nil hne
    rw [tokens] at hfuel ⊢
    have hlength : 0 < (itemTokens indent (i :: items)).length := by simp [itemTokens]
    obtain ⟨fuel, rfl⟩ : ∃ n, fuel = n + 2 := ⟨fuel - 2, by omega⟩
    have hlist :=
      @parses_items indent fuel (i :: items) hitems hinner ih t ts ht (by omega) (by omega)
    rw [readBack, toNode]
    rw [itemTokens, List.cons_append] at hlist ⊢
    exact Parses.bareList hlist
  | @record indent fields hne hnodup hnames hfields ih =>
    intro column fuel rest indentless hfuel _
    rw [tokens] at hfuel ⊢
    simp only [List.length_cons, List.length_append] at hfuel
    obtain ⟨fuel, rfl⟩ : ∃ n, fuel = n + 2 := ⟨fuel - 2, by omega⟩
    have hpairs := @parses_fields indent fuel rest fields hnames hfields ih (by omega)
    rw [readBack, toNode]
    simpa using Parses.map hpairs

end Manifest

end EnvoySidecar
