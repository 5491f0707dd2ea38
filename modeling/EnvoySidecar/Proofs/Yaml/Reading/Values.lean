import EnvoySidecar.Proofs.Text.Lines
import EnvoySidecar.Proofs.Yaml.Reading.Nodes
import EnvoySidecar.Yaml.Document

/-! The value of a manifest's text. Its nodes are texts, integers and lists, and maps whose keys are
distinct texts, so that the value has the very form of the tree. -/

namespace EnvoySidecar

namespace Manifest

mutual

def toValue : Manifest → Value
  | .null => .null
  | .int n => .int n
  | .text s => .text s
  | .list items => .list (itemValues items)
  | .record fields => .map (fieldValues fields)

def itemValues : List Manifest → List Value
  | [] => []
  | m :: rest => m.toValue :: itemValues rest

def fieldValues : List (String × Manifest) → List (Value × Value)
  | [] => []
  | (name, m) :: rest => (.text name, m.toValue) :: fieldValues rest

end

end Manifest

namespace Yaml.Node

variable {α β : Type} {valueOf : Bool → Node → Valued Value} {whole : Bool} {level fuel : Nat}

theorem both_ok {x : Valued α} {y : Valued β} {a : α} {b : β} (hx : x = .ok a) (hy : y = .ok b) :
    both x y = .ok (a, b) := by
  rw [hx, hy]
  rfl

theorem foldlM_ok {σ ε : Type} {step : σ → α → Except ε σ} {next : σ → α → σ} {as : List α}
    (h : ∀ s, ∀ a ∈ as, step s a = .ok (next s a)) (s : σ) :
    as.foldlM step s = .ok (as.foldl next s) := by
  induction as generalizing s with
  | nil => rfl
  | cons a as ih =>
    rw [List.foldlM_cons, h s a List.mem_cons_self]
    exact ih (fun s b hb => h s b (List.mem_cons_of_mem a hb)) (next s a)

theorem foldl_own (entries : Pairs) (m : Merged) :
    entries.foldl (fun m e => { m with own := m.own ++ [e] }) m =
      { m with own := m.own ++ entries } := by
  induction entries generalizing m with
  | nil => simp
  | cons e entries ih => simp [ih]

theorem merge_texts {entries : Pairs} (h : ∀ e ∈ entries, e.1.tag = .text) :
    merge (fuel + 1) entries = .ok ⟨[], entries⟩ := by
  rw [merge]
  have hown := congrArg (Except.ok (ε := Fault)) (foldl_own entries ⟨[], []⟩)
  refine (foldlM_ok (fun m e he => ?_) _).trans hown
  simp only [h e he]
  rfl

theorem value_list {items : List Node} {vs : List Value}
    (h : ∀ level, values (value .v12 fuel level) whole items = .ok vs) (level : Nat) :
    value .v12 (fuel + 1) level whole (.list .list items) = .ok (.list vs) := by
  rw [value, h]
  · rfl
  · rfl

theorem value_map {es : Pairs} {vs : List (Value × Value)} (htexts : ∀ e ∈ es, e.1.tag = .text)
    (h : ∀ level, entries (value .v12 fuel level) whole level (some []) es = .ok vs) (level : Nat) :
    value .v12 (fuel + 1) level whole (.map .map es) = .ok (.map vs) := by
  rw [value, merge_texts htexts]
  · have hmerged : merged (value .v12 fuel (if whole then level else level + 1)) whole
        (if whole then level else level + 1) ⟨[], es⟩ = .ok vs := h _
    simp only [late, Except.mapError, bind, Except.bind, hmerged]
    rfl
  · rfl

theorem entries_cons {seen : List (MapKey × Bool)} {name : String} {item : Node} {v : Value}
    {es : Pairs} {vs : List (Value × Value)} (hfresh : ∀ e ∈ seen, e.1 ≠ .atom (.text name))
    (hkey : valueOf true (.scalar .text name) = .ok (.text name))
    (hitem : valueOf whole item = .ok v)
    (hrest : ∀ shown, entries valueOf whole level (some ((.atom (.text name), shown) :: seen)) es =
      .ok vs) :
    entries valueOf whole level (some seen) ((.scalar .text name, item) :: es) =
      .ok ((.text name, v) :: vs) := by
  have hfind : seen.find? (fun e => e.1 == .atom (.text name)) = none := by
    rw [List.find?_eq_none]
    intro e he
    simpa using hfresh e he
  have hknown : late level (MapKey.ofValue (.text name)) = .ok (.atom (.text name)) := rfl
  rw [entries]
  simp only [hkey, hknown, bind, Except.bind, Option.bind_some, Option.map_some, hfind, hitem,
    hrest]
  rfl

end Yaml.Node

namespace Manifest

open Yaml Yaml.Node

variable {indent level fuel : Nat} {whole : Bool} {m : Manifest}

def Valued (indent : Nat) (m : Manifest) : Prop :=
  ∀ (column fuel level : Nat) (whole : Bool), (tokens indent column m).length ≤ fuel →
    Node.value .v12 fuel level whole (readBack indent column m).toNode =
      .ok (readBack indent column m).toValue

theorem values_items {items : List Manifest} (h : ∀ i ∈ items, Valued indent i)
    (hfuel : (itemTokens indent items).length ≤ fuel + 1) :
    values (Node.value .v12 fuel level) whole (itemNodes (itemsBack indent items)) =
      .ok (itemValues (itemsBack indent items)) := by
  induction items with
  | nil => rfl
  | cons i items ih =>
    obtain ⟨hi, hitems⟩ := List.forall_mem_cons.1 h
    simp only [itemTokens, List.length_cons, List.length_append] at hfuel
    have hvalue := hi indent fuel level whole (by omega)
    have hrest := ih hitems (by omega)
    rw [itemsBack, itemNodes, values, both_ok hvalue hrest]
    rfl

theorem tag_fieldNodes (fields : List (String × Manifest)) :
    ∀ e ∈ fieldNodes fields, e.1.tag = .text := by
  induction fields with
  | nil => exact fun e he => nomatch he
  | cons f fields ih => exact List.forall_mem_cons.2 ⟨rfl, ih⟩

theorem entries_fields {fields : List (String × Manifest)} {seen : List (MapKey × Bool)}
    (hnodup : (fields.map (·.1)).Nodup)
    (hseen : ∀ f ∈ fields, ∀ e ∈ seen, e.1 ≠ .atom (.text f.1))
    (h : ∀ f ∈ fields, Valued (indent + 2) f.2)
    (hfuel : (fieldTokens indent fields).length ≤ fuel) :
    entries (Node.value .v12 fuel level) whole level (some seen)
        (fieldNodes (fieldsBack indent fields)) =
      .ok (fieldValues (fieldsBack indent fields)) := by
  induction fields generalizing seen with
  | nil => rfl
  | cons f fields ih =>
    obtain ⟨name, m⟩ := f
    obtain ⟨hname, hnodup⟩ := List.nodup_cons.1 hnodup
    obtain ⟨hfresh, hseen⟩ := List.forall_mem_cons.1 hseen
    obtain ⟨hm, hfields⟩ : Valued (indent + 2) m ∧ ∀ f ∈ fields, Valued (indent + 2) f.2 :=
      List.forall_mem_cons.1 h
    simp only [fieldTokens, List.length_cons, List.length_append] at hfuel
    obtain ⟨fuel, rfl⟩ : ∃ n, fuel = n + 1 := ⟨fuel - 1, by omega⟩
    refine entries_cons hfresh rfl (hm _ _ level whole (by omega)) fun shown => ?_
    refine ih hnodup (fun f hf => List.forall_mem_cons.2 ⟨?_, hseen f hf⟩) hfields (by omega)
    rintro heq
    have hsame : name = f.1 := by simpa using heq
    exact hname (List.mem_map.2 ⟨f, hf, hsame.symm⟩)

theorem Shaped.valued (h : Shaped indent m) : Valued indent m := by
  induction h with
  | @int indent n hn =>
    intro column fuel level whole hfuel
    obtain ⟨fuel, rfl⟩ : ∃ n, fuel = n + 1 := ⟨fuel - 1, by simp [tokens] at hfuel; omega⟩
    rw [readBack, toNode, toValue, Node.value]
    simp only [tag, isCollection]
    rw [value_integerText hn]
    rfl
  | @text indent s =>
    intro column fuel level whole hfuel
    obtain ⟨fuel, rfl⟩ : ∃ n, fuel = n + 1 := ⟨fuel - 1, by simp [tokens] at hfuel; omega⟩
    rfl
  | @list indent items hne hitems hinner ih =>
    intro column fuel level whole hfuel
    obtain ⟨i, items, rfl⟩ := List.exists_cons_of_ne_nil hne
    rw [tokens] at hfuel
    obtain ⟨fuel, rfl⟩ : ∃ n, fuel = n + 1 := ⟨fuel - 1, by simp [itemTokens] at hfuel; omega⟩
    rw [readBack, toNode, toValue]
    exact value_list (fun level => values_items ih hfuel) level
  | @record indent fields hne hnodup hnames hfields ih =>
    intro column fuel level whole hfuel
    simp only [tokens, List.length_cons, List.length_append, List.length_nil] at hfuel
    obtain ⟨fuel, rfl⟩ : ∃ n, fuel = n + 1 := ⟨fuel - 1, by omega⟩
    rw [readBack, toNode, toValue]
    refine value_map (tag_fieldNodes _) (fun level => ?_) level
    exact entries_fields hnodup (by simp) ih (by omega)

/-! Documents -/

theorem node_ofTokens {fields : List (String × Manifest)} (h : Shaped indent (.record fields))
    (column : Nat) : Node.ofTokens (tokens indent column (.record fields) ++ [Token.finish]) =
      .ok (.v12, (readBack indent column (.record fields)).toNode) := by
  have hparses := h.parses column
    (3 * (tokens indent column (.record fields) ++ [Token.finish]).length + 3) [Token.finish] false
    (by simp only [List.length_append]; omega) (by simp)
  generalize htree : readBack indent column (.record fields) = tree at hparses
  generalize hts : tokens indent column (.record fields) = ts at hparses
  obtain ⟨more, rfl⟩ : ∃ more, ts = .blockMapping :: more := by
    rw [← hts, tokens]
    exact ⟨_, rfl⟩
  have hdocument : Grammar.Parses
      (Grammar.document (3 * (Token.blockMapping :: more ++ [Token.finish]).length + 3))
      (Token.blockMapping :: more ++ [Token.finish]) ({}, tree.toNode) [] := by
    rw [Grammar.document]
    refine (Grammar.Parses.peek _ _).bind ?_
    simp only [Bool.false_eq_true, if_false]
    refine hparses.bind ((Grammar.Parses.pure _ _).bind ?_)
    rw [if_neg Version.noConfusion]
    exact (Grammar.Parses.take?_other (by simp) []).discard.bind
      ((Grammar.Parses.expect .finish []).bind (.pure _ []))
  rw [Node.ofTokens, hdocument []]
  rfl

theorem isAllowed_of_isUsual {c : Char} (h : Style.isUsual c = true) : isAllowed c = true := by
  simp only [Style.isUsual, Bool.and_eq_true, Bool.or_eq_true, decide_eq_true_eq] at h
  simp only [isAllowed, Bool.or_eq_true, Bool.and_eq_true, decide_eq_true_eq]
  omega

theorem unifyLines_of_usual {cs : List Char} (h : Style.Usual cs) : Text.unifyLines cs = cs := by
  refine Text.unifyLines_of_notMem fun hreturn => ?_
  exact absurd (h '\r' hreturn) (by decide)

theorem read_toYaml {fields : List (String × Manifest)} (h : Shaped 0 (.record fields)) :
    Yaml.read (toYaml (.record fields)).toList = .ok (readBack 0 0 (.record fields)).toValue := by
  have husual := usual_toYaml (.record fields)
  have hallowed : (toYaml (.record fields)).toList.all isAllowed = true :=
    List.all_eq_true.2 fun c hc => isAllowed_of_isUsual (husual c hc)
  have hvalue := h.valued 0 (2 * (tokens 0 0 (.record fields) ++ [Token.finish]).length + 4) 0 false
    (by simp only [List.length_append]; omega)
  simp only [Yaml.read, hallowed, unifyLines_of_usual husual, tokens_toYaml h, node_ofTokens h,
    Bool.not_true, Bool.false_eq_true, if_false]
  exact congrArg (Except.mapError _) hvalue

end Manifest

end EnvoySidecar
