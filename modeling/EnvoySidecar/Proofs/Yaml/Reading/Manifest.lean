import EnvoySidecar.Proofs.Yaml.Reading.Layout

/-! Reading the text of a manifest. Every value leads from the token in front of it to the line
behind it, whatever comes next there, so that the tokens of a tree follow by induction. -/

namespace EnvoySidecar.Manifest

open Yaml Yaml.Layout
open Yaml.Fold (Inscribed Lead)

mutual

def tokens (indent column : Nat) : Manifest → List Token
  | .null => []
  | .int n => [.scalar (String.ofList (Text.integerText n)) true]
  | .text s => [Fold.token indent column s.toList]
  | .list items => itemTokens indent items
  | .record fields => .blockMapping :: (fieldTokens indent fields ++ [.blockEnd])

def itemTokens (indent : Nat) : List Manifest → List Token
  | [] => []
  | m :: rest => .entry :: (tokens indent indent m ++ itemTokens indent rest)

def fieldTokens (indent : Nat) : List (String × Manifest) → List Token
  | [] => []
  | (name, m) :: rest =>
    .key :: .scalar name true :: .value ::
      (tokens (indent + 2) (indent + name.toList.length + 2) m ++ fieldTokens indent rest)

end

structure IsField (name : String) : Prop where
  plain : Style.ofText name.toList = .plain
  name : IsName name.toList

/-- Trees as they are read back: nothing is empty, no list stands in a list, integers can be
written, and what is indented has room in its line. -/
inductive Shaped : Nat → Manifest → Prop
  | int {indent : Nat} {n : Int} : (Text.digits n.natAbs).length ≤ Text.digitLimit →
      Shaped indent (.int n)
  | text {indent : Nat} {s : String} : indent < Fold.width → Shaped indent (.text s)
  | list {indent : Nat} {items : List Manifest} : items ≠ [] → (∀ m ∈ items, Shaped indent m) →
      (∀ m ∈ items, ∀ inner, m ≠ .list inner) → Shaped indent (.list items)
  | record {indent : Nat} {fields : List (String × Manifest)} : fields ≠ [] →
      (fields.map (·.1)).Nodup → (∀ f ∈ fields, IsField f.1) →
      (∀ f ∈ fields, Shaped (indent + 2) f.2) → Shaped indent (.record fields)

variable {b : Layout} {cs body lead next : List Char} {p : Position} {outer : List Nat}
  {ts : List Token} {t : Token} {allowed : Bool} {column start indent k : Nat}

structure Ahead (next : List Char) : Prop extends Onward next where
  marker : markerFollows next = false

def Reads (s b : Layout) : Prop :=
  ∃ a, s.toNext = .ok a ∧ a.cursor.rest.length ≤ s.cursor.rest.length ∧ Leads a b

/-- The value of a field at a column is read as its tokens, up to the next line. -/
structure ValueReads (column : Nat) (m : Manifest) : Prop where
  gap : ∀ start r, gapFollows (yamlValue column start m ++ r) = true
  reads : ∀ (p : Position) (outer : List Nat) (ts : List Token) (k : Nat) (next : List Char),
    column < p.column → k ≤ column → Ahead next → ∃ q, q.column = k ∧
      Reads (outside ⟨yamlValue column (p.column + 1) m ++ (List.replicate k ' ' ++ next), p⟩
          (column :: outer) none false ts)
        (arrive ⟨next, q⟩ (column :: outer) none true
          ((tokens (column + 2) (p.column + 1) m).reverse ++ ts))

structure ItemReads (column : Nat) (m : Manifest) : Prop where
  onward : ∀ r, Onward (yamlFrom (column + 2) m ++ r)
  reads : ∀ (p : Position) (outer : List Nat) (ts : List Token) (k : Nat) (next : List Char),
    p.column = column + 2 → k ≤ column → Ahead next → ∃ q, q.column = k ∧
      Leads (outside ⟨yamlFrom (column + 2) m ++ (List.replicate k ' ' ++ next), p⟩
          (column :: outer) none true ts)
        (arrive ⟨next, q⟩ (column :: outer) none true
          ((tokens (column + 2) (column + 2) m).reverse ++ ts))

theorem reads_outside {k k' : Cursor} {indents : List Nat} {endsLine : Bool}
    (hskip : skipBetween false (k.rest.length + 1) k = (endsLine, k'))
    (hstays : ∀ column ∈ indents.head?, column ≤ k'.place.column)
    (hless : k'.rest.length ≤ k.rest.length) (h : Leads (outside k' indents none endsLine ts) b) :
    Reads (outside k indents none false ts) b := by
  have hnext : (outside k indents none false ts).toNext = .ok _ :=
    toNext_outside hskip rfl
  rw [arrive_stays hstays] at hnext
  exact ⟨_, hnext, hless, h⟩

theorem reads_line {n : Nat} (hnext : Onward next) (hn : column ≤ n)
    (h : Leads
      (outside ⟨next, p.past ('\n' :: List.replicate n ' ')⟩ (column :: outer) none true ts)
      b) :
    Reads (outside ⟨'\n' :: (List.replicate n ' ' ++ next), p⟩ (column :: outer) none false ts)
      b := by
  refine reads_outside (skipBetween_line hnext 0 n (List.replicate n ' ' ++ next).length p) ?_
    (by simp; omega) h
  rintro _ ⟨⟩
  exact hn.trans (Position.column_newLine p n).ge

theorem reads_scalar (hcolumn : column < p.column) (hlead : Lead (column + 2) (p.column + 1) lead)
    (h : Inscribed (column + 2) body t) (hnext : Ahead next) (hk : k ≤ column)
    (outer : List Nat) (ts : List Token) : ∃ q, q.column = k ∧
      Reads (outside ⟨' ' :: (lead ++ (body ++ '\n' :: (List.replicate k ' ' ++ next))), p⟩
          (column :: outer) none false ts)
        (arrive ⟨next, q⟩ (column :: outer) none true (t :: ts)) := by
  generalize hrest : '\n' :: (List.replicate k ' ' ++ next) = rest
  have honward := onward_of_inscribed h rest
  cases hlead with
  | none =>
    have hskip := skipBetween_spaces honward 1 (' ' :: (body ++ rest)).length p
    have hright : column < (p.past (List.replicate 1 ' ')).column := by
      rw [Position.column_spaces]
      exact Nat.lt_succ_of_lt hcolumn
    obtain ⟨q, hq, hleads⟩ := @leads_scalar body next _ (column :: outer) false ts t column
      (column + 2) k rfl hright (Nat.lt_add_of_pos_right Nat.two_pos) h hnext.toOnward
      hnext.marker hk
    rw [hrest] at hleads
    exact ⟨q, hq, reads_outside hskip (by rintro _ ⟨⟩; exact hright.le) (by simp) hleads⟩
  | line =>
    have hskip := skipBetween_line honward 1 (column + 2)
      (Fold.newLine (column + 2) ++ (body ++ rest)).length p
    have hright : (p.past (List.replicate 1 ' ' ++ '\n' :: List.replicate (column + 2) ' ')).column =
        column + 2 := by
      rw [Position.past_append, Position.column_newLine]
    obtain ⟨q, hq, hleads⟩ := @leads_scalar body next _ (column :: outer) true ts t column
      (column + 2) k rfl (hright ▸ Nat.lt_add_of_pos_right Nat.two_pos)
      (Nat.lt_add_of_pos_right Nat.two_pos) h hnext.toOnward hnext.marker hk
    rw [hrest] at hleads
    exact ⟨q, hq, reads_outside hskip (by rintro _ ⟨⟩; rw [hright]; omega) (by simp; omega) hleads⟩

theorem reads_inscribed {m : Manifest} {scalar : Nat → List Char} {token : Nat → Token}
    (hvalue : ∀ start, yamlValue column start m = ' ' :: scalar start ++ ['\n'])
    (hitem : yamlFrom (column + 2) m = scalar (column + 2) ++ ['\n'])
    (htokens : ∀ start, tokens (column + 2) start m = [token start])
    (h : ∀ start, ∃ lead body, scalar start = lead ++ body ∧ Lead (column + 2) start lead ∧
      Inscribed (column + 2) body (token start)) : ValueReads column m ∧ ItemReads column m := by
  refine ⟨⟨fun start r => by rw [hvalue]; rfl, ?_⟩, ?_⟩
  · intro p outer ts k next hcolumn hk hnext
    obtain ⟨lead, body, heq, hlead, hbody⟩ := h (p.column + 1)
    obtain ⟨q, hq, hreads⟩ := reads_scalar hcolumn hlead hbody hnext hk outer ts
    refine ⟨q, hq, ?_⟩
    rw [hvalue, htokens, heq]
    simpa using hreads
  · obtain ⟨lead, body, heq, hlead, hbody⟩ := h (column + 2)
    cases hlead with
    | line hlt => exact absurd hlt (Nat.lt_irrefl _)
    | none =>
      rw [List.nil_append] at heq
      constructor
      · intro r
        rw [hitem, heq, List.append_assoc]
        exact onward_of_inscribed hbody _
      · intro p outer ts k next hcolumn hk hnext
        obtain ⟨q, hq, hleads⟩ := @leads_scalar body next p (column :: outer) true ts _ column
          (column + 2) k rfl (by omega) (by omega) hbody hnext.toOnward hnext.marker hk
        refine ⟨q, hq, ?_⟩
        rw [hitem, htokens, heq]
        simpa using hleads

/-! Records -/

theorem leads_name {name rest : List Char} {indents inner : List Nat} {opening : List Token}
    (hname : IsName name) (hgap : gapFollows rest = true)
    (henters : Enters p.column indents inner opening)
    (h : Reads (outside ⟨rest, p.past (name ++ [':'])⟩ inner none false
      (.value :: .scalar (String.ofList name) true :: .key :: (opening ++ ts))) b) :
    Leads (outside ⟨name ++ ':' :: rest, p⟩ indents none true ts) b := by
  obtain ⟨a, hnext, hless, hleads⟩ := h
  exact (leads_key hname hgap henters hnext hless).trans hleads

theorem yamlName_of_isField {name : String} (h : IsField name) : yamlName name = name.toList := by
  have hplain := h.plain
  unfold yamlName
  split
  · rfl
  · next heq => exact absurd (hplain.symm.trans heq) (by decide)
  · next heq => exact absurd (hplain.symm.trans heq) (by decide)

theorem ahead_yamlField {f : String × Manifest} (h : IsField f.1) (column : Nat) (r : List Char) :
    Ahead (yamlField column f ++ r) := by
  obtain ⟨name, m⟩ := f
  rw [yamlField, yamlName_of_isField h]
  generalize yamlValue column (column + name.toList.length + 2) m = value
  have hname := h.name
  have hmarked := (hname.unmarked.append (':' :: value)).append r
  refine ⟨onward_of_unmarked hmarked, ?_⟩
  obtain ⟨c, cs, heq⟩ := List.exists_cons_of_ne_nil hname.nonempty
  rw [heq] at hname ⊢
  rw [List.cons_append, List.cons_append]
  exact hname.not_marker _

theorem fieldTokens_cons (f : String × Manifest) (fields : List (String × Manifest)) :
    fieldTokens indent (f :: fields) = fieldTokens indent [f] ++ fieldTokens indent fields := by
  obtain ⟨name, m⟩ := f
  simp [fieldTokens]

theorem leads_field {f : String × Manifest} (hname : IsField f.1) (hvalue : ValueReads column f.2)
    {indents inner : List Nat} {opening : List Token}
    (henters : Enters column indents inner opening)
    (hp : p.column = column) (hk : k ≤ column) (hnext : Ahead next) (ts : List Token) :
    ∃ q, q.column = k ∧
      Leads (outside ⟨yamlField column f ++ (List.replicate k ' ' ++ next), p⟩ indents none true ts)
        (arrive ⟨next, q⟩ inner none true
          ((fieldTokens column [f]).reverse ++ (opening ++ ts))) := by
  obtain ⟨name, m⟩ := f
  obtain ⟨outer, rfl⟩ : ∃ outer, inner = column :: outer := by
    cases henters with
    | opens => exact ⟨_, rfl⟩
    | stays => exact ⟨_, rfl⟩
  have hbehind : (p.past (name.toList ++ [':'])).column + 1 = column + name.toList.length + 2 := by
    have hinline : Position.Inline (name.toList ++ [':']) :=
      List.forall_mem_append.2 ⟨hname.name.inline, (by decide : Position.Inline [':'])⟩
    rw [Position.column_inline p hinline, hp, List.length_append, List.length_singleton]
    omega
  obtain ⟨q, hq, hreads⟩ := hvalue.reads (p.past (name.toList ++ [':'])) outer
    (.value :: .scalar name true :: .key :: (opening ++ ts)) k next (by omega) hk hnext
  rw [hbehind] at hreads
  refine ⟨q, hq, ?_⟩
  have hgap := hvalue.gap (column + name.toList.length + 2) (List.replicate k ' ' ++ next)
  rw [← hp] at henters
  have hleads := leads_name hname.name hgap henters (by rwa [String.ofList_toList, hp])
  simpa [yamlField, yamlName_of_isField hname, fieldTokens, hp] using hleads

theorem leads_fields {fields : List (String × Manifest)} (f : String × Manifest)
    (hnames : ∀ g ∈ f :: fields, IsField g.1) (hvalues : ∀ g ∈ f :: fields, ValueReads column g.2)
    {indents inner : List Nat} {opening : List Token}
    (henters : Enters column indents inner opening)
    (hp : p.column = column) (hk : k ≤ column) (hnext : Ahead next) (ts : List Token) :
    ∃ q, q.column = k ∧
      Leads (outside ⟨yamlField column f ++ (yamlFields column fields ++
          (List.replicate k ' ' ++ next)), p⟩ indents none true ts)
        (arrive ⟨next, q⟩ inner none true
          ((fieldTokens column (f :: fields)).reverse ++ (opening ++ ts))) := by
  induction fields generalizing f p indents inner opening ts with
  | nil =>
    simpa [yamlFields] using leads_field (hnames f List.mem_cons_self)
      (hvalues f List.mem_cons_self) henters hp hk hnext ts
  | cons g fields ih =>
    obtain ⟨hname, hnames⟩ := List.forall_mem_cons.1 hnames
    obtain ⟨hvalue, hvalues⟩ := List.forall_mem_cons.1 hvalues
    have hmore := ahead_yamlField (hnames g List.mem_cons_self) column
      (yamlFields column fields ++ (List.replicate k ' ' ++ next))
    obtain ⟨q, hq, hleads⟩ := leads_field hname hvalue henters hp (Nat.le_refl column) hmore ts
    have hstays : Enters column inner inner [] := by
      cases henters with
      | opens => exact .stays
      | stays => exact .stays
    rw [arrive_stays (by rw [hq]; exact hstays.le)] at hleads
    obtain ⟨q', hq', hleads'⟩ := ih g hnames hvalues hstays hq
      ((fieldTokens column [f]).reverse ++ (opening ++ ts))
    refine ⟨q', hq', ?_⟩
    rw [fieldTokens_cons, List.reverse_append, List.append_assoc]
    refine Leads.trans ?_ hleads'
    simpa [yamlFields, indentation] using hleads

theorem leads_record {fields : List (String × Manifest)} (f : String × Manifest)
    (hnames : ∀ g ∈ f :: fields, IsField g.1)
    (hvalues : ∀ g ∈ f :: fields, ValueReads (column + 2) g.2) (hp : p.column = column + 2)
    (hk : k ≤ column) (hnext : Ahead next) (outer : List Nat) (ts : List Token) (start : Nat) :
    ∃ q, q.column = k ∧
      Leads (outside ⟨yamlField (column + 2) f ++ (yamlFields (column + 2) fields ++
          (List.replicate k ' ' ++ next)), p⟩ (column :: outer) none true ts)
        (arrive ⟨next, q⟩ (column :: outer) none true
          ((tokens (column + 2) start (.record (f :: fields))).reverse ++ ts)) := by
  have henters : Enters (column + 2) (column :: outer) ((column + 2) :: column :: outer)
      [.blockMapping] := by
    refine .opens fun _ h => ?_
    cases h
    exact Nat.lt_add_of_pos_right Nat.two_pos
  obtain ⟨q, hq, hleads⟩ := leads_fields f hnames hvalues henters hp
    (hk.trans (Nat.le_add_right column 2)) hnext ts
  rw [arrive_closes (show q.column < column + 2 by omega)] at hleads
  refine ⟨q, hq, ?_⟩
  simpa [tokens] using hleads

theorem reads_record {fields : List (String × Manifest)} (hne : fields ≠ [])
    (hnames : ∀ g ∈ fields, IsField g.1) (hvalues : ∀ g ∈ fields, ValueReads (column + 2) g.2) :
    ValueReads column (.record fields) ∧ ItemReads column (.record fields) := by
  obtain ⟨f, fields, rfl⟩ := List.exists_cons_of_ne_nil hne
  refine ⟨⟨fun start r => by rw [yamlValue]; rfl, ?_⟩, ⟨?_, ?_⟩⟩
  · intro p outer ts k next hcolumn hk hnext
    have honward := ahead_yamlField (hnames f List.mem_cons_self) (column + 2)
      (yamlFields (column + 2) fields ++ (List.replicate k ' ' ++ next))
    obtain ⟨q, hq, hleads⟩ := leads_record f hnames hvalues
      (Position.column_newLine p (column + 2)) hk hnext outer ts (p.column + 1)
    refine ⟨q, hq, ?_⟩
    have hreads := reads_line honward.toOnward (Nat.le_add_right column 2) hleads
    simpa [yamlValue, yamlFields, indentation] using hreads
  · intro r
    rw [yamlFrom, List.append_assoc]
    exact (ahead_yamlField (hnames f List.mem_cons_self) _ _).toOnward
  · intro p outer ts k next hcolumn hk hnext
    simpa [yamlFrom] using leads_record f hnames hvalues hcolumn hk hnext outer ts (column + 2)

/-! Lists -/

theorem onward_entry (r : List Char) : Onward ('-' :: ' ' :: r) :=
  onward_cons ink_minus (by decide) _

theorem itemTokens_cons (m : Manifest) (items : List Manifest) :
    itemTokens indent (m :: items) = itemTokens indent [m] ++ itemTokens indent items := by
  simp [itemTokens]

theorem leads_item {m : Manifest} (h : ItemReads column m) (hp : p.column = column)
    (hk : k ≤ column) (hnext : Ahead next) (outer : List Nat) (ts : List Token) : ∃ q, q.column = k ∧
      Leads (outside ⟨'-' :: ' ' :: (yamlFrom (column + 2) m ++ (List.replicate k ' ' ++ next)), p⟩
          (column :: outer) none true ts)
        (arrive ⟨next, q⟩ (column :: outer) none true
          ((itemTokens (column + 2) [m]).reverse ++ ts)) := by
  have honward := h.onward (List.replicate k ' ' ++ next)
  have hopen : (column :: outer).head? = some p.column := by rw [hp]; rfl
  obtain ⟨q, hq, hleads⟩ := h.reads (p.past ['-', ' ']) outer (.entry :: ts) k next
    (hp ▸ column_entry p) hk hnext
  refine ⟨q, hq, ?_⟩
  simpa [itemTokens] using (leads_entry hopen honward).trans hleads

theorem leads_items {items : List Manifest} (m : Manifest)
    (hitems : ∀ i ∈ m :: items, ItemReads column i) (hp : p.column = column) (hk : k ≤ column)
    (hnext : Ahead next) (outer : List Nat) (ts : List Token) : ∃ q, q.column = k ∧
      Leads (outside ⟨'-' :: ' ' :: (yamlFrom (column + 2) m ++ (yamlItems column items ++
          (List.replicate k ' ' ++ next))), p⟩ (column :: outer) none true ts)
        (arrive ⟨next, q⟩ (column :: outer) none true
          ((itemTokens (column + 2) (m :: items)).reverse ++ ts)) := by
  induction items generalizing m p ts with
  | nil =>
    simpa [yamlItems] using leads_item (hitems m List.mem_cons_self) hp hk hnext outer ts
  | cons i items ih =>
    obtain ⟨hm, hitems⟩ := List.forall_mem_cons.1 hitems
    have hmore : Ahead ('-' :: ' ' :: (yamlFrom (column + 2) i ++ (yamlItems column items ++
        (List.replicate k ' ' ++ next)))) := ⟨onward_entry _, rfl⟩
    obtain ⟨q, hq, hleads⟩ := leads_item hm hp (Nat.le_refl column) hmore outer ts
    have hstays : ∀ open' ∈ (column :: outer).head?, open' ≤ q.column := by
      rintro _ ⟨⟩
      exact hq.ge
    rw [arrive_stays hstays] at hleads
    obtain ⟨q', hq', hleads'⟩ := ih i hitems hq ((itemTokens (column + 2) [m]).reverse ++ ts)
    refine ⟨q', hq', ?_⟩
    rw [itemTokens_cons, List.reverse_append, List.append_assoc]
    refine Leads.trans ?_ hleads'
    simpa [yamlItems, indentation] using hleads

theorem reads_list {items : List Manifest} (hne : items ≠ [])
    (hitems : ∀ i ∈ items, ItemReads column i) : ValueReads column (.list items) := by
  obtain ⟨m, items, rfl⟩ := List.exists_cons_of_ne_nil hne
  refine ⟨fun start r => by rw [yamlValue]; rfl, ?_⟩
  intro p outer ts k next hcolumn hk hnext
  obtain ⟨q, hq, hleads⟩ :=
    leads_items m hitems (Position.column_newLine p column) hk hnext outer ts
  refine ⟨q, hq, ?_⟩
  have hreads := reads_line (onward_entry _) (Nat.le_refl column) hleads
  simpa [yamlValue, yamlItems, indentation, tokens] using hreads

theorem Shaped.reads {m : Manifest} (h : Shaped indent m) : ∀ column, indent = column + 2 →
    ValueReads column m ∧ ((∀ inner, m ≠ .list inner) → ItemReads column m) := by
  induction h with
  | @int _ n hn =>
    rintro column rfl
    obtain ⟨hvalue, hitem⟩ := reads_inscribed (m := .int n) (fun start => by rw [yamlValue])
      (by rw [yamlFrom]) (fun start => by rw [tokens])
      fun start => inscribed_integer (column + 2) start n
    exact ⟨hvalue, fun _ => hitem⟩
  | @text _ s hindent =>
    rintro column rfl
    obtain ⟨hvalue, hitem⟩ := reads_inscribed (m := .text s) (fun start => by rw [yamlValue])
      (by rw [yamlFrom]) (fun start => by rw [tokens])
      fun start => Fold.inscribed_scalar (Nat.succ_pos _) hindent start s.toList
    exact ⟨hvalue, fun _ => hitem⟩
  | list hne hitems hinner ih =>
    rintro column rfl
    exact ⟨reads_list hne fun i hi => (ih i hi column rfl).2 (hinner i hi),
      fun h => absurd rfl (h _)⟩
  | record hne hnodup hnames hfields ih =>
    rintro column rfl
    obtain ⟨hvalue, hitem⟩ := reads_record hne hnames fun f hf => (ih f hf (column + 2) rfl).1
    exact ⟨hvalue, fun _ => hitem⟩

/-! Documents -/

theorem finish_outside (p : Position) (ts : List Token) :
    ∃ f, (outside ⟨[], p⟩ [0] none true ts).finish = .ok f ∧
      f.emitted = .finish :: .blockEnd :: ts :=
  ⟨_, rfl, rfl⟩

theorem tokens_toYaml {fields : List (String × Manifest)} (h : Shaped 0 (.record fields)) :
    Yaml.tokens (toYaml (.record fields)).toList = tokens 0 0 (.record fields) ++ [.finish] := by
  obtain ⟨hne, -, hnames, hfields⟩ : fields ≠ [] ∧ (fields.map (·.1)).Nodup ∧
      (∀ f ∈ fields, IsField f.1) ∧ ∀ f ∈ fields, Shaped 2 f.2 := by
    cases h with
    | record hne hnodup hnames hfields => exact ⟨hne, hnodup, hnames, hfields⟩
  obtain ⟨f, fields, rfl⟩ := List.exists_cons_of_ne_nil hne
  have hvalues : ∀ g ∈ f :: fields, ValueReads 0 g.2 := fun g hg => ((hfields g hg).reads 0 rfl).1
  have henters : Enters 0 [] [0] [.blockMapping] := .opens (by simp)
  have hend : Ahead [] := ⟨⟨Text.stopsAt_nil, by simp⟩, rfl⟩
  obtain ⟨q, hq, hleads⟩ :=
    leads_fields f hnames hvalues henters (p := {}) rfl (Nat.le_refl 0) hend []
  generalize htext :
    yamlField 0 f ++ (yamlFields 0 fields ++ (List.replicate 0 ' ' ++ [])) = cs at hleads
  have hcs : (toYaml (.record (f :: fields))).toList = cs := by
    rw [← htext, toYaml, String.toList_ofList, yamlFrom]
    simp
  have honward : Onward cs := by
    rw [← htext]
    exact (ahead_yamlField (hnames f List.mem_cons_self) _ _).toOnward
  have hstart :
      (outside ⟨cs, {}⟩ [] none true []).toNext = .ok (outside ⟨cs, {}⟩ [] none true []) :=
    toNext_outside (skipBetween_spaces honward 0 _ _) rfl
  rw [arrive_stays (by rw [hq]; rintro _ ⟨⟩; rfl)] at hleads
  obtain ⟨fuel, s, hs, hfuel, hrun⟩ := hleads (cs.length + 2) _ hstart (by simp [outside])
  obtain ⟨last, hfinish, hemitted⟩ := finish_outside q ((fieldTokens 0 (f :: fields)).reverse ++
    ([.blockMapping] ++ []))
  have hmark : cs.head? ≠ some byteOrderMark := fun hhead => by
    have husual := usual_toYaml (.record (f :: fields)) byteOrderMark
      (hcs ▸ List.mem_of_head? hhead)
    exact absurd husual (by decide)
  calc Yaml.tokens (toYaml (.record (f :: fields))).toList
      = run (cs.length + 2) (outside ⟨cs, {}⟩ [] none true []) := by
        rw [hcs, Yaml.tokens, if_neg hmark]
        rfl
    _ = last.emitted.reverse := hrun.trans (run_finish hs rfl hfinish (Nat.zero_lt_of_lt hfuel))
    _ = tokens 0 0 (.record (f :: fields)) ++ [.finish] := by
        rw [hemitted, tokens]
        simp

end EnvoySidecar.Manifest
