import EnvoySidecar.Proofs.Yaml.Grammar
import EnvoySidecar.Proofs.Yaml.Layout
import EnvoySidecar.Yaml.Document

/-! Which nodes a document's faults come from. A fault that is none of form arises at a scalar that
denotes nothing under its tag, at a collection among keys, at an integer too long to be shown
beside a key that is repeated, or in a list of entries of which one is repeated. -/

namespace EnvoySidecar.Value

theorem areWritable_eq (xs : List Value) : areWritable xs = xs.all isWritable := by
  induction xs with
  | nil => rfl
  | cons x rest ih => rw [areWritable, ih, List.all_cons]

theorem entriesWritable_eq (es : List (Value × Value)) :
    entriesWritable es = es.all fun e => e.1.isWritable && e.2.isWritable := by
  induction es with
  | nil => rfl
  | cons e rest ih => rw [entriesWritable, ih, List.all_cons]

theorem areWritable_keys {es : List (Value × Value)} (h : entriesWritable es = true) :
    areWritable (es.map (·.1)) = true := by
  rw [entriesWritable_eq, List.all_eq_true] at h
  rw [areWritable_eq, List.all_map, List.all_eq_true]
  exact fun e he => (Bool.and_eq_true_iff.1 (h e he)).1

theorem areWritable_pairs (es : List (Value × Value)) :
    areWritable (es.map fun e => .list [e.1, e.2]) = entriesWritable es := by
  rw [entriesWritable_eq, areWritable_eq, List.all_map]
  congr 1
  funext e
  simp [isWritable, areWritable]

end EnvoySidecar.Value

namespace EnvoySidecar.Yaml

inductive Fault.IsUnhashable : Fault → Prop
  | form (reason : String) : IsUnhashable (.malformed reason)
  | collection (name : String) : IsUnhashable (.unhashable name)

theorem Atom.yields_ofValue (x : Value) :
    Yields Fault.IsUnhashable (fun _ => True) (Atom.ofValue x) := by
  cases x with
  | float x =>
    rw [Atom.ofValue]
    split <;> trivial
  | list _ | map _ | set _ => exact .collection _
  | decimal _ | tuple _ | frozenSet _ | iterable _ => exact .form _
  | _ => trivial

theorem MapKey.yields_ofValue (x : Value) :
    Yields Fault.IsUnhashable (fun _ => True) (MapKey.ofValue x) := by
  cases x with
  | list items => exact Yields.map (Yields.mapM fun x _ => Atom.yields_ofValue x) fun _ _ => trivial
  | map _ | set _ | decimal _ | tuple _ | frozenSet _ | iterable _ => exact .form _
  | float x =>
    exact Yields.map (R := fun _ => True) (Atom.yields_ofValue (.float x)) fun _ _ => trivial
  | _ => trivial

theorem MapKey.ofValue_of_atom {x : Value} {a : Atom} (h : Atom.ofValue x = .ok a) :
    MapKey.ofValue x = .ok (.atom a) := by
  cases x with
  | list _ | map _ | set _ => cases h
  | _ =>
    rw [MapKey.ofValue, h]
    · rfl
    all_goals rintro _ ⟨⟩

namespace Node

inductive Part (root : Node) : Node → Prop
  | root : Part root root
  | item {t : Tag} {items : List Node} {n : Node} :
      Part root (.list t items) → n ∈ items → Part root n
  | key {t : Tag} {es : Pairs} {key item : Node} :
      Part root (.map t es) → (key, item) ∈ es → Part root key
  | entry {t : Tag} {es : Pairs} {key item : Node} :
      Part root (.map t es) → (key, item) ∈ es → Part root item

inductive Reads (root : Node) : Tag → String → Prop
  | scalar {t : Tag} {s : String} : Part root (.scalar t s) → Reads root t s
  | default {t t' : Tag} {es : Pairs} {s : String} : Part root (.map t es) →
      Part (.map t es) (.scalar t' s) → Reads root t s

/-- Faults that the nodes of a document are to blame for. -/
inductive Blames (v : Version) (root : Node) : Fault → Prop
  | form (reason : String) : Blames v root (.malformed reason)
  | scalar {t : Tag} {s : String} {f : Fault} : Reads root t s → Scalar.value v t s = .error f →
      Blames v root f
  | key {t : Tag} {es : Pairs} {key item : Node} (collection : String) : Part root (.map t es) →
      (key, item) ∈ es → isCollection key.tag = true → Blames v root (.unhashable collection)
  | longInteger {t : Tag} {s : String} {x : Value} : Reads root t s →
      Scalar.value v t s = .ok x → x.isWritable = false → Blames v root .unwritable
  | entry {items : List Node} : Part root (.list .omap items) → Blames v root .repeatedEntry

variable {v : Version} {root : Node}

def Shown (v : Version) (root : Node) (writable : Bool) : Prop :=
  writable = true ∨ Blames v root .unwritable

def Keyed (v : Version) (root : Node) (x : Value) : Prop :=
  (∃ a, Atom.ofValue x = .ok a) ∨ ∀ collection, Blames v root (.unhashable collection)

abbrev Traced {α : Type} (v : Version) (root : Node) (Q : α → Prop) (x : Valued α) : Prop :=
  Yields (fun e => Blames v root e.fault) Q x

theorem Traced.both {α β : Type} {Q : α → Prop} {R : β → Prop} {x : Valued α} {y : Valued β}
    (hx : Traced v root Q x) (hy : Traced v root R y) :
    Traced v root (fun p => Q p.1 ∧ R p.2) (both x y) := by
  cases x with
  | ok a =>
    cases y with
    | ok b => exact ⟨hx, hy⟩
    | error g => exact hy
  | error f =>
    cases y with
    | ok b => exact hx
    | error g =>
      show Blames v root (if g.level < f.level then g else f).fault
      split
      · exact hy
      · exact hx

theorem Traced.late {α : Type} {Q : α → Prop} {x : Except Fault α} (level : Nat)
    (h : Yields (Blames v root) Q x) : Traced v root Q (late level x) := by
  cases x with
  | ok a => exact h
  | error f => exact h

theorem atom_of_scalar {t : Tag} {s : String} {x : Value} (h : Scalar.value v t s = .ok x) :
    ∃ a, Atom.ofValue x = .ok a := by
  cases t with
  | null | text =>
    cases h
    exact ⟨_, rfl⟩
  | bool =>
    rw [Scalar.value, Scalar.flag] at h
    split at h
    · cases h
      exact ⟨_, rfl⟩
    · split at h <;> cases h
      exact ⟨_, rfl⟩
  | int =>
    rw [Scalar.value, Scalar.integer] at h
    split at h
    · cases h
    · dsimp only at h
      split at h <;> cases h
      exact ⟨_, rfl⟩
  | float =>
    rw [Scalar.value, Scalar.float] at h
    split at h
    · cases h
    · dsimp only at h
      split at h <;> cases h
      rw [Atom.ofValue]
      split <;> exact ⟨_, rfl⟩
  | timestamp =>
    rw [Scalar.value, Scalar.timestamp] at h
    split at h
    · next m _ =>
      cases hm : Scalar.moment m <;> rw [hm] at h <;> cases h
      exact ⟨_, rfl⟩
    · cases h
  | binary =>
    rw [Scalar.value, Scalar.binary] at h
    split at h
    · cases h
    · split at h <;> cases h
      exact ⟨_, rfl⟩
  | _ => cases h

theorem traced_scalar {t : Tag} {s : String} (h : Reads root t s) :
    Yields (Blames v root)
      (fun x => (∃ a, Atom.ofValue x = .ok a) ∧ Shown v root x.isWritable)
      (Scalar.value v t s) := by
  cases hx : Scalar.value v t s with
  | error f => exact .scalar h hx
  | ok x =>
    refine ⟨atom_of_scalar hx, ?_⟩
    cases hw : x.isWritable with
    | true => exact .inl rfl
    | false => exact .inr (.longInteger h hx hw)

theorem part_of_defaultText? {fuel : Nat} {n : Node} {s : String} (hn : Part root n)
    (h : defaultText? fuel n = some s) : ∃ t, Part root (.scalar t s) := by
  induction fuel generalizing n with
  | zero =>
    cases n with
    | scalar t s' =>
      cases h
      exact ⟨t, hn⟩
    | _ => cases h
  | succ fuel ih =>
    cases n with
    | scalar t s' =>
      cases h
      exact ⟨t, hn⟩
    | list => cases h
    | map t es =>
      rw [defaultText?, Option.bind_eq_some_iff] at h
      obtain ⟨⟨key, item⟩, hfind, hitem⟩ := h
      exact ih (.entry hn (List.mem_of_find?_eq_some hfind)) hitem

inductive Entry (root : Node) : Node × Node → Prop
  | own {t : Tag} {es : Pairs} {key item : Node} : Part root (.map t es) → (key, item) ∈ es →
      Entry root (key, item)
  | default {item : Node} (s : String) : Part root item → Entry root (.scalar .text s, item)

theorem Entry.item {p : Node × Node} (h : Entry root p) : Part root p.2 := by
  cases h with
  | own hmap hmem => exact .entry hmap hmem
  | default _ hitem => exact hitem

theorem forall_entry_append {es es' : Pairs} (h : ∀ p ∈ es, Entry root p)
    (h' : ∀ p ∈ es', Entry root p) : ∀ p ∈ es ++ es', Entry root p :=
  fun p hp => (List.mem_append.1 hp).elim (h p) (h' p)

theorem merge_entries (fuel : Nat) {es : Pairs} (hes : ∀ p ∈ es, Entry root p) :
    Yields (fun f => ∃ reason, f = Fault.malformed reason) (fun m => ∀ p ∈ m.all, Entry root p)
      (merge fuel es) := by
  induction fuel generalizing es with
  | zero => exact ⟨_, rfl⟩
  | succ fuel ih =>
    rw [merge]
    refine Yields.foldlM (R := fun m : Merged => ∀ p ∈ m.all, Entry root p) ?_ (by simp [Merged.all])
    rintro m hm ⟨key, value⟩ hp
    have hvalue : Part root value := (hes _ hp).item
    have hown : ∀ p ∈ m.own, Entry root p := fun p hp => hm p (List.mem_append_right _ hp)
    have hmap : ∀ {t : Tag} {es : Pairs}, Part root (.map t es) → ∀ p ∈ es, Entry root p :=
      fun h p hp => .own h hp
    have hput : ∀ {key item : Node}, Entry root (key, item) →
        ∀ p ∈ ({ m with own := m.own ++ [(key, item)] } : Merged).all, Entry root p := by
      intro key item he
      refine forall_entry_append (fun p hp => hm p (List.mem_append_left _ hp)) ?_
      exact forall_entry_append hown (by simpa using he)
    dsimp only
    split
    · refine .ite (fun _ => ⟨_, rfl⟩) fun _ => ?_
      split
      · next t es => exact (ih (hmap hvalue)).bind fun other h => forall_entry_append h hown
      · next t items =>
        refine Yields.bind (Q := fun parts => ∀ es ∈ parts, ∀ p ∈ es, Entry root p)
          (Yields.mapM fun n hn => ?_) fun parts h => forall_entry_append (fun p hp => ?_) hown
        · split
          · exact (ih (hmap (.item hvalue hn))).bind fun other h => h
          · exact ⟨_, rfl⟩
        · obtain ⟨es, hes, hp⟩ := List.mem_flatten.1 hp
          exact h es (List.mem_reverse.1 hes) p hp
      · exact ⟨_, rfl⟩
    · split
      · exact hput (.default _ hvalue)
      · exact hput (hes _ hp)
    · exact hput (hes _ hp)

namespace Shown

theorem and {a b : Bool} (ha : Shown v root a) (hb : Shown v root b) : Shown v root (a && b) := by
  rcases ha with rfl | ha
  · exact hb
  · exact .inr ha

theorem mono {a b : Bool} (ha : Shown v root a) (hab : a = true → b = true) : Shown v root b :=
  ha.imp_left hab

theorem or {b : Bool} (a : Bool) (hb : Shown v root b) : Shown v root (a || b) := by
  rcases hb with rfl | hb
  · exact .inl (Bool.or_true a)
  · exact .inr hb

theorem repeatedKey {b : Bool} (hb : Shown v root b) : Blames v root (repeatedKey b) := by
  cases b with
  | true => exact .form _
  | false =>
    rcases hb with hb | hb
    · cases hb
    · exact hb

end Shown

structure Fits (v : Version) (root n : Node) (x : Value) : Prop where
  atom : isCollection n.tag = false → ∃ a, Atom.ofValue x = .ok a
  shown : Shown v root x.isWritable

theorem Fits.collection {n : Node} {x : Value} {t : Tag} (htag : n.tag = t)
    (ht : isCollection t = true) (h : Shown v root x.isWritable) : Fits v root n x := by
  subst htag
  exact ⟨fun hno => absurd ht (by simp [hno]), h⟩

def Stands (root n : Node) : Prop :=
  Part root n ∨ ∃ s, n = .scalar .text s

theorem Entry.key {p : Node × Node} (h : Entry root p) : Stands root p.1 := by
  cases h with
  | own hmap hmem => exact .inl (.key hmap hmem)
  | default s _ => exact .inr ⟨s, rfl⟩

theorem Entry.keyed {key item : Node} {k : Value} (h : Entry root (key, item))
    (hk : Fits v root key k) : Keyed v root k := by
  cases hkey : isCollection key.tag with
  | false => exact .inl (hk.atom hkey)
  | true =>
    cases h with
    | own hmap hmem => exact .inr fun _ => .key _ hmap hmem hkey
    | default => cases hkey

theorem blames_of_unhashable {f : Fault} (hf : f.IsUnhashable)
    (h : ∀ collection, Blames v root (.unhashable collection)) : Blames v root f := by
  cases hf with
  | form => exact .form _
  | collection name => exact h name

theorem Keyed.atom {k : Value} (h : Keyed v root k) :
    Yields (Blames v root) (fun _ => True) (Atom.ofValue k) := by
  rcases h with ⟨a, ha⟩ | h
  · rw [ha]
    trivial
  · cases hk : Atom.ofValue k with
    | ok a => trivial
    | error f => exact blames_of_unhashable ((Atom.yields_ofValue k).of_error hk) h

theorem Keyed.mapKey {k : Value} (h : Keyed v root k) :
    Yields (Blames v root) (fun _ => True) (MapKey.ofValue k) := by
  rcases h with ⟨a, ha⟩ | h
  · rw [MapKey.ofValue_of_atom ha]
    trivial
  · cases hk : MapKey.ofValue k with
    | ok a => trivial
    | error f => exact blames_of_unhashable ((MapKey.yields_ofValue k).of_error hk) h

section Parts

variable {valueOf : Bool → Node → Valued Value} {whole : Bool} {level : Nat}

def Values (v : Version) (root : Node) (valueOf : Bool → Node → Valued Value) : Prop :=
  ∀ whole n, Stands root n → Traced v root (Fits v root n) (valueOf whole n)

theorem traced_values (hval : Values v root valueOf) {items : List Node}
    (hitems : ∀ n ∈ items, Part root n) :
    Traced v root (fun xs => Shown v root (Value.areWritable xs))
      (values valueOf whole items) := by
  induction items with
  | nil => exact .inl rfl
  | cons n rest ih =>
    obtain ⟨hn, hrest⟩ := List.forall_mem_cons.1 hitems
    exact Yields.map (Traced.both (hval _ _ (.inl hn)) (ih hrest)) fun _ h => h.1.shown.and h.2

theorem traced_singles (hval : Values v root valueOf) {items : List Node}
    (hitems : ∀ n ∈ items, Part root n) :
    Traced v root (fun es => (∀ e ∈ es, Keyed v root e.1) ∧ Shown v root (Value.entriesWritable es))
      (singles valueOf whole level items) := by
  induction items with
  | nil => exact ⟨by simp, .inl rfl⟩
  | cons n rest ih =>
    obtain ⟨hn, hrest⟩ := List.forall_mem_cons.1 hitems
    unfold singles
    split
    · exact ⟨by simp, .inl rfl⟩
    · next t key item rest' heq =>
      obtain ⟨rfl, rfl⟩ := List.cons.inj heq
      have he : Entry root (key, item) := .own hn List.mem_cons_self
      have hpair := Traced.both (hval whole key he.key) (hval whole item (.inl he.item))
      refine Yields.map (Traced.both hpair (ih hrest)) fun r h => ⟨?_, ?_⟩
      · exact List.forall_mem_cons.2 ⟨he.keyed h.1.1, h.2.1⟩
      · exact (h.1.1.shown.and h.1.2.shown).and h.2.2
    · exact .form _

theorem shown_isShown {n : Node} {x : Valued Value} (hx : Traced v root (Fits v root n) x) :
    Shown v root (isShown whole n x) := by
  cases x with
  | error e => exact .inl rfl
  | ok a => exact Shown.or _ hx.shown

theorem traced_entries (hval : Values v root valueOf) {es : Pairs}
    (hes : ∀ p ∈ es, Entry root p) {seen : Option (List (MapKey × Bool))}
    (hseen : ∀ ks, seen = some ks → ∀ e ∈ ks, Shown v root e.2) :
    Traced v root (fun es => Shown v root (Value.entriesWritable es))
      (entries valueOf whole level seen es) := by
  induction es generalizing seen with
  | nil => exact .inl rfl
  | cons p rest ih =>
    obtain ⟨key, item⟩ := p
    obtain ⟨hp, hrest⟩ := List.forall_mem_cons.1 hes
    unfold entries
    refine Yields.bind (hval true key hp.key) fun k hk => ?_
    refine Yields.bind (Traced.late level (hp.keyed hk).mapKey) fun known _ => ?_
    have hitem := hval whole item (.inl hp.item)
    refine Yields.map (Traced.both hitem (R := fun es => Shown v root (Value.entriesWritable es)) ?_)
      fun r h => (hk.shown.and h.1.shown).and h.2
    split
    · next first hfirst =>
      obtain ⟨ks, hks, hfind⟩ := Option.bind_eq_some_iff.1 hfirst
      exact ((hk.shown.and (shown_isShown hitem)).and
        (hseen ks hks first (List.mem_of_find?_eq_some hfind))).repeatedKey
    · refine ih hrest fun ks hks => ?_
      obtain ⟨ks', hks', rfl⟩ := Option.map_eq_some_iff.1 hks
      exact List.forall_mem_cons.2 ⟨shown_isShown hitem, hseen ks' hks'⟩

theorem traced_merged (hval : Values v root valueOf) {m : Merged}
    (hm : ∀ p ∈ m.all, Entry root p) :
    Traced v root (fun es => Shown v root (Value.entriesWritable es))
      (merged valueOf whole level m) := by
  unfold merged
  refine .ite (fun _ => ?_) fun _ => ?_
  · refine traced_entries hval (fun p hp => hm p (List.mem_append_right _ hp)) fun ks hks => ?_
    cases hks
    simp
  · refine Yields.map (traced_entries hval hm fun ks hks => by cases hks) fun es h => ?_
    rwa [Value.entriesWritable_eq, List.all_reverse, ← Value.entriesWritable_eq]

end Parts

theorem traced_merge {es : Pairs} (fuel level : Nat) (hes : ∀ p ∈ es, Entry root p) :
    Traced v root (fun m => ∀ p ∈ m.all, Entry root p) (late level (merge fuel es)) := by
  refine Traced.late level ?_
  have h := merge_entries fuel hes
  cases hm : merge fuel es with
  | ok m => exact h.of_ok hm
  | error f =>
    obtain ⟨reason, rfl⟩ := h.of_error hm
    exact .form reason

theorem traced_standing {t : Tag} {s : String} (h : Stands root (.scalar t s)) :
    Yields (Blames v root)
      (fun x => (∃ a, Atom.ofValue x = .ok a) ∧ Shown v root x.isWritable)
      (Scalar.value v t s) := by
  rcases h with h | ⟨s, ⟨⟩⟩
  · exact traced_scalar (.scalar h)
  · exact ⟨⟨_, rfl⟩, .inl rfl⟩

theorem traced_value (fuel : Nat) : ∀ level, Values v root (value v fuel level) := by
  induction fuel with
  | zero => exact fun _ _ _ _ => .form _
  | succ fuel ih =>
    intro level whole n hn
    unfold value
    dsimp only
    -- a key of no map's own is a scalar, so that every collection is a part of the document
    split
    · next t items htag =>
      have hpart : Part root (.list t items) := hn.resolve_right (by rintro ⟨s, ⟨⟩⟩)
      exact Yields.map (traced_values (ih _) fun n hn => .item hpart hn) fun xs h =>
        .collection htag rfl h
    · next t es htag =>
      have hpart : Part root (.map t es) := hn.resolve_right (by rintro ⟨s, ⟨⟩⟩)
      refine Yields.bind (traced_merge _ _ fun p hp => .own hpart hp) fun m hm => ?_
      exact (traced_merged (ih _) hm).bind fun xs h => Fits.collection htag rfl h
    · next t es htag =>
      have hpart : Part root (.map t es) := hn.resolve_right (by rintro ⟨s, ⟨⟩⟩)
      refine Yields.bind (traced_merge _ _ fun p hp => .own hpart hp) fun m hm => ?_
      exact (traced_merged (ih _) hm).bind fun xs h =>
        Fits.collection htag rfl (h.mono Value.areWritable_keys)
    · next t items htag =>
      have hpart : Part root (.list t items) := hn.resolve_right (by rintro ⟨s, ⟨⟩⟩)
      exact Yields.map (traced_singles (ih _) fun n hn => .item hpart hn) fun es h =>
        .collection htag rfl (h.2.mono (Value.areWritable_pairs es).trans)
    · next t items htag =>
      have hpart : Part root (.list t items) := hn.resolve_right (by rintro ⟨s, ⟨⟩⟩)
      refine Yields.bind (traced_singles (ih _) fun n hn => .item hpart hn) fun es h => ?_
      have hkeys : Yields (Blames v root) (fun _ => True) (es.mapM fun e => Atom.ofValue e.1) :=
        (Yields.mapM fun e he => (h.1 e he).atom).mono fun _ _ => trivial
      refine Yields.bind (Traced.late _ hkeys) fun keys _ => .ite (fun _ => ?_) fun _ => ?_
      · exact Fits.collection htag rfl h.2
      · cases htag
        exact .entry hpart
    · exact Traced.late _ ((traced_standing hn).mono fun x h => ⟨fun _ => h.1, h.2⟩)
    · exact .form _
    · next t es _ _ _ =>
      have hpart : Part root (.map t es) := hn.resolve_right (by rintro ⟨s, ⟨⟩⟩)
      split
      · next s hs =>
        obtain ⟨t', hs⟩ := part_of_defaultText? .root hs
        exact Traced.late _ ((traced_scalar (.default hpart hs)).mono fun x h => ⟨fun _ => h.1, h.2⟩)
      · exact .form _
    · exact .form _

end Node

/-- Where a fault of a text comes from: a token that cannot be read, the version that a directive
names, or a node of the document. -/
inductive Origin (cs : List Char) : Fault → Prop
  | token {f : Fault} : .fault f ∈ tokens (Text.unifyLines cs) → f.IsLexical → Origin cs f
  | version {minor : Nat} : .directive (.version 1 minor) ∈ tokens (Text.unifyLines cs) →
      minor ≠ 1 → minor ≠ 2 → Origin cs (.unknownVersion 1 minor)
  | node {v : Version} {root : Node} {f : Fault} :
      Node.ofTokens (tokens (Text.unifyLines cs)) = .ok (v, root) → root.Blames v f → Origin cs f

theorem read_origin (cs : List Char) :
    Yields (fun f => (∃ reason, f = .malformed reason) ∨ Origin cs f) (fun _ => True)
      (read cs) := by
  refine .ite (fun _ => .inl ⟨_, rfl⟩) fun _ => ?_
  refine Yields.bind (Q := fun p => Node.ofTokens (tokens (Text.unifyLines cs)) = .ok p) ?_
    fun p hp => ?_
  · cases hparse : Node.ofTokens (tokens (Text.unifyLines cs)) with
    | ok p => rfl
    | error f =>
      cases Node.ofTokens_error hparse with
      | form reason => exact .inl ⟨reason, rfl⟩
      | text hmem => exact .inr (.token hmem (isLexical_of_mem_tokens hmem))
      | version hmem hone htwo => exact .inr (.version hmem hone htwo)
  · have hvalue : Node.Values p.1 p.2 (Node.value p.1 (2 * (tokens (Text.unifyLines cs)).length + 4) 0) :=
      Node.traced_value _ _
    exact ((hvalue false p.2 (.inl .root)).mono fun _ _ => trivial).mapError fun e he => .inr (.node hp he)

end EnvoySidecar.Yaml
