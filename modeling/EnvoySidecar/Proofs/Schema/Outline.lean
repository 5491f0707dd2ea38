import Mathlib.Logic.Relation
import Mathlib.Data.List.Nodup
import EnvoySidecar.Schema.Model

/-! What checks read of a value. An outline names the fields that are read of a map. Entries under
other names and the order of entries, at any depth, are changes that a check with this outline does
not notice. -/

namespace EnvoySidecar

namespace Value

variable {name : String} {es es' : List (Value × Value)} {k v : Value}

theorem field?_cons_self (name : String) (v : Value) (es : List (Value × Value)) :
    field? name ((.text name, v) :: es) = some v :=
  if_pos rfl

theorem field?_cons_of_ne (h : k ≠ .text name) : field? name ((k, v) :: es) = field? name es := by
  cases k with
  | text s => exact if_neg fun hs => h (congrArg Value.text hs)
  | _ => rfl

theorem field?_append (name : String) (es es' : List (Value × Value)) :
    field? name (es ++ es') = (field? name es).or (field? name es') := by
  induction es with
  | nil => rfl
  | cons e es ih =>
    obtain ⟨k, v⟩ := e
    rw [List.cons_append]
    by_cases h : k = .text name
    · rw [h, field?_cons_self, field?_cons_self, Option.some_or]
    · rw [field?_cons_of_ne h, field?_cons_of_ne h, ih]

theorem field?_perm (h : es.Perm es') (hkeys : (es.map Prod.fst).Nodup) (name : String) :
    field? name es = field? name es' := by
  induction h with
  | nil => rfl
  | @cons e es es' _ ih =>
    obtain ⟨k, v⟩ := e
    by_cases hk : k = .text name
    · rw [hk, field?_cons_self, field?_cons_self]
    · rw [field?_cons_of_ne hk, field?_cons_of_ne hk, ih (List.nodup_cons.1 hkeys).2]
  | swap e e' es =>
    obtain ⟨k, v⟩ := e
    obtain ⟨k', v'⟩ := e'
    by_cases hk : k = .text name
    · have hk' : k' ≠ .text name := by
        rintro rfl
        exact (List.nodup_cons.1 hkeys).1 (by simp [hk])
      rw [field?_cons_of_ne hk', hk, field?_cons_self, field?_cons_self]
    · rw [field?_cons_of_ne hk]
      by_cases hk' : k' = .text name
      · rw [hk', field?_cons_self, field?_cons_self]
      · rw [field?_cons_of_ne hk', field?_cons_of_ne hk', field?_cons_of_ne hk]
  | trans h _ ih ih' => exact (ih hkeys).trans (ih' ((h.map _).nodup_iff.1 hkeys))

end Value

namespace Schema

theorem required_eq_getD {α : Type} (name : String) (check : Check α) (es : Entries) :
    required name check es =
      (((Value.field? name es).map check).getD (.fail .missing)).under (.field name) := by
  unfold required
  cases Value.field? name es <;> rfl

theorem optional_eq_getD {α : Type} (name : String) (default : α) (check : Check α)
    (es : Entries) :
    optional name default check es =
      (((Value.field? name es).map check).map (·.under (.field name))).getD (.ok default) := by
  unfold optional
  cases Value.field? name es <;> rfl

/-- The names that are read of a map, each with what is read of its value. -/
inductive Outline where
  | fields (parts : List (String × Outline))

namespace Outline

def leaf : Outline :=
  fields []

def leaves (names : List String) : List (String × Outline) :=
  names.map fun name => (name, leaf)

def flat (names : List String) : Outline :=
  fields (leaves names)

def names : Outline → List String
  | fields parts => parts.map (·.1)

def under (name : String) : Outline → Outline
  | fields parts => (parts.lookup name).getD leaf

/-- One change to what an outline leaves out. -/
inductive Change : Outline → Value → Value → Prop where
  | reorder {o : Outline} {es es' : Entries} (h : es.Perm es')
      (hkeys : (es.map Prod.fst).Nodup) : Change o (.map es) (.map es')
  | insert {o : Outline} (before : Entries) (name : String) (v : Value) (after : Entries)
      (h : name ∉ o.names) :
      Change o (.map (before ++ after)) (.map (before ++ (.text name, v) :: after))
  | inside {o : Outline} {v v' : Value} (before : Entries) (name : String) (after : Entries)
      (h : Change (o.under name) v v') :
      Change o (.map (before ++ (.text name, v) :: after))
        (.map (before ++ (.text name, v') :: after))
  | item {o : Outline} {v v' : Value} (before after : List Value) (h : Change leaf v v') :
      Change o (.list (before ++ v :: after)) (.list (before ++ v' :: after))

def Rearranged (o : Outline) : Entries → Entries → Prop :=
  Relation.EqvGen fun es es' => Change o (.map es) (.map es')

/-- A check that takes no notice of what its outline leaves out. -/
def Blind {α : Type} (o : Outline) (check : Check α) : Prop :=
  ∀ v v', Change o v v' → check v = check v'

variable {α : Type} {o : Outline} {check : Check α} {es es' : Entries} {name : String}

theorem blind_of_flat (hmap : ∀ es es', check (.map es) = check (.map es'))
    (hlist : ∀ vs vs', check (.list vs) = check (.list vs')) : Blind o check := by
  intro v v' h
  cases h with
  | reorder => exact hmap _ _
  | insert => exact hmap _ _
  | inside => exact hmap _ _
  | item => exact hlist _ _

theorem blind_model {title : String} {check : Entries → Checked α}
    (h : ∀ es es', Change o (.map es) (.map es') → check es = check es') :
    Blind o (model title check) := by
  intro v v' hchange
  cases hchange with
  | reorder hperm hkeys => exact h _ _ (.reorder hperm hkeys)
  | insert before name v after hname => exact h _ _ (.insert before name v after hname)
  | inside before name after hinside => exact h _ _ (.inside before name after hinside)
  | item => rfl

theorem Change.field? (h : Change o (.map es) (.map es')) (hname : name ∈ o.names)
    (hcheck : Blind (o.under name) check) :
    (Value.field? name es).map check = (Value.field? name es').map check := by
  cases h with
  | reorder hperm hkeys => rw [Value.field?_perm hperm hkeys]
  | insert before name' v after hname' =>
    have hne : Value.text name' ≠ .text name := by
      rintro ⟨⟩
      exact hname' hname
    rw [Value.field?_append, Value.field?_append, Value.field?_cons_of_ne hne]
  | @inside _ v v' before name' after hinside =>
    rw [Value.field?_append, Value.field?_append]
    by_cases hsame : name' = name
    · subst hsame
      rw [Value.field?_cons_self, Value.field?_cons_self]
      cases Value.field? name' before with
      | none => exact congrArg some (hcheck v v' hinside)
      | some w => rfl
    · have hne : Value.text name' ≠ .text name := fun heq => hsame (Value.text.inj heq)
      rw [Value.field?_cons_of_ne hne, Value.field?_cons_of_ne hne]

theorem Change.required (h : Change o (.map es) (.map es')) (name : String)
    (hname : name ∈ o.names) (hcheck : Blind (o.under name) check) :
    required name check es = required name check es' := by
  rw [required_eq_getD, required_eq_getD, h.field? hname hcheck]

theorem Change.optional (h : Change o (.map es) (.map es')) (name : String) (default : α)
    (hname : name ∈ o.names) (hcheck : Blind (o.under name) check) :
    optional name default check es = optional name default check es' := by
  rw [optional_eq_getD, optional_eq_getD, h.field? hname hcheck]

end Outline

end Schema

end EnvoySidecar
