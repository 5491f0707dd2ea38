import EnvoySidecar.Proofs.Manifest

/-! Manifests along paths, through fields by name and through lists by position. Two manifests are
the same data if the same is found on every path; the order of a record's fields does not count. -/

namespace EnvoySidecar.Manifest

open Schema

def item? (i : Nat) : Manifest → Option Manifest
  | .list items => items[i]?
  | _ => none

def part? : Step → Manifest → Option Manifest
  | .field name, m => m.get? name
  | .item i, m => m.item? i

def at? : List Step → Manifest → Option Manifest
  | [], m => some m
  | s :: path, m => (m.part? s).bind (at? path)

def shallow : Manifest → Manifest
  | .list _ => .list []
  | .record _ => .record []
  | m => m

def Same (m m' : Manifest) : Prop :=
  ∀ path, (m.at? path).map shallow = (m'.at? path).map shallow

def textAt (names : List String) (m : Manifest) : String :=
  match m.at? (names.map Step.field) with
  | some (.text s) => s
  | _ => ""

variable {m m' a b : Manifest} {path : List Step} {name key : String}

theorem at?_append (path rest : List Step) (m : Manifest) :
    m.at? (path ++ rest) = (m.at? path).bind (at? rest) := by
  induction path generalizing m with
  | nil => rfl
  | cons s path ih =>
    rw [List.cons_append, at?, at?, Option.bind_assoc]
    exact congrArg _ (funext ih)

theorem at?_singleton (s : Step) (m : Manifest) : m.at? [s] = m.part? s :=
  Option.bind_fun_some _

namespace Same

protected theorem refl (m : Manifest) : Same m m := fun _ => rfl

theorem below (h : Same m m') (ha : m.at? path = some a) (hb : m'.at? path = some b) :
    Same a b := by
  intro rest
  have hrest := h (path ++ rest)
  rwa [at?_append, at?_append, ha, hb] at hrest

theorem at? (h : Same m m') (path : List Step) :
    Option.Rel Same (m.at? path) (m'.at? path) := by
  have hpath := h path
  cases ha : m.at? path with
  | none =>
    rw [ha, Option.map_none, eq_comm, Option.map_eq_none_iff] at hpath
    rw [hpath]
    exact .none
  | some a =>
    rw [ha, Option.map_some, eq_comm, Option.map_eq_some_iff] at hpath
    obtain ⟨b, hb, -⟩ := hpath
    rw [hb]
    exact .some (h.below ha hb)

theorem text {s t : String} (h : Same (.text s) (.text t)) : s = t :=
  Manifest.text.inj (Option.some.inj (h []))

theorem int {n n' : Int} (h : Same (.int n) (.int n')) : n = n' :=
  Manifest.int.inj (Option.some.inj (h []))

theorem textAt (h : Same m m') (names : List String) : m.textAt names = m'.textAt names := by
  have hpath := h (names.map Step.field)
  unfold Manifest.textAt
  revert hpath
  generalize m.at? _ = x
  generalize m'.at? _ = y
  intro hpath
  rcases x with _ | x <;> rcases y with _ | y
  · rfl
  · cases hpath
  · cases hpath
  · cases x <;> cases y <;> cases hpath <;> rfl

section Lists

variable {α : Type} {f : α → Manifest}

theorem option {x y : Option α} (hinj : ∀ a ∈ x, ∀ b ∈ y, Same (f a) (f b) → a = b)
    (h : Option.Rel Same (x.map f) (y.map f)) : x = y := by
  cases x with
  | none =>
    cases y with
    | none => rfl
    | some b => cases h
  | some a =>
    cases y with
    | none => cases h
    | some b =>
      cases h with
      | some h => rw [hinj a rfl b rfl h]

theorem eq_at? (h : Same m m') {x y : Option α} (path : List Step)
    (hx : m.at? path = x.map f) (hy : m'.at? path = y.map f)
    (hinj : ∀ a b, Same (f a) (f b) → a = b) : x = y := by
  have hpath := h.at? path
  rw [hx, hy] at hpath
  exact option (fun a _ b _ => hinj a b) hpath

theorem eq_at (h : Same m m') {x y : α} (path : List Step) (hx : m.at? path = some (f x))
    (hy : m'.at? path = some (f y)) (hinj : Same (f x) (f y) → x = y) : x = y :=
  hinj (h.below hx hy)

theorem items {as bs : List α} (hinj : ∀ a ∈ as, ∀ b ∈ bs, Same (f a) (f b) → a = b)
    (h : Same (.list (as.map f)) (.list (bs.map f))) : as = bs := by
  refine List.ext_getElem? fun i => ?_
  have hi := h.at? [.item i]
  rw [at?_singleton, at?_singleton, part?, part?, item?, item?, List.getElem?_map,
    List.getElem?_map] at hi
  exact option (fun a ha b hb => hinj a (List.mem_of_getElem? ha) b (List.mem_of_getElem? hb)) hi

theorem texts {ss ts : List String} (h : Same (.texts ss) (.texts ts)) : ss = ts :=
  items (fun _ _ _ _ => text) h

end Lists

end Same

theorem textAt_cons (name : String) (names : List String) (m : Manifest) :
    m.textAt (name :: names) = ((m.get? name).map (textAt names)).getD "" := by
  rw [textAt, List.map_cons, at?, part?]
  cases m.get? name <;> rfl

/-! Reading records that are put together from fields -/

theorem get?_append (fields rest : List (String × Manifest)) :
    get? name (.record (fields ++ rest)) =
      (get? name (.record fields)).or (get? name (.record rest)) := by
  simp only [get?, List.find?_append]
  cases fields.find? fun f => f.1 == name <;> rfl

theorem get?_field (m : Option Manifest) :
    get? name (.record (field key m)) = if key = name then m else none := by
  cases m with
  | none => simp [field, get?]
  | some m => by_cases h : key = name <;> simp [field, get?, h]

def list? (ms : List Manifest) : Option Manifest :=
  if ms.isEmpty then none else some (.list ms)

theorem listField_eq (ms : List Manifest) : listField name ms = field name (list? ms) := by
  unfold listField list?
  split <;> rfl

theorem Same.list? {α : Type} {f : α → Manifest} {as bs : List α}
    (hinj : ∀ a ∈ as, ∀ b ∈ bs, Same (f a) (f b) → a = b)
    (h : Option.Rel Same (Manifest.list? (as.map f)) (Manifest.list? (bs.map f))) : as = bs := by
  cases as with
  | nil =>
    cases bs with
    | nil => rfl
    | cons b bs => cases h
  | cons a as =>
    cases bs with
    | nil => cases h
    | cons b bs =>
      cases h with
      | some h => exact items hinj h

end EnvoySidecar.Manifest
