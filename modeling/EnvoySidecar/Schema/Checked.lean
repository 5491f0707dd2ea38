import EnvoySidecar.Schema.Fault

/-! Results of checking that keep every fault: two checks side by side fail with the faults of
both, in order. -/

namespace EnvoySidecar.Schema

inductive Checked (α : Type) where
  | ok (a : α)
  | faults (first : Fault) (rest : List Fault)
deriving DecidableEq, Repr

namespace Checked

variable {α β : Type}

def fail (cause : Cause) : Checked α :=
  .faults ⟨[], cause⟩ []

def map (f : α → β) : Checked α → Checked β
  | ok a => ok (f a)
  | faults first rest => faults first rest

def seq (f : Checked (α → β)) (x : Unit → Checked α) : Checked β :=
  match f, x () with
  | ok g, ok a => ok (g a)
  | ok _, faults first rest => faults first rest
  | faults first rest, ok _ => faults first rest
  | faults first rest, faults first' rest' => faults first (rest ++ first' :: rest')

instance : Applicative Checked where
  pure := ok
  map := map
  seq := seq

def andThen (x : Checked α) (f : α → Checked β) : Checked β :=
  match x with
  | ok a => f a
  | faults first rest => faults first rest

def under (s : Step) : Checked α → Checked α
  | ok a => ok a
  | faults first rest => faults (first.under s) (rest.map (Fault.under s))

/-- The second check decides when the first fails; both failures are kept if it fails too. -/
def orElse (x y : Checked α) : Checked α :=
  match x, y with
  | ok a, _ => ok a
  | faults _ _, ok b => ok b
  | faults first rest, faults first' rest' => faults first (rest ++ first' :: rest')

def toExcept (model : String) : Checked α → Except Report α
  | ok a => .ok a
  | faults first rest => .error ⟨model, first :: rest⟩

def isOk : Checked α → Bool
  | ok _ => true
  | faults _ _ => false

@[simp] theorem seq_ok (g : α → β) (a : α) : seq (ok g) (fun _ => ok a) = ok (g a) := rfl

@[simp] theorem toExcept_eq_ok_iff {model : String} {x : Checked α} {a : α} :
    x.toExcept model = .ok a ↔ x = ok a := by
  cases x <;> simp [toExcept]

end Checked

end EnvoySidecar.Schema
