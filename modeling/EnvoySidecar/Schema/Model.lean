import EnvoySidecar.Schema.Scalar

/-! Checks of values with parts. A model reads its fields by name, so that unknown entries and the
order of entries make no difference. -/

namespace EnvoySidecar.Schema

abbrev Entries := List (Value × Value)

variable {α : Type}

def required (name : String) (check : Check α) (entries : Entries) : Checked α :=
  match Value.field? name entries with
  | some v => (check v).under (.field name)
  | none => (Checked.fail .missing).under (.field name)

def optional (name : String) (default : α) (check : Check α) (entries : Entries) : Checked α :=
  match Value.field? name entries with
  | some v => (check v).under (.field name)
  | none => .ok default

def model (name : String) (check : Entries → Checked α) : Check α
  | .map entries => check entries
  | _ => .fail (.notModel name)

def nullable (check : Check α) : Check (Option α)
  | .null => .ok none
  | v => (check v).map some

def itemsFrom (check : Check α) (start : Nat) : List Value → Checked (List α)
  | [] => .ok []
  | v :: rest =>
    .seq (((check v).under (.item start)).map List.cons) fun _ => itemsFrom check (start + 1) rest

def items? : Value → Option (List Value)
  | .list items | .tuple items | .set items | .frozenSet items | .iterable items => some items
  | _ => none

def listOf (check : Check α) (v : Value) : Checked (List α) :=
  match items? v with
  | some items => itemsFrom check 0 items
  | none => .fail .notList

end EnvoySidecar.Schema
