import EnvoySidecar.Binary64

/-! Untyped values, as a settings document or a caller supplies them before any checking. -/

namespace EnvoySidecar

structure Timestamp where
  day : Nat
  time : Option Nat
deriving DecidableEq, Repr

inductive Value where
  | null
  | bool (b : Bool)
  | int (n : Int)
  | float (x : Binary64)
  | text (s : String)
  | timestamp (t : Timestamp)
  | bytes (octets : List Nat)
  | list (items : List Value)
  | map (entries : List (Value × Value))
  | set (items : List Value)
  | decimal (d : Decimal)
  | tuple (items : List Value)
  | frozenSet (items : List Value)
  | iterable (items : List Value)
deriving Repr, Inhabited

namespace Value

def field? (name : String) : List (Value × Value) → Option Value
  | [] => none
  | (.text s, v) :: rest => if s = name then some v else field? name rest
  | _ :: rest => field? name rest

mutual

def isWritable : Value → Bool
  | .int n => (Text.integerText? n).isSome
  | .list items => areWritable items
  | .map entries => entriesWritable entries
  | .set items | .tuple items | .frozenSet items | .iterable items => areWritable items
  | _ => true

def areWritable : List Value → Bool
  | [] => true
  | v :: rest => v.isWritable && areWritable rest

def entriesWritable : List (Value × Value) → Bool
  | [] => true
  | (k, v) :: rest => k.isWritable && v.isWritable && entriesWritable rest

end

end Value

end EnvoySidecar
