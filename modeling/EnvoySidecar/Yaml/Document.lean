import EnvoySidecar.Text.Lines
import EnvoySidecar.Yaml.Grammar
import EnvoySidecar.Yaml.Layout
import EnvoySidecar.Yaml.Scalar

/-! Documents as values. Merge keys bring in the entries of other maps, whose own entries win; the
keys of a map without them are distinct. Nodes are valued level by level, so that of two faults
the one on the outer level counts, and on one level the earlier one. -/

namespace EnvoySidecar.Yaml

inductive Atom where
  | null
  | int (n : Int)
  | float (x : Binary64)
  | text (s : String)
  | timestamp (t : Timestamp)
  | bytes (octets : List Nat)
deriving DecidableEq, Repr

inductive MapKey where
  | atom (a : Atom)
  | tuple (parts : List Atom)
deriving DecidableEq, Repr

def Atom.ofValue : Value → Except Fault Atom
  | .null => .ok .null
  | .bool b => .ok (.int (if b then 1 else 0))
  | .int n => .ok (.int n)
  | .float x =>
    match x.toInt? with
    | some n => .ok (.int n)
    | none => .ok (.float x)
  | .text s => .ok (.text s)
  | .timestamp t => .ok (.timestamp t)
  | .bytes octets => .ok (.bytes octets)
  | .list _ => .error (.unhashable "list")
  | .map _ => .error (.unhashable "dict")
  | .set _ => .error (.unhashable "set")
  | .decimal _ | .tuple _ | .frozenSet _ | .iterable _ =>
    .error (.malformed "a value that no node has")

/-- A list may be a key if its items may; a map or a set may not. -/
def MapKey.ofValue : Value → Except Fault MapKey
  | .list items => (items.mapM Atom.ofValue).map .tuple
  | .map _ | .set _ => .error (.malformed "a collection as a key")
  | v => (Atom.ofValue v).map .atom

namespace Node

/-- A fault and the level where it arises. -/
structure Late where
  level : Nat
  fault : Fault

abbrev Valued (α : Type) := Except Late α

def late {α : Type} (level : Nat) (r : Except Fault α) : Valued α :=
  r.mapError fun fault => ⟨level, fault⟩

def both {α β : Type} (x : Valued α) (y : Valued β) : Valued (α × β) :=
  match x, y with
  | .ok a, .ok b => .ok (a, b)
  | .ok _, .error g => .error g
  | .error f, .ok _ => .error f
  | .error f, .error g => .error (if g.level < f.level then g else f)

abbrev Pairs := List (Node × Node)

structure Merged where
  inherited : Pairs := []
  own : Pairs := []

def Merged.all (m : Merged) : Pairs :=
  m.inherited ++ m.own

def merge : Nat → Pairs → Except Fault Merged
  | 0, _ => .error (.malformed "a document that is nested too deep")
  | fuel + 1, entries =>
    entries.foldlM (fun m (key, value) =>
      match key.tag with
      | .merge =>
        if !m.inherited.isEmpty then .error (.malformed "a second merge key")
        else match value with
          | .map _ es => do return { m with inherited := (← merge fuel es).all }
          | .list _ items => do
            let parts ← items.mapM fun
              | .map _ es => return (← merge fuel es).all
              | _ => .error (.malformed "something other than a map to merge")
            return { m with inherited := parts.reverse.flatten }
          | .scalar .. => .error (.malformed "something other than a map to merge")
      | .value =>
        let text := match key with
          | .scalar _ s => .scalar .text s
          | other => other
        return { m with own := m.own ++ [(text, value)] }
      | _ => return { m with own := m.own ++ [(key, value)] }) {}

def defaultText? : Nat → Node → Option String
  | _, .scalar _ s => some s
  | 0, _ => none
  | fuel + 1, .map _ entries =>
    (entries.find? fun e => e.1.tag = .value).bind fun e => defaultText? fuel e.2
  | _, .list .. => none

def isCollection : Tag → Bool
  | .list | .pairs | .omap | .map | .set => true
  | _ => false

/-- Whether a value can be shown by the time its entry is read: nothing stands in a collection yet
unless that is valued whole. -/
def isShown (whole : Bool) (n : Node) : Valued Value → Bool
  | .ok v => (isCollection n.tag && !whole) || v.isWritable
  | .error _ => true

def repeatedKey (shown : Bool) : Fault :=
  if shown then .malformed "a key that is repeated" else .unwritable

section Parts

variable (valueOf : Bool → Node → Valued Value) (whole : Bool) (level : Nat)

def values : List Node → Valued (List Value)
  | [] => .ok []
  | n :: rest => (both (valueOf whole n) (values rest)).map fun r => r.1 :: r.2

def singles : List Node → Valued (List (Value × Value))
  | [] => .ok []
  | .map _ [(key, item)] :: rest =>
    (both (both (valueOf whole key) (valueOf whole item)) (singles rest)).map fun r => r.1 :: r.2
  | _ :: _ => .error ⟨level, .malformed "something other than a single entry"⟩

def entries : Option (List (MapKey × Bool)) → Pairs → Valued (List (Value × Value))
  | _, [] => .ok []
  | seen, (key, item) :: rest => do
    let k ← valueOf true key
    let known ← late level (MapKey.ofValue k)
    let v := valueOf whole item
    let shown := isShown whole item v
    let others : Valued (List (Value × Value)) :=
      match seen.bind fun ks => ks.find? fun e => e.1 == known with
      | some first => .error ⟨level, repeatedKey (k.isWritable && shown && first.2)⟩
      | none => entries (seen.map ((known, shown) :: ·)) rest
    (both v others).map fun r => (k, r.1) :: r.2

def merged (m : Merged) : Valued (List (Value × Value)) :=
  if m.inherited.isEmpty then entries valueOf whole level (some []) m.own
  else (entries valueOf whole level none m.all).map List.reverse

end Parts

def value (v : Version) : Nat → Nat → Bool → Node → Valued Value
  | 0, level, _, _ => .error ⟨level, .malformed "a document that is nested too deep"⟩
  | fuel + 1, level, whole, n =>
    let part := if whole then level else level + 1
    let valueOf := value v fuel part
    let here := if isCollection n.tag then part else level
    match n.tag, n with
    | .list, .list _ items => (values valueOf whole items).map .list
    | .map, .map _ es => do
      let m ← late part (merge (fuel + 1) es)
      return .map (← merged valueOf whole part m)
    | .set, .map _ es => do
      let m ← late part (merge (fuel + 1) es)
      return .set ((← merged valueOf whole part m).map (·.1))
    | .pairs, .list _ items =>
      (singles valueOf whole part items).map fun es => .list (es.map fun e => .list [e.1, e.2])
    | .omap, .list _ items => do
      let es ← singles valueOf whole part items
      let keys ← late part (es.mapM fun e => Atom.ofValue e.1)
      if keys.Nodup then return .map es
      else .error ⟨part, .repeatedEntry⟩
    | t, .scalar _ s => late here (Scalar.value v t s)
    | .timestamp, .map .. => .error ⟨here, .malformed "a timestamp without a date"⟩
    | t, .map .. =>
      match defaultText? fuel n with
      | some s => late here (Scalar.value v t s)
      | none => .error ⟨here, .malformed "a tag that no map can have"⟩
    | _, .list .. => .error ⟨here, .malformed "a tag that no list can have"⟩

end Node

def read (cs : List Char) : Except Fault Value :=
  if !cs.all isAllowed then .error (.malformed "a character that no document may have")
  else do
    let ts := tokens (Text.unifyLines cs)
    let (version, node) ← Node.ofTokens ts
    (Node.value version (2 * ts.length + 4) 0 false node).mapError (·.fault)

end EnvoySidecar.Yaml
