import EnvoySidecar.Env.Store
import EnvoySidecar.Failure

/-! Assignments `KEY=VALUE`. The first equals sign divides: a key holds none, a value may hold any
number of them. -/

namespace EnvoySidecar.Env

structure Assignment where
  key : String
  value : String
deriving DecidableEq, Repr

namespace Assignment

def divider : Char := '='

def text (a : Assignment) : String :=
  a.key ++ String.singleton divider ++ a.value

def IsKey (key : String) : Prop :=
  key ≠ "" ∧ divider ∉ key.toList

def ofText? (s : String) : Option Assignment :=
  let key := s.toList.takeWhile (· != divider)
  match s.toList.dropWhile (· != divider) with
  | _ :: value => if key.isEmpty then none else some ⟨String.ofList key, String.ofList value⟩
  | [] => none

def readAll (ss : List String) : Except SettingsFault (List Assignment) :=
  ss.mapM fun s =>
    match ofText? s with
    | some a => .ok a
    | none => .error (.assignment s)

def toStore (as : List Assignment) : Store :=
  Store.ofList (as.map fun a => (a.key, .text a.value))

end Assignment

def Store.ofAssignments (ss : List String) : Except SettingsFault Store := do
  return Assignment.toStore (← Assignment.readAll ss)

end EnvoySidecar.Env
