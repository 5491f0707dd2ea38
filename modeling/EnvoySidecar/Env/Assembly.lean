import EnvoySidecar.Container
import EnvoySidecar.Env.Managed

/-! Merging managed entries into a store, and rendering a store. A managed entry is written over
whatever the store held; a notice names the key if the values differ as tagged values. The merge
stops at the first held value that has no tagged form. -/

namespace EnvoySidecar.Env

def renderTagged (name : String) : Tagged → EnvVar
  | .literal s => { name, value := some s }
  | .fieldRef path => { name, fieldPath := some path }

def render (name : String) (raw : Raw) : Except Failure EnvVar :=
  match tag name raw with
  | .ok t => .ok (renderTagged name t)
  | .error report => .error (.invalid report)

/-- Whether writing a managed value replaces a different one. A null counts as no value. -/
def overrides (s : Store) (e : Entry) : Except Failure Bool :=
  match s.get? e.1 with
  | none => .ok false
  | some previous =>
    if previous.isNull then .ok false
    else
      match tag e.1 previous, tag e.1 (.text e.2) with
      | .ok old, .ok new => .ok (old != new)
      | .error report, _ => .error (.invalid report)
      | _, .error report => .error (.invalid report)

structure Outcome (α : Type) where
  store : Store
  run : Run α

def merge : List Entry → Store → Outcome Unit
  | [], s => ⟨s, pure ()⟩
  | e :: rest, s =>
    match overrides s e with
    | .error failure => ⟨s, Run.fail failure⟩
    | .ok differs =>
      let o := merge rest (s.set e.1 (.text e.2))
      if differs then ⟨o.store, ⟨.overriding e.1 :: o.run.notices, o.run.result⟩⟩ else o

def renderAll (s : Store) : Except Failure (List EnvVar) :=
  s.entries.mapM fun e => render e.1 e.2

def assemble (c : Config) (s : Store) : Outcome (List EnvVar) :=
  let managed := managedEntries c
  match managed.result with
  | .error failure => ⟨s, ⟨managed.notices, .error failure⟩⟩
  | .ok es =>
    let merged := merge es s
    ⟨merged.store, ⟨managed.notices ++ merged.run.notices,
      merged.run.result.bind fun _ => renderAll merged.store⟩⟩

end EnvoySidecar.Env
