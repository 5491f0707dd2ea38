import EnvoySidecar.Failure

/-! What is worth a line in the log, as events. The level, the source and the wording of a line
are functions of the event. -/

namespace EnvoySidecar.Log

inductive Notice where
  | quantityParsed (field : ResourceField) (quantity : Quantity)
  | resourcesRejected (fault : Quantity.Fault)
  | ruleApplied (name : String)
  | overriding (key : String)
  | sidecarBuilt (virtualNode : String) (count : Nat)
  | templateFailed (fault : Template.Fault)
  | settingsLoaded (path : String)
  | settingsRefused (fault : SettingsFault)
deriving DecidableEq, Repr

structure Record where
  level : Level
  source : String
  text : String
deriving DecidableEq, Repr

namespace Notice

def level : Notice → Level
  | resourcesRejected _ | templateFailed _ | settingsRefused _ => .error
  | overriding _ => .warning
  | _ => .debug

def source : Notice → String
  | quantityParsed .. => "meshsidecar.builders.quantity"
  | resourcesRejected _ => "meshsidecar.builders.resources"
  | ruleApplied _ | overriding _ => "meshsidecar.builders.env"
  | sidecarBuilt .. => "meshsidecar.builders.sidecar"
  | templateFailed _ => "meshsidecar.utils.templates"
  | settingsLoaded _ | settingsRefused _ => "meshsidecar.config"

def text : Notice → String
  | quantityParsed field quantity =>
    s!"Parsed {field.label} {Text.quoted quantity.raw} as {quantity.amount.toText}"
  | resourcesRejected fault => s!"Sidecar resources rejected: {fault.message}"
  | ruleApplied name => s!"Applying env rule {name}"
  | overriding key => s!"Overriding caller-supplied env {key} with controller-managed value"
  | sidecarBuilt virtualNode count =>
    s!"Built sidecar for {virtualNode} with {count} env vars"
  | templateFailed fault => s!"Template rendering error: {fault.message}"
  | settingsLoaded path => s!"Loaded sidecar config from {path}"
  | settingsRefused fault => fault.message

def record (n : Notice) : Record :=
  ⟨n.level, n.source, n.text⟩

end Notice

namespace Record

def reaches (threshold : Level) (r : Record) : Bool :=
  threshold.number ≤ r.level.number

def line (r : Record) : String :=
  s!"{r.level.name} {r.source} {r.text}"

end Record

def records (threshold : Level) (ns : List Notice) : List Record :=
  (ns.map Notice.record).filter (Record.reaches threshold)

end EnvoySidecar.Log
