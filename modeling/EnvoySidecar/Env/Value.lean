import EnvoySidecar.Schema.Scalar

/-! Values of environment variables: what callers put into a store, and what it is tagged as. -/

namespace EnvoySidecar.Env

inductive Tagged where
  | literal (text : String)
  | fieldRef (path : String)
deriving DecidableEq, Repr

inductive Raw where
  | text (s : String)
  | tagged (t : Tagged)
  | other (v : Value)
deriving Repr

namespace Raw

def ofValue : Value → Raw
  | .text s => .text s
  | v => .other v

def isNull : Raw → Bool
  | .other .null => true
  | _ => false

end Raw

def hostIpSentinel : String := "ref:status.hostIP"
def hostIpPath : String := "status.hostIP"

def takesHostIp (name : String) : Bool :=
  name == "STATSD_ADDRESS" || name == "DATADOG_TRACER_ADDRESS"

namespace Tagged

def literalModel : String := "EnvLiteral"
def fieldRefModel : String := "EnvFieldRef"

def literalOf (v : Value) : Except Schema.Report Tagged :=
  (((Schema.text v).under (.field "value")).map literal).toExcept literalModel

def fieldRefOf (v : Value) : Except Schema.Report Tagged :=
  (((Schema.text v).under (.field "field_path")).map fieldRef).toExcept fieldRefModel

end Tagged

/-- Tagged values stay as they are; texts are literals, but for the sentinel under a variable that
takes it; anything else has to pass as a literal. -/
def tag (name : String) : Raw → Except Schema.Report Tagged
  | .tagged t => .ok t
  | .text s =>
    if takesHostIp name && s == hostIpSentinel then .ok (.fieldRef hostIpPath)
    else .ok (.literal s)
  | .other v => Tagged.literalOf v

end EnvoySidecar.Env
