import EnvoySidecar.Schema.Model

/-! Settings of one sidecar. Toggles are independent of each other, and the parameters of a toggle
that is off are carried along. The types hold what every checked configuration satisfies: names
are not blank and numbers lie in their ranges. -/

namespace EnvoySidecar

structure Name where
  text : String
  notBlank : Text.allBlank text = false
deriving DecidableEq, Repr

inductive PortSetting where
  | number (n : Int)
  | text (s : String)
deriving DecidableEq, Repr

namespace Config

structure Sds where
  enabled : Bool := false
  socketPath : String := "/run/spire/sockets/agent.sock"
deriving DecidableEq, Repr

structure Xray where
  enabled : Bool := false
  daemonPort : PortSetting := .number 2000
deriving DecidableEq, Repr

structure Datadog where
  enabled : Bool := false
  port : PortSetting := .number 8126
  address : String := "127.0.0.1"
deriving DecidableEq, Repr

structure Statsd where
  enabled : Bool := false
  port : PortSetting := .number 8125
  address : String := "127.0.0.1"
deriving DecidableEq, Repr

structure StatsTags where
  enabled : Bool := false
deriving DecidableEq, Repr

structure Jaeger where
  enabled : Bool := false
  volumeName : String := "envoy-tracing-config"
deriving DecidableEq, Repr

/-- The proxy's own admin port is meant. -/
def ownPort : Schema.Span 0 65535 := ⟨0, by decide⟩

def defaultDelay : Schema.From 0 := ⟨1, by decide⟩
def defaultPeriod : Schema.From 1 := ⟨10, by decide⟩

end Config

structure Config where
  meshName : Name
  virtualNodeName : Name
  image : Name
  region : String
  preview : String := "0"
  logLevel : String := "info"
  adminPort : Schema.Span 0 65535 := Config.ownPort
  adminLogFile : String := ""
  preStopDelay : String := "20"
  sds : Config.Sds := {}
  xray : Config.Xray := {}
  datadog : Config.Datadog := {}
  statsd : Config.Statsd := {}
  statsTags : Config.StatsTags := {}
  jaeger : Config.Jaeger := {}
  cpuRequest : String := ""
  memoryRequest : String := ""
  cpuLimit : String := ""
  memoryLimit : String := ""
  probeInitialDelay : Schema.From 0 := Config.defaultDelay
  probePeriod : Schema.From 1 := Config.defaultPeriod
deriving DecidableEq, Repr

namespace Config

def modelName : String := "SidecarConfig"

def virtualNodeRef (c : Config) : String :=
  s!"mesh/{c.meshName.text}/virtualNode/{c.virtualNodeName.text}"

def defaultAdminPort : Schema.Span 1 65535 := ⟨9901, by decide⟩

/-- The admin port that the proxy listens on; zero stands for its own default. -/
def effectiveAdminPort (c : Config) : Schema.Span 1 65535 :=
  if h : c.adminPort.val = 0 then defaultAdminPort
  else ⟨c.adminPort.val, by have := c.adminPort.property; omega⟩

end Config

end EnvoySidecar
