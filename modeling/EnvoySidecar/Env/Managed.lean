import EnvoySidecar.Env.Store
import EnvoySidecar.Resources

/-! The variables that the controller manages. Some are on every sidecar; the others come from
rules, each with a toggle of its own and names of its own. -/

namespace EnvoySidecar

def PortSetting.text? : PortSetting → Option String
  | number n => Text.integerText? n
  | text s => some s

namespace Env

abbrev Entry := String × String

def baseEntries (c : Config) : List Entry :=
  [("APPMESH_VIRTUAL_NODE_NAME", c.virtualNodeRef),
    ("AWS_REGION", c.region),
    ("APPMESH_PREVIEW", c.preview),
    ("ENVOY_LOG_LEVEL", c.logLevel)]

def tracingFile : String := "/tmp/envoy/envoyconf.yaml"
def tracingDirectory : String := "/tmp/envoy"

structure Rule where
  name : String
  enabled : Config → Bool
  entries : Config → Except Failure (List Entry)

namespace Rule

def portEntry (name : String) (p : PortSetting) : Except Failure Entry :=
  match p.text? with
  | some s => .ok (name, s)
  | none => .error .longInteger

def sds : Rule where
  name := "sds"
  enabled c := c.sds.enabled
  entries c := .ok [("APPMESH_SDS_SOCKET_PATH", c.sds.socketPath)]

def adminPort : Rule where
  name := "admin_access_port"
  enabled c := c.adminPort.val != 0
  entries c := do return [← portEntry "ENVOY_ADMIN_ACCESS_PORT" (.number c.adminPort.val)]

def adminLogFile : Rule where
  name := "admin_access_log_file"
  enabled c := c.adminLogFile != ""
  entries c := .ok [("ENVOY_ADMIN_ACCESS_LOG_FILE", c.adminLogFile)]

def xray : Rule where
  name := "xray"
  enabled c := c.xray.enabled
  entries c := do
    return [("ENABLE_ENVOY_XRAY_TRACING", "1"), ← portEntry "XRAY_DAEMON_PORT" c.xray.daemonPort]

def datadog : Rule where
  name := "datadog"
  enabled c := c.datadog.enabled
  entries c := do
    return [("ENABLE_ENVOY_DATADOG_TRACING", "1"),
      ← portEntry "DATADOG_TRACER_PORT" c.datadog.port,
      ("DATADOG_TRACER_ADDRESS", c.datadog.address)]

def statsTags : Rule where
  name := "stats_tags"
  enabled c := c.statsTags.enabled
  entries _ := .ok [("ENABLE_ENVOY_STATS_TAGS", "1")]

def statsd : Rule where
  name := "statsd"
  enabled c := c.statsd.enabled
  entries c := do
    return [("ENABLE_ENVOY_DOG_STATSD", "1"),
      ← portEntry "STATSD_PORT" c.statsd.port,
      ("STATSD_ADDRESS", c.statsd.address)]

def jaeger : Rule where
  name := "jaeger"
  enabled c := c.jaeger.enabled
  entries _ := .ok [("ENVOY_TRACING_CFG_FILE", tracingFile)]

def all : List Rule :=
  [sds, adminPort, adminLogFile, xray, datadog, statsTags, statsd, jaeger]

end Rule

def ruleEntries (c : Config) : List Rule → Run (List Entry)
  | [] => pure []
  | r :: rest =>
    if r.enabled c then do
      Run.note (.ruleApplied r.name)
      let es ← Run.ofExcept (r.entries c)
      return es ++ (← ruleEntries c rest)
    else ruleEntries c rest

def managedEntries (c : Config) : Run (List Entry) := do
  return baseEntries c ++ (← ruleEntries c Rule.all)

end Env

end EnvoySidecar
