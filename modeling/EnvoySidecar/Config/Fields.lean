import EnvoySidecar.Config.Check

/-! Settings written back as plain values under the names that checking reads. -/

namespace EnvoySidecar

def PortSetting.toValue : PortSetting → Value
  | number n => .int n
  | text s => .text s

namespace Config

open Schema

def entry (name : String) (v : Value) : Value × Value :=
  (.text name, v)

def Sds.toValue (s : Sds) : Value :=
  .map [entry "enabled" (.bool s.enabled), entry "socket_path" (.text s.socketPath)]

def Xray.toValue (x : Xray) : Value :=
  .map [entry "enabled" (.bool x.enabled), entry "daemon_port" x.daemonPort.toValue]

def Datadog.toValue (d : Datadog) : Value :=
  .map [entry "enabled" (.bool d.enabled), entry "port" d.port.toValue,
    entry "address" (.text d.address)]

def Statsd.toValue (s : Statsd) : Value :=
  .map [entry "enabled" (.bool s.enabled), entry "port" s.port.toValue,
    entry "address" (.text s.address)]

def StatsTags.toValue (s : StatsTags) : Value :=
  .map [entry "enabled" (.bool s.enabled)]

def Jaeger.toValue (j : Jaeger) : Value :=
  .map [entry "enabled" (.bool j.enabled), entry "volume_name" (.text j.volumeName)]

def toEntries (c : Config) : Entries :=
  [entry "mesh_name" (.text c.meshName.text),
    entry "virtual_node_name" (.text c.virtualNodeName.text),
    entry "sidecar_image" (.text c.image.text),
    entry "aws_region" (.text c.region),
    entry "preview" (.text c.preview),
    entry "log_level" (.text c.logLevel),
    entry "admin_access_port" (.int c.adminPort.val),
    entry "admin_access_log_file" (.text c.adminLogFile),
    entry "pre_stop_delay" (.text c.preStopDelay),
    entry "sds" c.sds.toValue,
    entry "xray" c.xray.toValue,
    entry "datadog" c.datadog.toValue,
    entry "statsd" c.statsd.toValue,
    entry "stats_tags" c.statsTags.toValue,
    entry "jaeger" c.jaeger.toValue,
    entry "cpu_request" (.text c.cpuRequest),
    entry "memory_request" (.text c.memoryRequest),
    entry "cpu_limit" (.text c.cpuLimit),
    entry "memory_limit" (.text c.memoryLimit),
    entry "readiness_probe_initial_delay" (.int c.probeInitialDelay.val),
    entry "readiness_probe_period" (.int c.probePeriod.val)]

end Config

end EnvoySidecar
