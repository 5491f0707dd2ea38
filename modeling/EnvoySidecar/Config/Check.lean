import EnvoySidecar.Config

/-! Checking settings: names of the fields, defaults, and the conversions that each field takes. -/

namespace EnvoySidecar.Config

open Schema

def name : Check Name := fun v =>
  (text v).andThen fun s =>
    if h : Text.allBlank s = false then .ok ⟨s, h⟩ else .fail .blank

def numericText : Check String
  | .int n =>
    match Text.integerText? n with
    | some s => .ok s
    | none => .fail .longInteger
  | v => text v

/-- A text stays a text even if it could be read as a number. -/
def port : Check PortSetting
  | .text s => .ok (.text s)
  | v => (((integer v).under (.field "int")).map .number).orElse
      (((text v).under (.field "str")).map .text)

def sdsFields (es : Entries) : Checked Sds :=
  Sds.mk <$> optional "enabled" false flag es
    <*> optional "socket_path" ({} : Sds).socketPath text es

def xrayFields (es : Entries) : Checked Xray :=
  Xray.mk <$> optional "enabled" false flag es
    <*> optional "daemon_port" ({} : Xray).daemonPort port es

def datadogFields (es : Entries) : Checked Datadog :=
  Datadog.mk <$> optional "enabled" false flag es
    <*> optional "port" ({} : Datadog).port port es
    <*> optional "address" ({} : Datadog).address text es

def statsdFields (es : Entries) : Checked Statsd :=
  Statsd.mk <$> optional "enabled" false flag es
    <*> optional "port" ({} : Statsd).port port es
    <*> optional "address" ({} : Statsd).address text es

def statsTagsFields (es : Entries) : Checked StatsTags :=
  StatsTags.mk <$> optional "enabled" false flag es

def jaegerFields (es : Entries) : Checked Jaeger :=
  Jaeger.mk <$> optional "enabled" false flag es
    <*> optional "volume_name" ({} : Jaeger).volumeName text es

def fields (es : Entries) : Checked Config :=
  Config.mk <$> required "mesh_name" name es
    <*> required "virtual_node_name" name es
    <*> required "sidecar_image" name es
    <*> required "aws_region" text es
    <*> optional "preview" "0" numericText es
    <*> optional "log_level" "info" text es
    <*> optional "admin_access_port" ownPort
      (fun v => (integer v).andThen (within 0 65535)) es
    <*> optional "admin_access_log_file" "" text es
    <*> optional "pre_stop_delay" "20" numericText es
    <*> optional "sds" {} (model "SdsConfig" sdsFields) es
    <*> optional "xray" {} (model "XrayConfig" xrayFields) es
    <*> optional "datadog" {} (model "DatadogConfig" datadogFields) es
    <*> optional "statsd" {} (model "StatsDConfig" statsdFields) es
    <*> optional "stats_tags" {} (model "StatsTagsConfig" statsTagsFields) es
    <*> optional "jaeger" {} (model "JaegerConfig" jaegerFields) es
    <*> optional "cpu_request" "" text es
    <*> optional "memory_request" "" text es
    <*> optional "cpu_limit" "" text es
    <*> optional "memory_limit" "" text es
    <*> optional "readiness_probe_initial_delay" defaultDelay
      (fun v => (integer v).andThen (atLeast 0)) es
    <*> optional "readiness_probe_period" defaultPeriod
      (fun v => (integer v).andThen (atLeast 1)) es

def check (es : Entries) : Except Report Config :=
  (fields es).toExcept modelName

end EnvoySidecar.Config
