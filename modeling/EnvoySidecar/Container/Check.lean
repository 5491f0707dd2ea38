import EnvoySidecar.Container

/-! Checking untyped values as containers. Either source of a variable's value may be given, both
or none of them. -/

namespace EnvoySidecar

open Schema

def Quantity.fields (es : Entries) : Checked Quantity :=
  Quantity.mk <$> required "raw" text es <*> required "amount" decimal es

def ResourceGroup.fields (es : Entries) : Checked ResourceGroup :=
  let quantity := nullable (model "Quantity" Quantity.fields)
  ResourceGroup.mk <$> optional "cpu" none quantity es <*> optional "memory" none quantity es

def Resources.fields (es : Entries) : Checked Resources :=
  let group := nullable (model "ResourceList" ResourceGroup.fields)
  Resources.mk <$> optional "requests" none group es <*> optional "limits" none group es

def EnvVar.fields (es : Entries) : Checked EnvVar :=
  let fieldRef := model "FieldRef" (required "field_path" text)
  let source := model "EnvVarSource" (required "field_ref" fieldRef)
  EnvVar.mk <$> required "name" text es
    <*> optional "value" none (nullable text) es
    <*> optional "value_from" none (nullable source) es

def ContainerPort.fields (es : Entries) : Checked ContainerPort :=
  ContainerPort.mk <$> required "name" text es
    <*> required "container_port" (fun v => (integer v).andThen (between 1 65535)) es
    <*> optional "protocol" "TCP" (oneOf ["TCP", "UDP", "SCTP"]) es

def VolumeMount.fields (es : Entries) : Checked VolumeMount :=
  VolumeMount.mk <$> required "name" text es <*> required "mount_path" text es

def Command.fields (es : Entries) : Checked Command :=
  required "command" (listOf text) es

def Probe.fields (es : Entries) : Checked Probe :=
  let count := fun v => (integer v).andThen (atLeast 1)
  Probe.mk <$> required "exec" (model "ExecAction" Command.fields) es
    <*> optional "initial_delay_seconds" 0 integer es
    <*> optional "timeout_seconds" once count es
    <*> optional "period_seconds" 10 integer es
    <*> optional "success_threshold" once count es
    <*> optional "failure_threshold" thrice count es

namespace Container

def fields (es : Entries) : Checked Container :=
  Container.mk <$> required "name" text es
    <*> required "image" text es
    <*> required "security_context" (model "SecurityContext" (required "run_as_user" integer)) es
    <*> optional "ports" [] (listOf (model "ContainerPort" ContainerPort.fields)) es
    <*> optional "pre_stop" none (nullable (model "ExecAction" Command.fields)) es
    <*> optional "volume_mounts" [] (listOf (model "VolumeMount" VolumeMount.fields)) es
    <*> optional "env" [] (listOf (model "EnvVar" EnvVar.fields)) es
    <*> optional "resources" none (nullable (model "ResourceRequirements" Resources.fields)) es
    <*> optional "readiness_probe" none (nullable (model "ProbeSpec" Probe.fields)) es

def modelName : String := "ContainerSpec"

def check (es : Entries) : Except Report Container :=
  (fields es).toExcept modelName

end Container

end EnvoySidecar
