import EnvoySidecar.Container
import EnvoySidecar.Manifest

/-! Containers as manifests. Parts that are absent or empty are left out, and quantities
appear as they were written. -/

namespace EnvoySidecar

def EnvVar.toManifest (v : EnvVar) : Manifest :=
  match v.fieldPath with
  | some path =>
    .record [("name", .text v.name),
      ("valueFrom", .record [("fieldRef", .record [("fieldPath", .text path)])])]
  | none =>
    .record [("name", .text v.name),
      ("value", match v.value with
        | some s => .text s
        | none => .null)]

def ContainerPort.toManifest (p : ContainerPort) : Manifest :=
  .record [("name", .text p.name), ("containerPort", .int p.number.val),
    ("protocol", .text p.protocol)]

def VolumeMount.toManifest (m : VolumeMount) : Manifest :=
  .record [("name", .text m.name), ("mountPath", .text m.path)]

def ResourceGroup.toManifest (g : ResourceGroup) : Manifest :=
  .record (Manifest.field "cpu" (g.cpu.map fun q => .text (toString q)) ++
    Manifest.field "memory" (g.memory.map fun q => .text (toString q)))

namespace Resources

def manifestFields (r : Resources) : List (String × Manifest) :=
  Manifest.field "requests" (r.requests.map ResourceGroup.toManifest) ++
    Manifest.field "limits" (r.limits.map ResourceGroup.toManifest)

def toManifest (r : Resources) : Manifest :=
  .record r.manifestFields

end Resources

def Probe.toManifest (p : Probe) : Manifest :=
  .record [("exec", .record [("command", .texts p.command)]),
    ("initialDelaySeconds", .int p.initialDelay),
    ("timeoutSeconds", .int p.timeout.val),
    ("periodSeconds", .int p.period),
    ("successThreshold", .int p.successThreshold.val),
    ("failureThreshold", .int p.failureThreshold.val)]

namespace Container

def lifecycle (command : Command) : Manifest :=
  .record [("preStop", .record [("exec", .record [("command", .texts command)])])]

def resourcesField : Option Resources → List (String × Manifest)
  | some r => if r.manifestFields.isEmpty then [] else [("resources", r.toManifest)]
  | none => []

def toManifest (c : Container) : Manifest :=
  .record ([("name", .text c.name), ("image", .text c.image),
      ("securityContext", .record [("runAsUser", .int c.runAsUser)])] ++
    Manifest.listField "ports" (c.ports.map ContainerPort.toManifest) ++
    Manifest.field "lifecycle" (c.preStop.map lifecycle) ++
    Manifest.listField "volumeMounts" (c.mounts.map VolumeMount.toManifest) ++
    Manifest.listField "env" (c.env.map EnvVar.toManifest) ++
    resourcesField c.resources ++
    Manifest.field "readinessProbe" (c.readinessProbe.map Probe.toManifest))

end Container

end EnvoySidecar
