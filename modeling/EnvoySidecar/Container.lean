import EnvoySidecar.Resources

/-! The container that runs the proxy: what a pod needs to know about it. -/

namespace EnvoySidecar

/-- A variable with a literal value, a pod field that it is read from, or neither. -/
structure EnvVar where
  name : String
  value : Option String := none
  fieldPath : Option String := none
deriving DecidableEq, Repr

structure ContainerPort where
  name : String
  number : Schema.Span 1 65535
  protocol : String := "TCP"
deriving DecidableEq, Repr

structure VolumeMount where
  name : String
  path : String
deriving DecidableEq, Repr

abbrev Command := List String

namespace Probe

def once : Schema.From 1 := ⟨1, by decide⟩
def thrice : Schema.From 1 := ⟨3, by decide⟩

end Probe

structure Probe where
  command : Command
  initialDelay : Int := 0
  timeout : Schema.From 1 := Probe.once
  period : Int := 10
  successThreshold : Schema.From 1 := Probe.once
  failureThreshold : Schema.From 1 := Probe.thrice
deriving DecidableEq, Repr

structure Container where
  name : String
  image : String
  runAsUser : Int
  ports : List ContainerPort := []
  preStop : Option Command := none
  mounts : List VolumeMount := []
  env : List EnvVar := []
  resources : Option Resources := none
  readinessProbe : Option Probe := none
deriving DecidableEq, Repr

namespace Container

def envByName (c : Container) : List (String × EnvVar) :=
  c.env.foldl (fun acc v => (acc.filter fun e => e.1 != v.name) ++ [(v.name, v)]) []

end Container

end EnvoySidecar
