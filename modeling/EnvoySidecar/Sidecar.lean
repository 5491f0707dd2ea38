import EnvoySidecar.Env.Assembly
import EnvoySidecar.Probe

/-! The proxy's container for one workload: first without, then with its resources and its
readiness probe. -/

namespace EnvoySidecar.Sidecar

def containerName : String := "envoy"
def user : Int := 1337
def statsPortName : String := "stats"
def statsProtocol : String := "TCP"

def preStopSource : String := "sleep \x7b\x7b delay \x7d\x7d"

def preStopCommand (delay : String) : Except Template.Fault Command :=
  Template.shellCommand preStopSource [("delay", .text delay)]

def mounts (c : Config) : List VolumeMount :=
  if c.jaeger.enabled then [⟨c.jaeger.volumeName, Env.tracingDirectory⟩] else []

def ports (c : Config) : List ContainerPort :=
  [⟨statsPortName, c.effectiveAdminPort, statsProtocol⟩]

/-- An integer that cannot be written is no fault of the template, and goes unnoted. -/
def noteTemplate {α : Type} (r : Except Template.Fault α) : Run α :=
  match r with
  | .ok a => Run.ok a
  | .error .longInteger => Run.fail (.template .longInteger)
  | .error fault => Run.failNoting (.templateFailed fault) (.template fault)

def container (c : Config) (preStop : Command) (env : List EnvVar) : Container :=
  { name := containerName
    image := c.image.text
    runAsUser := user
    ports := ports c
    preStop := some preStop
    mounts := mounts c
    env }

/-- The variables are assembled only once the rest is known to stand. -/
def build (c : Config) (s : Env.Store) : Env.Outcome Container :=
  let command := noteTemplate (preStopCommand c.preStopDelay)
  match command.result with
  | .error failure => ⟨s, ⟨command.notices, .error failure⟩⟩
  | .ok preStop =>
    let assembled := Env.assemble c s
    ⟨assembled.store, Run.bind assembled.run fun env => do
      Run.note (.sidecarBuilt c.virtualNodeRef env.length)
      return container c preStop env⟩

/-- Resources come first: malformed ones leave the store alone. -/
def render (c : Config) (s : Env.Store) : Env.Outcome Container :=
  let resources := Resources.build c.resourceTexts
  match resources.result with
  | .error failure => ⟨s, ⟨resources.notices, .error failure⟩⟩
  | .ok r =>
    let built := build c s
    ⟨built.store, ⟨resources.notices ++ built.run.notices, do
      let container ← built.run.result
      let probe ← Probe.readiness c.probeInitialDelay.val c.probePeriod.val
        (toString c.effectiveAdminPort.val)
      return { container with resources := some r, readinessProbe := some probe }⟩⟩

end EnvoySidecar.Sidecar
