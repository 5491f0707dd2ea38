import EnvoySidecar.Config
import EnvoySidecar.Log.Run

/-! Compute resources: two groups of at most two quantities. A group is present as soon as one of
its texts is not empty. -/

namespace EnvoySidecar

structure ResourceGroup where
  cpu : Option Quantity := none
  memory : Option Quantity := none
deriving DecidableEq, Repr

structure Resources where
  requests : Option ResourceGroup := none
  limits : Option ResourceGroup := none
deriving DecidableEq, Repr

structure ResourceTexts where
  cpuRequest : String := ""
  memoryRequest : String := ""
  cpuLimit : String := ""
  memoryLimit : String := ""
deriving DecidableEq, Repr

namespace Resources

def quantity (field : ResourceField) (s : String) : Run (Option Quantity) :=
  if s = "" then pure none
  else
    match Quantity.parse field s with
    | .ok q => do
      Run.note (.quantityParsed field q)
      return some q
    | .error (.invalid field value) =>
      Run.failNoting (.resourcesRejected (.invalid field value)) (.quantity (.invalid field value))
    | .error fault => Run.fail (.quantity fault)

def group (cpuField memoryField : ResourceField) (cpu memory : String) :
    Run (Option ResourceGroup) :=
  if cpu = "" ∧ memory = "" then pure none
  else do
    let c ← quantity cpuField cpu
    let m ← quantity memoryField memory
    return some ⟨c, m⟩

def build (t : ResourceTexts) : Run Resources := do
  let requests ← group .cpuRequest .memoryRequest t.cpuRequest t.memoryRequest
  let limits ← group .cpuLimit .memoryLimit t.cpuLimit t.memoryLimit
  return ⟨requests, limits⟩

end Resources

def Config.resourceTexts (c : Config) : ResourceTexts :=
  ⟨c.cpuRequest, c.memoryRequest, c.cpuLimit, c.memoryLimit⟩

end EnvoySidecar
