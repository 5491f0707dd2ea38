import EnvoySidecar.Container.Check

/-! Containers written out as plain values. Checking what was written gives back the container that
was written, as long as its protocols are known ones and no resources are attached yet. -/

namespace EnvoySidecar

open Schema

namespace Schema

variable {α : Type} {es : Entries} {name : String} {v : Value} {a : α} {check : Check α}

theorem required_eq_ok (hv : Value.field? name es = some v) (h : check v = .ok a) :
    required name check es = .ok a := by
  simp only [required, hv, h, Checked.under]

theorem optional_eq_ok {default : α} (hv : Value.field? name es = some v) (h : check v = .ok a) :
    optional name default check es = .ok a := by
  simp only [optional, hv, h, Checked.under]

theorem nullable_eq_ok (hnull : v ≠ .null) (h : check v = .ok a) :
    nullable check v = .ok (some a) := by
  cases v with
  | null => exact absurd rfl hnull
  | _ => exact congrArg (Checked.map some) h

theorem itemsFrom_map {write : α → Value} {as : List α} (h : ∀ a ∈ as, check (write a) = .ok a)
    (start : Nat) : itemsFrom check start (as.map write) = .ok as := by
  induction as generalizing start with
  | nil => rfl
  | cons a as ih =>
    have hrest := ih (fun b hb => h b (List.mem_cons_of_mem a hb)) (start + 1)
    rw [List.map_cons, itemsFrom, h a List.mem_cons_self, hrest]
    rfl

theorem listOf_map {write : α → Value} {as : List α} (h : ∀ a ∈ as, check (write a) = .ok a) :
    listOf check (.list (as.map write)) = .ok as :=
  itemsFrom_map h 0

theorem between_val {lo hi : Int} (n : Span lo hi) : between lo hi n.val = .ok n := by
  rw [between, dif_pos n.property.1, dif_pos n.property.2]

theorem atLeast_val {lo : Int} (n : From lo) : atLeast lo n.val = .ok n := by
  rw [atLeast, dif_pos n.property]

end Schema

def Command.entries (command : Command) : Entries :=
  [(.text "command", .list (command.map .text))]

theorem Command.fields_entries (command : Command) :
    Command.fields command.entries = .ok command :=
  required_eq_ok rfl (listOf_map fun _ _ => rfl)

def EnvVar.entries (x : EnvVar) : Entries :=
  [(.text "name", .text x.name), (.text "value", x.value.elim .null .text),
    (.text "value_from", x.fieldPath.elim .null fun path =>
      .map [(.text "field_ref", .map [(.text "field_path", .text path)])])]

theorem EnvVar.fields_entries (x : EnvVar) : EnvVar.fields x.entries = .ok x := by
  obtain ⟨name, value, fieldPath⟩ := x
  cases value <;> cases fieldPath <;> rfl

def ContainerPort.entries (p : ContainerPort) : Entries :=
  [(.text "name", .text p.name), (.text "container_port", .int p.number.val),
    (.text "protocol", .text p.protocol)]

theorem ContainerPort.fields_entries {p : ContainerPort}
    (h : p.protocol ∈ ["TCP", "UDP", "SCTP"]) : ContainerPort.fields p.entries = .ok p := by
  have hname : required "name" text p.entries = .ok p.name := rfl
  have hnumber : required "container_port" (fun v => (integer v).andThen (between 1 65535))
      p.entries = .ok p.number := required_eq_ok rfl (between_val p.number)
  have hprotocol : optional "protocol" "TCP" (oneOf ["TCP", "UDP", "SCTP"]) p.entries =
      .ok p.protocol := optional_eq_ok rfl (if_pos (List.contains_iff_mem.2 h))
  rw [fields, hname, hnumber, hprotocol]
  rfl

def VolumeMount.entries (m : VolumeMount) : Entries :=
  [(.text "name", .text m.name), (.text "mount_path", .text m.path)]

namespace Probe

def entries (p : Probe) : Entries :=
  [(.text "exec", .map p.command.entries), (.text "initial_delay_seconds", .int p.initialDelay),
    (.text "timeout_seconds", .int p.timeout.val), (.text "period_seconds", .int p.period),
    (.text "success_threshold", .int p.successThreshold.val),
    (.text "failure_threshold", .int p.failureThreshold.val)]

theorem fields_entries (p : Probe) : fields p.entries = .ok p := by
  have hcommand : required "exec" (model "ExecAction" Command.fields) p.entries =
      .ok p.command := required_eq_ok rfl p.command.fields_entries
  have hdelay : optional "initial_delay_seconds" 0 integer p.entries = .ok p.initialDelay := rfl
  have hperiod : optional "period_seconds" 10 integer p.entries = .ok p.period := rfl
  have hcount (name : String) (default n : From 1)
      (hn : Value.field? name p.entries = some (.int n.val)) :
      optional name default (fun v => (integer v).andThen (atLeast 1)) p.entries = .ok n :=
    optional_eq_ok hn (atLeast_val n)
  rw [fields, hcommand, hdelay, hcount "timeout_seconds" once p.timeout rfl, hperiod,
    hcount "success_threshold" once p.successThreshold rfl,
    hcount "failure_threshold" thrice p.failureThreshold rfl]
  rfl

end Probe

namespace Container

def entries (k : Container) : Entries :=
  [(.text "name", .text k.name), (.text "image", .text k.image),
    (.text "security_context", .map [(.text "run_as_user", .int k.runAsUser)]),
    (.text "ports", .list (k.ports.map fun p => .map p.entries)),
    (.text "pre_stop", k.preStop.elim .null fun command => .map command.entries),
    (.text "volume_mounts", .list (k.mounts.map fun m => .map m.entries)),
    (.text "env", .list (k.env.map fun x => .map x.entries)),
    (.text "readiness_probe", k.readinessProbe.elim .null fun p => .map p.entries)]

theorem check_entries {k : Container}
    (hports : ∀ p ∈ k.ports, p.protocol ∈ ["TCP", "UDP", "SCTP"])
    (hresources : k.resources = none) : check k.entries = .ok k := by
  have hname : required "name" text k.entries = .ok k.name := rfl
  have himage : required "image" text k.entries = .ok k.image := rfl
  have huser : required "security_context"
      (model "SecurityContext" (required "run_as_user" integer)) k.entries = .ok k.runAsUser := rfl
  have hportList : optional "ports" [] (listOf (model "ContainerPort" ContainerPort.fields))
      k.entries = .ok k.ports :=
    optional_eq_ok rfl (listOf_map fun p hp => ContainerPort.fields_entries (hports p hp))
  have hpreStop : optional "pre_stop" none (nullable (model "ExecAction" Command.fields))
      k.entries = .ok k.preStop := by
    refine optional_eq_ok rfl ?_
    cases k.preStop with
    | none => rfl
    | some command => exact nullable_eq_ok (by simp) command.fields_entries
  have hmounts : optional "volume_mounts" [] (listOf (model "VolumeMount" VolumeMount.fields))
      k.entries = .ok k.mounts :=
    optional_eq_ok rfl (listOf_map fun _ _ => rfl)
  have henv : optional "env" [] (listOf (model "EnvVar" EnvVar.fields)) k.entries = .ok k.env :=
    optional_eq_ok rfl (listOf_map fun x _ => x.fields_entries)
  have hnone : optional "resources" none (nullable (model "ResourceRequirements" Resources.fields))
      k.entries = .ok k.resources := by
    rw [hresources]
    rfl
  have hprobe : optional "readiness_probe" none (nullable (model "ProbeSpec" Probe.fields))
      k.entries = .ok k.readinessProbe := by
    refine optional_eq_ok rfl ?_
    cases k.readinessProbe with
    | none => rfl
    | some p => exact nullable_eq_ok (by simp) p.fields_entries
  have hfields : fields k.entries = .ok k := by
    rw [fields, hname, himage, huser, hportList, hpreStop, hmounts, henv, hnone, hprobe]
    rfl
  exact Checked.toExcept_eq_ok_iff.2 hfields

end Container

end EnvoySidecar
