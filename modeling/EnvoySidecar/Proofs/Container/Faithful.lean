import EnvoySidecar.Proofs.Container.Variables
import EnvoySidecar.Proofs.Env.Assembly
import EnvoySidecar.Proofs.Resources.ReadBack

/-! What a container's manifest loses. Empty parts are left out and quantities appear as texts, but
a container whose variables have one source each and whose resources were built from texts can be
told from its manifest, the parsed amounts included. -/

namespace EnvoySidecar

open Schema Manifest

/-! Parts of a container -/

theorem EnvVar.at?_value {v : EnvVar} (h : v.Single) :
    v.toManifest.at? [.field "value"] = v.value.map .text := by
  obtain ⟨name, value, fieldPath⟩ := v
  rw [at?_singleton]
  cases value <;> cases fieldPath <;> first | rfl | cases h

theorem EnvVar.eq_of_same {v w : EnvVar} (hv : v.Single) (hw : w.Single)
    (h : Same v.toManifest w.toManifest) : v = w := by
  have hname : v.name = w.name :=
    h.eq_at [.field "name"] ((at?_singleton _ _).trans v.get?_name)
      ((at?_singleton _ _).trans w.get?_name) Same.text
  have hvalue : v.value = w.value :=
    h.eq_at? _ (at?_value hv) (at?_value hw) fun _ _ => Same.text
  have hfield : v.fieldPath = w.fieldPath :=
    h.eq_at? _ v.at?_fieldSteps w.at?_fieldSteps fun _ _ => Same.text
  obtain ⟨name, value, fieldPath⟩ := v
  cases hname
  cases hvalue
  cases hfield
  rfl

theorem ContainerPort.eq_of_same {p q : ContainerPort} (h : Same p.toManifest q.toManifest) :
    p = q := by
  obtain ⟨name, number, protocol⟩ := p
  obtain ⟨name', number', protocol'⟩ := q
  obtain rfl : name = name' := h.eq_at [.field "name"] rfl rfl Same.text
  obtain rfl : number = number' :=
    Subtype.ext (h.eq_at [.field "containerPort"] rfl rfl Same.int)
  obtain rfl : protocol = protocol' := h.eq_at [.field "protocol"] rfl rfl Same.text
  rfl

theorem VolumeMount.eq_of_same {m n : VolumeMount} (h : Same m.toManifest n.toManifest) :
    m = n := by
  obtain ⟨name, path⟩ := m
  obtain ⟨name', path'⟩ := n
  obtain rfl : name = name' := h.eq_at [.field "name"] rfl rfl Same.text
  obtain rfl : path = path' := h.eq_at [.field "mountPath"] rfl rfl Same.text
  rfl

theorem Probe.eq_of_same {p q : Probe} (h : Same p.toManifest q.toManifest) : p = q := by
  obtain ⟨command, delay, timeout, period, success, failure⟩ := p
  obtain ⟨command', delay', timeout', period', success', failure'⟩ := q
  obtain rfl : command = command' :=
    h.eq_at [.field "exec", .field "command"] rfl rfl Same.texts
  obtain rfl : delay = delay' := h.eq_at [.field "initialDelaySeconds"] rfl rfl Same.int
  obtain rfl : timeout = timeout' :=
    Subtype.ext (h.eq_at [.field "timeoutSeconds"] rfl rfl Same.int)
  obtain rfl : period = period' := h.eq_at [.field "periodSeconds"] rfl rfl Same.int
  obtain rfl : success = success' :=
    Subtype.ext (h.eq_at [.field "successThreshold"] rfl rfl Same.int)
  obtain rfl : failure = failure' :=
    Subtype.ext (h.eq_at [.field "failureThreshold"] rfl rfl Same.int)
  rfl

namespace Container

def resources? (r : Option Resources) : Option Manifest :=
  (r.filter fun r => !r.manifestFields.isEmpty).map Resources.toManifest

theorem resourcesField_eq_field (r : Option Resources) :
    resourcesField r = field "resources" (resources? r) := by
  cases r with
  | none => rfl
  | some r =>
    rw [resourcesField, resources?]
    cases h : r.manifestFields.isEmpty <;> simp [h, field, Option.filter]

theorem resources?_getD (r : Resources) :
    (resources? (some r)).getD (.record []) = r.toManifest := by
  rw [resources?, Resources.toManifest]
  cases h : r.manifestFields with
  | nil => simp [h, Option.filter]
  | cons f fields => simp [h, Option.filter, Resources.toManifest]

theorem toManifest_eq_fields (k : Container) : k.toManifest = .record
    (field "name" (some (.text k.name)) ++ field "image" (some (.text k.image)) ++
      field "securityContext" (some (.record [("runAsUser", .int k.runAsUser)])) ++
      field "ports" (list? (k.ports.map ContainerPort.toManifest)) ++
      field "lifecycle" (k.preStop.map lifecycle) ++
      field "volumeMounts" (list? (k.mounts.map VolumeMount.toManifest)) ++
      field "env" (list? (k.env.map EnvVar.toManifest)) ++
      field "resources" (resources? k.resources) ++
      field "readinessProbe" (k.readinessProbe.map Probe.toManifest)) := by
  rw [toManifest, listField_eq, listField_eq, listField_eq, resourcesField_eq_field]
  rfl

structure ShownBy (k : Container) (m : Manifest) : Prop where
  name : m.at? [.field "name"] = some (.text k.name)
  image : m.at? [.field "image"] = some (.text k.image)
  user : m.at? [.field "securityContext", .field "runAsUser"] = some (.int k.runAsUser)
  ports : m.at? [.field "ports"] = list? (k.ports.map ContainerPort.toManifest)
  preStop : m.at? [.field "lifecycle"] = k.preStop.map lifecycle
  mounts : m.at? [.field "volumeMounts"] = list? (k.mounts.map VolumeMount.toManifest)
  env : m.at? [.field "env"] = list? (k.env.map EnvVar.toManifest)
  resources : m.at? [.field "resources"] = resources? k.resources
  probe : m.at? [.field "readinessProbe"] = k.readinessProbe.map Probe.toManifest

theorem shownBy_toManifest (k : Container) : k.ShownBy k.toManifest := by
  have hget {name : String} {x : Option Manifest} (h : k.toManifest.get? name = x) :
      k.toManifest.at? [.field name] = x := (at?_singleton _ _).trans h
  have huser : k.toManifest.get? "securityContext" =
      some (.record [("runAsUser", .int k.runAsUser)]) := by
    simp [toManifest_eq_fields, get?_append, get?_field]
  refine ⟨hget ?_, hget ?_, ?_, hget ?_, hget ?_, hget ?_, hget ?_, hget ?_, hget ?_⟩
  case refine_3 =>
    rw [at?, part?, huser]
    rfl
  all_goals simp [toManifest_eq_fields, get?_append, get?_field]

end Container

/-! Whole containers -/

theorem Manifest.Same.getD {x y : Option Manifest} (h : Option.Rel Same x y) (m : Manifest) :
    Same (x.getD m) (y.getD m) := by
  cases h with
  | none => exact .refl m
  | some h => exact h

theorem Resources.eq_of_same {t u : ResourceTexts} {q r : Resources}
    (hq : (build t).result = .ok q) (hr : (build u).result = .ok r)
    (h : Same q.toManifest r.toManifest) : q = r := by
  have htexts : t = u := by
    rw [← ofManifest_of_build hq, ← ofManifest_of_build hr]
    simp only [ResourceTexts.ofManifest, h.textAt]
  cases htexts
  cases hq.symm.trans hr
  rfl

namespace Container

variable {k l : Container}

structure Legible (k : Container) : Prop where
  env : ∀ v ∈ k.env, v.Single
  resources : ∃ t r, (Resources.build t).result = .ok r ∧ k.resources = some r

theorem Legible.eq_of_same (hk : k.Legible) (hl : l.Legible)
    (h : Same k.toManifest l.toManifest) : k = l := by
  have kshown := k.shownBy_toManifest
  have lshown := l.shownBy_toManifest
  have hat (path : List Step) {x y : Option Manifest} (hx : k.toManifest.at? path = x)
      (hy : l.toManifest.at? path = y) : Option.Rel Same x y := hx ▸ hy ▸ h.at? path
  have hname : k.name = l.name := h.eq_at _ kshown.name lshown.name Same.text
  have himage : k.image = l.image := h.eq_at _ kshown.image lshown.image Same.text
  have huser : k.runAsUser = l.runAsUser := h.eq_at _ kshown.user lshown.user Same.int
  have hports : k.ports = l.ports :=
    Same.list? (fun _ _ _ _ => ContainerPort.eq_of_same) (hat _ kshown.ports lshown.ports)
  have hpreStop : k.preStop = l.preStop :=
    h.eq_at? _ kshown.preStop lshown.preStop fun _ _ hcommand =>
      hcommand.eq_at [.field "preStop", .field "exec", .field "command"] rfl rfl Same.texts
  have hmounts : k.mounts = l.mounts :=
    Same.list? (fun _ _ _ _ => VolumeMount.eq_of_same) (hat _ kshown.mounts lshown.mounts)
  have henv : k.env = l.env :=
    Same.list? (fun v hv w hw => EnvVar.eq_of_same (hk.env v hv) (hl.env w hw))
      (hat _ kshown.env lshown.env)
  have hresources : k.resources = l.resources := by
    obtain ⟨t, q, hq, hkq⟩ := hk.resources
    obtain ⟨u, r, hr, hlr⟩ := hl.resources
    have hrel := hat _ kshown.resources lshown.resources
    have hsame := Same.getD hrel (.record [])
    rw [hkq, hlr, resources?_getD, resources?_getD] at hsame
    rw [hkq, hlr, Resources.eq_of_same hq hr hsame]
  have hprobe : k.readinessProbe = l.readinessProbe :=
    h.eq_at? _ kshown.probe lshown.probe fun _ _ => Probe.eq_of_same
  obtain ⟨⟩ := k
  obtain ⟨⟩ := l
  simp only at *
  subst_vars
  rfl

end Container

/-! Rendered containers -/

theorem Env.single_of_assemble {c : Config} {s : Store} {vars : List EnvVar}
    (h : (assemble c s).run.result = .ok vars) : ∀ v ∈ vars, v.Single := by
  obtain ⟨_, -, -, hsuccess⟩ := assemble_written c s
  intro v hv
  obtain ⟨_, -, hrender⟩ := (renderAll_rendering (hsuccess vars h).2).rendered v hv
  obtain ⟨t, -, ht⟩ := render_eq_ok_iff.1 hrender
  exact ht ▸ renderTagged_one _ t

namespace Sidecar

variable {c d : Config} {s u : Env.Store} {k l : Container}

theorem legible_of_render (h : (render c s).run.result = .ok k) : k.Legible := by
  obtain ⟨r, vars, hr, hvars, rfl⟩ := render_eq_ok_iff.1 h
  exact ⟨Env.single_of_assemble hvars, _, r, hr, rfl⟩

/-- Containers that are rendered, from whatever configurations and stores, are equal as soon as
their manifests hold the same data. -/
theorem manifest_faithful (hk : (render c s).run.result = .ok k)
    (hl : (render d u).run.result = .ok l) : Same k.toManifest l.toManifest ↔ k = l := by
  constructor
  · exact (legible_of_render hk).eq_of_same (legible_of_render hl)
  · rintro rfl
    exact .refl _

def quarter (text : String) : Config :=
  { Config.minimal with cpuRequest := text }

def regional : Env.Store :=
  Env.Store.empty.set "AWS_REGION" (.text "eu-west-1")

theorem manifest_faithful_quarter :
    ∃ k k' l, (render (quarter "250m") Env.Store.empty).run.result = .ok k ∧
      (render (quarter "250m") regional).run.result = .ok k' ∧
      (render (quarter "0.25") regional).run.result = .ok l ∧
      Same k.toManifest k'.toManifest ∧ k = k' ∧ ¬Same k'.toManifest l.toManifest := by
  have hregion : (render (quarter "250m") Env.Store.empty).run.result =
      (render (quarter "250m") regional).run.result := by decide +kernel
  have hwords : (render (quarter "250m") regional).run.result ≠
      (render (quarter "0.25") regional).run.result := by decide +kernel
  obtain ⟨k, hk⟩ := exists_eq_ok_of_isOk
    (show (render (quarter "250m") regional).run.result.isOk = true by decide +kernel)
  obtain ⟨l, hl⟩ := exists_eq_ok_of_isOk
    (show (render (quarter "0.25") regional).run.result.isOk = true by decide +kernel)
  rw [hk, hl] at hwords
  rw [hk] at hregion
  have hne : k ≠ l := fun h => hwords (congrArg Except.ok h)
  exact ⟨k, k, l, hregion, hk, hl, .refl _, (manifest_faithful hregion hk).1 (.refl _),
    (manifest_faithful hk hl).not.2 hne⟩

end Sidecar

end EnvoySidecar
