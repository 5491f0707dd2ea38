import EnvoySidecar.Container.Manifest

/-! Reading manifests by field name. A container's manifest lists its parts under different names,
so that each part can be read off on its own. -/

namespace EnvoySidecar

namespace Manifest

def get? (name : String) : Manifest → Option Manifest
  | .record fields => (fields.find? fun f => f.1 == name).map (·.2)
  | _ => none

variable {name key : String}

theorem find?_field_of_ne (h : key ≠ name) (m : Option Manifest) :
    (field key m).find? (fun f => f.1 == name) = none := by
  cases m with
  | none => rfl
  | some m => simp [field, h]

theorem find?_listField_of_ne (h : key ≠ name) (ms : List Manifest) :
    (listField key ms).find? (fun f => f.1 == name) = none := by
  unfold listField
  split
  · rfl
  · simp [h]

theorem find?_listField {ms : List Manifest} (h : ms ≠ []) :
    (listField key ms).find? (fun f => f.1 == key) = some (key, .list ms) := by
  simp [listField, h]

end Manifest

theorem Container.get?_env {k : Container} (h : k.env ≠ []) :
    k.toManifest.get? "env" = some (.list (k.env.map EnvVar.toManifest)) := by
  have henv : k.env.map EnvVar.toManifest ≠ [] := by simpa using h
  simp only [toManifest, Manifest.get?, List.find?_append, Manifest.find?_listField henv,
    Manifest.find?_field_of_ne (show "lifecycle" ≠ "env" by decide),
    Manifest.find?_listField_of_ne (show "ports" ≠ "env" by decide),
    Manifest.find?_listField_of_ne (show "volumeMounts" ≠ "env" by decide)]
  rfl

theorem Container.toManifest_attach {k : Container} (hresources : k.resources = none)
    (hprobe : k.readinessProbe = none) (r : Resources) (p : Probe) :
    ∃ fields, k.toManifest = .record fields ∧
      { k with resources := some r, readinessProbe := some p }.toManifest =
        .record (fields ++ resourcesField (some r) ++ [("readinessProbe", p.toManifest)]) := by
  refine ⟨_, rfl, ?_⟩
  simp only [toManifest, hresources, hprobe, resourcesField, Option.map_none, Manifest.field,
    List.append_nil, Option.map_some]

def Container.headFields (k : Container) : List (String × Manifest) :=
  [("name", .text k.name), ("image", .text k.image),
      ("securityContext", .record [("runAsUser", .int k.runAsUser)])] ++
    Manifest.listField "ports" (k.ports.map ContainerPort.toManifest) ++
    Manifest.field "lifecycle" (k.preStop.map lifecycle)

theorem Container.toManifest_bare {k : Container} (hresources : k.resources = none)
    (hprobe : k.readinessProbe = none) : k.toManifest = .record (k.headFields ++
      Manifest.listField "volumeMounts" (k.mounts.map VolumeMount.toManifest) ++
      Manifest.listField "env" (k.env.map EnvVar.toManifest)) := by
  simp only [toManifest, headFields, hresources, hprobe, resourcesField, Option.map_none,
    Manifest.field, List.append_nil]

end EnvoySidecar
