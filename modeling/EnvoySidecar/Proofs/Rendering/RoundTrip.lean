import EnvoySidecar.Proofs.Container.Shape
import EnvoySidecar.Proofs.Yaml.Reading.Recall

/-! Reading a rendered manifest back. The reader of settings files takes every text that rendering
returns, and finds the container in it but for spaces and breaks within texts. -/

namespace EnvoySidecar

theorem Container.Whole.read_toYaml {k : Container} (h : k.Whole) :
    Yaml.read k.toManifest.toYaml.toList = .ok (k.toManifest.readBack 0 0).toValue :=
  Manifest.read_toYaml h.shaped

namespace Rendering

variable {path s : String} {entry : Files.Entry} {assignments : List String}

theorem whole_of_text {k : Container} (h : (container path entry assignments).result = .ok k)
    (htext : text k = .ok s) : k.Whole := by
  obtain ⟨store, c, -, -, hrender⟩ := container_eq_ok_iff.1 h
  exact Sidecar.whole_of_render hrender htext

/-- A rendered text is read back with all names and integers of the container, in their order, and
with all texts but for spaces and breaks in them. Nothing else is lost, and nothing at all of texts
that are clear. -/
theorem manifest_read_back (h : (manifest path entry assignments).result = .ok s) :
    ∃ k, (container path entry assignments).result = .ok k ∧ s = k.toManifest.toYaml ∧
      Yaml.read s.toList = .ok (k.toManifest.readBack 0 0).toValue ∧
      (k.toManifest.readBack 0 0).bare = k.toManifest.bare ∧
      (Yaml.read s.toList = .ok k.toManifest.toValue ↔
        k.toManifest.readBack 0 0 = k.toManifest) ∧
      ((∀ t ∈ k.toManifest.strings, Yaml.Fold.Clear t.toList) →
        Yaml.read s.toList = .ok k.toManifest.toValue) := by
  obtain ⟨k, hk, htext⟩ := manifest_eq_ok_iff.1 h
  obtain rfl := text_eq_toYaml htext
  have hread := (whole_of_text hk htext).read_toYaml
  refine ⟨k, hk, rfl, hread, Manifest.bare_readBack 0 0 _, ?_, fun hclear => ?_⟩
  · rw [hread, Except.ok.injEq]
    exact Manifest.toValue_injective.eq_iff
  · rw [hread, Manifest.readBack_of_clear 0 0 _ hclear]

theorem exists_text_of_any {p : Container → Bool}
    (h : (container path entry assignments).result.toOption.any
      (fun k => (text k).toOption.isSome && p k) = true) :
    ∃ k s, (container path entry assignments).result = .ok k ∧ text k = .ok s ∧ p k = true := by
  cases hk : (container path entry assignments).result with
  | error failure =>
    rw [hk] at h
    cases h
  | ok k =>
    rw [hk] at h
    obtain ⟨htext, hp⟩ := Bool.and_eq_true_iff.1 h
    cases hs : text k with
    | error failure =>
      rw [hs] at htext
      cases htext
    | ok s => exact ⟨k, s, rfl, hs, hp⟩

def plainSettings : Files.Entry :=
  .file ("mesh_name: m1\nvirtual_node_name: vn1\nsidecar_image: envoy:v1.29\n" ++
    "aws_region: us-west-2\n")

def spacedAssignment (n : Nat) : String :=
  String.ofList ("APP=a".toList ++ List.replicate n ' ' ++ ['b'])

theorem manifest_read_back_spaced : ∃ s k,
    (manifest "sidecar.yaml" plainSettings [spacedAssignment 1]).result = .ok s ∧
      (container "sidecar.yaml" plainSettings [spacedAssignment 1]).result = .ok k ∧
        Yaml.read s.toList = .ok k.toManifest.toValue := by
  have hclear : (container "sidecar.yaml" plainSettings [spacedAssignment 1]).result.toOption.any
      (fun k => (text k).toOption.isSome &&
        k.toManifest.strings.all fun t => Yaml.Fold.Clear t.toList) = true := by decide +kernel
  obtain ⟨k, s, hk, htext, hclear⟩ := exists_text_of_any hclear
  have hs := manifest_eq_ok_iff.2 ⟨k, hk, htext⟩
  obtain ⟨k', hk', -, -, -, -, hread⟩ := manifest_read_back hs
  cases hk.symm.trans hk'
  exact ⟨s, k, hs, hk, hread fun t ht => of_decide_eq_true (List.all_eq_true.1 hclear t ht)⟩

/-- Of many spaces in a long line only one is read back. -/
theorem manifest_not_read_back : ∃ s k,
    (manifest "sidecar.yaml" plainSettings [spacedAssignment 100]).result = .ok s ∧
      (container "sidecar.yaml" plainSettings [spacedAssignment 100]).result = .ok k ∧
        Yaml.read s.toList ≠ .ok k.toManifest.toValue := by
  have hlost : (container "sidecar.yaml" plainSettings [spacedAssignment 100]).result.toOption.any
      (fun k => (text k).toOption.isSome &&
        (k.toManifest.readBack 0 0).strings != k.toManifest.strings) = true := by decide +kernel
  obtain ⟨k, s, hk, htext, hlost⟩ := exists_text_of_any hlost
  refine ⟨s, k, manifest_eq_ok_iff.2 ⟨k, hk, htext⟩, hk, fun hread => bne_iff_ne.1 hlost ?_⟩
  obtain rfl := text_eq_toYaml htext
  rw [(whole_of_text hk htext).read_toYaml, Except.ok.injEq] at hread
  rw [Manifest.toValue_inj hread]

end Rendering

end EnvoySidecar
