import EnvoySidecar.Proofs.Yaml.Document
import EnvoySidecar.Settings

/-! How loading a settings file ends. A document that is malformed, no map, or no configuration is a
fault of the settings; a text that denotes nothing and a key that is no text slip past that. -/

namespace EnvoySidecar.Settings

/-- Texts on which loading fails with something that is no fault of the settings. -/
inductive Escapes (text : String) : Failure → Prop
  | document {fault : Yaml.Fault} : Yaml.read text.toList = .error fault →
      (∀ reason, fault ≠ .malformed reason) → Escapes text (.document fault)
  | fieldNames {es : List (Value × Value)} : Yaml.read text.toList = .ok (.map es) →
      (∃ e ∈ es, isText e.1 = false) → Escapes text .fieldNames

section Load

variable {path text : String}

theorem load_of_ok {v : Value} (h : Yaml.read text.toList = .ok v) :
    (load path (.file text)).result = match v with
      | .map es =>
        if es.all fun e => isText e.1 then
          (Config.check es).mapError fun report => .settings (.rejected path report)
        else .error .fieldNames
      | _ => .error (.settings (.notMapping path)) := by
  have hdocument : (document path text).result = .ok v := by
    rw [document, h]
    rfl
  rw [load, Run.result_bind_of_ok hdocument]
  cases v with
  | map es =>
    dsimp only
    by_cases hall : (es.all fun e => isText e.1) = true
    · rw [if_neg (by simpa using hall), if_pos hall]
      cases hcheck : Config.check es with
      | ok c => rfl
      | error report => rfl
    · rw [if_pos (by simpa using hall), if_neg hall]
      rfl
  | _ => rfl

theorem load_of_malformed {reason : String}
    (h : Yaml.read text.toList = .error (.malformed reason)) :
    (load path (.file text)).result = .error (.settings (.malformed path reason)) := by
  have hdocument : (document path text).result = .error (.settings (.malformed path reason)) := by
    rw [document, h]
    rfl
  rw [load, Run.result_bind_of_error hdocument]

theorem load_of_fault {fault : Yaml.Fault} (h : Yaml.read text.toList = .error fault)
    (hform : ∀ reason, fault ≠ .malformed reason) :
    (load path (.file text)).result = .error (.document fault) := by
  have hdocument : (document path text).result = .error (.document fault) := by
    rw [document, h]
    split
    · next heq => cases heq
    · next reason heq =>
      cases heq
      exact absurd rfl (hform reason)
    · next heq =>
      cases heq
      rfl
  rw [load, Run.result_bind_of_error hdocument]

theorem load_of_escapes (path : String) {f : Failure} (h : Escapes text f) :
    (load path (.file text)).result = .error f := by
  cases h with
  | document hread hform => exact load_of_fault hread hform
  | fieldNames hread hkey =>
    rw [load_of_ok hread]
    exact if_neg (by simpa using hkey)

theorem load_eq_ok_iff {c : Config} : (load path (.file text)).result = .ok c ↔
    ∃ es, Yaml.read text.toList = .ok (.map es) ∧ (∀ e ∈ es, isText e.1 = true) ∧
      Config.check es = .ok c := by
  constructor
  · intro h
    cases hread : Yaml.read text.toList with
    | error fault =>
      by_cases hform : ∀ reason, fault ≠ .malformed reason
      · rw [load_of_fault hread hform] at h
        cases h
      · obtain ⟨reason, rfl⟩ : ∃ reason, fault = .malformed reason := by simpa using hform
        rw [load_of_malformed hread] at h
        cases h
    | ok v =>
      rw [load_of_ok hread] at h
      cases v with
      | map es =>
        dsimp only at h
        split at h
        · next hall =>
          cases hcheck : Config.check es with
          | error report =>
            rw [hcheck] at h
            cases h
          | ok c' =>
            rw [hcheck] at h
            cases h
            exact ⟨es, rfl, by simpa using hall, hcheck⟩
        · cases h
      | _ => cases h
  · rintro ⟨es, hread, hall, hcheck⟩
    rw [load_of_ok hread]
    dsimp only
    rw [if_pos (by simpa using hall), hcheck]
    rfl

theorem load_of_not_escapes (h : ∀ f, ¬Escapes text f) :
    (∃ c, (load path (.file text)).result = .ok c) ∨
      ∃ fault, (load path (.file text)).result = .error (.settings fault) := by
  cases hread : Yaml.read text.toList with
  | error fault =>
    by_cases hform : ∀ reason, fault ≠ .malformed reason
    · exact absurd (.document hread hform) (h _)
    · obtain ⟨reason, rfl⟩ : ∃ reason, fault = .malformed reason := by simpa using hform
      exact .inr ⟨_, load_of_malformed hread⟩
  | ok v =>
    rw [load_of_ok hread]
    cases v with
    | map es =>
      dsimp only
      split
      · cases Config.check es with
        | ok c => exact .inl ⟨c, rfl⟩
        | error report => exact .inr ⟨_, rfl⟩
      · next hall => exact absurd (.fieldNames hread (by simpa using hall)) (h .fieldNames)
    | _ => exact .inr ⟨_, rfl⟩

end Load

/-- Loading answers with a configuration or with a fault of the settings unless the text escapes.
What escapes is a key that is no text, or a fault that some token, version or node is to blame
for. -/
theorem load_answers (path text : String) :
    (((∃ c, (load path (.file text)).result = .ok c) ∨
        ∃ fault, (load path (.file text)).result = .error (.settings fault)) ↔
      ∀ f, ¬Escapes text f) ∧
    (∀ c, (load path (.file text)).result = .ok c ↔
      ∃ es, Yaml.read text.toList = .ok (.map es) ∧ (∀ e ∈ es, isText e.1 = true) ∧
        Config.check es = .ok c) ∧
    (∀ f, Escapes text f → (load path (.file text)).result = .error f) ∧
    (∀ fault, Escapes text (.document fault) → Yaml.Origin text.toList fault) := by
  refine ⟨⟨fun h f hf => ?_, load_of_not_escapes⟩, fun c => load_eq_ok_iff,
    fun f => load_of_escapes path, fun fault h => ?_⟩
  · have hload := load_of_escapes path hf
    rcases h with ⟨c, hc⟩ | ⟨fault, hfault⟩
    · rw [hc] at hload
      cases hload
    · rw [hfault] at hload
      cases hload
      cases hf
  · cases h with
    | document hread hform =>
      refine ((Yaml.read_origin _).of_error hread).resolve_left ?_
      rintro ⟨reason, rfl⟩
      exact hform reason rfl

theorem load_answers_number_key : Escapes "1: 2\n" .fieldNames := by
  obtain ⟨hanswers, -, hescapes, -⟩ := load_answers "sidecar.yaml" "1: 2\n"
  have hload : (load "sidecar.yaml" (.file "1: 2\n")).result = .error .fieldNames := by
    decide +kernel
  have hsome : ¬∀ f, ¬Escapes "1: 2\n" f := by
    rw [← hanswers, hload]
    simp
  obtain ⟨f, hf⟩ := not_forall_not.1 hsome
  have heq := hescapes f hf
  rw [hload] at heq
  cases heq
  exact hf

/-- A thirteenth month is neither a configuration nor a fault of the settings. -/
theorem load_unanswered :
    ¬((∃ c, (load "sidecar.yaml" (.file "mesh_name: 2024-13-01\n")).result = .ok c) ∨
      ∃ fault, (load "sidecar.yaml" (.file "mesh_name: 2024-13-01\n")).result =
        .error (.settings fault)) := by
  have hload : (load "sidecar.yaml" (.file "mesh_name: 2024-13-01\n")).result =
      .error (.document (.noSuchTime "month must be in 1..12")) := by
    decide +kernel
  rw [hload]
  simp

end EnvoySidecar.Settings
