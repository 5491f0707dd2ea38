import EnvoySidecar.Proofs.Container.Check
import EnvoySidecar.Proofs.Manifest.Paths
import EnvoySidecar.Proofs.Results
import EnvoySidecar.Proofs.Schema.Outcome

/-! The variables of a container that was checked. A variable may be given a literal value, a field
to read it from, both or neither, and is taken as it is given. Its manifest shows a field before a
value, so that with both the value is lost, and without either a null stands in its place. -/

namespace EnvoySidecar

open Schema Manifest

namespace EnvVar

variable {v : EnvVar}

/-- There is exactly one of a literal value and a field. -/
def Single (v : EnvVar) : Prop :=
  v.value.isSome = !v.fieldPath.isSome

def fieldSteps : List Step :=
  [.field "valueFrom", .field "fieldRef", .field "fieldPath"]

@[simp] theorem get?_name (v : EnvVar) : v.toManifest.get? "name" = some (.text v.name) := by
  unfold toManifest
  split <;> rfl

theorem get?_value (v : EnvVar) : v.toManifest.get? "value" =
    if v.fieldPath.isSome then none else some (v.value.elim .null .text) := by
  obtain ⟨name, value, fieldPath⟩ := v
  cases fieldPath <;> cases value <;> rfl

theorem at?_fieldSteps (v : EnvVar) : v.toManifest.at? fieldSteps = v.fieldPath.map .text := by
  obtain ⟨name, value, fieldPath⟩ := v
  cases fieldPath <;> rfl

def Sourced (v : EnvVar) : Prop :=
  (∃ s, v.toManifest.get? "value" = some (.text s)) ∨
    ∃ path, v.toManifest.at? fieldSteps = some (.text path)

structure Shown (v : EnvVar) : Prop where
  name : v.toManifest.get? "name" = some (.text v.name)
  value : ∀ s ∈ v.value, v.toManifest.get? "value" = some (.text s)
  fieldPath : ∀ path ∈ v.fieldPath, v.toManifest.at? fieldSteps = some (.text path)

theorem get?_value_eq_null_iff :
    v.toManifest.get? "value" = some .null ↔ v.value = none ∧ v.fieldPath = none := by
  obtain ⟨name, value, fieldPath⟩ := v
  cases value <;> cases fieldPath <;> simp [get?_value]

theorem sourced_iff : v.Sourced ↔ v.value.isSome ∨ v.fieldPath.isSome := by
  unfold Sourced
  obtain ⟨name, value, fieldPath⟩ := v
  cases value <;> cases fieldPath <;> simp [get?_value, at?_fieldSteps]

theorem shown_iff : v.Shown ↔ ¬(v.value.isSome ∧ v.fieldPath.isSome) := by
  have hshown : v.Shown ↔ ∀ s ∈ v.value, v.toManifest.get? "value" = some (.text s) := by
    refine ⟨Shown.value, fun h => ⟨v.get?_name, h, fun path hpath => ?_⟩⟩
    rw [at?_fieldSteps, hpath, Option.map_some]
  rw [hshown]
  obtain ⟨name, value, fieldPath⟩ := v
  cases value <;> cases fieldPath <;> simp [get?_value]

theorem single_iff : v.Single ↔ v.Sourced ∧ v.Shown := by
  rw [sourced_iff, shown_iff, Single]
  cases v.value.isSome <;> cases v.fieldPath.isSome <;> simp

/-! What a variable is given -/

/-- The entries give something under a name, be it of the wrong kind. -/
def Gives (name : String) (es : Entries) : Prop :=
  ∃ w, Value.field? name es = some w ∧ w ≠ .null

theorem gives_iff_of_optional {α : Type} {name : String} {check : Check α} {es : Entries}
    {a : Option α} (h : optional name none (nullable check) es = .ok a) :
    a.isSome = true ↔ Gives name es := by
  unfold Gives
  rcases optional_eq_ok_iff.1 h with ⟨hnone, rfl⟩ | ⟨w, hw, hcheck⟩
  · simp [hnone]
  · rw [hw]
    rcases nullable_eq_ok_iff.1 hcheck with ⟨rfl, rfl⟩ | ⟨hne, b, -, rfl⟩
    · simp
    · simpa using hne

theorem gives_of_fields {es : Entries} (h : fields es = .ok v) :
    (v.value.isSome = true ↔ Gives "value" es) ∧
      (v.fieldPath.isSome = true ↔ Gives "value_from" es) := by
  simp only [fields, Checked.seq_eq_ok_iff, Checked.map_eq_ok_iff] at h
  obtain ⟨_, fieldPath, ⟨_, value, ⟨name, -, rfl⟩, hvalue, rfl⟩, hfield, rfl⟩ := h
  exact ⟨gives_iff_of_optional hvalue, gives_iff_of_optional hfield⟩

def GivesOne (es : Entries) : Prop :=
  Gives "value" es ↔ ¬Gives "value_from" es

structure Reflects (v : EnvVar) (es : Entries) : Prop where
  sourced : v.Sourced ↔ Gives "value" es ∨ Gives "value_from" es
  null : v.toManifest.get? "value" = some .null ↔ ¬Gives "value" es ∧ ¬Gives "value_from" es
  shown : v.Shown ↔ ¬(Gives "value" es ∧ Gives "value_from" es)
  single : v.Single ↔ GivesOne es

theorem reflects_of_fields {es : Entries} (h : fields es = .ok v) : v.Reflects es := by
  obtain ⟨hvalue, hfield⟩ := gives_of_fields h
  refine ⟨?_, ?_, ?_, ?_⟩
  · rw [sourced_iff, hvalue, hfield]
  · rw [get?_value_eq_null_iff, ← hvalue, ← hfield, Option.not_isSome_iff_eq_none,
      Option.not_isSome_iff_eq_none]
  · rw [shown_iff, hvalue, hfield]
  · rw [GivesOne, ← hvalue, ← hfield, Single]
    cases v.value.isSome <;> cases v.fieldPath.isSome <;> simp

/-- A variable that is read from an item, with what its manifest shows of it. -/
def ReadFrom (item : Value) (v : EnvVar) : Prop :=
  ∃ es, item = .map es ∧ fields es = .ok v ∧ v.Reflects es

theorem readFrom_of_model {title : String} {item : Value} (h : model title fields item = .ok v) :
    ReadFrom item v := by
  obtain ⟨es, hitem, hv⟩ := model_eq_ok_iff.1 h
  exact ⟨es, hitem, hv, reflects_of_fields hv⟩

end EnvVar

namespace Container

variable {es : Entries} {k : Container}

def givenVariables (es : Entries) : List Value :=
  ((Value.field? "env" es).bind items?).getD []

theorem env_of_check (h : check es = .ok k) :
    List.Forall₂ EnvVar.ReadFrom (givenVariables es) k.env := by
  have hfields := Checked.toExcept_eq_ok_iff.1 h
  simp only [fields, Checked.seq_eq_ok_iff, Checked.map_eq_ok_iff] at hfields
  obtain ⟨_, probe, ⟨_, resources, ⟨_, env, ⟨_, mounts, ⟨_, preStop, ⟨_, ports,
    ⟨_, user, ⟨_, image, ⟨name, -, rfl⟩, -, rfl⟩, -, rfl⟩, -, rfl⟩, -, rfl⟩, -, rfl⟩, henv, rfl⟩,
    -, rfl⟩, -, rfl⟩ := hfields
  rcases optional_eq_ok_iff.1 henv with ⟨hnone, rfl⟩ | ⟨w, hw, hcheck⟩
  · rw [givenVariables, hnone]
    exact .nil
  · obtain ⟨items, hitems, hall⟩ := listOf_eq_ok_iff.1 hcheck
    rw [givenVariables, hw, Option.bind_some, hitems, Option.getD_some]
    exact hall.imp fun _ _ => EnvVar.readFrom_of_model

def holding (vars : List EnvVar) : Container :=
  { name := "envoy", image := "envoy", runAsUser := 1337, env := vars }

theorem check_holding (vars : List EnvVar) :
    check (holding vars).entries = .ok (holding vars) :=
  check_entries (List.forall_mem_nil _) rfl

/-- The variables of a container that was checked are read one by one from what was given, and the
manifest shows a text or a field exactly if one was given, a null if neither was, and everything
exactly if not both were. So they all have one source, with which they are shown, exactly if each
was given exactly one. -/
theorem variables_shown (h : check es = .ok k) :
    (k.env ≠ [] → k.toManifest.get? "env" = some (.list (k.env.map EnvVar.toManifest))) ∧
      List.Forall₂ EnvVar.ReadFrom (givenVariables es) k.env ∧
      ((∀ v ∈ k.env, v.Single ∧ v.Sourced ∧ v.Shown) ↔
        ∀ item ∈ givenVariables es, ∃ fs, item = .map fs ∧ EnvVar.GivesOne fs) := by
  refine ⟨get?_env, env_of_check h, forall_mem_congr (env_of_check h).flip ?_⟩
  rintro v item ⟨fs, rfl, -, hreflects⟩
  rw [← EnvVar.single_iff, and_self, hreflects.single]
  simp

def unsettled : Container :=
  holding [⟨"A", none, none⟩, ⟨"B", some "1", some "status.hostIP"⟩]

theorem variables_shown_unsettled :
    check unsettled.entries = .ok unsettled ∧
      unsettled.toManifest.get? "env" = some (.list (unsettled.env.map EnvVar.toManifest)) ∧
      (⟨"A", none, none⟩ : EnvVar).Reflects (⟨"A", none, none⟩ : EnvVar).entries := by
  obtain ⟨henv, hvars, -⟩ := variables_shown (check_holding unsettled.env)
  refine ⟨check_holding _, henv (List.cons_ne_nil _ _), ?_⟩
  obtain ⟨⟨fs, hitem, -, hreflects⟩, -⟩ := List.forall₂_cons.1 hvars
  cases hitem
  exact hreflects

/-- A variable without a source shows a null, and the value of one with both is not shown. -/
theorem variables_unsettled :
    check unsettled.entries = .ok unsettled ∧
      (∃ v ∈ unsettled.env, ¬v.Single ∧ ¬v.Sourced ∧ v.toManifest.get? "value" = some .null) ∧
      ∃ v ∈ unsettled.env, ¬v.Single ∧ v.value = some "1" ∧ v.toManifest.get? "value" = none := by
  refine ⟨check_holding _, ⟨⟨"A", none, none⟩, ?_⟩, ⟨⟨"B", some "1", some "status.hostIP"⟩, ?_⟩⟩
  · exact ⟨List.mem_cons_self, by simp [EnvVar.Single], by simp [EnvVar.sourced_iff], rfl⟩
  · exact ⟨by simp [unsettled, holding], by simp [EnvVar.Single], rfl, rfl⟩

end Container

end EnvoySidecar
