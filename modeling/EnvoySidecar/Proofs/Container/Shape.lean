import EnvoySidecar.Proofs.Env.Assembly
import EnvoySidecar.Proofs.Rendering
import EnvoySidecar.Proofs.Yaml.Reading.Manifest

/-! The manifest of a container as a tree that can be read back. Its fields have plain names, and
whatever has nothing to show is left out of it. -/

namespace EnvoySidecar

namespace Manifest

open Yaml

variable {indent : Nat} {name : String}

instance : Decidable (IsField name) :=
  decidable_of_iff (Style.ofText name.toList = .plain ∧ name.toList ≠ [] ∧
      name.toList.all Char.isAlphanum = true ∧ name.toList.length ≤ SavedKey.reach)
    ⟨fun ⟨hplain, hne, hchars, hshort⟩ => ⟨hplain, hne, List.all_eq_true.1 hchars, hshort⟩,
      fun ⟨hplain, hne, hchars, hshort⟩ => ⟨hplain, hne, List.all_eq_true.2 hchars, hshort⟩⟩

def fieldNames : List String :=
  ["name", "image", "securityContext", "runAsUser", "ports", "containerPort", "protocol",
    "lifecycle", "preStop", "volumeMounts", "mountPath", "env", "value", "valueFrom", "fieldRef",
    "fieldPath", "resources", "requests", "limits", "cpu", "memory", "readinessProbe", "exec",
    "command", "initialDelaySeconds", "timeoutSeconds", "periodSeconds", "successThreshold",
    "failureThreshold"]

theorem nodup_fieldNames : fieldNames.Nodup := by
  decide +kernel

theorem isField_of_mem : ∀ name ∈ fieldNames, IsField name := by
  decide +kernel

theorem Shaped.of_sublist {fields : List (String × Manifest)} (hne : fields ≠ [])
    (hnames : (fields.map (·.1)).Sublist fieldNames)
    (hvalues : ∀ f ∈ fields, Shaped (indent + 2) f.2) : Shaped indent (.record fields) :=
  .record hne (hnames.nodup nodup_fieldNames)
    (fun f hf => isField_of_mem f.1 (hnames.subset (List.mem_map_of_mem hf))) hvalues

theorem Shaped.single {m : Manifest} (hname : name ∈ fieldNames) (h : Shaped (indent + 2) m) :
    Shaped indent (.record [(name, m)]) :=
  .of_sublist (List.cons_ne_nil _ _) (List.singleton_sublist.2 hname) (by simpa using h)

theorem Shaped.texts {ss : List String} (hindent : indent < Fold.width) (hne : ss ≠ []) :
    Shaped indent (.texts ss) := by
  refine .list (by simpa using hne) (fun m hm => ?_) (fun m hm => ?_)
  · obtain ⟨s, -, rfl⟩ := List.mem_map.1 hm
    exact .text hindent
  · obtain ⟨s, -, rfl⟩ := List.mem_map.1 hm
    exact fun _ h => nomatch h

theorem names_field (name : String) (m : Option Manifest) :
    ((field name m).map (·.1)).Sublist [name] := by
  cases m with
  | none => exact List.nil_sublist _
  | some m => exact List.Sublist.refl _

theorem names_listField (name : String) (ms : List Manifest) :
    ((listField name ms).map (·.1)).Sublist [name] := by
  unfold listField
  split
  · exact List.nil_sublist _
  · exact List.Sublist.refl _

theorem shaped_field {α : Type} {a : Option α} {f : α → Manifest}
    (h : ∀ b ∈ a, Shaped indent (f b)) : ∀ g ∈ field name (a.map f), Shaped indent g.2 := by
  cases a with
  | none => exact List.forall_mem_nil _
  | some b => exact List.forall_mem_singleton.2 (h b rfl)

theorem shaped_listField {α : Type} {as : List α} {f : α → Manifest}
    (h : ∀ a ∈ as, ∃ fields, f a = .record fields ∧ Shaped indent (.record fields)) :
    ∀ g ∈ listField name (as.map f), Shaped indent g.2 := by
  unfold listField
  split
  · exact List.forall_mem_nil _
  next hne =>
  rw [List.isEmpty_iff] at hne
  refine List.forall_mem_singleton.2 (.list hne (fun m hm => ?_) (fun m hm inner hinner => ?_))
  · obtain ⟨a, ha, rfl⟩ := List.mem_map.1 hm
    obtain ⟨fields, heq, hshaped⟩ := h a ha
    exact heq ▸ hshaped
  · obtain ⟨a, ha, rfl⟩ := List.mem_map.1 hm
    obtain ⟨fields, heq, -⟩ := h a ha
    exact nomatch heq.symm.trans hinner

end Manifest

open Manifest

/-! Parts of a container -/

def EnvVar.Whole (v : EnvVar) : Prop :=
  v.value.isSome = true ∨ v.fieldPath.isSome = true

def ResourceGroup.Whole (g : ResourceGroup) : Prop :=
  g.cpu.isSome = true ∨ g.memory.isSome = true

def Resources.Whole (r : Resources) : Prop :=
  (∀ g ∈ r.requests, g.Whole) ∧ ∀ g ∈ r.limits, g.Whole

structure Probe.Whole (p : Probe) : Prop where
  command : p.command ≠ []
  numbers : ∀ n ∈ [p.initialDelay, p.timeout.val, p.period, p.successThreshold.val,
    p.failureThreshold.val], (PortSetting.number n).Writable

/-- Nothing in a container is there without content, and its numbers can be written. -/
structure Container.Whole (k : Container) : Prop where
  user : (PortSetting.number k.runAsUser).Writable
  preStop : ∀ command ∈ k.preStop, command ≠ []
  env : ∀ v ∈ k.env, v.Whole
  resources : ∀ r ∈ k.resources, r.Whole
  probe : ∀ p ∈ k.readinessProbe, p.Whole

theorem ContainerPort.shaped (p : ContainerPort) : ∃ fields, p.toManifest = .record fields ∧
    Shaped 2 (.record fields) := by
  have hport : (PortSetting.number p.number.val).Writable := by
    obtain ⟨hlo, hhi⟩ := p.number.property
    exact PortSetting.writable_of_lt (by omega)
  have hnames : ["name", "containerPort", "protocol"].Sublist fieldNames := by decide +kernel
  refine ⟨_, rfl, .of_sublist (List.cons_ne_nil _ _) hnames ?_⟩
  simp only [List.forall_mem_cons, List.not_mem_nil, false_implies, implies_true, and_true]
  exact ⟨.text (by decide), .int hport, .text (by decide)⟩

theorem VolumeMount.shaped (m : VolumeMount) : ∃ fields, m.toManifest = .record fields ∧
    Shaped 2 (.record fields) := by
  have hnames : ["name", "mountPath"].Sublist fieldNames := by decide +kernel
  refine ⟨_, rfl, .of_sublist (List.cons_ne_nil _ _) hnames ?_⟩
  simp only [List.forall_mem_cons, List.not_mem_nil, false_implies, implies_true, and_true]
  exact ⟨.text (by decide), .text (by decide)⟩

theorem EnvVar.shaped {v : EnvVar} (h : v.Whole) : ∃ fields, v.toManifest = .record fields ∧
    Shaped 2 (.record fields) := by
  obtain ⟨name, value, fieldPath⟩ := v
  cases fieldPath with
  | some path =>
    have hnames : ["name", "valueFrom"].Sublist fieldNames := by decide +kernel
    refine ⟨_, rfl, .of_sublist (List.cons_ne_nil _ _) hnames ?_⟩
    simp only [List.forall_mem_cons, List.not_mem_nil, false_implies, implies_true, and_true]
    exact ⟨.text (by decide), .single (by decide +kernel)
      (.single (by decide +kernel) (.text (by decide)))⟩
  | none =>
    obtain ⟨s, rfl⟩ : ∃ s, value = some s := Option.isSome_iff_exists.1 (h.resolve_right (by simp))
    have hnames : ["name", "value"].Sublist fieldNames := by decide +kernel
    refine ⟨_, rfl, .of_sublist (List.cons_ne_nil _ _) hnames ?_⟩
    simp only [List.forall_mem_cons, List.not_mem_nil, false_implies, implies_true, and_true]
    exact ⟨.text (by decide), .text (by decide)⟩

theorem ResourceGroup.shaped {g : ResourceGroup} (h : g.Whole) : Shaped 4 g.toManifest := by
  refine .of_sublist ?_ ?_ ?_
  · obtain ⟨cpu, memory⟩ := g
    cases cpu <;> cases memory <;> simp_all [Whole, field]
  · rw [List.map_append]
    exact ((names_field "cpu" _).append (names_field "memory" _)).trans (by decide +kernel)
  · exact List.forall_mem_append.2
      ⟨shaped_field fun q _ => .text (by decide), shaped_field fun q _ => .text (by decide)⟩

theorem Resources.shaped {r : Resources} (h : r.Whole) (hne : r.manifestFields ≠ []) :
    Shaped 2 r.toManifest := by
  refine .of_sublist hne ?_ ?_
  · rw [manifestFields, List.map_append]
    exact ((names_field "requests" _).append (names_field "limits" _)).trans (by decide +kernel)
  · exact List.forall_mem_append.2 ⟨shaped_field fun g hg => ResourceGroup.shaped (h.1 g hg),
      shaped_field fun g hg => ResourceGroup.shaped (h.2 g hg)⟩

theorem Probe.shaped {p : Probe} (h : p.Whole) : Shaped 2 p.toManifest := by
  have hnumbers := h.numbers
  simp only [List.forall_mem_cons, List.not_mem_nil, false_implies, implies_true, and_true]
    at hnumbers
  obtain ⟨hdelay, htimeout, hperiod, hsuccess, hfailure⟩ := hnumbers
  have hnames : ["exec", "initialDelaySeconds", "timeoutSeconds", "periodSeconds",
      "successThreshold", "failureThreshold"].Sublist fieldNames := by decide +kernel
  refine .of_sublist (List.cons_ne_nil _ _) hnames ?_
  simp only [List.forall_mem_cons, List.not_mem_nil, false_implies, implies_true, and_true]
  exact ⟨.single (by decide +kernel) (.texts (by decide) h.command), .int hdelay, .int htimeout,
    .int hperiod, .int hsuccess, .int hfailure⟩

namespace Container

theorem shaped_lifecycle {command : Command} (h : command ≠ []) : Shaped 2 (lifecycle command) :=
  .single (by decide +kernel) (.single (by decide +kernel)
    (.single (by decide +kernel) (.texts (by decide) h)))

theorem names_resourcesField (r : Option Resources) :
    ((resourcesField r).map (·.1)).Sublist ["resources"] := by
  cases r with
  | none => exact List.nil_sublist _
  | some r =>
    rw [resourcesField]
    split
    · exact List.nil_sublist _
    · exact List.Sublist.refl _

theorem shaped_resourcesField {r : Option Resources} (h : ∀ r' ∈ r, r'.Whole) :
    ∀ f ∈ resourcesField r, Shaped 2 f.2 := by
  cases r with
  | none => exact List.forall_mem_nil _
  | some r =>
    rw [resourcesField]
    split
    · exact List.forall_mem_nil _
    · next hne =>
      rw [List.isEmpty_iff] at hne
      exact fun f hf => List.mem_singleton.1 hf ▸ Resources.shaped (h r rfl) hne

theorem Whole.shaped {k : Container} (h : k.Whole) : Shaped 0 k.toManifest := by
  refine .of_sublist (by simp) ?_ ?_
  · simp only [List.map_append, List.map_cons, List.map_nil]
    exact ((((((List.Sublist.refl _).append (names_listField "ports" _)).append
      (names_field "lifecycle" _)).append (names_listField "volumeMounts" _)).append
      (names_listField "env" _)).append (names_resourcesField _)).append
      (names_field "readinessProbe" _) |>.trans (by decide +kernel)
  · have hfixed : ∀ f ∈ [("name", Manifest.text k.name), ("image", .text k.image),
        ("securityContext", .record [("runAsUser", .int k.runAsUser)])], Shaped 2 f.2 := by
      simp only [List.forall_mem_cons, List.not_mem_nil, false_implies, implies_true, and_true]
      exact ⟨.text (by decide), .text (by decide), .single (by decide +kernel) (.int h.user)⟩
    simp only [List.forall_mem_append]
    exact ⟨⟨⟨⟨⟨⟨hfixed, shaped_listField fun p _ => p.shaped⟩,
      shaped_field fun command hcommand => shaped_lifecycle (h.preStop command hcommand)⟩,
      shaped_listField fun m _ => m.shaped⟩,
      shaped_listField fun v hv => EnvVar.shaped (h.env v hv)⟩,
      shaped_resourcesField h.resources⟩,
      shaped_field fun p hp => Probe.shaped (h.probe p hp)⟩

end Container

/-! Rendered containers -/

namespace Resources

open Run

variable {field cpuField memoryField : ResourceField} {value cpu memory : String}

theorem isSome_of_quantity {q : Option Quantity} (h : (quantity field value).result = .ok q)
    (hvalue : value ≠ "") : q.isSome = true := by
  unfold quantity at h
  rw [if_neg hvalue] at h
  split at h <;> cases h
  rfl

theorem whole_of_group {g : Option ResourceGroup}
    (h : (group cpuField memoryField cpu memory).result = .ok g) : ∀ g' ∈ g, g'.Whole := by
  unfold group at h
  split at h
  · cases h
    exact fun _ hg => nomatch hg
  · next hempty =>
    simp only [result_bind_eq_ok_iff, result_pure] at h
    obtain ⟨c, hc, m, hm, hg⟩ := h
    cases hg
    rintro _ ⟨⟩
    rcases not_and_or.1 hempty with hcpu | hmemory
    · exact .inl (isSome_of_quantity hc hcpu)
    · exact .inr (isSome_of_quantity hm hmemory)

theorem whole_of_build {t : ResourceTexts} {r : Resources} (h : (build t).result = .ok r) :
    r.Whole := by
  unfold build at h
  simp only [result_bind_eq_ok_iff, result_pure] at h
  obtain ⟨requests, hrequests, limits, hlimits, hr⟩ := h
  cases hr
  exact ⟨whole_of_group hrequests, whole_of_group hlimits⟩

end Resources

theorem Env.whole_of_assemble {c : Config} {s : Store} {vars : List EnvVar}
    (h : (assemble c s).run.result = .ok vars) : ∀ v ∈ vars, v.Whole := by
  obtain ⟨_, -, -, hsuccess⟩ := assemble_written c s
  intro v hv
  obtain ⟨_, -, hrender⟩ := (renderAll_rendering (hsuccess vars h).2).rendered v hv
  obtain ⟨t, -, ht⟩ := render_eq_ok_iff.1 hrender
  rw [← ht]
  cases t with
  | literal text => exact .inl rfl
  | fieldRef path => exact .inr rfl

theorem Sidecar.whole_of_render {c : Config} {s : Env.Store} {k : Container} {text : String}
    (h : (render c s).run.result = .ok k) (htext : Rendering.text k = .ok text) : k.Whole := by
  obtain ⟨r, vars, hr, hvars, rfl⟩ := render_eq_ok_iff.1 h
  obtain ⟨hdelay, hperiod⟩ := Rendering.text_total_iff.1 ⟨text, htext⟩
  have huser : (PortSetting.number user).Writable := by decide
  have hsmall : ∀ n ∈ [1, 3], (PortSetting.number n).Writable := by decide
  refine ⟨huser, ?_, Env.whole_of_assemble hvars, ?_, ?_⟩
  · rintro _ ⟨⟩
    exact List.cons_ne_nil _ _
  · rintro _ ⟨⟩
    exact Resources.whole_of_build hr
  · rintro _ ⟨⟩
    refine ⟨List.cons_ne_nil _ _, ?_⟩
    simp only [List.forall_mem_cons, List.not_mem_nil, false_implies, implies_true, and_true]
      at hsmall ⊢
    exact ⟨hdelay, hsmall.1, hperiod, hsmall⟩

end EnvoySidecar
