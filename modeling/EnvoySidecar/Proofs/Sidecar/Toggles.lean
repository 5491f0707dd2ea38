import EnvoySidecar.Proofs.Env.Managed
import EnvoySidecar.Proofs.Sidecar.Container

/-! Parameters of a toggle that is off. Every part of a sidecar looks at the toggle first, so that
configurations which differ in such parameters only cannot be told apart. -/

namespace EnvoySidecar

def Alike {α : Type} (enabled : α → Bool) (x y : α) : Prop :=
  x = y ∨ (enabled x = false ∧ enabled y = false)

namespace Alike

variable {α β : Type} {enabled : α → Bool} {x y : α}

theorem enabled_eq (h : Alike enabled x y) : enabled x = enabled y := by
  rcases h with rfl | ⟨hx, hy⟩
  · rfl
  · rw [hx, hy]

theorem eq_of_enabled (h : Alike enabled x y) (hx : enabled x = true) : x = y := by
  rcases h with h | ⟨hoff, -⟩
  · exact h
  · rw [hoff] at hx
    cases hx

end Alike

/-- The configurations agree but for parameters of toggles that are off in both. -/
structure Config.Agree (c d : Config) : Prop where
  sds : Alike Sds.enabled c.sds d.sds
  xray : Alike Xray.enabled c.xray d.xray
  datadog : Alike Datadog.enabled c.datadog d.datadog
  statsd : Alike Statsd.enabled c.statsd d.statsd
  jaeger : Alike Jaeger.enabled c.jaeger d.jaeger
  others : { c with
    sds := d.sds, xray := d.xray, datadog := d.datadog, statsd := d.statsd, jaeger := d.jaeger } = d

variable {c d : Config}

namespace Env

def Rule.Blind (r : Rule) (c d : Config) : Prop :=
  r.enabled c = r.enabled d ∧ (r.enabled c = true → r.entries c = r.entries d)

theorem Rule.all_blind (h : c.Agree d) : ∀ r ∈ all, r.Blind c d := by
  have hadmin : c.adminPort = d.adminPort := by rw [← h.others]
  have hlog : c.adminLogFile = d.adminLogFile := by rw [← h.others]
  have htags : c.statsTags = d.statsTags := by rw [← h.others]
  simp only [all, List.forall_mem_cons, List.not_mem_nil, false_implies, implies_true, and_true]
  refine ⟨?sds, ?adminPort, ?adminLogFile, ?xray, ?datadog, ?statsTags, ?statsd, ?jaeger⟩
  case sds =>
    exact ⟨h.sds.enabled_eq, fun hon => by simp only [sds, h.sds.eq_of_enabled hon]⟩
  case adminPort =>
    exact ⟨by simp only [adminPort, hadmin], fun _ => by simp only [adminPort, hadmin]⟩
  case adminLogFile =>
    exact ⟨by simp only [adminLogFile, hlog], fun _ => by simp only [adminLogFile, hlog]⟩
  case xray =>
    exact ⟨h.xray.enabled_eq, fun hon => by simp only [xray, h.xray.eq_of_enabled hon]⟩
  case datadog =>
    exact ⟨h.datadog.enabled_eq, fun hon => by simp only [datadog, h.datadog.eq_of_enabled hon]⟩
  case statsTags => exact ⟨by simp only [statsTags, htags], fun _ => rfl⟩
  case statsd =>
    exact ⟨h.statsd.enabled_eq, fun hon => by simp only [statsd, h.statsd.eq_of_enabled hon]⟩
  case jaeger => exact ⟨h.jaeger.enabled_eq, fun _ => rfl⟩

theorem ruleEntries_congr {rs : List Rule} (h : ∀ r ∈ rs, r.Blind c d) :
    ruleEntries c rs = ruleEntries d rs := by
  induction rs with
  | nil => rfl
  | cons r rest ih =>
    obtain ⟨⟨hon, hentries⟩, hrest⟩ := List.forall_mem_cons.1 h
    rw [ruleEntries, ruleEntries, ih hrest, ← hon]
    split
    · next henabled => rw [hentries henabled]
    · rfl

theorem managedEntries_congr (h : c.Agree d) : managedEntries c = managedEntries d := by
  have hbase : baseEntries c = baseEntries d := by
    rw [← h.others]
    rfl
  rw [managedEntries, managedEntries, ruleEntries_congr (Rule.all_blind h), hbase]

theorem assemble_congr (h : c.Agree d) (s : Store) : assemble c s = assemble d s := by
  simp only [assemble, managedEntries_congr h]

end Env

namespace Sidecar

theorem mounts_congr (h : c.Agree d) : mounts c = mounts d := by
  unfold mounts
  rw [← h.jaeger.enabled_eq]
  split
  · next hon => rw [h.jaeger.eq_of_enabled hon]
  · rfl

theorem build_congr (h : c.Agree d) (s : Env.Store) : build c s = build d s := by
  have hcontainer : container c (preStop c) = container d (preStop d) := by
    funext env
    unfold container
    rw [mounts_congr h, ← h.others]
    rfl
  have hnode : c.virtualNodeRef = d.virtualNodeRef := by
    rw [← h.others]
    rfl
  rw [build_eq, build_eq, Env.assemble_congr h, hcontainer, hnode]

/-- Whatever the store holds, and whether or not it can be rendered, the parameters of toggles
that are off make no difference to results, failures, stores and notices. -/
theorem disabled_unobserved (h : c.Agree d) (s : Env.Store) :
    Env.assemble c s = Env.assemble d s ∧ build c s = build d s ∧ render c s = render d s := by
  refine ⟨Env.assemble_congr h s, build_congr h s, ?_⟩
  have htexts : c.resourceTexts = d.resourceTexts := by
    rw [← h.others]
    rfl
  have hprobe : probe c = probe d := by
    rw [← h.others]
    rfl
  cases hresources : (Resources.build c.resourceTexts).result with
  | error failure =>
    rw [render_of_error hresources, render_of_error (htexts ▸ hresources), htexts]
  | ok r =>
    rw [render_of_ok hresources, render_of_ok (htexts ▸ hresources), htexts, hprobe,
      build_congr h]

def idle (volume address socket : String) : Config :=
  { Config.minimal with
    sds := { socketPath := socket }
    datadog := { port := .text "none", address }
    statsd := { enabled := true, address := Env.hostIpSentinel }
    jaeger := { volumeName := volume } }

def idleCaller : Env.Store :=
  Env.Store.empty.set "DATADOG_TRACER_ADDRESS" (.other (.int 7))

theorem disabled_unobserved_idle :
    let c := idle "v" "10.0.0.5" "/run/a"
    let d := idle "w" "ref:status.hostIP" "/run/b"
    c.Agree d ∧ c ≠ d ∧ render c idleCaller = render d idleCaller ∧
      (render c idleCaller).run.result.isOk = false := by
  have hagree : (idle "v" "10.0.0.5" "/run/a").Agree (idle "w" "ref:status.hostIP" "/run/b") :=
    ⟨.inr ⟨rfl, rfl⟩, .inl rfl, .inr ⟨rfl, rfl⟩, .inl rfl, .inr ⟨rfl, rfl⟩, rfl⟩
  exact ⟨hagree, by decide, (disabled_unobserved hagree idleCaller).2.2, by decide +kernel⟩

end Sidecar

end EnvoySidecar
