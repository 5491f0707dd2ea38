import Mathlib.Data.List.Nodup
import EnvoySidecar.Env.Managed
import EnvoySidecar.Proofs.Results

/-! The managed variables as a whole. Every rule owns a fixed list of names, and no name is owned
twice, so that the entries of a configuration never overwrite each other. -/

namespace EnvoySidecar

def Config.minimal : Config where
  meshName := ⟨"m", by decide⟩
  virtualNodeName := ⟨"vn", by decide⟩
  image := ⟨"envoy:v1", by decide⟩
  region := "us-west-2"

/-- A number has to be written in digits within the limit; a text is there already. -/
def PortSetting.Writable : PortSetting → Prop
  | number n => (Text.digits n.natAbs).length ≤ Text.digitLimit
  | text _ => True

def Config.PortsWritable (c : Config) : Prop :=
  c.xray.daemonPort.Writable ∧ c.datadog.port.Writable ∧ c.statsd.port.Writable

/-- The ports of the toggles that are on can be written. -/
structure Config.ManagedWritable (c : Config) : Prop where
  xray : c.xray.enabled = true → c.xray.daemonPort.Writable
  datadog : c.datadog.enabled = true → c.datadog.port.Writable
  statsd : c.statsd.enabled = true → c.statsd.port.Writable

theorem Config.PortsWritable.managed {c : Config} (h : c.PortsWritable) : c.ManagedWritable :=
  ⟨fun _ => h.1, fun _ => h.2.1, fun _ => h.2.2⟩

instance (p : PortSetting) : Decidable p.Writable :=
  match p with
  | .number n => inferInstanceAs (Decidable ((Text.digits n.natAbs).length ≤ Text.digitLimit))
  | .text _ => inferInstanceAs (Decidable True)

instance (c : Config) : Decidable c.PortsWritable :=
  inferInstanceAs (Decidable (_ ∧ _ ∧ _))

theorem PortSetting.writable_iff {p : PortSetting} : p.Writable ↔ ∃ s, p.text? = some s := by
  cases p with
  | number n =>
    constructor
    · exact fun h => ⟨String.ofList (Text.integerText n), if_pos h⟩
    · rintro ⟨s, h⟩
      by_contra hlong
      have hnone : Text.integerText? n = none := if_neg hlong
      rw [PortSetting.text?, hnone] at h
      cases h
  | text s => exact iff_of_true trivial ⟨s, rfl⟩

theorem PortSetting.writable_of_lt {n : Int} (h : n.natAbs < 100000) : (number n).Writable := by
  have hfive : (Text.digits n.natAbs).length ≤ 5 :=
    (Nat.length_toDigits_le_iff (by decide) (by decide)).2 h
  exact Nat.le_trans hfive (by decide)

theorem Config.adminPort_writable (c : Config) : (PortSetting.number c.adminPort.val).Writable := by
  obtain ⟨hlo, hhi⟩ := c.adminPort.property
  exact PortSetting.writable_of_lt (by omega)

theorem Config.adminPort_text (c : Config) : (PortSetting.number c.adminPort.val).text? =
    some (String.ofList (Text.digits c.adminPort.val.natAbs)) := by
  have hsign : Text.integerText c.adminPort.val = Text.digits c.adminPort.val.natAbs :=
    if_neg (Int.not_lt.2 c.adminPort.property.1)
  rw [← hsign]
  exact if_pos c.adminPort_writable

namespace Env

namespace Rule

theorem portEntry_eq_ok_iff {name : String} {p : PortSetting} {e : Entry} :
    portEntry name p = .ok e ↔ ∃ s, p.text? = some s ∧ e = (name, s) := by
  unfold portEntry
  cases p.text? with
  | none => simp
  | some s => simp [eq_comm]

def Owns (r : Rule) (names : List String) : Prop :=
  ∀ c es, r.entries c = .ok es → es.map Prod.fst = names

def ownedNames : List (List String) :=
  [["APPMESH_SDS_SOCKET_PATH"],
    ["ENVOY_ADMIN_ACCESS_PORT"],
    ["ENVOY_ADMIN_ACCESS_LOG_FILE"],
    ["ENABLE_ENVOY_XRAY_TRACING", "XRAY_DAEMON_PORT"],
    ["ENABLE_ENVOY_DATADOG_TRACING", "DATADOG_TRACER_PORT", "DATADOG_TRACER_ADDRESS"],
    ["ENABLE_ENVOY_STATS_TAGS"],
    ["ENABLE_ENVOY_DOG_STATSD", "STATSD_PORT", "STATSD_ADDRESS"],
    ["ENVOY_TRACING_CFG_FILE"]]

theorem all_own : List.Forall₂ Owns all ownedNames := by
  refine .cons ?sds <| .cons ?adminPort <| .cons ?adminLogFile <| .cons ?xray <|
    .cons ?datadog <| .cons ?statsTags <| .cons ?statsd <| .cons ?jaeger .nil
  case sds | adminLogFile | statsTags | jaeger =>
    intro c es h
    cases h
    rfl
  case adminPort | xray | datadog | statsd =>
    intro c es h
    obtain ⟨e, he, h⟩ := except_bind_eq_ok_iff.1 h
    obtain ⟨s, _, rfl⟩ := portEntry_eq_ok_iff.1 he
    cases h
    rfl

theorem portEntry_total_iff {name : String} {p : PortSetting} {f : Entry → List Entry} :
    (∃ es, (portEntry name p >>= fun e => Except.ok (f e)) = .ok es) ↔ p.Writable := by
  rw [PortSetting.writable_iff]
  constructor
  · rintro ⟨es, h⟩
    obtain ⟨e, he, -⟩ := except_bind_eq_ok_iff.1 h
    obtain ⟨s, hs, -⟩ := portEntry_eq_ok_iff.1 he
    exact ⟨s, hs⟩
  · rintro ⟨s, hs⟩
    exact ⟨f (name, s), except_bind_eq_ok_iff.2 ⟨_, portEntry_eq_ok_iff.2 ⟨s, hs, rfl⟩, rfl⟩⟩

theorem entries_total_iff {c : Config} :
    (∀ r ∈ all, r.enabled c = true → ∃ es, r.entries c = .ok es) ↔ c.ManagedWritable := by
  constructor
  · intro h
    refine ⟨fun hon => ?_, fun hon => ?_, fun hon => ?_⟩
    · exact portEntry_total_iff.1 (h xray (by simp [all]) hon)
    · exact portEntry_total_iff.1 (h datadog (by simp [all]) hon)
    · exact portEntry_total_iff.1 (h statsd (by simp [all]) hon)
  · intro h r hr hon
    simp only [all, List.mem_cons, List.not_mem_nil, or_false] at hr
    rcases hr with rfl | rfl | rfl | rfl | rfl | rfl | rfl | rfl
    · exact ⟨_, rfl⟩
    · exact portEntry_total_iff.2 c.adminPort_writable
    · exact ⟨_, rfl⟩
    · exact portEntry_total_iff.2 (h.xray hon)
    · exact portEntry_total_iff.2 (h.datadog hon)
    · exact ⟨_, rfl⟩
    · exact portEntry_total_iff.2 (h.statsd hon)
    · exact ⟨_, rfl⟩

end Rule

variable {c : Config} {r : Rule} {rs : List Rule} {es : List Entry}

theorem ruleEntries_cons_eq_ok_iff :
    (ruleEntries c (r :: rs)).result = .ok es ↔
      if r.enabled c then ∃ own tail, r.entries c = .ok own ∧
        (ruleEntries c rs).result = .ok tail ∧ own ++ tail = es
      else (ruleEntries c rs).result = .ok es := by
  rw [ruleEntries]
  split
  · simp only [Run.result_bind_eq_ok_iff, Run.result_note, Run.result_ofExcept, Run.result_pure,
      exists_and_left, exists_const, true_and, Except.ok.injEq]
  · exact Iff.rfl

theorem ruleEntries_names {names : List (List String)} (hown : List.Forall₂ Rule.Owns rs names)
    (h : (ruleEntries c rs).result = .ok es) : (es.map Prod.fst).Sublist names.flatten := by
  induction hown generalizing es with
  | nil =>
    cases h
    exact List.Sublist.refl _
  | @cons r ns rs names hr _ ih =>
    rw [ruleEntries_cons_eq_ok_iff] at h
    rw [List.flatten_cons]
    split at h
    · obtain ⟨own, tail, hown, htail, rfl⟩ := h
      rw [List.map_append, hr c own hown]
      exact (List.Sublist.refl ns).append (ih htail)
    · exact (ih h).trans (List.sublist_append_right ns names.flatten)

theorem enabled_of_mem_names {names : List (List String)}
    (hown : List.Forall₂ Rule.Owns rs names) (h : (ruleEntries c rs).result = .ok es)
    {name : String} (hname : name ∈ es.map Prod.fst) :
    ∃ p ∈ rs.zip names, p.1.enabled c = true ∧ name ∈ p.2 := by
  induction hown generalizing es with
  | nil =>
    cases h
    simp at hname
  | @cons r ns rs names hr _ ih =>
    rw [ruleEntries_cons_eq_ok_iff] at h
    rw [List.zip_cons_cons, List.exists_mem_cons_iff]
    split at h
    · next henabled =>
      obtain ⟨own, tail, hown, htail, rfl⟩ := h
      rw [List.map_append, hr c own hown, List.mem_append] at hname
      exact hname.imp (fun hns => ⟨henabled, hns⟩) (ih htail)
    · exact .inr (ih h hname)

theorem mem_ruleEntries_iff (h : (ruleEntries c rs).result = .ok es) {e : Entry} :
    e ∈ es ↔ ∃ r ∈ rs, r.enabled c = true ∧ ∃ own, r.entries c = .ok own ∧ e ∈ own := by
  induction rs generalizing es with
  | nil =>
    cases h
    simp
  | cons r rs ih =>
    rw [ruleEntries_cons_eq_ok_iff] at h
    simp only [List.exists_mem_cons_iff]
    split at h
    · next hr =>
      obtain ⟨own, tail, hown, htail, rfl⟩ := h
      simp [ih htail, hr, hown]
    · next hr => simp [ih h, hr]

theorem ruleEntries_total_iff : (∃ es, (ruleEntries c rs).result = .ok es) ↔
    ∀ r ∈ rs, r.enabled c = true → ∃ own, r.entries c = .ok own := by
  induction rs with
  | nil => exact iff_of_true ⟨[], rfl⟩ (by simp)
  | cons r rs ih =>
    simp only [ruleEntries_cons_eq_ok_iff, List.forall_mem_cons, ← ih]
    cases r.enabled c with
    | true =>
      simp only [if_true, forall_const]
      constructor
      · rintro ⟨es, own, tail, hown, htail, -⟩
        exact ⟨⟨own, hown⟩, tail, htail⟩
      · rintro ⟨⟨own, hown⟩, tail, htail⟩
        exact ⟨_, own, tail, hown, htail, rfl⟩
    | false => simp

theorem managedEntries_eq_ok_iff :
    (managedEntries c).result = .ok es ↔
      ∃ own, (ruleEntries c Rule.all).result = .ok own ∧ baseEntries c ++ own = es := by
  simp only [managedEntries, Run.result_bind_eq_ok_iff, Run.result_pure, Except.ok.injEq]

theorem managedEntries_nodup (h : (managedEntries c).result = .ok es) :
    (es.map Prod.fst).Nodup := by
  obtain ⟨own, hown, rfl⟩ := managedEntries_eq_ok_iff.1 h
  have hsub : ((baseEntries c ++ own).map Prod.fst).Sublist
      ((baseEntries c).map Prod.fst ++ Rule.ownedNames.flatten) := by
    rw [List.map_append]
    exact (List.Sublist.refl _).append (ruleEntries_names Rule.all_own hown)
  have hnames : ((baseEntries c).map Prod.fst ++ Rule.ownedNames.flatten).Nodup := by
    simp only [baseEntries, List.map_cons, List.map_nil]
    decide
  exact hnames.sublist hsub

theorem mem_managedEntries_iff (h : (managedEntries c).result = .ok es) {e : Entry} :
    e ∈ es ↔ e ∈ baseEntries c ∨
      ∃ r ∈ Rule.all, r.enabled c = true ∧ ∃ own, r.entries c = .ok own ∧ e ∈ own := by
  obtain ⟨own, hown, rfl⟩ := managedEntries_eq_ok_iff.1 h
  rw [List.mem_append, mem_ruleEntries_iff hown]

theorem adminPort_entry_mem (h : (managedEntries c).result = .ok es) (hport : c.adminPort.val ≠ 0) :
    ("ENVOY_ADMIN_ACCESS_PORT", String.ofList (Text.digits c.adminPort.val.natAbs)) ∈ es := by
  have hentries : Rule.adminPort.entries c = .ok [("ENVOY_ADMIN_ACCESS_PORT", _)] :=
    except_bind_eq_ok_iff.2 ⟨_, Rule.portEntry_eq_ok_iff.2 ⟨_, c.adminPort_text, rfl⟩, rfl⟩
  rw [mem_managedEntries_iff h]
  exact .inr ⟨Rule.adminPort, by simp [Rule.all], bne_iff_ne.2 hport, _, hentries,
    List.mem_singleton.2 rfl⟩

theorem adminPort_mem_names_iff (h : (managedEntries c).result = .ok es) :
    "ENVOY_ADMIN_ACCESS_PORT" ∈ es.map Prod.fst ↔ c.adminPort.val ≠ 0 := by
  constructor
  · intro hname
    obtain ⟨own, hown, rfl⟩ := managedEntries_eq_ok_iff.1 h
    rw [List.map_append, List.mem_append] at hname
    rcases hname with hname | hname
    · simp [baseEntries] at hname
    · obtain ⟨p, hp, henabled, hmem⟩ := enabled_of_mem_names Rule.all_own hown hname
      simp only [Rule.all, Rule.ownedNames, List.zip_cons_cons, List.zip_nil_left, List.mem_cons,
        List.not_mem_nil, or_false] at hp
      rcases hp with rfl | rfl | hp
      · simp at hmem
      · simpa [Rule.adminPort] using henabled
      · rcases hp with rfl | rfl | rfl | rfl | rfl | rfl <;> simp at hmem
  · exact fun hport => List.mem_map_of_mem (adminPort_entry_mem h hport)

theorem managedEntries_total_iff :
    (∃ es, (managedEntries c).result = .ok es) ↔ c.ManagedWritable := by
  rw [← Rule.entries_total_iff, ← ruleEntries_total_iff]
  simp only [managedEntries_eq_ok_iff]
  constructor
  · rintro ⟨_, own, hown, -⟩
    exact ⟨own, hown⟩
  · rintro ⟨own, hown⟩
    exact ⟨_, own, hown, rfl⟩

end Env

end EnvoySidecar
