import EnvoySidecar.Proofs.Env.Rules
import EnvoySidecar.Proofs.Env.Warnings
import EnvoySidecar.Proofs.Manifest
import EnvoySidecar.Proofs.Sidecar.Toggles

/-! Switching a toggle on. The rules stay out of each other's way, so that the managed entries gain
those of the toggle's own rule where it stands, and the container gains the variables that show
them. Only tracing comes with a mount as well. -/

namespace EnvoySidecar

open Env

inductive Toggle where
  | sds
  | xray
  | datadog
  | statsTags
  | statsd
  | jaeger
deriving DecidableEq, Repr

namespace Toggle

def rule : Toggle → Rule
  | sds => .sds
  | xray => .xray
  | datadog => .datadog
  | statsTags => .statsTags
  | statsd => .statsd
  | jaeger => .jaeger

def enable (c : Config) : Toggle → Config
  | sds => { c with sds := { c.sds with enabled := true } }
  | xray => { c with xray := { c.xray with enabled := true } }
  | datadog => { c with datadog := { c.datadog with enabled := true } }
  | statsTags => { c with statsTags := { c.statsTags with enabled := true } }
  | statsd => { c with statsd := { c.statsd with enabled := true } }
  | jaeger => { c with jaeger := { c.jaeger with enabled := true } }

def mounts (c : Config) : Toggle → List VolumeMount
  | jaeger => [⟨c.jaeger.volumeName, tracingDirectory⟩]
  | _ => []

variable {c : Config} {t : Toggle}

theorem enabled_enable (c : Config) (t : Toggle) : t.rule.enabled (t.enable c) = true := by
  cases t <;> rfl

theorem baseEntries_enable (c : Config) (t : Toggle) :
    baseEntries (t.enable c) = baseEntries c := by
  cases t <;> rfl

theorem portsWritable_enable (t : Toggle) (h : c.PortsWritable) : (t.enable c).PortsWritable := by
  cases t <;> exact h

theorem rule_mem_all (t : Toggle) : t.rule ∈ Rule.all := by
  cases t <;> simp [Rule.all, rule]

theorem rules_enable (c : Config) (t : Toggle) : ∀ r ∈ Rule.all,
    r.entries (t.enable c) = r.entries c ∧
      r.enabled (t.enable c) = (r.enabled c || r.name == t.rule.name) := by
  cases t <;> simp [Rule.all, Rule.sds, Rule.adminPort, Rule.adminLogFile, Rule.xray, Rule.datadog,
    Rule.statsTags, Rule.statsd, Rule.jaeger, rule, enable]

theorem blind_enable {r : Rule} (hr : r ∈ Rule.all) (hname : r.name ≠ t.rule.name) (c : Config) :
    r.Blind c (t.enable c) := by
  obtain ⟨hentries, henabled⟩ := rules_enable c t r hr
  rw [beq_eq_false_iff_ne.2 hname, Bool.or_false] at henabled
  exact ⟨henabled.symm, fun _ => hentries.symm⟩

theorem exists_around (t : Toggle) : ∃ rs rs', Rule.all = rs ++ t.rule :: rs' ∧
    ∀ c, (∀ r ∈ rs, r.Blind c (t.enable c)) ∧ ∀ r ∈ rs', r.Blind c (t.enable c) := by
  obtain ⟨rs, rs', hall⟩ := List.append_of_mem t.rule_mem_all
  have hnames : (Rule.all.map Rule.name).Nodup := by decide
  rw [hall, List.map_append, List.map_cons, List.nodup_middle, List.nodup_cons, List.mem_append,
    not_or] at hnames
  obtain ⟨⟨hbefore, hafter⟩, -⟩ := hnames
  refine ⟨rs, rs', hall, fun c => ⟨fun r hr => ?_, fun r hr => ?_⟩⟩
  · refine blind_enable ?_ (fun heq => hbefore (heq ▸ List.mem_map_of_mem hr)) c
    exact hall ▸ List.mem_append_left _ hr
  · refine blind_enable ?_ (fun heq => hafter (heq ▸ List.mem_map_of_mem hr)) c
    exact hall ▸ List.mem_append_right _ (List.mem_cons_of_mem _ hr)

theorem managedEntries_enable (hports : c.PortsWritable) (hoff : t.rule.enabled c = false) :
    ∃ before own after, (managedEntries c).result = .ok (before ++ after) ∧
      t.rule.entries (t.enable c) = .ok own ∧
      (managedEntries (t.enable c)).result = .ok (before ++ own ++ after) := by
  obtain ⟨_, hes⟩ := managedEntries_total_iff.2 (t.portsWritable_enable hports).managed
  obtain ⟨rs, rs', hall, hblind⟩ := t.exists_around
  obtain ⟨_, hrules, -⟩ := managedEntries_eq_ok_iff.1 hes
  rw [hall, ruleEntries_append_eq_ok_iff] at hrules
  obtain ⟨before, _, hbefore, htail, -⟩ := hrules
  rw [ruleEntries_cons_eq_ok_iff, if_pos (enabled_enable c t)] at htail
  obtain ⟨own, after, hown, hafter, -⟩ := htail
  have hwith : (ruleEntries (t.enable c) Rule.all).result = .ok (before ++ (own ++ after)) := by
    rw [hall, ruleEntries_append_eq_ok_iff]
    refine ⟨before, _, hbefore, ?_, rfl⟩
    rw [ruleEntries_cons_eq_ok_iff, if_pos (enabled_enable c t)]
    exact ⟨own, after, hown, hafter, rfl⟩
  have hwithout : (ruleEntries c Rule.all).result = .ok (before ++ after) := by
    rw [hall, ruleEntries_append_eq_ok_iff]
    refine ⟨before, after, ?_, ?_, rfl⟩
    · rwa [ruleEntries_congr (hblind c).1]
    · rw [ruleEntries_cons_eq_ok_iff, hoff, ruleEntries_congr (hblind c).2]
      exact hafter
  refine ⟨baseEntries c ++ before, own, after, ?_, hown, ?_⟩
  · exact managedEntries_eq_ok_iff.2 ⟨_, hwithout, (List.append_assoc _ _ _).symm⟩
  · refine managedEntries_eq_ok_iff.2 ⟨_, hwith, ?_⟩
    rw [baseEntries_enable, List.append_assoc, List.append_assoc]

end Toggle

namespace Env

variable {s : Store} {own : List Entry} {vars vars' added : List EnvVar}

theorem Rendering.perm_overwrite (h : Rendering s vars) (h' : Rendering (s.overwrite own) vars')
    (hown : (own.map Prod.fst).Nodup) (hfresh : ∀ e ∈ own, s.get? e.1 = none)
    (hadded : (own.mapM fun e => render e.1 (.text e.2)) = .ok added) :
    vars'.Perm (vars ++ added) := by
  have hnames : own.map Prod.fst = added.map EnvVar.name := by
    rw [← List.forall₂_eq_eq_eq, List.forall₂_map_left_iff, List.forall₂_map_right_iff]
    exact (mapM_eq_ok_iff.1 hadded).imp fun e x hx => (name_of_render hx).symm
  have hnodup : (vars ++ added).Nodup := by
    refine List.Nodup.of_map EnvVar.name ?_
    rw [List.map_append, ← hnames]
    refine List.Nodup.append h.nodup_names hown fun k hk hk' => ?_
    obtain ⟨v, hv⟩ := (h.covers k).1 hk
    obtain ⟨e, he, rfl⟩ := List.mem_map.1 hk'
    rw [hfresh e he] at hv
    cases hv
  refine (List.perm_ext_iff_of_nodup h'.nodup_names.of_map hnodup).2 fun x => ?_
  rw [List.mem_append, h'.mem_iff, h.mem_iff, mem_iff_of_mapM_eq_ok hadded]
  by_cases hk : x.name ∈ own.map Prod.fst
  · obtain ⟨e, he, hname⟩ := List.mem_map.1 hk
    rw [← hname, s.get?_overwrite_of_mem hown he, hfresh e he]
    constructor
    · rintro ⟨v, hv, hrender⟩
      cases hv
      exact .inr ⟨e, he, hrender⟩
    · rintro (⟨v, hv, -⟩ | ⟨e', he', hrender⟩)
      · cases hv
      · -- only one of the entries has the name
        have hsame : e' = e :=
          List.inj_on_of_nodup_map hown he' he ((name_of_render hrender).symm.trans hname.symm)
        exact ⟨_, rfl, hsame ▸ hrender⟩
  · rw [s.get?_overwrite_of_notMem hk]
    refine ⟨.inl, fun hx => hx.resolve_right ?_⟩
    rintro ⟨e, he, hrender⟩
    exact hk (name_of_render hrender ▸ List.mem_map_of_mem he)

theorem assemble_inserted {c c' : Config} {before after : List Entry} (hs : s.Plain)
    (hes : (managedEntries c).result = .ok (before ++ after))
    (hes' : (managedEntries c').result = .ok (before ++ own ++ after))
    (hfresh : ∀ e ∈ own, s.get? e.1 = none) :
    ∃ vars vars' added, (assemble c s).run.result = .ok vars ∧
      (assemble c' s).run.result = .ok vars' ∧
      (own.mapM fun e => render e.1 (.text e.2)) = .ok added ∧
      Rendering (s.overwrite (before ++ after)) vars ∧
      Rendering (s.overwrite (before ++ own ++ after)) vars' ∧ vars'.Perm (vars ++ added) := by
  obtain ⟨vars, hvars, -⟩ := (assemble_total_iff hs).2 (managedEntries_total_iff.1 ⟨_, hes⟩)
  obtain ⟨vars', hvars', -⟩ := (assemble_total_iff hs).2 (managedEntries_total_iff.1 ⟨_, hes'⟩)
  obtain ⟨added, hadded⟩ : ∃ added, (own.mapM fun e => render e.1 (.text e.2)) = .ok added :=
    mapM_total fun e _ => render_total trivial
  have hrendering := renderAll_rendering (renderAll_of_assemble hes hs hvars)
  have hrendering' := renderAll_rendering (renderAll_of_assemble hes' hs hvars')
  refine ⟨vars, vars', added, hvars, hvars', hadded, hrendering, hrendering', ?_⟩
  -- whether the new entries are written in their place or last makes no difference
  have hmoved : (before ++ own ++ after).Perm (before ++ after ++ own) := by
    rw [List.append_assoc, List.append_assoc]
    exact List.perm_append_comm.append_left before
  have hnodup := managedEntries_nodup hes'
  have hnames := (hmoved.map Prod.fst).nodup_iff.1 hnodup
  rw [List.map_append] at hnames
  rw [Store.overwrite_perm hmoved hnodup, Store.overwrite_append] at hrendering'
  refine hrendering.perm_overwrite hrendering' hnames.of_append_right (fun e he => ?_) hadded
  rw [s.get?_overwrite_of_notMem fun hmem =>
    List.disjoint_of_nodup_append hnames hmem (List.mem_map_of_mem he)]
  exact hfresh e he

end Env

namespace Sidecar

/-- The second container has more mounts and more variables than the first, and the variables of
both are in the order of their names. All else is alike, in the containers as in their manifests. -/
structure Extends (k k' : Container) (mounts : List VolumeMount) (vars : List EnvVar) : Prop where
  mounts : k'.mounts = k.mounts ++ mounts
  vars : k'.env.Perm (k.env ++ vars)
  sorted : ∀ x ∈ [k, k'], (x.env.map EnvVar.name).Pairwise (· < ·)
  others : k' = { k with mounts := k'.mounts, env := k'.env }
  manifest : ∃ fields, ∀ x ∈ [k, k'], x.toManifest = .record (fields ++
    Manifest.listField "volumeMounts" (x.mounts.map VolumeMount.toManifest) ++
    Manifest.listField "env" (x.env.map EnvVar.toManifest))

variable {c : Config} {t : Toggle}

theorem mounts_enable (hoff : t.rule.enabled c = false) :
    mounts (t.enable c) = mounts c ++ t.mounts c := by
  cases t with
  | jaeger =>
    have hjaeger : c.jaeger.enabled = false := hoff
    simp [mounts, hjaeger, Toggle.enable, Toggle.mounts]
  | _ => exact (List.append_nil _).symm

theorem container_enable (c : Config) (t : Toggle) (env env' : List EnvVar) :
    container (t.enable c) (preStop (t.enable c)) env' =
      { container c (preStop c) env with mounts := mounts (t.enable c), env := env' } := by
  cases t <;> rfl

def LiesIn (path directory : String) : Prop :=
  ∃ file, path = directory ++ "/" ++ file ∧ '/' ∉ file.toList

theorem build_enable {s : Store} {before own after : List Entry} (hs : s.Plain)
    (hes : (managedEntries c).result = .ok (before ++ after))
    (hes' : (managedEntries (t.enable c)).result = .ok (before ++ own ++ after))
    (hoff : t.rule.enabled c = false) (hfresh : ∀ e ∈ own, s.get? e.1 = none) :
    ∃ k k' added, (build c s).run.result = .ok k ∧ (build (t.enable c) s).run.result = .ok k' ∧
      (own.mapM fun e => Env.render e.1 (.text e.2)) = .ok added ∧
      Extends k k' (t.mounts c) added := by
  obtain ⟨vars, vars', added, hvars, hvars', hadded, hrendering, hrendering', hperm⟩ :=
    assemble_inserted hs hes hes' hfresh
  refine ⟨_, _, added, build_eq_ok_iff.2 ⟨vars, hvars, rfl⟩,
    build_eq_ok_iff.2 ⟨vars', hvars', rfl⟩, hadded, mounts_enable hoff, hperm,
    List.forall_mem_cons.2 ⟨hrendering.sorted, List.forall_mem_singleton.2 hrendering'.sorted⟩,
    container_enable c t vars vars', (container c (preStop c) vars).headFields, ?_⟩
  refine List.forall_mem_cons.2 ⟨Container.toManifest_bare rfl rfl, ?_⟩
  rw [List.forall_mem_singleton, Container.toManifest_bare rfl rfl, container_enable c t vars vars']
  rfl

/-- The entries of the rules that are on and those of every sidecar have no name in common, so that
the rules may be gone through in any order. Switching a toggle on that was off adds the entries of
its rule and changes nothing else. For a caller that has none of their names the container gains the
variables that show them; only tracing adds a mount, of the directory that its file lies in. -/
theorem toggles_independent (c : Config) (hports : c.PortsWritable) :
    (∃ parts, Parts c Rule.all parts ∧
      (managedEntries c).result = .ok (baseEntries c ++ parts.flatten) ∧
      ((baseEntries c ++ parts.flatten).map Prod.fst).Nodup ∧
      ∀ rs, rs.Perm Rule.all →
        foldRules c rs = .ok (Store.empty.overwrite (baseEntries c ++ parts.flatten))) ∧
    ∀ t : Toggle, t.rule.enabled c = false →
      ∃ before own after, (managedEntries c).result = .ok (before ++ after) ∧
        t.rule.entries (t.enable c) = .ok own ∧
        (managedEntries (t.enable c)).result = .ok (before ++ own ++ after) ∧
        ((before ++ own ++ after).map Prod.fst).Nodup ∧
        (∀ s : Store, s.Plain → (∀ e ∈ own, s.get? e.1 = none) →
          ∃ k k' added, (build c s).run.result = .ok k ∧
            (build (t.enable c) s).run.result = .ok k' ∧
            (own.mapM fun e => Env.render e.1 (.text e.2)) = .ok added ∧
            Extends k k' (t.mounts c) added) ∧
        (t ≠ .jaeger → t.mounts c = []) ∧
        (t = .jaeger → ∃ mount path, t.mounts c = [mount] ∧
          own = [("ENVOY_TRACING_CFG_FILE", path)] ∧ LiesIn path mount.path) := by
  refine ⟨?_, fun t hoff => ?_⟩
  · obtain ⟨_, hes⟩ := managedEntries_total_iff.2 hports.managed
    obtain ⟨_, hrules, -⟩ := managedEntries_eq_ok_iff.1 hes
    obtain ⟨parts, hparts, -⟩ := ruleEntries_eq_ok_iff.1 hrules
    have hmanaged := managedEntries_eq_parts hparts
    exact ⟨parts, hparts, hmanaged, managedEntries_nodup hmanaged,
      fun rs hrs => foldRules_perm hparts hrs⟩
  · obtain ⟨before, own, after, hes, hown, hes'⟩ := Toggle.managedEntries_enable hports hoff
    refine ⟨before, own, after, hes, hown, hes', managedEntries_nodup hes',
      fun s hs hfresh => build_enable hs hes hes' hoff hfresh, fun hne => ?_, ?_⟩
    · cases t with
      | jaeger => exact absurd rfl hne
      | _ => rfl
    · rintro rfl
      cases hown
      exact ⟨_, _, rfl, rfl, "envoyconf.yaml", rfl, by decide⟩

theorem toggles_independent_tracing :
    hostStatsd.PortsWritable ∧ Toggle.jaeger.rule.enabled hostStatsd = false ∧
      hostCaller.Plain ∧ ∃ k k', (build hostStatsd hostCaller).run.result = .ok k ∧
        (build (Toggle.jaeger.enable hostStatsd) hostCaller).run.result = .ok k' ∧
        Extends k k' [⟨"envoy-tracing-config", "/tmp/envoy"⟩]
          [{ name := "ENVOY_TRACING_CFG_FILE", value := some "/tmp/envoy/envoyconf.yaml" }] := by
  have hports : hostStatsd.PortsWritable := by decide
  have hoff : Toggle.jaeger.rule.enabled hostStatsd = false := rfl
  have hplain : hostCaller.Plain := by decide
  obtain ⟨-, htoggles⟩ := toggles_independent hostStatsd hports
  obtain ⟨_, own, _, -, hown, -, -, hbuild, -⟩ := htoggles .jaeger hoff
  cases hown
  obtain ⟨k, k', added, hk, hk', hadded, hextends⟩ := hbuild hostCaller hplain <|
    List.forall_mem_singleton.2 (by decide +kernel)
  cases hadded
  exact ⟨hports, hoff, hplain, k, k', hk, hk', hextends⟩

end Sidecar

end EnvoySidecar
