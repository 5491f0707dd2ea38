import EnvoySidecar.Config.Fields
import EnvoySidecar.Proofs.Container.Check
import EnvoySidecar.Proofs.Schema.Outline

/-! Settings written back as plain values are checked to the settings they came from. What the
check of settings does not read, at the top or inside a toggle, has no part in its result. -/

namespace EnvoySidecar

namespace Schema

theorem within_val {lo hi : Int} (n : Span lo hi) : within lo hi n.val = .ok n := by
  rw [within, dif_pos n.property.1, dif_pos n.property.2]

end Schema

namespace Config

open Schema Schema.Outline

/-! Settings written as plain values -/

theorem name_text (n : Name) : name (.text n.text) = .ok n :=
  dif_pos n.notBlank

theorem sds_toValue (s : Sds) : model "SdsConfig" sdsFields s.toValue = .ok s := rfl

theorem xray_toValue (x : Xray) : model "XrayConfig" xrayFields x.toValue = .ok x := by
  obtain ⟨enabled, port⟩ := x
  cases port <;> rfl

theorem datadog_toValue (d : Datadog) :
    model "DatadogConfig" datadogFields d.toValue = .ok d := by
  obtain ⟨enabled, port, address⟩ := d
  cases port <;> rfl

theorem statsd_toValue (s : Statsd) : model "StatsDConfig" statsdFields s.toValue = .ok s := by
  obtain ⟨enabled, port, address⟩ := s
  cases port <;> rfl

theorem statsTags_toValue (s : StatsTags) :
    model "StatsTagsConfig" statsTagsFields s.toValue = .ok s := rfl

theorem jaeger_toValue (j : Jaeger) : model "JaegerConfig" jaegerFields j.toValue = .ok j := rfl

theorem fields_toEntries (c : Config) : fields c.toEntries = .ok c := by
  have hname (key : String) (n : Name)
      (hn : Value.field? key c.toEntries = some (.text n.text)) :
      required key name c.toEntries = .ok n := required_eq_ok hn (name_text n)
  have htext (key default s : String) (hs : Value.field? key c.toEntries = some (.text s)) :
      optional key default text c.toEntries = .ok s := optional_eq_ok hs rfl
  have hnumeric (key default s : String) (hs : Value.field? key c.toEntries = some (.text s)) :
      optional key default numericText c.toEntries = .ok s := optional_eq_ok hs rfl
  have hcount {lo : Int} (key : String) (default n : From lo)
      (hn : Value.field? key c.toEntries = some (.int n.val)) :
      optional key default (fun v => (integer v).andThen (atLeast lo)) c.toEntries = .ok n :=
    optional_eq_ok hn (atLeast_val n)
  have hregion : required "aws_region" text c.toEntries = .ok c.region := rfl
  have hadmin : optional "admin_access_port" ownPort
      (fun v => (integer v).andThen (within 0 65535)) c.toEntries = .ok c.adminPort :=
    optional_eq_ok rfl (within_val c.adminPort)
  rw [fields, hname "mesh_name" c.meshName rfl, hname "virtual_node_name" c.virtualNodeName rfl,
    hname "sidecar_image" c.image rfl, hregion, hnumeric "preview" "0" c.preview rfl,
    htext "log_level" "info" c.logLevel rfl, hadmin,
    htext "admin_access_log_file" "" c.adminLogFile rfl,
    hnumeric "pre_stop_delay" "20" c.preStopDelay rfl,
    optional_eq_ok (by rfl) (sds_toValue c.sds), optional_eq_ok (by rfl) (xray_toValue c.xray),
    optional_eq_ok (by rfl) (datadog_toValue c.datadog),
    optional_eq_ok (by rfl) (statsd_toValue c.statsd),
    optional_eq_ok (by rfl) (statsTags_toValue c.statsTags),
    optional_eq_ok (by rfl) (jaeger_toValue c.jaeger),
    htext "cpu_request" "" c.cpuRequest rfl,
    htext "memory_request" "" c.memoryRequest rfl, htext "cpu_limit" "" c.cpuLimit rfl,
    htext "memory_limit" "" c.memoryLimit rfl,
    hcount "readiness_probe_initial_delay" defaultDelay c.probeInitialDelay rfl,
    hcount "readiness_probe_period" defaultPeriod c.probePeriod rfl]
  rfl

theorem check_toEntries (c : Config) : check c.toEntries = .ok c := by
  rw [check, fields_toEntries, Checked.toExcept]

/-! What the check reads -/

section Read

def outline : Outline :=
  .fields (leaves ["mesh_name", "virtual_node_name", "sidecar_image", "aws_region", "preview",
      "log_level", "admin_access_port", "admin_access_log_file", "pre_stop_delay",
      "cpu_request", "memory_request", "cpu_limit", "memory_limit",
      "readiness_probe_initial_delay", "readiness_probe_period"] ++
    [("sds", flat ["enabled", "socket_path"]),
      ("xray", flat ["enabled", "daemon_port"]),
      ("datadog", flat ["enabled", "port", "address"]),
      ("statsd", flat ["enabled", "port", "address"]),
      ("stats_tags", flat ["enabled"]),
      ("jaeger", flat ["enabled", "volume_name"])])

variable {o : Outline} {es es' : Entries}

theorem blind_text : Blind o text :=
  blind_of_flat (fun _ _ => rfl) fun _ _ => rfl

theorem blind_flag : Blind o flag :=
  blind_of_flat (fun _ _ => rfl) fun _ _ => rfl

theorem blind_integer {α : Type} {f : Int → Checked α} :
    Blind o fun v => (integer v).andThen f :=
  blind_of_flat (fun _ _ => rfl) fun _ _ => rfl

theorem blind_name : Blind o name :=
  blind_of_flat (fun _ _ => rfl) fun _ _ => rfl

theorem blind_numericText : Blind o numericText :=
  blind_of_flat (fun _ _ => rfl) fun _ _ => rfl

theorem blind_port : Blind o port :=
  blind_of_flat (fun _ _ => rfl) fun _ _ => rfl

theorem blind_sds : Blind (flat ["enabled", "socket_path"]) (model "SdsConfig" sdsFields) :=
  blind_model fun es es' h => by
    rw [sdsFields, sdsFields, h.optional "enabled" _ (by decide) blind_flag,
      h.optional "socket_path" _ (by decide) blind_text]

theorem blind_xray : Blind (flat ["enabled", "daemon_port"]) (model "XrayConfig" xrayFields) :=
  blind_model fun es es' h => by
    rw [xrayFields, xrayFields, h.optional "enabled" _ (by decide) blind_flag,
      h.optional "daemon_port" _ (by decide) blind_port]

theorem blind_datadog :
    Blind (flat ["enabled", "port", "address"]) (model "DatadogConfig" datadogFields) :=
  blind_model fun es es' h => by
    rw [datadogFields, datadogFields, h.optional "enabled" _ (by decide) blind_flag,
      h.optional "port" _ (by decide) blind_port,
      h.optional "address" _ (by decide) blind_text]

theorem blind_statsd :
    Blind (flat ["enabled", "port", "address"]) (model "StatsDConfig" statsdFields) :=
  blind_model fun es es' h => by
    rw [statsdFields, statsdFields, h.optional "enabled" _ (by decide) blind_flag,
      h.optional "port" _ (by decide) blind_port,
      h.optional "address" _ (by decide) blind_text]

theorem blind_statsTags :
    Blind (flat ["enabled"]) (model "StatsTagsConfig" statsTagsFields) :=
  blind_model fun es es' h => by
    rw [statsTagsFields, statsTagsFields, h.optional "enabled" _ (by decide) blind_flag]

theorem blind_jaeger :
    Blind (flat ["enabled", "volume_name"]) (model "JaegerConfig" jaegerFields) :=
  blind_model fun es es' h => by
    rw [jaegerFields, jaegerFields, h.optional "enabled" _ (by decide) blind_flag,
      h.optional "volume_name" _ (by decide) blind_text]

theorem fields_congr (h : outline.Change (.map es) (.map es')) : fields es = fields es' := by
  rw [fields, fields, h.required "mesh_name" (by decide) blind_name,
    h.required "virtual_node_name" (by decide) blind_name,
    h.required "sidecar_image" (by decide) blind_name,
    h.required "aws_region" (by decide) blind_text,
    h.optional "preview" _ (by decide) blind_numericText,
    h.optional "log_level" _ (by decide) blind_text,
    h.optional "admin_access_port" _ (by decide) blind_integer,
    h.optional "admin_access_log_file" _ (by decide) blind_text,
    h.optional "pre_stop_delay" _ (by decide) blind_numericText,
    h.optional "sds" _ (by decide) blind_sds,
    h.optional "xray" _ (by decide) blind_xray,
    h.optional "datadog" _ (by decide) blind_datadog,
    h.optional "statsd" _ (by decide) blind_statsd,
    h.optional "stats_tags" _ (by decide) blind_statsTags,
    h.optional "jaeger" _ (by decide) blind_jaeger,
    h.optional "cpu_request" _ (by decide) blind_text,
    h.optional "memory_request" _ (by decide) blind_text,
    h.optional "cpu_limit" _ (by decide) blind_text,
    h.optional "memory_limit" _ (by decide) blind_text,
    h.optional "readiness_probe_initial_delay" _ (by decide) blind_integer,
    h.optional "readiness_probe_period" _ (by decide) blind_integer]

theorem check_congr (h : outline.Rearranged es es') : check es = check es' := by
  induction h with
  | rel _ _ h => rw [check, check, fields_congr h]
  | refl => rfl
  | symm _ _ _ ih => exact ih.symm
  | trans _ _ _ _ _ ih ih' => exact ih.trans ih'

end Read

/-- Settings that pass their check are a fixed point of it: written back as plain values they are
checked to the same settings, each port as the number or the text that it is. Names that the
settings do not know, and the order of names, at the top or inside a toggle, change neither these
settings nor, where the check fails, its report. -/
theorem check_settled (es : Entries) :
    (∀ c, check es = .ok c → check c.toEntries = .ok c) ∧
      ∀ es', outline.Rearranged es es' → check es' = check es :=
  ⟨fun c _ => check_toEntries c, fun _ h => (check_congr h).symm⟩

def worded : Entries :=
  [entry "mesh_name" (.text "m"), entry "virtual_node_name" (.text "vn"),
    entry "sidecar_image" (.text "envoy:v1"), entry "aws_region" (.text "r"),
    entry "preview" (.int 1),
    entry "xray" (.map [entry "enabled" (.text "yes"), entry "daemon_port" (.bool true)])]

def wordedAnew : Entries :=
  [entry "extra" (.list []), entry "virtual_node_name" (.text "vn"), entry "mesh_name" (.text "m"),
    entry "sidecar_image" (.text "envoy:v1"), entry "aws_region" (.text "r"),
    entry "preview" (.int 1),
    entry "xray" (.map [entry "enabled" (.text "yes"), entry "daemon_port" (.bool true),
      entry "port" .null])]

theorem worded_rearranged : outline.Rearranged worded wordedAnew := by
  have hextra : outline.Rearranged worded (entry "extra" (.list []) :: worded) :=
    .rel _ _ (.insert [] "extra" (.list []) worded (by decide))
  have hswap : outline.Rearranged (entry "extra" (.list []) :: worded)
      (entry "extra" (.list []) :: worded[1] :: worded[0] :: worded.drop 2) :=
    .rel _ _ (.reorder ((List.Perm.swap _ _ _).cons _) (by simp [worded, entry]))
  have hport : outline.Rearranged
      (entry "extra" (.list []) :: worded[1] :: worded[0] :: worded.drop 2) wordedAnew :=
    .rel _ _ (.inside (entry "extra" (.list []) :: worded[1] :: worded[0] ::
      (worded.drop 2).take 3) "xray" [] (.insert [entry "enabled" (.text "yes"),
        entry "daemon_port" (.bool true)] "port" .null [] (by decide)))
  exact .trans _ _ _ hextra (.trans _ _ _ hswap hport)

theorem check_settled_worded :
    ∃ c, check worded = .ok c ∧ c.preview = "1" ∧ c.xray = ⟨true, .number 1⟩ ∧
      check c.toEntries = .ok c ∧ check wordedAnew = .ok c := by
  have hread : check worded = .ok
      { meshName := ⟨"m", by decide⟩, virtualNodeName := ⟨"vn", by decide⟩,
        image := ⟨"envoy:v1", by decide⟩, region := "r", preview := "1",
        xray := ⟨true, .number 1⟩ } := by decide +kernel
  exact ⟨_, hread, rfl, rfl, (check_settled worded).1 _ hread,
    ((check_settled worded).2 _ worded_rearranged).trans hread⟩

end Config

end EnvoySidecar
