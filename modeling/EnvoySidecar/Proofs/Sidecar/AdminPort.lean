import EnvoySidecar.Proofs.Env.Assembly
import EnvoySidecar.Proofs.Sidecar.Container
import EnvoySidecar.Proofs.Text.Digits

/-! The three places that name the admin port. The container's port and the probe follow the
configuration alone. The proxy follows its variables, among which the caller's own admin port
stands as long as the configuration sets none. -/

namespace EnvoySidecar

def Text.natural? (s : String) : Option Nat :=
  if s.toList ≠ [] ∧ s.toList.all isDigit then some (ofDigits 10 s.toList) else none

theorem Text.natural?_digits (n : Nat) : natural? (String.ofList (digits n)) = some n := by
  have hall : (digits n).all isDigit = true :=
    List.all_eq_true.2 fun c hc => isDigit_of_mem_digits hc
  rw [natural?, String.toList_ofList, if_pos ⟨digits_ne_nil n, hall⟩, ofDigits_digits]

namespace Sidecar

open Env

/-- The port that the proxy is told to listen on: the literal number of its variable, or its own
default where there is no such variable. -/
def listening? (env : List EnvVar) : Option Nat :=
  match env.find? fun x => x.name == "ENVOY_ADMIN_ACCESS_PORT" with
  | some x => x.value.bind Text.natural?
  | none => some 9901

variable {c : Config} {s : Store} {vars : List EnvVar}

theorem not_isAddress_adminPort : ¬IsAddress "ENVOY_ADMIN_ACCESS_PORT" := by
  unfold IsAddress
  decide

theorem listening?_of_text {text : String} (h : Rendering s vars)
    (hv : s.get? "ENVOY_ADMIN_ACCESS_PORT" = some (.text text) ∨
      s.get? "ENVOY_ADMIN_ACCESS_PORT" = some (.tagged (.literal text))) :
    listening? vars = Text.natural? text := by
  obtain ⟨v, hget, htag⟩ : ∃ v, s.get? "ENVOY_ADMIN_ACCESS_PORT" = some v ∧
      tag "ENVOY_ADMIN_ACCESS_PORT" v = .ok (.literal text) := by
    rcases hv with hv | hv
    · exact ⟨_, hv, tag_text_of_not fun h => not_isAddress_adminPort h.1⟩
    · exact ⟨_, hv, rfl⟩
  obtain ⟨x, hx, hrender⟩ := h.find?_of_get? hget
  obtain ⟨t, ht, rfl⟩ := Env.render_eq_ok_iff.1 hrender
  rw [htag] at ht
  cases ht
  rw [listening?, hx]
  rfl

theorem listening?_of_fieldRef {path : String} (h : Rendering s vars)
    (hv : s.get? "ENVOY_ADMIN_ACCESS_PORT" = some (.tagged (.fieldRef path))) :
    listening? vars = none := by
  obtain ⟨x, hx, hrender⟩ := h.find?_of_get? hv
  obtain ⟨t, ht, rfl⟩ := Env.render_eq_ok_iff.1 hrender
  cases ht
  rw [listening?, hx]
  rfl

theorem listening?_of_none (h : Rendering s vars)
    (hv : s.get? "ENVOY_ADMIN_ACCESS_PORT" = none) : listening? vars = some 9901 := by
  rw [listening?, h.find?_of_none hv]

theorem effectiveAdminPort_of_eq_zero (h : c.adminPort.val = 0) :
    c.effectiveAdminPort.val = 9901 := by
  rw [Config.effectiveAdminPort, dif_pos h]
  rfl

theorem effectiveAdminPort_of_ne_zero (h : c.adminPort.val ≠ 0) :
    c.effectiveAdminPort.val = c.adminPort.val := by
  rw [Config.effectiveAdminPort, dif_neg h]

/-- A caller's own admin port agrees with the proxy's default if it reads as that number. -/
def AgreesWithDefault (s : Store) : Prop :=
  s.get? "ENVOY_ADMIN_ACCESS_PORT" = none ∨
    ∃ text, (s.get? "ENVOY_ADMIN_ACCESS_PORT" = some (.text text) ∨
      s.get? "ENVOY_ADMIN_ACCESS_PORT" = some (.tagged (.literal text))) ∧
      Text.natural? text = some 9901

theorem listening?_eq_default_iff (h : Rendering s vars)
    (hplain : ∀ v, s.get? "ENVOY_ADMIN_ACCESS_PORT" = some v → v.Plain) :
    listening? vars = some 9901 ↔ AgreesWithDefault s := by
  unfold AgreesWithDefault
  cases hv : s.get? "ENVOY_ADMIN_ACCESS_PORT" with
  | none => simp [listening?_of_none h hv]
  | some v =>
    cases v with
    | text text => simp [listening?_of_text h (.inl hv)]
    | tagged t =>
      cases t with
      | literal text => simp [listening?_of_text h (.inr hv)]
      | fieldRef path => simp [listening?_of_fieldRef h hv]
    | other w => exact (hplain _ hv).elim

theorem listening?_iff (hs : s.Plain) (h : (assemble c s).run.result = .ok vars) :
    (∃ n : Nat, listening? vars = some n ∧ (n : Int) = c.effectiveAdminPort.val) ↔
      c.adminPort.val ≠ 0 ∨ AgreesWithDefault s := by
  obtain ⟨es, -, hwritten, hsuccess⟩ := assemble_written c s
  obtain ⟨hes, hrendered⟩ := hsuccess vars h
  have hrendering := renderAll_rendering hrendered
  have hnames := adminPort_mem_names_iff hes
  by_cases hport : c.adminPort.val = 0
  · -- nothing manages the variable, so that the caller's own is what the proxy sees
    have hkept := hwritten.get?_of_notMem fun hmem => hnames.1 hmem hport
    have hdefault := listening?_eq_default_iff hrendering fun v hv => hs.get? (hkept ▸ hv)
    have hsame : AgreesWithDefault (assemble c s).store ↔ AgreesWithDefault s := by
      unfold AgreesWithDefault
      rw [hkept]
    rw [effectiveAdminPort_of_eq_zero hport, ← hsame, ← hdefault]
    constructor
    · rintro ⟨n, hn, hval⟩
      obtain rfl : n = 9901 := by omega
      exact .inr hn
    · rintro (hne | hn)
      · exact absurd hport hne
      · exact ⟨9901, hn, rfl⟩
  · have hget := hwritten.get?_of_mem (managedEntries_nodup hes) (adminPort_entry_mem hes hport)
    have htold := listening?_of_text hrendering (.inl hget)
    rw [Text.natural?_digits] at htold
    rw [effectiveAdminPort_of_ne_zero hport]
    exact ⟨fun _ => .inl hport,
      fun _ => ⟨_, htold, Int.natAbs_of_nonneg c.adminPort.property.1⟩⟩

/-- The container's port and the probe always name the effective admin port. The proxy is told the
same port exactly if the configuration sets one or the caller's own agrees with the default. -/
theorem admin_port_agreement (c : Config) (s : Store) (k : Container) (hs : s.Plain)
    (h : (render c s).run.result = .ok k) :
    (∃ port, k.ports = [port] ∧ port.name = "stats" ∧ port.number = c.effectiveAdminPort) ∧
      (∃ p, k.readinessProbe = some p ∧ p.command = ["sh", "-c",
        "curl -s http://localhost:" ++ toString c.effectiveAdminPort.val ++
          "/server_info | grep state | grep -q LIVE"]) ∧
      ((∃ n : Nat, listening? k.env = some n ∧ (n : Int) = c.effectiveAdminPort.val) ↔
        c.adminPort.val ≠ 0 ∨ AgreesWithDefault s) := by
  obtain ⟨r, vars, -, hvars, rfl⟩ := render_eq_ok_iff.1 h
  exact ⟨⟨_, rfl, rfl, rfl⟩, ⟨_, rfl, rfl⟩, listening?_iff hs hvars⟩

def callerPort : Store :=
  Store.empty.set "ENVOY_ADMIN_ACCESS_PORT" (.text "15000")

theorem admin_port_agreement_configured : callerPort.Plain ∧
    ∃ k, (render { Config.minimal with adminPort := ⟨9902, by decide⟩ } callerPort).run.result = .ok k ∧
      ∃ n : Nat, listening? k.env = some n ∧ (n : Int) = 9902 := by
  have hplain : callerPort.Plain := by decide
  obtain ⟨vars, hvars, -⟩ :=
    assemble_total (c := { Config.minimal with adminPort := ⟨9902, by decide⟩ }) (by decide) hplain
  have hk := render_eq_ok_iff.2 ⟨_, vars, rfl, hvars, rfl⟩
  obtain ⟨-, -, hiff⟩ := admin_port_agreement _ _ _ hplain hk
  exact ⟨hplain, _, hk, hiff.2 (.inl (by decide))⟩

/-- A caller's admin port shadows the default: the container and the probe keep to 9901. -/
theorem admin_port_shadowed : callerPort.Plain ∧
    ∃ k, (render Config.minimal callerPort).run.result = .ok k ∧
      k.ports.map (·.number.val) = [9901] ∧ Config.minimal.effectiveAdminPort.val = 9901 ∧
      listening? k.env = some 15000 := by
  have hplain : callerPort.Plain := by decide
  obtain ⟨vars, hvars, -⟩ := assemble_total (c := Config.minimal) (by decide) hplain
  have hk := render_eq_ok_iff.2 ⟨_, vars, rfl, hvars, rfl⟩
  refine ⟨hplain, _, hk, rfl, rfl, ?_⟩
  obtain ⟨es, -, hwritten, hsuccess⟩ := assemble_written Config.minimal callerPort
  obtain ⟨hes, hrendered⟩ := hsuccess vars hvars
  have hkept := hwritten.get?_of_notMem fun hmem => (adminPort_mem_names_iff hes).1 hmem rfl
  rw [show (full Config.minimal _ vars).env = vars from rfl,
    listening?_of_text (renderAll_rendering hrendered) (.inl (hkept.trans rfl))]
  decide

end Sidecar

end EnvoySidecar
