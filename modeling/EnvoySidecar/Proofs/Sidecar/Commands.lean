import EnvoySidecar.Proofs.Results
import EnvoySidecar.Sidecar

/-! The two commands of a sidecar in full. Their templates are fixed and well formed, so that
neither command can fail, whatever is filled in. -/

namespace EnvoySidecar

theorem Template.shellCommand_of_fill {source : String} {pieces : List Piece} {context : Context}
    {filled : List (List Char)} (hread : read source.toList = .ok pieces)
    (hfill : pieces.mapM (Piece.fill context) = .ok filled) :
    shellCommand source context = .ok ["sh", "-c", String.ofList filled.flatten] := by
  have hrender : render source context = .ok (String.ofList filled.flatten) :=
    except_bind_eq_ok_iff.2 ⟨pieces, hread, except_bind_eq_ok_iff.2
      ⟨filled.flatten, except_bind_eq_ok_iff.2 ⟨filled, hfill, rfl⟩, rfl⟩⟩
  exact except_bind_eq_ok_iff.2 ⟨_, hrender, rfl⟩

namespace Sidecar

theorem read_preStopSource : Template.read preStopSource.toList =
    .ok [.literal "sleep ".toList, .placeholder "delay".toList, .literal []] := by
  decide +kernel

theorem preStopCommand_eq (delay : String) :
    preStopCommand delay = .ok ["sh", "-c", "sleep " ++ delay] := by
  have hfill : [Template.Piece.literal "sleep ".toList, .placeholder "delay".toList,
      .literal []].mapM (Template.Piece.fill [("delay", .text delay)]) =
        .ok ["sleep ".toList, delay.toList, []] := rfl
  rw [preStopCommand, Template.shellCommand_of_fill read_preStopSource hfill]
  have htext : String.ofList ["sleep ".toList, delay.toList, []].flatten = "sleep " ++ delay :=
    String.toList_inj.1 (by simp)
  rw [htext]

end Sidecar

namespace Probe

theorem read_readinessSource : Template.read readinessSource.toList =
    .ok [.literal "curl -s http://localhost:".toList, .placeholder "admin_port".toList,
      .literal "/server_info | grep state | grep -q ".toList, .placeholder "live_state".toList,
      .literal []] := by
  decide +kernel

theorem readinessCommand_eq (port : String) :
    readinessCommand port = .ok ["sh", "-c",
      "curl -s http://localhost:" ++ port ++ "/server_info | grep state | grep -q LIVE"] := by
  have hfill : [Template.Piece.literal "curl -s http://localhost:".toList,
      .placeholder "admin_port".toList, .literal "/server_info | grep state | grep -q ".toList,
      .placeholder "live_state".toList, .literal []].mapM
        (Template.Piece.fill [("admin_port", .text port), ("live_state", .text liveState)]) =
      .ok ["curl -s http://localhost:".toList, port.toList,
        "/server_info | grep state | grep -q ".toList, liveState.toList, []] := rfl
  rw [readinessCommand, Template.shellCommand_of_fill read_readinessSource hfill]
  have htext : String.ofList ["curl -s http://localhost:".toList, port.toList,
      "/server_info | grep state | grep -q ".toList, liveState.toList, []].flatten =
      "curl -s http://localhost:" ++ port ++ "/server_info | grep state | grep -q LIVE" :=
    String.toList_inj.1 (by simp [liveState])
  rw [htext]

theorem readiness_eq (initialDelay period : Int) (port : String) :
    readiness initialDelay period port = .ok
      { command := ["sh", "-c",
          "curl -s http://localhost:" ++ port ++ "/server_info | grep state | grep -q LIVE"]
        initialDelay, period } := by
  unfold readiness
  rw [readinessCommand_eq]
  rfl

end Probe

end EnvoySidecar
