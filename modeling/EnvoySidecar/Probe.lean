import EnvoySidecar.Container.Check

/-! The readiness probe: the admin endpoint is asked for its state. The call stays on the loopback
interface, so it gets one second; one success clears a failure and three failures in a row make
the proxy unready. -/

namespace EnvoySidecar.Probe

open Schema

def readinessSource : String :=
  "curl -s http://localhost:\x7b\x7b admin_port \x7d\x7d/server_info" ++
    " | grep state | grep -q \x7b\x7b live_state \x7d\x7d"

def liveState : String := "LIVE"

def readinessCommand (adminPort : String) : Except Template.Fault Command :=
  Template.shellCommand readinessSource
    [("admin_port", .text adminPort), ("live_state", .text liveState)]

def readinessOf (initialDelay period : Value) (adminPort : String) : Except Failure Probe := do
  let command ← (readinessCommand adminPort).mapError .template
  let checked : Checked Probe :=
    (fun delay period => { command, initialDelay := delay, period })
      <$> (integer initialDelay).under (.field "initial_delay_seconds")
      <*> (integer period).under (.field "period_seconds")
  (checked.toExcept "ProbeSpec").mapError .invalid

def readiness (initialDelay period : Int) (adminPort : String) : Except Failure Probe := do
  let command ← (readinessCommand adminPort).mapError .template
  return { command, initialDelay, period }

end EnvoySidecar.Probe
