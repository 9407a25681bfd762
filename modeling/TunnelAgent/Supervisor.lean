import TunnelAgent.Backoff
import TunnelAgent.Config
import TunnelAgent.Session.Fault

/-!
What follows a session. Success and refused credentials are final; so is any end under shutdown.
After any other end there is a pause, growing with the sessions since the last one that came to
dispatching, until the configured number of them is exceeded.
-/

namespace TunnelAgent

inductive AgentFault where
  | config (fault : ConfigFault)
  /-- the local listener could not be set up -/
  | listener (fault : IoFault)
  | session (fault : SessionFault)
  | reconnect (fault : BackoffFault)
  deriving DecidableEq, Repr

namespace AgentFault

def message : AgentFault → String
  | config f => s!"Configuration error: {f.message}"
  | listener f => s!"SOCKS5 server error: IO error: {f.text}"
  | session f => s!"Session error: {f.message}"
  | reconnect f => s!"Reconnection error: {f.message}"

/-- The causes behind a fault, the nearest first. -/
def causes : AgentFault → List String
  | config (.tls f) => [(ConfigFault.tls f).message, f.message]
  | config f => [f.message]
  | listener f => [s!"IO error: {f.text}", f.text]
  | session f => [f.message]
  | reconnect _ => []

end AgentFault

namespace Supervisor

/-- A session that has ended. -/
structure Ended where
  reachedDispatching : Bool
  result : Except SessionFault Unit

inductive Decision where
  | stop (result : Except AgentFault Unit)
  | pause (length : Duration)

/-- What to do after a session; `shutdown` says whether the agent has been asked to stop. -/
def decide (shutdown : Bool) (ended : Ended) (b : Backoff) : Decision × Backoff :=
  let b := if ended.reachedDispatching then b.reset else b
  match ended.result with
  | .ok () => (.stop (.ok ()), b)
  | .error e =>
    if e.isCredentialFault then (.stop (.error (.session e)), b)
    else if shutdown then (.stop (.ok ()), b)
    else
      match b.begin with
      | (.error e, b) => (.stop (.error (.reconnect e)), b)
      | (.ok pause, b) => (.pause pause, b)

end Supervisor

end TunnelAgent
