import TunnelAgent.Session.Main

/-!
A session in steps. Beside the main task there are the writer, the watcher, the health monitor and
the relay; from outside come the clock, the gateway's bytes and its reading, and the agent's own
requests: to stop, to keep other rules, to register them at once. Any of them may come next;
`step` is `none` where an action is not possible.
-/

namespace TunnelAgent.Session

inductive Action where
  /-- the attempt to connect has come to an end -/
  | connect (outcome : Except TransportFault Unit)
  | main (draws : List UInt64) (nonce : UInt64)
  | write
  | watch
  | tick
  | relay (action : Relay.Action)
  | advance (now : Duration)
  /-- bytes from the gateway -/
  | deliver (bytes : Bytes)
  /-- the gateway sends no more -/
  | gatewayEnds (finish : StreamEnd)
  | gatewayReads (count : Nat)
  /-- the gateway reads no more -/
  | gatewayGone
  | shutdown
  | setRules (rules : List Rule)
  | reregister (rules : List Rule) (draws : List UInt64)

def write (s : Session) : Option Session :=
  if s.framed then s.outgoing.step.map fun outgoing => { s with outgoing } else none

/-- Shutting the agent down closes the transport, wherever the session is. -/
def watch (s : Session) : Option Session :=
  if s.framed && s.shared.shutdown && !s.outgoing.closed then some s.close else none

/-- The monitor's tick, when it is due. A failed monitor closes the transport. -/
def tick (s : Session) : Option Session :=
  match s.monitor.ticking with
  | none => none
  | some t =>
    if s.now < t.due then none
    else
      match s.monitor.tick s.now s.writerOpen t with
      | (.ping frame, monitor) => some ({ s with monitor }.enqueue [frame])
      | (.stopped, monitor) => some { s with monitor }
      | (.failed, monitor) =>
        some { s with monitor, healthFailed := true, shared := { s.shared with live := false } }.close

/-- A step of the relay; its frames go into the session's queue. -/
def relayStep (action : Relay.Action) (s : Session) : Option Session :=
  match s.relay.step s.writerOpen action with
  | none => none
  | some (relay, effects) => some ({ s with relay }.enqueue (effects.filterMap Relay.Effect.frame?))

/-- Only the relay's own tasks and its local sockets act by themselves. Frames reach it through
their handler, and ending it is the main task's. -/
def isRelays : Relay.Action → Bool
  | .handle .. => false
  | .remove _ => false
  | .shutdown => false
  | .openLocal _ => false
  | _ => true

/-- Sends the rules with fresh keys; `none` if nothing is published or the draws do not suffice. -/
def reregister (rules : List Rule) (draws : List UInt64) (s : Session) :
    Option (Except TransportFault Unit × Session) :=
  if s.published then
    match assignKeys rules draws with
    | none => none
    | some (resources, _) =>
      match s.registrar.register s.writerOpen resources with
      | (.ok frame, registrar) => some (.ok (), { s with registrar }.enqueue [frame])
      | (.error e, registrar) => some (.error e, { s with registrar })
  else none

def step : Action → Session → Option Session
  | .connect outcome, s => s.connect outcome
  | .main draws nonce, s => s.main draws nonce
  | .write, s => s.write
  | .watch, s => s.watch
  | .tick, s => s.tick
  | .relay action, s => if s.reachedDispatching ∧ isRelays action then s.relayStep action else none
  | .advance now, s => if s.now ≤ now then some { s with now } else none
  | .deliver bytes, s => some { s with reader := s.reader.deliver bytes }
  | .gatewayEnds finish, s => some { s with reader := s.reader.endWith finish }
  | .gatewayReads count, s => some { s with outgoing := (s.outgoing.read count).2.2 }
  | .gatewayGone, s => some { s with outgoing := s.outgoing.dropReader }
  | .shutdown, s => some { s with shared := { s.shared with shutdown := true } }
  | .setRules rules, s => some { s with shared := { s.shared with rules } }
  | .reregister rules draws, s => (s.reregister rules draws).map (·.2)

def run : List Action → Session → Option Session
  | [], s => some s
  | action :: rest, s => (s.step action).bind (run rest)

end TunnelAgent.Session
