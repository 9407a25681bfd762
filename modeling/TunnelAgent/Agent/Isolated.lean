import TunnelAgent.Agent

/-!
An agent on a host from which no gateway can be reached: every session ends with the fault that
its attempt to connect meets, and all that is left to happen is pacing. `passTime` lets that go on
for a stretch of time; `finish` goes on to the end, if a number of sessions suffices. `lasts` says
how long a sleep takes.
-/

namespace TunnelAgent.Agent

variable (lasts : Duration → Duration)

/-- A session that cannot connect, and the decision after it. -/
def failSession (fault : TransportFault) (a : Agent) : Option Agent :=
  (a.sessionStep (.connect (.error fault))).bind (conclude lasts)

def advanceTo (now : Duration) (a : Agent) : Agent :=
  { a with session := { a.session with now := max a.session.now now } }

/-- What happens next, not after `horizon`. -/
def isolatedStep (fault : TransportFault) (horizon : Duration) (a : Agent) : Option Agent :=
  match a.stage with
  | .inSession => a.failSession lasts fault
  | .pausing due _ =>
    if a.session.shared.shutdown then a.cancel
    else if due ≤ horizon then (a.advanceTo due).resume
    else none
  | _ => none

def runIsolated (fault : TransportFault) (horizon : Duration) : Nat → Agent → Agent
  | 0, a => a
  | n + 1, a =>
    match a.isolatedStep lasts fault horizon with
    | none => a
    | some a => runIsolated fault horizon n a

/-- Goes on for `length`; `sessions` bounds how many sessions there may be in it. -/
def passTime (fault : TransportFault) (length : Duration) (sessions : Nat) (a : Agent) : Agent :=
  let horizon := a.session.now + length
  (runIsolated lasts fault horizon (2 * sessions + 1) a).advanceTo horizon

def finishFor (fault : TransportFault) : Nat → Agent → Agent
  | 0, a => a
  | n + 1, a =>
    match a.stage with
    | .pausing due _ => finishFor fault n (runIsolated lasts fault due 2 a)
    | .inSession => finishFor fault n (runIsolated lasts fault a.session.now 1 a)
    | _ => a

/-- Goes on through every pause. -/
def finish (fault : TransportFault) (sessions : Nat) (a : Agent) : Agent :=
  finishFor lasts fault (2 * sessions + 2) a

end TunnelAgent.Agent
