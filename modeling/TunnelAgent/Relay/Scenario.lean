import TunnelAgent.Gateway.Link
import TunnelAgent.Relay.Schedule

/-!
A relay without the rest of its session, on a host where no dial succeeds: its frames go over a
link. The clock stops at every poll of the pool on its way; times are in milliseconds.
-/

namespace TunnelAgent.Relay

structure Scenario where
  relay : Relay
  link : Link := {}
  rt : Pool.Runtime
  now : Nat := 0

namespace Scenario

/-- Lets everything happen that can happen now. -/
def settle (c : Scenario) : Scenario :=
  let (relay, effects) := c.relay.settle c.rt false c.now c.link.writerOpen
  { c with
    relay, link := (c.link.enqueue (effects.filterMap Effect.frame?)).flush (Duration.ofMillis c.now) }

/-- Moves the clock to `target`, with at most so many stops on the way. -/
def waitFor (target : Nat) : Nat → Scenario → Scenario
  | 0, c => { c with now := target }.settle
  | n + 1, c =>
    match c.relay.due? c.rt with
    | none => { c with now := target }.settle
    | some due =>
      if due ≤ target then waitFor target n { c with now := max c.now due }.settle
      else { c with now := target }.settle

/-- Polls are at least a millisecond apart. -/
def wait (ms : Nat) (c : Scenario) : Scenario := waitFor (c.now + ms) (ms + 1) c.settle

/-- Does something to the relay, and lets it go on. -/
def act (f : Relay → Relay) (c : Scenario) : Scenario := { c with relay := f c.relay }.settle

def handle (payload : Bytes) (c : Scenario) : Except Serial.Fault Scenario :=
  match c.relay.handle c.now payload with
  | .ok relay => .ok { c with relay }.settle
  | .error e => .error e

def close (c : Scenario) : Scenario := { c with link := c.link.close }.settle

end Scenario

end TunnelAgent.Relay
