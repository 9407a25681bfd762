import TunnelAgent.Gateway.Link
import TunnelAgent.Health

/-!
A health monitor without the rest of its session: it pings over a link and is told what the gateway
answers. The clock stops at every tick on its way, and each step ends with all frames delivered.
-/

namespace TunnelAgent.HealthMonitor

structure Scenario where
  monitor : HealthMonitor
  link : Link := {}
  /-- the flag that says whether the tunnel is alive -/
  healthy : Bool
  closesOnFailure : Bool := false
  started : Bool := false
  now : Duration := 0
  failedAt : Option Duration := none

namespace Scenario

def deliver (c : Scenario) : Scenario := { c with link := c.link.flush c.now }

/-- Lets the monitor tick at the time it waits for. -/
def tick (t : Ticking) (c : Scenario) : Scenario :=
  let now := max c.now t.due
  let (tick, monitor) := c.monitor.tick now c.link.writerOpen t
  let c := { c with now, monitor }
  match tick with
  | .ping frame => { c with link := c.link.enqueue [frame] }.deliver
  | .stopped => c
  | .failed =>
    { c with
      healthy := false
      failedAt := some now
      link := if c.closesOnFailure then c.link.close else c.link }.deliver

/-- Moves the clock to `target`, with at most so many ticks on the way. -/
def waitFor (target : Duration) : Nat → Scenario → Scenario
  | 0, c => { c with now := target }
  | n + 1, c =>
    match c.monitor.ticking with
    | none => { c with now := target }
    | some t => if t.due ≤ target then waitFor target n (c.tick t) else { c with now := target }

def waitUntil (target : Duration) (c : Scenario) : Scenario :=
  waitFor target ((target - c.now) / c.monitor.config.interval + 2) c

def wait (ms : Nat) (c : Scenario) : Scenario := (c.waitUntil (c.now + Duration.ofMillis ms)).deliver

/-- Starts the monitor, which ticks at once. -/
def spawn (closesOnFailure : Bool) (c : Scenario) : Scenario :=
  ({ c with
    healthy := true, started := true, closesOnFailure
    monitor := c.monitor.spawn c.now }.waitUntil c.now).deliver

def respond (payload : Bytes) (c : Scenario) : Except String Unit × Scenario :=
  let (result, monitor) := c.monitor.handleResponse payload
  (result, { c with monitor }.deliver)

def request (payload : Bytes) (c : Scenario) : Except String Unit × Scenario :=
  match c.monitor.handleRequest c.link.writerOpen payload with
  | (.ok frame, monitor) => (.ok (), { c with monitor, link := c.link.enqueue [frame] }.deliver)
  | (.error text, monitor) => (.error text, { c with monitor }.deliver)

def close (c : Scenario) : Scenario := { c with link := c.link.close }.deliver

def dropGateway (c : Scenario) : Scenario := { c with link := c.link.dropGateway }.deliver

end Scenario

end TunnelAgent.HealthMonitor
