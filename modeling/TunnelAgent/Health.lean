import TunnelAgent.Duration
import TunnelAgent.Transport.Outgoing

/-!
The health exchange. A monitor pings the gateway at every tick; any answer that says Ok, and any
ping of the gateway's, is a success. At a tick that has seen no success since the tick before, and
none since the deadline, the monitor fails: it pings no more and the session is to be closed.
-/

namespace TunnelAgent

structure HealthConfig where
  interval : Duration := Duration.ofSeconds 30
  maxMissed : UInt32 := 3
  deriving DecidableEq, Repr

namespace HealthConfig

def longestIntervalSecs : Nat := 86400

/-- The interval is kept within a second and a day; at least one miss is allowed. -/
def ofParts (intervalSecs : UInt64) (maxMissed : UInt32) : HealthConfig where
  interval := Duration.ofSeconds (min (max intervalSecs.toNat 1) longestIntervalSecs)
  maxMissed := if maxMissed = 0 then 1 else maxMissed

def ofSettings (s : HealthSettings) : HealthConfig := ofParts s.intervalSecs s.maxMissed

/-- How long a session may go on without a success. -/
def deadline (c : HealthConfig) : Duration := Duration.saturatingMul c.interval (max c.maxMissed.toNat 1)

end HealthConfig

/-- The ticking part of a monitor: when success was last noticed, and when the next tick is due. -/
structure Ticking where
  lastSuccess : Duration
  due : Duration
  deriving DecidableEq, Repr

structure HealthMonitor where
  config : HealthConfig
  nextNonce : UInt64
  /-- a success has come since the last tick -/
  succeeded : Bool := false
  ticking : Option Ticking := none
  deriving DecidableEq, Repr

inductive Tick where
  | ping (frame : Outbound)
  /-- the writer has ended; the monitor stops -/
  | stopped
  /-- the deadline has passed without a success -/
  | failed
  deriving DecidableEq, Repr

namespace HealthMonitor

def ping (nonce : UInt64) : Outbound := .ofMessage (.healthCheck ⟨nonce⟩)

def answer (nonce : UInt64) : Outbound := .ofMessage (.healthCheckResponse ⟨nonce, .ok⟩)

def spawn (now : Duration) (m : HealthMonitor) : HealthMonitor :=
  { m with ticking := some ⟨now, now⟩ }

def stop (m : HealthMonitor) : HealthMonitor := { m with ticking := none }

/-- Sends the next ping, if the writer takes it. -/
def sendPing (writerOpen : Bool) (m : HealthMonitor) : Tick × HealthMonitor :=
  match (ping m.nextNonce).offer writerOpen with
  | .ok frame => (.ping frame, { m with nextNonce := m.nextNonce + 1 })
  | .error _ => (.stopped, { m with nextNonce := m.nextNonce + 1 }.stop)

/-- The tick of a running monitor at time `now`. -/
def tick (now : Duration) (writerOpen : Bool) (t : Ticking) (m : HealthMonitor) : Tick × HealthMonitor :=
  let due := now + m.config.interval
  if m.succeeded then
    { m with succeeded := false, ticking := some ⟨now, due⟩ }.sendPing writerOpen
  else if m.config.deadline ≤ now - t.lastSuccess then (.failed, m.stop)
  else { m with ticking := some ⟨t.lastSuccess, due⟩ }.sendPing writerOpen

/-- Takes the payload of a health answer. -/
def handleResponse (payload : Bytes) (m : HealthMonitor) : Except String Unit × HealthMonitor :=
  match HealthCheckResponse.format.decode payload with
  | .error e => (.error (FrameFault.serialization e).message, m)
  | .ok response => (.ok (), if response.result = .ok then { m with succeeded := true } else m)

/-- Takes the payload of a gateway's ping, which is answered with its own nonce. -/
def handleRequest (writerOpen : Bool) (payload : Bytes) (m : HealthMonitor) :
    Except String Outbound × HealthMonitor :=
  match HealthCheck.format.decode payload with
  | .error e => (.error (FrameFault.serialization e).message, m)
  | .ok request =>
    let m := { m with succeeded := true }
    match (answer request.nonce).offer writerOpen with
    | .ok frame => (.ok frame, m)
    | .error e => (.error e.message, m)

end HealthMonitor

end TunnelAgent
