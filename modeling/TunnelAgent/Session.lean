import TunnelAgent.Health
import TunnelAgent.Registration
import TunnelAgent.Relay.Step
import TunnelAgent.Session.Fault
import TunnelAgent.Transport.Reader

/-!
One session with the gateway. Its main task sends the preamble and the credentials, waits for a
favourable answer, registers the manifest, waits again, and from then on hands every frame to its
handler until the transport fails or is closed. A writer, a watcher for the agent's shutdown, the
health monitor and the relay work beside it. This file holds the state and the main task.
-/

namespace TunnelAgent

namespace Session

/-- What a session takes from the agent's configuration. -/
structure Settings where
  credentials : AuthorizationRequest
  health : HealthConfig
  bufferSize : Nat
  deriving DecidableEq, Repr

/-- What the sessions of one agent share. -/
structure Shared where
  rules : List Rule
  pool : Pool
  access : AccessTable := {}
  /-- a session is dispatching and healthy -/
  live : Bool := false
  /-- what earlier sessions have sent and received -/
  bytesSent : Nat := 0
  bytesReceived : Nat := 0
  /-- the agent has been asked to stop -/
  shutdown : Bool := false
  deriving DecidableEq, Repr

/-- Where the main task stands. -/
inductive Point where
  | connecting
  /-- `rest` of the preamble is still to be written -/
  | greeting (rest : Bytes)
  | authorizing
  | awaitingAuthorization
  | registering
  | awaitingRegistration (resources : List Resource)
  /-- the manifest is in force; the registrar is still to be published -/
  | opening (health : HealthConfig)
  | dispatching
  | ended (result : Except SessionFault Unit)

/-- The first bytes of every session. -/
def preamble : String := "GATELINK/1.0\n"

end Session

structure Session where
  settings : Session.Settings
  shared : Session.Shared
  now : Duration
  outgoing : Outgoing
  reader : Reader
  phase : Session.Phase := .init
  point : Session.Point := .connecting
  reachedDispatching : Bool := false
  registrar : Registrar := {}
  /-- the agent can find the registrar -/
  published : Bool := false
  monitor : HealthMonitor := { config := settings.health, nextNonce := 0 }
  healthFailed : Bool := false
  relay : Relay := { pool := shared.pool, bufferSize := settings.bufferSize }

namespace Session

/-- A session about to connect; `capacity` bounds what is written but not yet read. -/
def start (settings : Settings) (shared : Shared) (now : Duration) (capacity : Nat) : Session where
  settings
  shared
  now
  outgoing := { pipe := { capacity } }
  reader := { source := { bytes := [], finish := .pending } }

/-- The preamble is out; from here on the stream carries frames. -/
def framed (s : Session) : Bool :=
  match s.point with
  | .connecting => false
  | .greeting _ => false
  | _ => true

def result? (s : Session) : Option (Except SessionFault Unit) :=
  match s.point with
  | .ended result => some result
  | _ => none

/-- Frames can still be queued. -/
def writerOpen (s : Session) : Bool := s.outgoing.isOpen

def enqueue (frames : List Outbound) (s : Session) : Session :=
  { s with outgoing := s.outgoing.enqueue frames }

/-- Queues a frame, or says why it cannot be queued. -/
def send (frame : Outbound) (s : Session) : Except TransportFault Unit × Session :=
  let (result, outgoing) := s.outgoing.send frame
  (result, { s with outgoing })

def close (s : Session) : Session := { s with outgoing := s.outgoing.close }

def bytesSent (s : Session) : Nat := s.shared.bytesSent + s.outgoing.bytesSent

def bytesReceived (s : Session) : Nat := s.shared.bytesReceived + s.reader.bytesReceived

/-- What the session shares with those after it. -/
def handOver (s : Session) : Shared :=
  { s.shared with
    pool := s.relay.pool, bytesSent := s.bytesSent, bytesReceived := s.bytesReceived }

/-- The main task ends: the transport is closed, and a close under shutdown is no fault. -/
def conclude (fault : SessionFault) (s : Session) : Session :=
  let result := if fault = .closed ∧ s.shared.shutdown then .ok () else .error fault
  { s.close with
    shared := { s.shared with live := false }
    phase := match result with
      | .ok () => .closed
      | .error _ => .failed
    point := .ended result }

/-- Dispatching ends. A failed health check is the cause even though it shows as a close. -/
def leave (fault : TransportFault) (s : Session) : Session :=
  { s with monitor := s.monitor.stop, relay := s.relay.shutdown, published := false }.conclude
    (if s.healthFailed then .healthCheck s.monitor.config.deadline else .ofTransport fault)

/-- Trying to run a session that has left its first phase. -/
def restart (s : Session) : SessionFault := .invalidTransition s.phase .connected

end Session

end TunnelAgent
