import TunnelAgent.Session.Handshake

/-!
The main task of a session, one step at a time. A step is `none` while the task waits: for the
connection, for room in the pipe, or for the gateway. Random words come from outside: `draws` for
the keys of the first manifest, `nonce` for the first health ping.
-/

namespace TunnelAgent.Session

/-- Without a connection the session has failed before its first byte. -/
def connect (outcome : Except TransportFault Unit) (s : Session) : Option Session :=
  match s.point, outcome with
  | .connecting, .ok () =>
    some { s with phase := .connected, point := .greeting (Utf8.encode preamble) }
  | .connecting, .error e => some (s.conclude (.ofConnect e))
  | _, _ => none

/-- Writes what the pipe has room for; after the preamble the transport is framed. -/
def greet (rest : Bytes) (s : Session) : Option Session :=
  if rest = [] then some { s with phase := .greeted, point := .authorizing }
  else
    let pipe := s.outgoing.pipe
    if pipe.readerGone then some (s.conclude (.transport IoFault.brokenPipe.text))
    else if pipe.room = 0 then none
    else some { s with
      outgoing := { s.outgoing with pipe := { pipe with held := pipe.held ++ rest.take pipe.room } }
      point := .greeting (rest.drop pipe.room) }

/-- Sends a request and waits at `next` for its reply. -/
def request (frame : Outbound) (next : Point) (s : Session) : Session :=
  match s.send frame with
  | (.ok (), s) => { s with point := next }
  | (.error e, s) => s.conclude (.ofTransport e)

def authorize (s : Session) : Session :=
  s.request (.ofMessage (.authorization s.settings.credentials)) .awaitingAuthorization

/-- Keys for the rules in force now; `none` if the draws do not suffice. -/
def register (draws : List UInt64) (s : Session) : Option Session :=
  match assignKeys s.shared.rules draws with
  | none => none
  | some (resources, _) => some (s.request (Registrar.frame resources) (.awaitingRegistration resources))

/-- The next frame or the transport's fault; `none` while the gateway keeps silent. -/
def receive (s : Session) : Option (Except TransportFault Frame × Session) :=
  match s.reader.readOne s.outgoing.closed with
  | (.waiting, _) => none
  | (.failed e, reader) => some (.error e, { s with reader })
  | (.frame f, reader) => some (.ok f, { s with reader })

def takeAuthorization (frame : Frame) (s : Session) : Session :=
  match checkAuthorization frame with
  | .error text => s.conclude (.authentication text)
  | .ok () => { s with phase := .authorized, point := .registering }

/-- An accepted manifest is in force at once. -/
def takeRegistration (resources : List Resource) (frame : Frame) (s : Session) : Session :=
  match checkRegistration frame with
  | .error text => s.conclude (.registration text)
  | .ok settings =>
    { s with
      shared := { s.shared with access := .ofResources resources }
      phase := .registered
      point := .opening (healthConfig s.settings.health settings) }

/-- Dispatching begins: the registrar is published and the monitor started. -/
def openTunnel (health : HealthConfig) (nonce : UInt64) (s : Session) : Session :=
  { s with
    published := true
    phase := .dispatching
    reachedDispatching := true
    shared := { s.shared with live := true }
    monitor := { config := health, nextNonce := nonce : HealthMonitor }.spawn s.now
    point := .dispatching }

def handleRegistration : Dispatch.Handler Session := fun frame s =>
  let (registrar, access) := s.registrar.answer frame.payload s.shared.access
  (.ok (), { s with registrar, shared := { s.shared with access } })

def handlePing : Dispatch.Handler Session := fun frame s =>
  match s.monitor.handleRequest s.writerOpen frame.payload with
  | (.ok reply, monitor) => (.ok (), { s with monitor }.enqueue [reply])
  | (.error text, monitor) => (.error text, { s with monitor })

def handlePong : Dispatch.Handler Session := fun frame s =>
  let (result, monitor) := s.monitor.handleResponse frame.payload
  (result, { s with monitor })

def handleSocketData : Dispatch.Handler Session := fun frame s =>
  match s.relay.handle s.now frame.payload with
  | .ok relay => (.ok (), { s with relay })
  | .error e => (.error (FrameFault.serialization e).message, s)

/-- One handler for each type the gateway may send while dispatching. -/
def handlers : Dispatch.Table Session := [
  (.registrationResponse, handleRegistration),
  (.healthCheck, handlePing),
  (.healthCheckResponse, handlePong),
  (.socketData, handleSocketData)]

def dispatch (frame : Frame) (s : Session) : Session :=
  match handlers.dispatch frame s with
  | (.ok (), s) => s
  | (.error e, s) => s.leave e

/-- Waits for a frame and takes it with `take`; a fault of the transport is taken with `fail`. -/
def await (fail : TransportFault → Session → Session) (take : Frame → Session → Session) (s : Session) :
    Option Session :=
  match s.receive with
  | none => none
  | some (.error e, s) => some (fail e s)
  | some (.ok frame, s) => some (take frame s)

/-- One step of the main task. -/
def main (draws : List UInt64) (nonce : UInt64) (s : Session) : Option Session :=
  let fail e (s : Session) := s.conclude (.ofTransport e)
  match s.point with
  | .connecting => none
  | .greeting rest => s.greet rest
  | .authorizing => some s.authorize
  | .awaitingAuthorization => s.await fail takeAuthorization
  | .registering => s.register draws
  | .awaitingRegistration resources => s.await fail (takeRegistration resources)
  | .opening health => some (s.openTunnel health nonce)
  | .dispatching => s.await leave dispatch
  | .ended _ => none

end TunnelAgent.Session
