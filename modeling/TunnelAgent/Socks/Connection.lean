import TunnelAgent.Config
import TunnelAgent.Socks.Negotiation

/-!
A connection through the gate, on the clock. The handshake and the dial have their time: a client that
is not through by then is given up, and a dial that is not over has failed. Then data goes both ways
until both ends have ended their streams or a socket fails. The user name is kept for the log.
-/

namespace TunnelAgent.Socks

/-- How the log speaks of a client; a dash if its metadata cannot be read. -/
def metadataText (username : Bytes) : String :=
  match Metadata.parse (lossyText username) with
  | some metadata => metadata.text
  | none => "-"

/-- What is logged of the metadata and of the decisions at the gate. -/
inductive Note where
  | malformedMetadata (username : String)
  | unknownKey
  | rejected (metadata : String) (destination : Destination) (fault : AccessFault)
  | accepted (metadata : String) (destination : Destination)
  deriving DecidableEq, Repr

/-- Metadata that cannot be read is ignored. -/
def metadataNotes (username : Bytes) : List Note :=
  match Metadata.parse (lossyText username) with
  | some _ => []
  | none => [.malformedMetadata (lossyText username)]

def isKnown (table : AccessTable) (password : Bytes) : Bool :=
  match keyOf? password with
  | some key => table.containsKey key
  | none => false

/-- What is logged when a field has been read whole. -/
def Field.notes (table : AccessTable) (username bytes : Bytes) : Field → List Note
  | password =>
    metadataNotes username ++ (if isKnown table bytes then [] else [.unknownKey])
  | port key command name =>
    if command = connectCommand then
      let destination : Destination := ⟨name, UInt16.ofNat (Bytes.ofBig bytes)⟩
      match table.check key destination with
      | .ok () => [.accepted (metadataText username) destination]
      | .error e => [.rejected (metadataText username) destination e]
    else []
  | _ => []

/-- The fields that a byte completes: the one it belongs to and, behind a size of zero, the next. -/
def Client.completed (table : AccessTable) (b : UInt8) : Client → List (Field × Bytes)
  | .reading field need got =>
    if need ≤ 1 then
      let bytes := (b :: got).reverse
      match (field.take table bytes).2 with
      | .read next 0 => [(field, bytes), (next, [])]
      | _ => [(field, bytes)]
    else []
  | _ => []

structure Connection where
  /-- when the handshake began or, after it, the dial -/
  since : Duration
  client : Client := .start
  /-- empty until it has been read -/
  username : Bytes := []
  /-- the client says no more -/
  clientEnded : Bool := false
  /-- the destination says no more -/
  destinationEnded : Bool := false
  deriving DecidableEq, Repr

namespace Connection

inductive Event where
  | byte (b : UInt8)
  /-- the client ends its stream -/
  | ended
  | dialed (outcome : Except IoFault (Option Endpoint))
  /-- bytes from the destination -/
  | answered (bytes : Bytes)
  /-- the destination ends its stream -/
  | answerEnded
  /-- a socket fails; this is noticed while it is read from -/
  | failed
  /-- only time passes -/
  | waited

/-- An event, its time and the table then in force. -/
structure Moment where
  now : Duration
  table : AccessTable
  event : Event

inductive Effect where
  | gate (effect : Client.Effect)
  /-- the destination is told that no more comes from the client -/
  | endForward
  /-- bytes of the destination to the client -/
  | deliver (bytes : Bytes)
  | endDelivery
  | note (note : Note)
  deriving DecidableEq, Repr

def accept (now : Duration) : Connection := { since := now }

def handshakeTimeout (config : Config.Socks) : Duration :=
  Duration.ofSeconds config.handshakeTimeoutSecs.toNat

def connectTimeout (config : Config.Socks) : Duration :=
  Duration.ofSeconds config.connectTimeoutSecs.toNat

def byte (now : Duration) (table : AccessTable) (b : UInt8) (k : Connection) :
    List Effect × Connection :=
  if k.clientEnded then ([], k)
  else
    let completed := k.client.completed table b
    let notes := completed.flatMap fun (field, bytes) => field.notes table k.username bytes
    let (effects, client) := k.client.feed table b
    let since := match k.client, client with
      | .reading .., .dialing .. => now
      | _, _ => k.since
    (notes.map .note ++ effects.map .gate,
      { k with since, client, username := (completed.lookup .username).getD k.username })

/-- A client that has ended its stream during the dial is heard to the end first. -/
def dialed (outcome : Except IoFault (Option Endpoint)) (k : Connection) :
    List Effect × Connection :=
  let (effects, client) := k.client.dialed outcome
  let ends := match k.client, client with
    | .dialing .., .relaying _ => k.clientEnded
    | _, _ => false
  (effects.map .gate ++ (if ends then [.endForward] else []), { k with client })

/-- A connection on which nothing more can come is over. -/
def settle (k : Connection) : Connection :=
  { k with client := if k.clientEnded && k.destinationEnded then .closed else k.client }

def ended (k : Connection) : List Effect × Connection :=
  if k.clientEnded then ([], k)
  else
    match k.client with
    | .reading .. => ([], { k with client := k.client.giveUp, clientEnded := true })
    | .dialing .. => ([], { k with clientEnded := true })
    | .relaying _ => ([.endForward], { k with clientEnded := true }.settle)
    | .closed => ([], k)

def answered (bytes : Bytes) (k : Connection) : List Effect × Connection :=
  match k.client with
  | .relaying _ => if k.destinationEnded then ([], k) else ([.deliver bytes], k)
  | _ => ([], k)

def answerEnded (k : Connection) : List Effect × Connection :=
  match k.client with
  | .relaying _ =>
    if k.destinationEnded then ([], k)
    else ([.endDelivery], { k with destinationEnded := true }.settle)
  | _ => ([], k)

def failed (k : Connection) : Connection :=
  match k.client with
  | .dialing .. => k
  | _ => { k with client := .closed }

def take (m : Moment) (k : Connection) : List Effect × Connection :=
  match m.event with
  | .byte b => k.byte m.now m.table b
  | .ended => k.ended
  | .dialed outcome => k.dialed outcome
  | .answered bytes => k.answered bytes
  | .answerEnded => k.answerEnded
  | .failed => ([], k.failed)
  | .waited => ([], k)

/-- What is not over in time: a handshake ends without a word, a dial with a reply. -/
def expire (config : Config.Socks) (now : Duration) (k : Connection) : List Effect × Connection :=
  match k.client with
  | .reading .. =>
    if k.since + handshakeTimeout config < now then ([], { k with client := k.client.giveUp })
    else ([], k)
  | .dialing .. =>
    if k.since + connectTimeout config < now then k.dialed (.error ⟨.timedOut, "timed out"⟩)
    else ([], k)
  | _ => ([], k)

def step (config : Config.Socks) (m : Moment) (k : Connection) : List Effect × Connection :=
  let (effects, k) := k.expire config m.now
  let (more, k) := k.take m
  (effects ++ more, k)

def run (config : Config.Socks) : List Moment → Connection → List Effect × Connection
  | [], k => ([], k)
  | m :: rest, k =>
    let (effects, k) := k.step config m
    let (more, k) := run config rest k
    (effects ++ more, k)

end Connection

end TunnelAgent.Socks
