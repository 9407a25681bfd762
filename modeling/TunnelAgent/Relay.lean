import TunnelAgent.Pool
import TunnelAgent.Transport.Outgoing

/-!
The relay: logical connections between the gateway and local sockets. A table maps live ids to
connections; a connection is known by its generation, its place in the list of all connections
ever made, so an id that is used again names another connection. Data from the gateway waits in
the connection's queue. Whoever takes an id out of the table puts a `close` behind that data.
-/

namespace TunnelAgent

inductive RelayFault where
  | pool (fault : PoolFault)
  | transport (fault : TransportFault)
  deriving DecidableEq, Repr

def RelayFault.message : RelayFault → String
  | .pool f => f.message
  | .transport f => s!"Transport error: {f.message}"

namespace Relay

/-- An item of a connection's queue. -/
inductive Chunk where
  | data (bytes : Bytes)
  | close
  deriving DecidableEq, Repr

/-- The direction from the local socket to the gateway. -/
inductive Uplink where
  | reading
  /-- no longer reading; the id is still to be taken out of the table -/
  | detaching
  /-- it took the id out of the table; CLOSE is still to be sent -/
  | reporting
  | ended
  deriving DecidableEq, Repr

/-- The direction from the gateway to the local socket. -/
inductive Downlink where
  | receiving
  | writing (rest : Bytes)
  /-- the write side of the socket is still to be shut -/
  | shutting
  | ended
  deriving DecidableEq, Repr

/-- What a connection is about to do. -/
inductive Stage where
  | acquiring (acquisition : Acquisition) (due : Nat)
  /-- slots are held and the local target is being dialled -/
  | dialing
  /-- setup has failed; the id is still to be taken out of the table -/
  | failing (holding : Bool)
  /-- its setup took the id out of the table; CLOSE is still to be sent -/
  | withdrawing (holding : Bool)
  /-- the agent opened it; START is still to be sent -/
  | announcing
  | forwarding (up : Uplink) (down : Downlink)
  | abandoned
  deriving DecidableEq, Repr

/-- Both slots of a connection are given back when this stops being true. -/
def Stage.holds : Stage → Bool
  | acquiring .. => false
  | dialing => true
  | failing holding => holding
  | withdrawing holding => holding
  | announcing => true
  | forwarding up down => up != .ended || down != .ended
  | abandoned => false

/-- Somebody is left to take chunks out of the queue. -/
def Stage.listens : Stage → Bool
  | forwarding _ .shutting => false
  | forwarding _ .ended => false
  | abandoned => false
  | _ => true

structure Connection where
  id : UInt32
  queue : List Chunk := []
  stage : Stage
  deriving DecidableEq, Repr

/-- A local socket on its way to a connection. -/
inductive Opening where
  | waiting (acquisition : Acquisition) (due : Nat)
  /-- slots are held; no id has been chosen -/
  | granted
  | refused (fault : PoolFault)
  | opened (generation : Nat)
  deriving DecidableEq, Repr

def Opening.holds : Opening → Bool
  | granted => true
  | _ => false

def slotsPerConnection : UInt32 := 2

/-- Ids the agent chooses have this bit; the gateway's do not. -/
def localFlag : UInt32 := 0x80000000

def localId (counter : UInt32) : UInt32 := localFlag ||| (counter &&& 0x7FFFFFFF)

/-- The most bytes that one buffer can have. -/
def largestBuffer : Nat := 0x7FFFFFFFFFFFFFFF

end Relay

/-- In `table` no id occurs twice. -/
structure Relay where
  pool : Pool
  /-- the most bytes one read of a local socket yields; up to `largestBuffer` an uplink that starts
  has a buffer of this size, beyond it the uplink's task ends for want of one -/
  bufferSize : Nat
  table : List (UInt32 × Nat) := []
  connections : List Relay.Connection := []
  openings : List Relay.Opening := []
  localCounter : UInt32 := 0
  deriving DecidableEq, Repr

namespace Relay

def isOpen (id : UInt32) (r : Relay) : Bool := (r.table.lookup id).isSome

/-- The number of live ids. -/
def size (r : Relay) : Nat := r.table.length

def nextGeneration (r : Relay) : Nat := r.connections.length

def update (generation : Nat) (f : Connection → Connection) (r : Relay) : Relay :=
  { r with connections := r.connections.modify generation f }

def giveBack (r : Relay) : Relay := { r with pool := r.pool.release slotsPerConnection }

/-- Moves a connection on; its slots go back if it holds them no longer. -/
def enter (generation : Nat) (stage : Stage) (r : Relay) : Relay :=
  match r.connections[generation]? with
  | none => r
  | some c =>
    let r := r.update generation fun c => { c with stage }
    if c.stage.holds && !stage.holds then r.giveBack else r

/-- Puts a chunk at the end of a connection's queue. -/
def post (generation : Nat) (chunk : Chunk) (r : Relay) : Relay :=
  r.update generation fun c => if c.stage.listens then { c with queue := c.queue ++ [chunk] } else c

/-- A new connection under `id`, unless the id is live. -/
def insert (id : UInt32) (stage : Stage) (r : Relay) : Option Relay :=
  if r.isOpen id then none
  else some { r with
    table := (id, r.nextGeneration) :: r.table
    connections := r.connections ++ [{ id, stage }] }

/-- Takes an id out of the table; false if it was not live. -/
def remove (id : UInt32) (r : Relay) : Bool × Relay :=
  match r.table.lookup id with
  | none => (false, r)
  | some generation =>
    (true, { r with table := r.table.filter (·.1 != id) }.post generation .close)

/-- Takes an id out of the table if it still belongs to the connection. -/
def removeOwn (generation : Nat) (id : UInt32) (r : Relay) : Bool × Relay :=
  if r.table.lookup id = some generation then r.remove id else (false, r)

/-- Takes every id out of the table. -/
def shutdown (r : Relay) : Relay :=
  r.table.foldl (fun r (_, generation) => r.post generation .close) { r with table := [] }

def closePool (r : Relay) : Relay := { r with pool := r.pool.close }

/-- START: a connection that will ask for its slots at once; a live id is left alone. -/
def accept (now : Nat) (id : UInt32) (r : Relay) : Relay :=
  (r.insert id (.acquiring (r.pool.request slotsPerConnection) now)).getD r

def receive (id : UInt32) (bytes : Bytes) (r : Relay) : Relay :=
  match r.table.lookup id with
  | none => r
  | some generation => r.post generation (.data bytes)

/-- Takes what the gateway says of a connection. -/
def take (now : Nat) (data : SocketData) (r : Relay) : Relay :=
  match data.event with
  | .start => r.accept now data.connectionId
  | .data bytes => r.receive data.connectionId bytes
  | .close => (r.remove data.connectionId).2

/-- Takes the payload of a frame; only one that cannot be read is a fault. -/
def handle (now : Nat) (payload : Bytes) (r : Relay) : Except Serial.Fault Relay :=
  match SocketData.format.decode payload with
  | .ok data => .ok (r.take now data)
  | .error e => .error e

/-- The first id free from `counter` on, within `tries`, and the counter after it. -/
def freeLocalId (r : Relay) : Nat → UInt32 → Option (UInt32 × UInt32)
  | 0, _ => none
  | tries + 1, counter =>
    if r.isOpen (localId counter) then freeLocalId r tries (counter + 1)
    else some (localId counter, counter + 1)

end Relay

end TunnelAgent
