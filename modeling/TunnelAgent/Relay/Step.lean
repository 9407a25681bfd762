import TunnelAgent.Relay

/-!
The relay in steps. Each action is one step of one of its tasks, or something that comes from
outside: a frame, a local socket's bytes or end, the outcome of a dial, how long a sleep takes.
`step` says what the action does, and is `none` where it is not possible. Requests to the pool are
made in wrapping arithmetic; a task that ends over one where arithmetic is checked is a task that is
never heard of again, and so may any task be in a run. What leaves the relay is in the effects: a
frame queued for the gateway, bytes written to a local socket, its write side shut.
-/

namespace TunnelAgent.Relay

inductive Action where
  | handle (now : Nat) (payload : Bytes)
  | remove (id : UInt32)
  | shutdown
  | closePool
  /-- a local socket is handed over -/
  | openLocal (now : Nat)
  /-- an opening asks the pool for its slots; `lasts` is how long it sleeps before it asks again -/
  | request (opening now lasts : Nat)
  /-- an opening chooses its id and becomes a connection -/
  | adopt (opening : Nat)
  /-- START of a connection the agent opened -/
  | announce (generation : Nat)
  /-- a connection asks the pool for its slots; `lasts` is how long it sleeps before it asks again -/
  | poll (generation now lasts : Nat)
  | dialed (generation : Nat) (succeeded : Bool)
  /-- the id is taken out of the table on this side -/
  | detach (generation : Nat)
  /-- CLOSE -/
  | report (generation : Nat)
  | readLocal (generation : Nat) (bytes : Bytes)
  /-- the local socket has ended or failed -/
  | localEnded (generation : Nat)
  /-- the uplink sees that the downlink has ended -/
  | cancelled (generation : Nat)
  /-- the downlink takes the next chunk -/
  | next (generation : Nat)
  /-- the local socket takes `count` bytes -/
  | writeLocal (generation count : Nat)
  | writeFailed (generation : Nat)
  | shutLocal (generation : Nat)
  deriving DecidableEq, Repr

/-- What leaves the relay on behalf of a connection. -/
inductive Effect where
  | queued (generation : Nat) (data : SocketData)
  | wrote (generation : Nat) (bytes : Bytes)
  | shut (generation : Nat)
  deriving DecidableEq, Repr

def Effect.frame? : Effect → Option Outbound
  | queued _ data => some (.ofMessage (.socketData data))
  | _ => none

abbrev Outcome := Relay × List Effect

/-- Queues a frame for the gateway; `none` if it is refused. -/
def send (writerOpen : Bool) (generation : Nat) (data : SocketData) : Except TransportFault Effect :=
  match (Outbound.ofMessage (.socketData data)).offer writerOpen with
  | .ok _ => .ok (.queued generation data)
  | .error e => .error e

/-- The effect of sending a frame whose refusal changes nothing. -/
def attempt (writerOpen : Bool) (generation : Nat) (data : SocketData) : List Effect :=
  match send writerOpen generation data with
  | .ok effect => [effect]
  | .error _ => []

def openLocal (now : Nat) (r : Relay) : Relay :=
  { r with openings := r.openings ++ [.waiting (r.pool.request slotsPerConnection) now] }

def request (opening now lasts : Nat) (r : Relay) : Option Relay :=
  match r.openings[opening]? with
  | some (.waiting acquisition due) =>
    if now < due then none
    else
      match r.pool.poll acquisition with
      | (.granted, pool) => some { r with pool, openings := r.openings.set opening .granted }
      | (.refused e, pool) => some { r with pool, openings := r.openings.set opening (.refused e) }
      | (.retry next, pool) =>
        some { r with
          pool, openings := r.openings.set opening (.waiting next (now + lasts)) }
  | _ => none

def adopt (opening : Nat) (r : Relay) : Option Relay :=
  match r.openings[opening]? with
  | some .granted =>
    match r.freeLocalId (r.table.length + 1) r.localCounter with
    | none => none
    | some (id, localCounter) =>
      { r with localCounter, openings := r.openings.set opening (.opened r.nextGeneration) }.insert id
        .announcing
  | _ => none

/-- Without its START a connection is undone. -/
def announce (writerOpen : Bool) (generation : Nat) (r : Relay) : Option Outcome :=
  match r.connections[generation]? with
  | some ⟨id, _, .announcing⟩ =>
    match send writerOpen generation ⟨id, .start⟩ with
    | .ok effect => some (r.enter generation (.forwarding .reading .receiving), [effect])
    | .error _ => some ((r.removeOwn generation id).2.enter generation .abandoned, [])
  | _ => none

def poll (generation now lasts : Nat) (r : Relay) : Option Relay :=
  match r.connections[generation]? with
  | some ⟨_, _, .acquiring acquisition due⟩ =>
    if now < due then none
    else
      match r.pool.poll acquisition with
      | (.granted, pool) => some ({ r with pool }.enter generation .dialing)
      | (.refused _, pool) => some ({ r with pool }.enter generation (.failing false))
      | (.retry next, pool) =>
        some ({ r with pool }.enter generation (.acquiring next (now + lasts)))
  | _ => none

/-- The outcome of the dial. An uplink that starts is taken to get its buffer: that is so if the size
is at most `largestBuffer` and the host has so much room. -/
def dialed (generation : Nat) (succeeded : Bool) (r : Relay) : Option Relay :=
  match r.connections[generation]? with
  | some ⟨_, _, .dialing⟩ =>
    some (r.enter generation (if succeeded then .forwarding .reading .receiving else .failing true))
  | _ => none

def detach (generation : Nat) (r : Relay) : Option Relay :=
  match r.connections[generation]? with
  | some ⟨id, _, .failing holding⟩ =>
    let (removed, r) := r.removeOwn generation id
    some (r.enter generation (if removed then .withdrawing holding else .abandoned))
  | some ⟨id, _, .forwarding .detaching down⟩ =>
    let (removed, r) := r.removeOwn generation id
    some (r.enter generation (.forwarding (if removed then .reporting else .ended) down))
  | _ => none

def report (writerOpen : Bool) (generation : Nat) (r : Relay) : Option Outcome :=
  match r.connections[generation]? with
  | some ⟨id, _, .withdrawing _⟩ =>
    some (r.enter generation .abandoned, attempt writerOpen generation ⟨id, .close⟩)
  | some ⟨id, _, .forwarding .reporting down⟩ =>
    some (r.enter generation (.forwarding .ended down), attempt writerOpen generation ⟨id, .close⟩)
  | _ => none

/-- Bytes read are sent on; if they cannot be, the uplink is over. -/
def readLocal (writerOpen : Bool) (generation : Nat) (bytes : Bytes) (r : Relay) : Option Outcome :=
  match r.connections[generation]? with
  | some ⟨id, _, .forwarding .reading down⟩ =>
    if bytes = [] ∨ r.bufferSize < bytes.length then none
    else
      match send writerOpen generation ⟨id, .data bytes⟩ with
      | .ok effect => some (r, [effect])
      | .error _ => some (r.enter generation (.forwarding .detaching down), [])
  | _ => none

def localEnded (generation : Nat) (r : Relay) : Option Relay :=
  match r.connections[generation]? with
  | some ⟨_, _, .forwarding .reading down⟩ => some (r.enter generation (.forwarding .detaching down))
  | _ => none

def cancelled (generation : Nat) (r : Relay) : Option Relay :=
  match r.connections[generation]? with
  | some ⟨_, _, .forwarding .reading .ended⟩ => some (r.enter generation (.forwarding .detaching .ended))
  | _ => none

def next (generation : Nat) (r : Relay) : Option Relay :=
  match r.connections[generation]? with
  | some ⟨_, chunk :: queue, .forwarding up .receiving⟩ =>
    let down := match chunk with
      | .data bytes => .writing bytes
      | .close => .shutting
    some ((r.update generation fun c => { c with queue }).enter generation (.forwarding up down))
  | _ => none

/-- A chunk is done with when its last byte is written. -/
def writeLocal (generation count : Nat) (r : Relay) : Option Outcome :=
  match r.connections[generation]? with
  | some ⟨_, _, .forwarding up (.writing rest)⟩ =>
    let left := rest.drop count
    let down := if left = [] then .receiving else .writing left
    some (r.enter generation (.forwarding up down), [.wrote generation (rest.take count)])
  | _ => none

def writeFailed (generation : Nat) (r : Relay) : Option Relay :=
  match r.connections[generation]? with
  | some ⟨_, _, .forwarding up (.writing _)⟩ => some (r.enter generation (.forwarding up .shutting))
  | _ => none

def shutLocal (generation : Nat) (r : Relay) : Option Outcome :=
  match r.connections[generation]? with
  | some ⟨_, _, .forwarding up .shutting⟩ =>
    some (r.enter generation (.forwarding up .ended), [.shut generation])
  | _ => none

def quiet : Option Relay → Option Outcome := Option.map fun r => (r, [])

/-- One step; `writerOpen` says whether frames can still be queued. -/
def step (writerOpen : Bool) : Action → Relay → Option Outcome
  | .handle now payload, r =>
    match r.handle now payload with
    | .ok r => some (r, [])
    | .error _ => some (r, [])
  | .remove id, r => some ((r.remove id).2, [])
  | .shutdown, r => some (r.shutdown, [])
  | .closePool, r => some (r.closePool, [])
  | .openLocal now, r => some (r.openLocal now, [])
  | .request opening now lasts, r => quiet (r.request opening now lasts)
  | .adopt opening, r => quiet (r.adopt opening)
  | .announce generation, r => r.announce writerOpen generation
  | .poll generation now lasts, r => quiet (r.poll generation now lasts)
  | .dialed generation succeeded, r => quiet (r.dialed generation succeeded)
  | .detach generation, r => quiet (r.detach generation)
  | .report generation, r => r.report writerOpen generation
  | .readLocal generation bytes, r => r.readLocal writerOpen generation bytes
  | .localEnded generation, r => quiet (r.localEnded generation)
  | .cancelled generation, r => quiet (r.cancelled generation)
  | .next generation, r => quiet (r.next generation)
  | .writeLocal generation count, r => r.writeLocal generation count
  | .writeFailed generation, r => quiet (r.writeFailed generation)
  | .shutLocal generation, r => r.shutLocal generation

/-- A run of steps, each with the writer open or not, and all that left the relay in it. -/
def run : List (Bool × Action) → Relay → Option Outcome
  | [], r => some (r, [])
  | (writerOpen, action) :: rest, r =>
    match r.step writerOpen action with
    | none => none
    | some (r, effects) =>
      match run rest r with
      | none => none
      | some (r, later) => some (r, effects ++ later)

end TunnelAgent.Relay
