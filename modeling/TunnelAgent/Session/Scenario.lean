import TunnelAgent.Gateway
import TunnelAgent.Relay.Schedule
import TunnelAgent.Session.Step

/-!
A session and its gateway on one clock, in one order of steps. The main task goes first, then the
monitor, the relay, the watcher and the writer, and last the gateway reads what the pipe holds.
`settle` lets everything happen that can happen without the clock; `wait` moves the clock from
one timer to the next.
-/

namespace TunnelAgent.Session

structure Scenario where
  session : Session
  gateway : Gateway := { awaitsPreamble := true }
  /-- where random words come from -/
  words : WordStream
  rt : Pool.Runtime
  /-- dials of the local target succeed -/
  dials : Bool := false
  /-- the gateway still holds its end of the stream -/
  attached : Bool := true
  /-- what the gateway has taken off the pipe but not yet read, latest first -/
  pieces : List Bytes := []

namespace Scenario

def map (f : Session → Session) (c : Scenario) : Scenario := { c with session := f c.session }

/-- A step of the main task, with random words for it. -/
def main? (c : Scenario) : Option Scenario :=
  match c.session.point with
  | .registering =>
    let (draws, words) := c.words.take c.session.shared.rules.length
    (c.session.main draws 0).map fun session => { c with session, words }
  | .opening _ =>
    let (nonce, words) := c.words.next
    (c.session.main [] nonce).map fun session => { c with session, words }
  | _ => (c.session.main [] 0).map fun session => { c with session }

/-- A step of one of the other tasks. -/
def other? (c : Scenario) : Option Scenario :=
  let s := c.session
  let relay? : Option Session :=
    match s.relay.next? c.rt c.dials s.now with
    | some action => s.step (.relay action)
    | none => none
  (s.tick <|> relay? <|> s.watch <|> s.write).map fun session => { c with session }

/-- The gateway takes what the pipe holds. -/
def read? (c : Scenario) : Option Scenario :=
  let o := c.session.outgoing
  if c.attached && !o.pipe.held.isEmpty then
    let (bytes, _, outgoing) := o.read o.pipe.held.length
    some { c with session := { c.session with outgoing }, pieces := bytes :: c.pieces }
  else none

def next? (c : Scenario) : Option Scenario := c.main? <|> c.other? <|> c.read?

/-- More steps than are possible at one time: every byte from the gateway may be a frame, every
frame a connection with all its polls, and every byte to the gateway is written and read by
itself. -/
def work (c : Scenario) : Nat :=
  let s := c.session
  let manifest := (RegistrationRequest.format.write ⟨s.shared.rules.map (⟨·, 0⟩)⟩).length
  let polls := (s.relay.pool.retryAttempts + 1).toNat + 200
  (s.reader.source.bytes.length + 20) * polls + s.relay.work c.rt + 3 * (s.outgoing.work + manifest + 1000)

def settleFor : Nat → Scenario → Scenario
  | 0, c => c
  | n + 1, c =>
    match c.next? with
    | none => c
    | some c => settleFor n c

def settle (c : Scenario) : Scenario :=
  let c := settleFor c.work c
  if c.attached then
    let gateway := c.gateway.hear c.session.now c.pieces.reverse.flatten c.session.outgoing.pipe.ended
    { c with gateway, pieces := [] }
  else c

/-- When the next timer fires. -/
def due? (c : Scenario) : Option Duration :=
  [c.session.monitor.ticking.map (·.due), if c.session.reachedDispatching then c.session.relay.due? c.rt else none]
    |>.filterMap id |>.min?

/-- Moves the clock to `target`, stopping at each timer on the way. -/
def waitFor (target : Duration) : Nat → Scenario → Scenario
  | 0, c => c
  | n + 1, c =>
    match c.due? with
    | some due =>
      if due ≤ target then
        waitFor target n (c.map fun s => { s with now := max s.now due }).settle
      else (c.map fun s => { s with now := target }).settle
    | none => (c.map fun s => { s with now := target }).settle

/-- Timers are at least a millisecond apart. -/
def wait (ms : Nat) (c : Scenario) : Scenario :=
  waitFor (c.session.now + Duration.ofMillis ms) (2 * ms + 2) c

/-- The gateway sends bytes; after it has left, or once the session is over, nobody gets them. -/
def deliver (bytes : Bytes) (c : Scenario) : Scenario :=
  if c.attached && c.session.result?.isNone then
    (c.map fun s => { s with reader := s.reader.deliver bytes }).settle
  else c

def reply (frame : Outbound) (c : Scenario) : Scenario :=
  let (bytes, gateway) := c.gateway.reply frame
  { c with gateway }.deliver bytes

def finishWriting (c : Scenario) : Scenario :=
  (c.map fun s => { s with reader := s.reader.endWith .eof }).settle

/-- The gateway drops its end of the stream. -/
def hangUp (c : Scenario) : Scenario :=
  { c.map (fun s => { s with reader := s.reader.endWith .eof, outgoing := s.outgoing.dropReader }) with
    attached := false }.settle

def shutdown (c : Scenario) : Scenario :=
  (c.map fun s => { s with shared := { s.shared with shutdown := true } }).settle

def setRules (rules : List Rule) (c : Scenario) : Scenario :=
  c.map fun s => { s with shared := { s.shared with rules } }

/-- Registers rules on the live session; `none` if there is none. -/
def reregister (rules : List Rule) (c : Scenario) : Option (Except TransportFault Unit) × Scenario :=
  let (draws, words) := c.words.take rules.length
  match c.session.reregister rules draws with
  | none => (none, c)
  | some (result, session) => (some result, { c with session, words }.settle)

/-- Runs a session over a stream whose other end is `attached` or gone already. -/
def begin (attached : Bool) (words : WordStream) (rt : Pool.Runtime) (s : Session) : Scenario :=
  let s := (s.connect (.ok ())).getD s
  if attached then { session := s, words, rt : Scenario }.settle
  else { session := s, words, rt, attached : Scenario }.hangUp

end Scenario

end TunnelAgent.Session
