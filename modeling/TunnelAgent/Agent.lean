import TunnelAgent.Address
import TunnelAgent.Certificate.Identity
import TunnelAgent.Session.Step
import TunnelAgent.Supervisor

/-!
The agent: sessions one after the other over the state they share. A manifest is replaced in two
steps, kept for later sessions and then registered on the live one, and other things may happen
between them. What an ended session leaves of its relay works on until its sockets are done.
-/

namespace TunnelAgent

namespace Agent

inductive Stage where
  | idle
  | inSession
  /-- the pause is over at `due`; `cut` says that a stop was asked for before that -/
  | pausing (due : Duration) (cut : Bool)
  | stopped (result : Except AgentFault Unit)

/-- Names the program to the gateway. -/
def version : String := "0.1.0"

/-- The most a session writes ahead of the gateway's reading. -/
def streamCapacity : Nat := 65536

def sessionSettings (c : Config) : Session.Settings where
  credentials := {
    agentId := c.agentId
    username := c.credentials.username
    secret := c.credentials.secret
    agentVersion := version }
  health := c.healthConfig
  bufferSize := c.relay.bufferSize

/-- What the first session starts from. -/
def shared (c : Config) : Session.Shared := { rules := c.resources, pool := c.pool }

/-- The anchors and the mode of the configuration; `files` reads the files of the host. -/
def trust (readers : Identity.Readers) (files : String → Except FileFault Bytes) (c : Config) :
    Except ConfigFault Identity.Trust :=
  match c.tls.caCertPath with
  | none => .ok { insecure := c.tls.insecure }
  | some path =>
    match Bundle.load readers.bundle path (files path) with
    | .error e => .error (.tls e)
    | .ok certificates => .ok { certificates, insecure := c.tls.insecure }

/-- The outcome of connecting to the configured gateway. -/
def connect (readers : Identity.Readers) (files : String → Except FileFault Bytes)
    (dial : Except TransportFault Unit) (nameFault : Option String) (peer : Identity.Peer) (c : Config) :
    Except TransportFault Unit :=
  match trust readers files c with
  | .error e => .error (.tls e.message)
  | .ok trust => Identity.connect readers.anchor c.gateway.host trust dial nameFault peer

end Agent

structure Agent where
  config : Config
  backoff : Backoff
  /-- the latest session -/
  session : Session
  stage : Agent.Stage := .idle
  /-- manifests kept but not yet registered on the live session -/
  calls : List (List Rule) := []
  /-- what ended sessions have left -/
  former : List Relay := []

namespace Agent

def create (c : Config) : Except AgentFault Agent :=
  match c.validate with
  | .error e => .error (.config e)
  | .ok () =>
    .ok {
      config := c
      backoff := { policy := c.backoffPolicy }
      session := .start (sessionSettings c) (shared c) 0 streamCapacity }

def resources (a : Agent) : List Rule := a.session.shared.rules

def isLive (a : Agent) : Bool := a.session.shared.live

def access (a : Agent) : AccessTable := a.session.shared.access

def result? (a : Agent) : Option (Except AgentFault Unit) :=
  match a.stage with
  | .stopped result => some result
  | _ => none

/-- The agent starts with its listener in place, or does not start. -/
def begin (listener : Except IoFault Endpoint) (a : Agent) : Option Agent :=
  match a.stage, listener with
  | .idle, .ok _ => some { a with stage := .inSession }
  | .idle, .error e => some { a with stage := .stopped (.error (.listener e)) }
  | _, _ => none

/-- Decides what follows the session, once it has ended; `lasts` says how long a sleep takes. -/
def conclude (lasts : Duration → Duration) (a : Agent) : Option Agent :=
  match a.stage, a.session.result? with
  | .inSession, some result =>
    match Supervisor.decide a.session.shared.shutdown ⟨a.session.reachedDispatching, result⟩ a.backoff with
    | (.stop result, backoff) => some { a with backoff, stage := .stopped result }
    | (.pause length, backoff) =>
      some { a with backoff, stage := .pausing (a.session.now + lasts length) false }
  | _, _ => none

/-- The pause has passed, and no stop came before that: another session. -/
def resume (a : Agent) : Option Agent :=
  match a.stage with
  | .pausing due cut =>
    if cut || a.session.now < due then none
    else some { a with
      stage := .inSession
      backoff := a.backoff.passed
      former := a.session.relay :: a.former
      session := .start a.session.settings a.session.handOver a.session.now streamCapacity }
  | _ => none

/-- The agent stops in a pause if it is asked to. A stop that was asked for when the pause had passed
may be seen too late. -/
def cancel (a : Agent) : Option Agent :=
  match a.stage with
  | .pausing .. => if a.session.shared.shutdown then some { a with stage := .stopped (.ok ()) } else none
  | _ => none

/-- A step of what an ended session has left; it shares the pool, and can send nothing. -/
def formerStep (i : Nat) (action : Relay.Action) (a : Agent) : Option Agent :=
  match a.former[i]? with
  | none => none
  | some relay =>
    if Session.isRelays action then
      match { relay with pool := a.session.relay.pool }.step false action with
      | none => none
      | some (relay, _) =>
        let current := { a.session.relay with pool := relay.pool }
        some { a with former := a.former.set i relay, session := { a.session with relay := current } }
    else none

/-- Keeps a manifest for every later session. -/
def store (rules : List Rule) (a : Agent) : Agent :=
  { a with
    session := { a.session with shared := { a.session.shared with rules } }
    calls := a.calls ++ [rules] }

/-- Registers a kept manifest on the live session, if there is one. -/
def forward (call : Nat) (draws : List UInt64) (a : Agent) : Option Agent :=
  match a.calls[call]? with
  | none => none
  | some rules =>
    let a := { a with calls := a.calls.eraseIdx call }
    if a.session.published then
      (a.session.reregister rules draws).map fun (_, session) => { a with session }
    else some a

/-- Asks the agent to stop. -/
def shutdown (a : Agent) : Agent :=
  { a with
    session := { a.session with shared := { a.session.shared with shutdown := true } }
    stage := match a.stage with
      | .pausing due cut => .pausing due (cut || a.session.now < due)
      | stage => stage }

inductive Action where
  | begin (listener : Except IoFault Endpoint)
  | session (action : Session.Action)
  | former (index : Nat) (action : Relay.Action)
  | conclude (lasts : Duration → Duration)
  | resume
  | cancel
  | store (rules : List Rule)
  | forward (call : Nat) (draws : List UInt64)
  | shutdown

/-- The rest is the agent's own to do. -/
def isSessions : Session.Action → Bool
  | .shutdown => false
  | .setRules _ => false
  | .reregister .. => false
  | _ => true

/-- A step of the latest session; there is none before the agent has begun. -/
def sessionStep (action : Session.Action) (a : Agent) : Option Agent :=
  match a.stage with
  | .idle => none
  | _ => if isSessions action then (a.session.step action).map fun session => { a with session } else none

def step : Action → Agent → Option Agent
  | .begin listener, a => a.begin listener
  | .session action, a => a.sessionStep action
  | .former index action, a => a.formerStep index action
  | .conclude lasts, a => a.conclude lasts
  | .resume, a => a.resume
  | .cancel, a => a.cancel
  | .store rules, a => some (a.store rules)
  | .forward call draws, a => a.forward call draws
  | .shutdown, a => some a.shutdown

def run : List Action → Agent → Option Agent
  | [], a => some a
  | action :: rest, a => (a.step action).bind (run rest)

end Agent

end TunnelAgent
