import TunnelAgent.Address.Reader
import TunnelAgent.Agent.Isolated
import TunnelAgent.CommandLine.Launch

/-!
The command as a process: it reads its options and its file, runs an agent until the agent stops,
and on the way takes two signals, one to stop and one to read its resources again. `log` holds
all lines, the filter says which of them are shown.
-/

namespace TunnelAgent.CommandLine

/-- What the process finds around it. -/
structure Host where
  environment : String → Option String
  files : String → Except FileFault String
  /-- the configuration in the contents of a file -/
  readConfig : String → Option Config
  /-- the outcome of listening at an address -/
  listen : ListenAddress → Except IoFault Endpoint
  /-- what an attempt to connect to a gateway meets -/
  dialFault : TransportFault
  /-- what reads certificates -/
  readers : Identity.Readers
  /-- how long a sleep takes -/
  lasts : Duration → Duration
  /-- a name that no other agent has -/
  freshId : String

inductive Signal where
  | interrupt
  | hangup
  deriving DecidableEq, Repr

/-- How a process ended. -/
structure Exit where
  code : Nat
  /-- what is reported as the reason, with the causes behind it -/
  report : List String := []
  deriving DecidableEq, Repr

namespace Exit

/-- The first line of the report. -/
def headline? (exit : Exit) : Option String := exit.report.head?.map Text.Terminal.firstLine

/-- The lines on which the causes are listed, without their indentation. -/
def causeLines (exit : Exit) : List String :=
  exit.report.tail.flatMap fun cause =>
    match Text.Terminal.lines cause with
    | [] => []
    | line :: more => line :: more.map fun line => String.ofList (line.toList.dropWhile (· == ' '))

end Exit

structure Invocation where
  path : String
  filter : LogFilter := []
  /-- latest first -/
  log : List LogLine := []
  agent : Option Agent := none
  exit : Option Exit := none

namespace Invocation

def say (level : Level) (target message : String) (p : Invocation) : Invocation :=
  { p with log := { level, target, message } :: p.log }

def sayWith (level : Level) (target message : String) (values : List (String × String)) (p : Invocation) :
    Invocation :=
  { p with log := { level, target, message, values } :: p.log }

def own : String := "gatelink"
def agentTarget : String := "gatelink_agent::agent"

def info (message : String) (p : Invocation) : Invocation := p.say .info own message

/-- The last line of a process that ends in order: an agent without a session moves no bytes. -/
def sayTraffic (p : Invocation) : Invocation :=
  p.sayWith .info own "Agent stopped" [("sent", "0"), ("received", "0")]

def shown (p : Invocation) : List LogLine := (p.log.filter p.filter.shows).reverse

def fail (fault : LaunchFault) (p : Invocation) : Invocation := { p with exit := some ⟨1, fault.chain⟩ }

/-- The files of the host as bytes. -/
def fileBytes (host : Host) (path : String) : Except FileFault Bytes :=
  match host.files path with
  | .ok contents => .ok (Utf8.encode contents)
  | .error e => .error e

/-- The fault that every session of this agent meets. -/
def sessionFault (host : Host) (a : Agent) : TransportFault :=
  match Agent.connect host.readers (fileBytes host) (.error host.dialFault) none .silent a.config with
  | .error e => e
  | .ok () => host.dialFault

/-- The lines about a session that could not connect. -/
def sayFailure (host : Host) (a : Agent) (p : Invocation) : Invocation :=
  let text := (SessionFault.ofConnect (sessionFault host a)).message
  let p := if a.config.tls.insecure then
      p.say .warn "gatelink_transport::tls" "Gateway certificate verification is DISABLED"
    else p
  let p := p.sayWith .warn "gatelink_agent::lifecycle" s!"Session failed: {text}" [("state", "Init")]
  if a.session.shared.shutdown then p else p.say .warn agentTarget s!"Session ended: {text}"

/-- The agent's result becomes the process's. -/
def stop (result : Except AgentFault Unit) (p : Invocation) : Invocation :=
  match result with
  | .error e => (p.say .error own s!"Agent error: {e.message}").fail (.running e)
  | .ok () =>
    let p := (p.info "Agent stopped normally").sayTraffic
    { p with exit := some ⟨0, []⟩ }

/-- What happens by itself up to a time; `none` if nothing does. -/
def step (host : Host) (horizon : Duration) (p : Invocation) : Option Invocation :=
  match p.exit, p.agent with
  | none, some a =>
    match a.result? with
    | some result => some (p.stop result)
    | none =>
      match a.stage with
      | .inSession =>
        (a.failSession host.lasts (sessionFault host a)).map fun next =>
          { p.sayFailure host a with agent := some next }
      | _ => (a.isolatedStep host.lasts host.dialFault horizon).map fun a => { p with agent := some a }
  | _, _ => none

def runFor (host : Host) (horizon : Duration) : Nat → Invocation → Invocation
  | 0, p => p
  | n + 1, p =>
    match p.step host horizon with
    | none => p
    | some p => runFor host horizon n p

/-- When the next session starts, if the process waits for that. -/
def due? (p : Invocation) : Option Duration :=
  match p.exit, p.agent with
  | none, some a =>
    match a.stage with
    | .pausing due _ => some due
    | _ => none
  | _, _ => none

/-- The next thing that happens by itself, whenever that is. -/
def advance (host : Host) (p : Invocation) : Option Invocation := p.step host (p.due?.getD 0)

/-- Goes on until a shown line contains `text` or nothing is left to happen, for at most so many
steps. -/
def awaitLine (host : Host) (text : String) : Nat → Invocation → Invocation
  | 0, p => p
  | n + 1, p =>
    if p.shown.any fun line => line.text.contains text then p
    else
      match p.advance host with
      | none => p
      | some p => awaitLine host text n p

/-- Goes on to the end, if so many steps suffice. -/
def finish (host : Host) : Nat → Invocation → Invocation
  | 0, p => p
  | n + 1, p =>
    match p.advance host with
    | none => p
    | some p => finish host n p

/-- Runs the agent of a configuration on its listener. -/
def runAgent (host : Host) (a : Agent) (p : Invocation) : Invocation :=
  let c := a.config
  let listener := (ListenAddress.read c.socks.listenAddr).bind host.listen
  match a.begin listener with
  | none => p
  | some a =>
    let p := { p with agent := some a }
    match listener with
    | .error _ => p
    | .ok endpoint =>
      (p.say .info "gatelink_agent::socks" s!"SOCKS5 server listening on {endpoint.text}").sayWith .info
        agentTarget "Starting agent" [("agent_id", c.agentId),
          ("gateway", s!"{c.gateway.host}:{c.gateway.port}"), ("resources", toString c.resources.length)]

def launch (host : Host) (options : Options) (p : Invocation) : Invocation :=
  let p := (p.info "Gatelink Agent starting...").info s!"Loading configuration from: {options.config}"
  match buildConfig host.readConfig options (host.files options.config) host.freshId with
  | .error e => p.fail e
  | .ok (c, isFresh) =>
    let p := if isFresh then p.info s!"Auto-generated agent ID: {c.agentId}" else p
    let p := p.info s!"Agent ID: {c.agentId}"
    let p := p.info s!"Gateway: {c.gateway.host}:{c.gateway.port}"
    let p := p.info s!"SOCKS5 listener: {c.socks.listenAddr}"
    let p := p.info s!"Resources: {c.resources.length}"
    match Agent.create c with
    | .error e => p.fail (.creation e)
    | .ok a => p.runAgent host a

/-- A process from its arguments on. -/
def start (host : Host) (args : List String) : Invocation :=
  match Options.parse host.environment args with
  | .error .information => { path := "", exit := some ⟨0, []⟩ }
  | .error .usage => { path := "", exit := some ⟨2, []⟩ }
  | .ok options =>
    match LogFilter.read? options.logLevel with
    | none => ({ path := options.config } : Invocation).fail (.logLevel options.logLevel)
    | some filter => ({ path := options.config, filter } : Invocation).launch host options

/-- Reads the resources again; only those of the file count. -/
def reload (host : Host) (a : Agent) (p : Invocation) : Invocation :=
  let p := p.info "Received SIGHUP, reloading resources"
  match loadConfig host.readConfig p.path (host.files p.path) with
  | .error e => p.say .error own ("Reload failed: " ++ ": ".intercalate e.chain.tail)
  | .ok c =>
    match (a.store c.resources).forward a.calls.length [] with
    | none => p
    | some a =>
      { p with agent := some a }.say .info agentTarget
        "No live session; manifest applies at next registration"

def interrupt (a : Agent) (p : Invocation) : Invocation :=
  let p := p.info "Received Ctrl+C, shutting down..."
  let p := p.say .info agentTarget "Agent shutdown requested"
  let a := a.shutdown
  let a := a.cancel.getD a
  let p := match a.result? with
    | some (.error e) => p.say .error own s!"Agent error during shutdown: {e.message}"
    | _ => p
  { p.sayTraffic with agent := some a, exit := some ⟨0, []⟩ }

def take (host : Host) (signal : Signal) (p : Invocation) : Invocation :=
  match p.exit, p.agent with
  | none, some a =>
    match signal with
    | .hangup => p.reload host a
    | .interrupt => p.interrupt a
  | _, _ => p

end Invocation

end TunnelAgent.CommandLine
