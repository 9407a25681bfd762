import TunnelAgent.CommandLine.LogFilter
import TunnelAgent.CommandLine.Options
import TunnelAgent.FileTree
import TunnelAgent.Supervisor

/-!
From options to a configuration. What is given on the command line or in the environment goes
before the file; an agent without a name gets a fresh one.
-/

namespace TunnelAgent.CommandLine

inductive AddressFault where
  | noColon
  | emptyHost
  | port (fault : Numeral.Fault)
  deriving DecidableEq, Repr

/-- A host and a port after the last colon. -/
def parseAddress (s : String) : Except AddressFault (String × UInt16) :=
  match Text.cutLast ':' s.toList with
  | none => .error .noColon
  | some (host, port) =>
    if host.isEmpty then .error .emptyHost
    else
      match Numeral.read Numeral.maxU16 port with
      | .ok n => .ok (String.ofList host, UInt16.ofNat n)
      | .error e => .error (.port e)

inductive LaunchFault where
  | logLevel (text : String)
  | unreadable (path : String) (fault : IoFault)
  | malformed (path : String)
  | address (text : String) (fault : AddressFault)
  | creation (fault : AgentFault)
  | running (fault : AgentFault)
  deriving DecidableEq, Repr

namespace LaunchFault

/-- What went wrong, from the outermost words to the innermost cause. -/
def chain : LaunchFault → List String
  | logLevel text => [s!"Invalid log level: {text}"]
  | unreadable path f =>
    ["Failed to build agent configuration", s!"Failed to read config file: {path}", f.text]
  | malformed path => ["Failed to build agent configuration", s!"Failed to parse config file: {path}"]
  | address text f =>
    "Failed to build agent configuration" ::
      match f with
      | .noColon => [s!"Invalid gateway address '{text}' (expected host:port)"]
      | .emptyHost => [s!"Invalid gateway address '{text}' (host cannot be empty)"]
      | .port f => [s!"Invalid port in gateway address: {text}", f.message]
  | creation f => "Failed to create agent" :: f.message :: f.causes
  | running f => f.message :: f.causes

end LaunchFault

/-- The configuration that `reader` finds in a file. -/
def loadConfig (reader : String → Option Config) (path : String) (file : Except FileFault String) :
    Except LaunchFault Config :=
  match file with
  | .error e => .error (.unreadable path e.io)
  | .ok contents =>
    match reader contents with
    | some config => .ok config
    | none => .error (.malformed path)

def applyGateway (options : Options) (c : Config) : Except LaunchFault Config :=
  match options.gateway with
  | none => .ok c
  | some text =>
    match parseAddress text with
    | .error e => .error (.address text e)
    | .ok (host, port) => .ok { c with gateway := { c.gateway with host, port } }

def applyRest (options : Options) (c : Config) : Config :=
  { c with
    agentId := options.agentId.getD c.agentId
    credentials := {
      username := options.username.getD c.credentials.username
      secret := options.secret.getD c.credentials.secret }
    socks := { c.socks with listenAddr := options.socksListen.getD c.socks.listenAddr }
    tls := { c.tls with insecure := c.tls.insecure || options.insecure } }

/-- The configuration to run with, and whether the agent's name had to be made up. -/
def buildConfig (reader : String → Option Config) (options : Options)
    (file : Except FileFault String) (freshId : String) : Except LaunchFault (Config × Bool) :=
  match loadConfig reader options.config file with
  | .error e => .error e
  | .ok c =>
    match applyGateway options c with
    | .error e => .error e
    | .ok c =>
      let c := applyRest options c
      if c.agentId.isEmpty then .ok ({ c with agentId := s!"agent-{freshId}" }, true) else .ok (c, false)

end TunnelAgent.CommandLine
