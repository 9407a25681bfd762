import TunnelAgent.Backoff
import TunnelAgent.Binary64.Text
import TunnelAgent.Health
import TunnelAgent.Pool
import TunnelAgent.Text.Quoted

/-!
The agent's configuration: its sections with their defaults, the checks a configuration must pass
before an agent is made of it, and what the parts of the agent are given of it.
-/

namespace TunnelAgent

namespace Config

structure Gateway where
  host : String := ""
  port : UInt16 := 8443
  deriving DecidableEq, Repr

structure Credentials where
  username : String := ""
  secret : String := ""
  deriving DecidableEq, Repr

/-- The credentials for diagnostics: the secret never shows. -/
def Credentials.text (c : Credentials) : String :=
  s!"Credentials \x7b username: {Text.quoted c.username}, secret: \"<redacted>\" \x7d"

structure Tls where
  caCertPath : Option String := none
  /-- no certificate is checked -/
  insecure : Bool := false
  connectTimeoutSecs : UInt64 := 10
  deriving DecidableEq, Repr

structure Socks where
  listenAddr : String := "127.0.0.1:1080"
  connectTimeoutSecs : UInt64 := 10
  handshakeTimeoutSecs : UInt64 := 10
  deriving DecidableEq, Repr

structure Relay where
  /-- what is dialled for the gateway's connections; the agent's own listener if missing -/
  localTarget : Option String := none
  bufferSize : Nat := 16384
  poolCapacity : Nat := 512
  retryAttempts : UInt32 := 5
  retryIntervalMs : UInt64 := 200
  connectTimeoutSecs : UInt64 := 10
  deriving DecidableEq, Repr

structure Health where
  intervalSecs : UInt64 := 30
  maxMissed : UInt32 := 3
  deriving DecidableEq, Repr

structure Reconnect where
  initialBackoffMs : UInt64 := 1000
  maxBackoffSecs : UInt64 := 60
  multiplier : Binary64 := Binary64.ofNat 2
  maxAttempts : Option Nat := none
  deriving DecidableEq, Repr

end Config

structure Config where
  agentId : String := ""
  gateway : Config.Gateway := {}
  credentials : Config.Credentials := {}
  tls : Config.Tls := {}
  socks : Config.Socks := {}
  relay : Config.Relay := {}
  health : Config.Health := {}
  reconnect : Config.Reconnect := {}
  resources : List Rule := []
  deriving DecidableEq, Repr

inductive ConfigFault where
  | missing (field : String)
  | zero (field : String)
  /-- the pool has no room for one connection -/
  | smallPool
  | multiplier (value : Binary64)
  | noDestination (resource : String)
  | tls (fault : TransportFault)
  deriving DecidableEq, Repr

namespace ConfigFault

/-- The defect without the words that introduce it. -/
def reason : ConfigFault → String
  | missing field => s!"{field} is required"
  | zero field => s!"{field} must be > 0"
  | smallPool => "multiplexer.pool_capacity must be at least 2"
  | multiplier x => s!"reconnect.multiplier must be a finite number >= 1.0, got {x.text}"
  | noDestination name => s!"resource '{name}' needs a destination host and port"
  | tls f => f.message

def message : ConfigFault → String
  | tls f => s!"Failed to load TLS material: {f.message}"
  | f => s!"Invalid configuration: {f.reason}"

end ConfigFault

namespace Config

/-- A rule names a host and a port. -/
def hasDestination (rule : Rule) : Bool := !rule.host.isEmpty && rule.port != 0

/-- The first defect, in the order in which they are looked for. -/
def fault? (c : Config) : Option ConfigFault :=
  if c.agentId.isEmpty then some (.missing "agent_id")
  else if c.gateway.host.isEmpty then some (.missing "gateway.host")
  else if c.gateway.port = 0 then some (.zero "gateway.port")
  else if c.credentials.username.isEmpty then some (.missing "credentials.username")
  else if c.relay.poolCapacity < 2 then some .smallPool
  else if c.relay.bufferSize = 0 then some (.zero "multiplexer.buffer_size")
  else if c.health.intervalSecs = 0 then some (.zero "health_check.interval_secs")
  else if !c.reconnect.multiplier.isFinite || !Binary64.one.le c.reconnect.multiplier then
    some (.multiplier c.reconnect.multiplier)
  else (c.resources.find? fun rule => !hasDestination rule).map fun rule => .noDestination rule.name

def validate (c : Config) : Except ConfigFault Unit :=
  match c.fault? with
  | none => .ok ()
  | some e => .error e

/-- What is dialled for the gateway's connections when the agent listens at `listener`. -/
def localTarget (listener : String) (c : Config) : String := c.relay.localTarget.getD listener

def relayTimeout (c : Config) : Duration := Duration.ofSeconds c.relay.connectTimeoutSecs.toNat

def tlsTimeout (c : Config) : Duration := Duration.ofSeconds c.tls.connectTimeoutSecs.toNat

def pool (c : Config) : Pool where
  capacity := c.relay.poolCapacity
  retryAttempts := c.relay.retryAttempts
  retryInterval := Duration.ofMillis c.relay.retryIntervalMs.toNat

def healthConfig (c : Config) : HealthConfig := .ofParts c.health.intervalSecs c.health.maxMissed

def backoffPolicy (c : Config) : BackoffPolicy where
  initial := Duration.ofMillis c.reconnect.initialBackoffMs.toNat
  longest := Duration.ofSeconds c.reconnect.maxBackoffSecs.toNat
  multiplier := c.reconnect.multiplier
  limit := c.reconnect.maxAttempts

end Config

end TunnelAgent
