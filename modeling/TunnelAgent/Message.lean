import TunnelAgent.Serial

/-!
The messages of the tunnel and their binary forms. Each form is put together from the fields'
forms in the order of the fields; a choice is written as its number.
-/

namespace TunnelAgent

open Serial (Format)

/-- What the gateway, or the agent, says of a request. -/
inductive ResultCode where
  | ok
  | unauthorized
  | invalidRequest
  | serverError
  deriving DecidableEq, Repr

namespace ResultCode

def name : ResultCode → String
  | ok => "Ok"
  | unauthorized => "Unauthorized"
  | invalidRequest => "InvalidRequest"
  | serverError => "ServerError"

def toIndex : ResultCode → Nat
  | ok => 0
  | unauthorized => 1
  | invalidRequest => 2
  | serverError => 3

def ofIndex : Nat → ResultCode
  | 0 => ok
  | 1 => unauthorized
  | 2 => invalidRequest
  | _ => serverError

def format : Format ResultCode := (Format.choice 4).via ofIndex toIndex

end ResultCode

/-- The agent's credentials, sent once a session. -/
structure AuthorizationRequest where
  agentId : String
  username : String
  secret : String
  agentVersion : String
  deriving DecidableEq, Repr

def AuthorizationRequest.format : Format AuthorizationRequest :=
  (Format.text.pair (Format.text.pair (Format.text.pair Format.text))).via
    (fun (a, u, s, v) => ⟨a, u, s, v⟩) (fun m => (m.agentId, m.username, m.secret, m.agentVersion))

structure AuthorizationResponse where
  result : ResultCode
  message : Option String
  deriving DecidableEq, Repr

def AuthorizationResponse.format : Format AuthorizationResponse :=
  (ResultCode.format.pair Format.text.option).via (fun (r, m) => ⟨r, m⟩) (fun m => (m.result, m.message))

/-- A resource the agent may reach. Only `host` and `port` mean something to the agent. -/
structure Rule where
  name : String
  pattern : String
  allowedIdentities : List String := []
  host : String
  port : UInt16
  clientScope : Option String := none
  deriving DecidableEq, Repr

def Rule.format : Format Rule :=
  (Format.text.pair (Format.text.pair (Format.text.sequence.pair
    (Format.text.pair (Format.u16.pair Format.text.option))))).via
    (fun (n, p, a, h, o, c) => ⟨n, p, a, h, o, c⟩)
    (fun r => (r.name, r.pattern, r.allowedIdentities, r.host, r.port, r.clientScope))

/-- A rule together with the secret key made for it. -/
structure Resource where
  rule : Rule
  key : UInt64
  deriving DecidableEq, Repr

def Resource.format : Format Resource :=
  (Rule.format.pair Format.u64).via (fun (r, k) => ⟨r, k⟩) (fun r => (r.rule, r.key))

/-- The whole manifest; it replaces what was registered before. -/
structure RegistrationRequest where
  resources : List Resource
  deriving DecidableEq, Repr

def RegistrationRequest.format : Format RegistrationRequest :=
  Resource.format.sequence.via (fun rs => ⟨rs⟩) (fun m => m.resources)

/-- The health cadence the gateway asks for. -/
structure HealthSettings where
  intervalSecs : UInt64
  maxMissed : UInt32
  deriving DecidableEq, Repr

def HealthSettings.format : Format HealthSettings :=
  (Format.u64.pair Format.u32).via (fun (i, m) => ⟨i, m⟩) (fun s => (s.intervalSecs, s.maxMissed))

structure RegistrationResponse where
  result : ResultCode
  message : Option String
  healthCheck : Option HealthSettings
  deriving DecidableEq, Repr

def RegistrationResponse.format : Format RegistrationResponse :=
  (ResultCode.format.pair (Format.text.option.pair HealthSettings.format.option)).via
    (fun (r, m, h) => ⟨r, m, h⟩) (fun m => (m.result, m.message, m.healthCheck))

structure HealthCheck where
  nonce : UInt64
  deriving DecidableEq, Repr

def HealthCheck.format : Format HealthCheck :=
  Format.u64.via (fun n => ⟨n⟩) (fun m => m.nonce)

structure HealthCheckResponse where
  nonce : UInt64
  result : ResultCode
  deriving DecidableEq, Repr

def HealthCheckResponse.format : Format HealthCheckResponse :=
  (Format.u64.pair ResultCode.format).via (fun (n, r) => ⟨n, r⟩) (fun m => (m.nonce, m.result))

/-- What happened on a logical connection. -/
inductive SocketEvent where
  | start
  | data (bytes : Bytes)
  | close
  deriving DecidableEq, Repr

namespace SocketEvent

def format : Format SocketEvent where
  write
    | start => Bytes.little 4 0
    | data bytes => Bytes.little 4 1 ++ Format.blob.write bytes
    | close => Bytes.little 4 2
  read bytes :=
    match (Format.choice 3).read bytes with
    | .error e => .error e
    | .ok (0, rest) => .ok (start, rest)
    | .ok (1, rest) =>
      match Format.blob.read rest with
      | .ok (bytes, rest) => .ok (data bytes, rest)
      | .error e => .error e
    | .ok (_, rest) => .ok (close, rest)

end SocketEvent

structure SocketData where
  connectionId : UInt32
  event : SocketEvent
  deriving DecidableEq, Repr

def SocketData.format : Format SocketData :=
  (Format.u32.pair SocketEvent.format).via (fun (c, e) => ⟨c, e⟩) (fun m => (m.connectionId, m.event))

end TunnelAgent
