import TunnelAgent.Message

/-!
Frames: one type, one sequence number, one payload. `Message` is the sum of the seven payloads;
each frame type carries exactly one of them.
-/

namespace TunnelAgent

inductive FrameType where
  | authorization
  | authorizationResponse
  | registration
  | registrationResponse
  | healthCheck
  | healthCheckResponse
  | socketData
  deriving DecidableEq, Repr

namespace FrameType

def all : List FrameType :=
  [authorization, authorizationResponse, registration, registrationResponse, healthCheck,
    healthCheckResponse, socketData]

/-- The byte that stands for the type in a frame's body. -/
def code : FrameType → UInt8
  | authorization => 1
  | authorizationResponse => 2
  | registration => 3
  | registrationResponse => 4
  | healthCheck => 5
  | healthCheckResponse => 6
  | socketData => 7

def ofCode? (b : UInt8) : Option FrameType := all.find? (fun t => t.code == b)

def name : FrameType → String
  | authorization => "Authorization"
  | authorizationResponse => "AuthorizationResponse"
  | registration => "Registration"
  | registrationResponse => "RegistrationResponse"
  | healthCheck => "HealthCheck"
  | healthCheckResponse => "HealthCheckResponse"
  | socketData => "SocketData"

def ofName? (s : String) : Option FrameType := all.find? (fun t => t.name == s)

end FrameType

/-- `sequence` is the envelope's number; it is no part of the body. -/
structure Frame where
  type : FrameType
  sequence : UInt64
  payload : Bytes
  deriving DecidableEq, Repr

inductive Message where
  | authorization (m : AuthorizationRequest)
  | authorizationResponse (m : AuthorizationResponse)
  | registration (m : RegistrationRequest)
  | registrationResponse (m : RegistrationResponse)
  | healthCheck (m : HealthCheck)
  | healthCheckResponse (m : HealthCheckResponse)
  | socketData (m : SocketData)
  deriving DecidableEq, Repr

namespace Message

def type : Message → FrameType
  | authorization _ => .authorization
  | authorizationResponse _ => .authorizationResponse
  | registration _ => .registration
  | registrationResponse _ => .registrationResponse
  | healthCheck _ => .healthCheck
  | healthCheckResponse _ => .healthCheckResponse
  | socketData _ => .socketData

def encode : Message → Bytes
  | authorization m => AuthorizationRequest.format.write m
  | authorizationResponse m => AuthorizationResponse.format.write m
  | registration m => RegistrationRequest.format.write m
  | registrationResponse m => RegistrationResponse.format.write m
  | healthCheck m => HealthCheck.format.write m
  | healthCheckResponse m => HealthCheckResponse.format.write m
  | socketData m => SocketData.format.write m

/-- The message at the front of a payload of type `t`; bytes after it are ignored. -/
def decode (t : FrameType) (payload : Bytes) : Except Serial.Fault Message :=
  match t with
  | .authorization => (AuthorizationRequest.format.decode payload).map authorization
  | .authorizationResponse => (AuthorizationResponse.format.decode payload).map authorizationResponse
  | .registration => (RegistrationRequest.format.decode payload).map registration
  | .registrationResponse => (RegistrationResponse.format.decode payload).map registrationResponse
  | .healthCheck => (HealthCheck.format.decode payload).map healthCheck
  | .healthCheckResponse => (HealthCheckResponse.format.decode payload).map healthCheckResponse
  | .socketData => (SocketData.format.decode payload).map socketData

end Message

end TunnelAgent
