import TunnelAgent.Session

/-!
What the gateway's answers mean before dispatching. An answer counts only if it is of the expected
type, can be read, and says Ok; anything else is a refusal, with its reason.
-/

namespace TunnelAgent.Session

open Serial (Format)

/-- The message of a reply that must be of type `expected`. -/
def expectReply {α : Type} (expected : FrameType) (format : Format α) (frame : Frame) : Except String α :=
  if frame.type = expected then
    match format.decode frame.payload with
    | .ok message => .ok message
    | .error e => .error s!"malformed {expected.name}: {(FrameFault.serialization e).message}"
  else .error s!"expected {expected.name}, got {frame.type.name}"

def refusal (result : ResultCode) (message : Option String) : String :=
  s!"gateway answered {result.name}: " ++ message.getD ""

def checkAuthorization (frame : Frame) : Except String Unit :=
  match expectReply .authorizationResponse AuthorizationResponse.format frame with
  | .error text => .error text
  | .ok response =>
    if response.result = .ok then .ok () else .error (refusal response.result response.message)

/-- The gateway's health settings, if it sent any. -/
def checkRegistration (frame : Frame) : Except String (Option HealthSettings) :=
  match expectReply .registrationResponse RegistrationResponse.format frame with
  | .error text => .error text
  | .ok response =>
    if response.result = .ok then .ok response.healthCheck
    else .error (refusal response.result response.message)

/-- The gateway's settings go before the agent's own. -/
def healthConfig (own : HealthConfig) : Option HealthSettings → HealthConfig
  | some settings => .ofSettings settings
  | none => own

end TunnelAgent.Session
