import TunnelAgent.Duration
import TunnelAgent.Session.Phase
import TunnelAgent.Transport.Dispatch

/-!
Why a session ended. A refusal by the gateway, a violation of the envelope format, a failed health
check and a fault of the network below are told apart, so that a network fault is never taken for
bad credentials.
-/

namespace TunnelAgent

inductive SessionFault where
  | tls (text : String)
  | connect (text : String)
  | framing (text : String)
  | authentication (text : String)
  | registration (text : String)
  | healthCheck (deadline : Duration)
  | transport (text : String)
  /-- the transport was closed on this side -/
  | closed
  | invalidTransition (before after : Session.Phase)
  deriving DecidableEq, Repr

namespace SessionFault

def message : SessionFault → String
  | tls text => s!"TLS error: {text}"
  | connect text => s!"Failed to connect to gateway: {text}"
  | framing text => s!"Framing fault: {text}"
  | authentication text => s!"Authentication failed: {text}"
  | registration text => s!"Registration failed: {text}"
  | healthCheck d => s!"No successful health check within {Duration.text d}"
  | transport text => s!"Transport error: {text}"
  | closed => "Transport closed locally"
  | invalidTransition a b => s!"Invalid state transition: {a.name} -> {b.name}"

/-- The gateway refused the credentials: another try will not help. -/
def isCredentialFault : SessionFault → Bool
  | authentication _ => true
  | _ => false

def isFramingFault : SessionFault → Bool
  | framing _ => true
  | _ => false

/-- The cause of a session's end, given the fault that ended its transport. -/
def ofTransport : TransportFault → SessionFault
  | .aborted => closed
  | .frame .connectionClosed => transport "gateway closed the connection"
  | .frame (.io f) => transport f.text
  | .frame f => framing f.message
  | .tls text => tls text
  | .invalidServerName text => tls text
  | fault => transport fault.message

/-- The cause when no connection could be made. -/
def ofConnect : TransportFault → SessionFault
  | .tls text => tls text
  | .invalidServerName text => tls text
  | fault => connect fault.message

def ofDuplicate (d : Dispatch.Duplicate) : SessionFault := transport d.message

end SessionFault

end TunnelAgent
