import TunnelAgent.Frame.Fault

/-!
What can go wrong on a framed transport. A framing fault is a violation of the envelope format;
a clean end of the stream and a failure of the stream below are none.
-/

namespace TunnelAgent

inductive TransportFault where
  | frame (fault : FrameFault)
  /-- the transport has been closed on this side -/
  | aborted
  | writerClosed
  | handler (type : FrameType) (text : String)
  | tls (text : String)
  | invalidServerName (text : String)
  | timeout
  | io (fault : IoFault)
  deriving DecidableEq, Repr

namespace TransportFault

def message : TransportFault → String
  | frame f => s!"Framing fault: {f.message}"
  | aborted => "Transport closed locally"
  | writerClosed => "Writer task has stopped"
  | handler t text => s!"Handler for {t.name} failed: {text}"
  | tls text => s!"TLS error: {text}"
  | invalidServerName text => s!"Invalid server name: {text}"
  | timeout => "Connection timed out"
  | io f => s!"IO error: {f.text}"

def isFramingFault : TransportFault → Bool
  | frame (.io _) => false
  | frame .connectionClosed => false
  | frame _ => true
  | _ => false

end TransportFault

end TunnelAgent
