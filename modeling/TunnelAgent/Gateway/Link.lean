import TunnelAgent.Gateway
import TunnelAgent.Transport.Outgoing

/-!
The sending side of a transport together with a gateway that reads at once whatever is written.
-/

namespace TunnelAgent

structure Link where
  outgoing : Outgoing := { pipe := { capacity := 65536 } }
  gateway : Gateway := { awaitsPreamble := false }
  /-- the gateway still holds its end of the stream -/
  attached : Bool := true

namespace Link

def writerOpen (l : Link) : Bool := l.outgoing.isOpen

def enqueue (frames : List Outbound) (l : Link) : Link :=
  { l with outgoing := l.outgoing.enqueue frames }

def close (l : Link) : Link := { l with outgoing := l.outgoing.close }

def dropGateway (l : Link) : Link := { l with outgoing := l.outgoing.dropReader, attached := false }

/-- Lets the writer go on and empties the pipe until nothing more is written; `pieces` is what has
been taken out, latest first. -/
def drain : Nat → List Bytes → Outgoing → List Bytes × Outgoing
  | 0, pieces, o => (pieces, o)
  | n + 1, pieces, o =>
    let o := o.settle
    if o.pipe.held.isEmpty then (pieces, o)
    else
      let (bytes, _, o) := o.read o.pipe.held.length
      drain n (bytes :: pieces) o

/-- Everything queued is written and seen by the gateway, if it is still there. -/
def flush (now : Duration) (l : Link) : Link :=
  if l.attached then
    let (pieces, outgoing) := drain l.outgoing.work [] l.outgoing
    { l with
      outgoing, gateway := l.gateway.hear now pieces.reverse.flatten outgoing.pipe.ended }
  else { l with outgoing := l.outgoing.settle }

end Link

end TunnelAgent
