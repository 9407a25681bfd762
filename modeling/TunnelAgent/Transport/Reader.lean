import TunnelAgent.Frame.Decoder
import TunnelAgent.Transport.Fault

/-!
The receiving side of a transport. Whether the transport is closed is asked before every read; a
closed transport never yields a frame again. `received` counts each decoded envelope in full.
-/

namespace TunnelAgent

inductive Received where
  | frame (frame : Frame)
  | failed (fault : TransportFault)
  | waiting
  deriving DecidableEq, Repr

structure Reader where
  decoder : Decoder := {}
  source : Source
  bytesReceived : Nat := 0

namespace Reader

/-- Reads exactly one frame. -/
def readOne (closed : Bool) (r : Reader) : Received × Reader :=
  if closed then (.failed .aborted, r)
  else
    match r.decoder.readFrame r.source with
    | (.pending, _, _) => (.waiting, r)
    | (.fault e, decoder, source) => (.failed (.frame e), { r with decoder, source })
    | (.frame f, decoder, source) =>
      (.frame f, { decoder, source, bytesReceived := r.bytesReceived + Envelope.size f.payload })

def deliver (bytes : Bytes) (r : Reader) : Reader :=
  { r with source := { r.source with bytes := r.source.bytes ++ bytes } }

/-- The stream gets its end, unless it has one. -/
def endWith (finish : StreamEnd) (r : Reader) : Reader :=
  if r.source.finish = .pending then { r with source := { r.source with finish } } else r

end Reader

end TunnelAgent
