import TunnelAgent.Duration
import TunnelAgent.Frame.Decoder
import TunnelAgent.Frame.Envelope
import TunnelAgent.Session

/-!
The other end of a session: a gateway that reads all it is sent, notes what it sees and when, and
answers with envelopes of its own.
-/

namespace TunnelAgent

inductive Sight where
  | preamble (text : Bytes)
  | frame (frame : Frame)
  /-- the stream has ended, or holds no envelope -/
  | over (fault : FrameFault)
  deriving DecidableEq, Repr

structure Gateway where
  awaitsPreamble : Bool
  encoder : Encoder := {}
  decoder : Decoder := {}
  unread : Bytes := []
  isOver : Bool := false
  /-- the nonce of the first health ping -/
  firstNonce : Option UInt64 := none
  /-- the registered manifests, oldest first -/
  manifests : List (List Resource) := []
  /-- what has been seen, latest first -/
  sights : List (Duration × Sight) := []

namespace Gateway

def note (now : Duration) (sight : Sight) (g : Gateway) : Gateway :=
  { g with sights := (now, sight) :: g.sights }

/-- Remembers what later answers are measured against. -/
def remember (frame : Frame) (g : Gateway) : Gateway :=
  match Message.decode frame.type frame.payload with
  | .ok (.registration m) => { g with manifests := g.manifests ++ [m.resources] }
  | .ok (.healthCheck m) => { g with firstNonce := some (g.firstNonce.getD m.nonce) }
  | _ => g

/-- Reads at most `n` envelopes. -/
def readFrames (now : Duration) (finish : StreamEnd) : Nat → Gateway → Gateway
  | 0, g => g
  | n + 1, g =>
    match g.decoder.readFrame { bytes := g.unread, finish } with
    | (.pending, _, _) => g
    | (.fault e, decoder, source) =>
      { g with decoder, unread := source.bytes, isOver := true }.note now (.over e)
    | (.frame f, decoder, source) =>
      readFrames now finish n (({ g with decoder, unread := source.bytes }.remember f).note now (.frame f))

/-- Reads the preamble, if it is still to come and there. -/
def readPreamble (now : Duration) (g : Gateway) : Gateway :=
  let size := (Utf8.encode Session.preamble).length
  if g.awaitsPreamble && size ≤ g.unread.length then
    { g with awaitsPreamble := false, unread := g.unread.drop size }.note now
      (.preamble (g.unread.take size))
  else g

/-- Takes bytes off the stream, and its end. -/
def hear (now : Duration) (bytes : Bytes) (ended : Bool) (g : Gateway) : Gateway :=
  let g := { g with unread := g.unread ++ bytes }.readPreamble now
  let finish := if ended then .eof else .pending
  if g.isOver then g
  else if g.awaitsPreamble then
    if ended then { g with isOver := true }.note now (.over .connectionClosed) else g
  else g.readFrames now finish (g.unread.length + 1)

/-- An envelope of the gateway's own. -/
def reply (frame : Outbound) (g : Gateway) : Bytes × Gateway :=
  match g.encoder.encode frame.type frame.payload with
  | .ok (bytes, encoder) => (bytes, { g with encoder })
  | .error _ => ([], g)

/-- What has been seen since the last call, in order. -/
def report (g : Gateway) : List (Duration × Sight) × Gateway :=
  (g.sights.reverse, { g with sights := [] })

end Gateway

end TunnelAgent
