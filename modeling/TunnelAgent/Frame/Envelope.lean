import TunnelAgent.Frame.Fault

/-!
The envelope: a start marker, eight magic bytes, the sequence and the body's length, most
significant byte first, then the body, a type byte and the payload. An `Encoder` numbers the
envelopes of one direction from zero; a payload that does not fit is refused and uses no number.
-/

namespace TunnelAgent

namespace Envelope

def startMarker : UInt8 := 0x2A

def magic : Bytes := [0x42, 0x45, 0x45, 0x46, 0x43, 0x41, 0x4B, 0x45]

/-- Marker, magic, sequence and length. -/
def headerSize : Nat := 21

/-- The largest body: one type byte and the payload. -/
def maxBody : Nat := 1048576

def fits (payload : Bytes) : Prop := payload.length + 1 ≤ maxBody

instance (payload : Bytes) : Decidable (fits payload) := inferInstanceAs (Decidable (_ ≤ _))

def header (sequence : UInt64) (bodyLength : Nat) : Bytes :=
  startMarker :: (magic ++ Bytes.big 8 sequence.toNat ++ Bytes.big 4 bodyLength)

def encode (sequence : UInt64) (type : FrameType) (payload : Bytes) : Bytes :=
  header sequence (payload.length + 1) ++ type.code :: payload

/-- The size on the wire of an envelope with that payload. -/
def size (payload : Bytes) : Nat := headerSize + 1 + payload.length

end Envelope

structure Encoder where
  next : UInt64 := 0
  deriving DecidableEq, Repr

namespace Encoder

def encode (e : Encoder) (type : FrameType) (payload : Bytes) : Except FrameFault (Bytes × Encoder) :=
  if Envelope.fits payload then .ok (Envelope.encode e.next type payload, ⟨e.next + 1⟩)
  else .error (.payloadTooLarge payload.length)

/-- The frame's own sequence plays no part: the encoder's number is written. -/
def encodeFrame (e : Encoder) (frame : Frame) : Except FrameFault (Bytes × Encoder) :=
  e.encode frame.type frame.payload

end Encoder

end TunnelAgent
