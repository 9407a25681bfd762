import TunnelAgent.Frame.Envelope
import TunnelAgent.Frame.Source

/-!
Reading envelopes. A `Decoder` knows the sequence the next envelope must carry. `readFrame` checks
marker, magic, sequence, length, body and type in this order and stops at the first that fails;
the expected sequence moves on as soon as the sequence has been accepted. After a fault the
stream stands where the failing field ended.
-/

namespace TunnelAgent

structure Decoder where
  expected : UInt64 := 0
  deriving DecidableEq, Repr

inductive Decoded where
  | frame (frame : Frame)
  | fault (fault : FrameFault)
  /-- the stream has no more bytes yet, and has not ended -/
  | pending
  deriving DecidableEq, Repr

def Decoded.isFrame : Decoded → Bool
  | frame _ => true
  | _ => false

namespace Decoder

/-- What the end of the stream means in front of an envelope. -/
def outside : StreamEnd → Decoded
  | .pending => .pending
  | .eof => .fault .connectionClosed
  | .fails f => .fault (.io f)

/-- What the end of the stream means inside an envelope. -/
def inside : StreamEnd → Decoded
  | .pending => .pending
  | .eof => .fault .truncated
  | .fails f => if f.kind = .unexpectedEof then .fault .truncated else .fault (.io f)

/-- A frame body read under `sequence`. -/
def body (sequence : UInt64) : Bytes → Decoded
  | [] => .fault .emptyBody
  | b :: payload =>
    match FrameType.ofCode? b with
    | some type => .frame ⟨type, sequence, payload⟩
    | none => .fault (.unknownFrameType b)

/-- The length and the body; `sequence` has been accepted. -/
def readBody (sequence : UInt64) (s : Source) : Decoded × Source :=
  match s.fill 4 with
  | (.short e, s) => (inside e, s)
  | (.full length, s) =>
    let n := Bytes.ofBig length
    if n > Envelope.maxBody then (.fault (.badLength (UInt32.ofNat n)), s)
    else
      match s.fill n with
      | (.short e, s) => (inside e, s)
      | (.full bytes, s) => (body sequence bytes, s)

def readSequence (d : Decoder) (s : Source) : Decoded × Decoder × Source :=
  match s.fill 8 with
  | (.short e, s) => (inside e, d, s)
  | (.full field, s) =>
    let sequence := UInt64.ofNat (Bytes.ofBig field)
    if sequence = d.expected then
      let (decoded, s) := readBody sequence s
      (decoded, ⟨d.expected + 1⟩, s)
    else (.fault (.badSequence d.expected sequence), d, s)

def readMagic (d : Decoder) (s : Source) : Decoded × Decoder × Source :=
  match s.fill 8 with
  | (.short e, s) => (inside e, d, s)
  | (.full field, s) =>
    if field = Envelope.magic then d.readSequence s else (.fault (.badMagic field), d, s)

/-- Reads one envelope. -/
def readFrame (d : Decoder) (s : Source) : Decoded × Decoder × Source :=
  match s.read 1 with
  | (.finished e, s) => (outside e, d, s)
  | (.data [], s) => (.pending, d, s)
  | (.data (marker :: _), s) =>
    if marker = Envelope.startMarker then d.readMagic s else (.fault (.badStartMarker marker), d, s)

/-- What a call yielded, and how it left the decoder and the stream. -/
structure Reading where
  decoded : Decoded
  decoder : Decoder
  source : Source

/-- At most `n` calls, one after the other; unless the reader `persists`, the first call that
yields no frame is the last. -/
def readings (persists : Bool) : Nat → Decoder → Source → List Reading
  | 0, _, _ => []
  | n + 1, d, s =>
    let (decoded, d, s) := d.readFrame s
    ⟨decoded, d, s⟩ :: if persists || decoded.isFrame then readings persists n d s else []

/-- The calls up to the first that yields no frame. Each frame takes bytes off the stream, so the
number of bytes bounds the number of frames. -/
def readAll (d : Decoder) (s : Source) : List Reading := readings false (s.bytes.length + 1) d s

end Decoder

end TunnelAgent
