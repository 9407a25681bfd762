import TunnelAgent.Frame

/-!
Why a stream of envelopes cannot be read or written. Every fault but `connectionClosed` and `io`
is a violation of the envelope format.
-/

namespace TunnelAgent

inductive IoKind where
  | connectionReset
  | connectionRefused
  | unreachable
  | unexpectedEof
  | timedOut
  | brokenPipe
  | invalidInput
  | other
  deriving DecidableEq, Repr

/-- A failure of the stream below, with the text it came with. -/
structure IoFault where
  kind : IoKind
  text : String
  deriving DecidableEq, Repr

def IoFault.brokenPipe : IoFault := ⟨.brokenPipe, "broken pipe"⟩

inductive FrameFault where
  | badStartMarker (found : UInt8)
  | badMagic (found : Bytes)
  | badSequence (expected actual : UInt64)
  | badLength (found : UInt32)
  | unknownFrameType (found : UInt8)
  | emptyBody
  | payloadTooLarge (size : Nat)
  | truncated
  | connectionClosed
  | serialization (fault : Serial.Fault)
  | io (fault : IoFault)
  deriving DecidableEq, Repr

namespace FrameFault

def hexDigit (n : Nat) : Char := if n < 10 then Char.ofNat (48 + n) else Char.ofNat (87 + n)

/-- Two hexadecimal digits, in lower case. -/
def hexByte (b : UInt8) : String := String.ofList [hexDigit (b.toNat / 16), hexDigit (b.toNat % 16)]

def message : FrameFault → String
  | badStartMarker b => s!"bad start marker: 0x{hexByte b}"
  | badMagic bytes => "bad magic: [" ++ ", ".intercalate (bytes.map fun b => toString b.toNat) ++ "]"
  | badSequence expected actual => s!"bad sequence: expected {expected}, got {actual}"
  | badLength n => s!"bad length: {n} is outside 0..=1048576"
  | unknownFrameType b => s!"unknown frame type: {b}"
  | emptyBody => "frame body is empty"
  | payloadTooLarge n => s!"payload too large to frame: {n} bytes"
  | truncated => "stream ended in the middle of an envelope"
  | connectionClosed => "connection closed"
  | serialization f => s!"serialization error: {f.message}"
  | io f => s!"IO error: {f.text}"

end FrameFault

end TunnelAgent
