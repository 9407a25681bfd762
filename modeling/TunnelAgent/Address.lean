import TunnelAgent.Bytes

/-!
Network addresses and their text. Four bytes are written in decimal between points. Eight groups
are written in hexadecimal between colons, the first longest run of two or more zero groups as a
double colon; an address that embeds four bytes behind `::ffff:` shows them in decimal.
-/

namespace TunnelAgent

inductive Address where
  | v4 (a b c d : UInt8)
  | v6 (groups : Vector UInt16 8)
  deriving DecidableEq, Repr

namespace Address

def ofBytes4 : Bytes → Address
  | [a, b, c, d] => .v4 a b c d
  | _ => .v4 0 0 0 0

def group (bytes : Bytes) (i : Nat) : UInt16 := UInt16.ofNat (Bytes.ofBig ((bytes.drop (2 * i)).take 2))

def ofBytes16 (bytes : Bytes) : Address := .v6 (Vector.ofFn fun i => group bytes i.val)

def bytes : Address → Bytes
  | v4 a b c d => [a, b, c, d]
  | v6 groups => groups.toList.flatMap fun g => Bytes.big 2 g.toNat

def text4 (a b c d : UInt8) : String := s!"{a}.{b}.{c}.{d}"

def hexText (n : Nat) : String := String.ofList (Nat.toDigits 16 n)

def colons (groups : List UInt16) : String := ":".intercalate (groups.map fun g => hexText g.toNat)

/-- A run of zero groups: where it starts and how long it is. -/
structure ZeroRun where
  start : Nat := 0
  length : Nat := 0
  deriving DecidableEq, Repr

/-- The first longest run of zeros from place `i` on; `current` ends just before it. -/
def longestZeros (i : Nat) (current best : ZeroRun) : List UInt16 → ZeroRun
  | [] => best
  | g :: rest =>
    if g = 0 then
      let current := if current.length = 0 then ⟨i, 1⟩ else { current with length := current.length + 1 }
      longestZeros (i + 1) current (if best.length < current.length then current else best) rest
    else longestZeros (i + 1) {} best rest

/-- The four bytes behind `::ffff:`. -/
def embedded? : List UInt16 → Option (UInt8 × UInt8 × UInt8 × UInt8)
  | [0, 0, 0, 0, 0, 0xFFFF, x, y] =>
    some ((x >>> 8).toUInt8, x.toUInt8, (y >>> 8).toUInt8, y.toUInt8)
  | _ => none

def text6 (groups : List UInt16) : String :=
  match embedded? groups with
  | some (a, b, c, d) => "::ffff:" ++ text4 a b c d
  | none =>
    let run := longestZeros 0 {} {} groups
    if 1 < run.length then
      colons (groups.take run.start) ++ "::" ++ colons (groups.drop (run.start + run.length))
    else colons groups

def text : Address → String
  | v4 a b c d => text4 a b c d
  | v6 groups => text6 groups.toList

def isUnspecified : Address → Bool
  | v4 a b c d => a == 0 && b == 0 && c == 0 && d == 0
  | v6 groups => groups.all (· == 0)

/-- The address by which a host reaches itself, of the same family. -/
def loopback : Address → Address
  | v4 .. => .v4 127 0 0 1
  | v6 _ => .v6 #v[0, 0, 0, 0, 0, 0, 0, 1]

def isLoopback : Address → Bool
  | v4 a .. => a == 127
  | v6 groups => groups == #v[0, 0, 0, 0, 0, 0, 0, 1]

end Address

/-- An address with a port. -/
structure Endpoint where
  address : Address
  port : UInt16
  deriving DecidableEq, Repr

namespace Endpoint

def text (e : Endpoint) : String :=
  match e.address with
  | .v4 .. => s!"{e.address.text}:{e.port}"
  | .v6 _ => s!"[{e.address.text}]:{e.port}"

/-- Where to dial what listens there: a listener on any address is reached by the loopback. -/
def toDial (e : Endpoint) : Endpoint :=
  if e.address.isUnspecified then { e with address := e.address.loopback } else e

end Endpoint

end TunnelAgent
