import TunnelAgent.Bytes

/-!
Base64 bodies. Blanks are skipped; what remains is read in blocks of two quanta, four characters
each. Only the last quantum may be short, and it may say so with one or two `=` or leave them out.
-/

namespace TunnelAgent.Base64

inductive Fault where
  | invalidCharacter (found : UInt8)
  /-- a quantum follows one that is padded -/
  | prematurePadding
  | invalidTrailingPadding
  deriving DecidableEq, Repr

def Fault.message : Fault → String
  | .invalidCharacter b => s!"InvalidCharacter({b})"
  | .prematurePadding => "PrematurePadding"
  | .invalidTrailingPadding => "InvalidTrailingPadding"

inductive Symbol where
  /-- six bits -/
  | value (bits : Nat)
  | pad
  deriving DecidableEq, Repr

def symbol? (b : UInt8) : Option Symbol :=
  let n := b.toNat
  if 65 ≤ n ∧ n ≤ 90 then some (.value (n - 65))
  else if 97 ≤ n ∧ n ≤ 122 then some (.value (n - 71))
  else if 48 ≤ n ∧ n ≤ 57 then some (.value (n + 4))
  else if n = 43 then some (.value 62)
  else if n = 47 then some (.value 63)
  else if n = 61 then some .pad
  else none

/-- Space, tab, and the breaks of lines and pages. -/
def isBlank (b : UInt8) : Bool := b == 32 || (9 ≤ b && b ≤ 13)

/-- The values at the front of a run of symbols. -/
def values (symbols : List Symbol) : List Nat :=
  symbols.filterMap fun
    | .value n => some n
    | .pad => none

/-- The values of all blocks but the last, and the symbols of the last, both last first. A full
block is done with when the next symbol comes; that is when its padding is noticed. -/
def readBlocks (before : List Nat) (block : List Symbol) : Bytes → Except Fault (List Nat × List Symbol)
  | [] => .ok (before, block)
  | b :: rest =>
    if isBlank b then readBlocks before block rest
    else
      match symbol? b with
      | none => .error (.invalidCharacter b)
      | some s =>
        if block.length < 8 then readBlocks before (s :: block) rest
        else if .pad ∈ block then .error .prematurePadding
        else readBlocks (values block ++ before) [s] rest

/-- The values of the last quantum, which may be missing, whole or short. -/
def lastQuantum? : List Symbol → Option (List Nat)
  | [] => some []
  | [.value a, .value b] => some [a, b]
  | [.value a, .value b, .pad, .pad] => some [a, b]
  | [.value a, .value b, .value c] => some [a, b, c]
  | [.value a, .value b, .value c, .pad] => some [a, b, c]
  | [.value a, .value b, .value c, .value d] => some [a, b, c, d]
  | _ => none

/-- The values of a last block of at most two quanta. -/
def readLast (block : List Symbol) : Except Fault (List Nat) :=
  let (front, last) := if 4 < block.length then (block.take 4, block.drop 4) else ([], block)
  if .pad ∈ front then .error .prematurePadding
  else
    match lastQuantum? last with
    | some ns => .ok (values front ++ ns)
    | none => .error .invalidTrailingPadding

/-- The bytes of a run of six-bit values; `acc` holds them last first. Bits that fill no byte are
dropped. -/
def joinBits : Bytes → List Nat → Bytes
  | acc, a :: b :: c :: d :: rest =>
    let n := ((a * 64 + b) * 64 + c) * 64 + d
    joinBits (UInt8.ofNat (n % 256) :: UInt8.ofNat (n / 256 % 256) :: UInt8.ofNat (n / 65536) :: acc) rest
  | acc, [a, b, c] =>
    let n := (a * 64 + b) * 64 + c
    (UInt8.ofNat (n / 4 % 256) :: UInt8.ofNat (n / 1024) :: acc).reverse
  | acc, [a, b] => (UInt8.ofNat ((a * 64 + b) / 16) :: acc).reverse
  | acc, _ => acc.reverse

def decode (text : Bytes) : Except Fault Bytes :=
  match readBlocks [] [] text with
  | .error e => .error e
  | .ok (before, block) =>
    match readLast block.reverse with
    | .error e => .error e
    | .ok ns => .ok (joinBits [] (before.reverse ++ ns))

end TunnelAgent.Base64
