import TunnelAgent.Bytes

/-!
UTF-8 over byte strings. `encode` and `decode?` are the exact pair; `fault?` names the first place
where a byte string stops being UTF-8, and `lossy` reads any byte string, with one U+FFFD for
each maximal ill-formed piece. Both walk the bytes once, carrying the character they are inside.
-/

namespace TunnelAgent.Utf8

def encode (s : String) : Bytes := s.toUTF8.data.toList

def decode? (bytes : Bytes) : Option String := String.fromUTF8? ⟨bytes.toArray⟩

/-- A character that is still open: `seen` bytes are read, `need` more must follow, and the next
one must lie between `low` and `high`. -/
structure Partial where
  seen : Nat
  need : Nat
  code : Nat
  low : UInt8 := 0x80
  high : UInt8 := 0xBF

inductive Lead where
  | whole (c : Char)
  | opens (p : Partial)
  | never

def lead (b : UInt8) : Lead :=
  let n := b.toNat
  if n < 0x80 then .whole (Char.ofNat n)
  else if n < 0xC2 then .never
  else if n < 0xE0 then .opens { seen := 1, need := 1, code := n - 0xC0 }
  else if n = 0xE0 then .opens { seen := 1, need := 2, code := 0, low := 0xA0 }
  else if n = 0xED then .opens { seen := 1, need := 2, code := n - 0xE0, high := 0x9F }
  else if n < 0xF0 then .opens { seen := 1, need := 2, code := n - 0xE0 }
  else if n = 0xF0 then .opens { seen := 1, need := 3, code := 0, low := 0x90 }
  else if n < 0xF4 then .opens { seen := 1, need := 3, code := n - 0xF0 }
  else if n = 0xF4 then .opens { seen := 1, need := 3, code := 4, high := 0x8F }
  else .never

namespace Partial

def admits (p : Partial) (b : UInt8) : Bool := p.low ≤ b && b ≤ p.high

/-- The character the admitted byte `b` completes, or the longer open one. -/
def extend (p : Partial) (b : UInt8) : Char ⊕ Partial :=
  let code := p.code * 64 + (b.toNat - 0x80)
  if p.need ≤ 1 then .inl (Char.ofNat code)
  else .inr { seen := p.seen + 1, need := p.need - 1, code }

end Partial

/-- Where a byte string stops being UTF-8: the offset of the first bad piece, and its length, or
`none` when the string ends inside a character. -/
structure Fault where
  index : Nat
  length : Option Nat
  deriving DecidableEq, Repr

def Fault.message (f : Fault) : String :=
  match f.length with
  | some n => s!"invalid utf-8 sequence of {n} bytes from index {f.index}"
  | none => s!"incomplete utf-8 byte sequence from index {f.index}"

/-- The first fault of the bytes that follow offset `i`, read inside the open character `p`. -/
def faultFrom (i : Nat) (p : Option Partial) : Bytes → Option Fault
  | [] => p.map fun p => ⟨i - p.seen, none⟩
  | b :: rest =>
    match p with
    | none =>
      match lead b with
      | .whole _ => faultFrom (i + 1) none rest
      | .opens q => faultFrom (i + 1) (some q) rest
      | .never => some ⟨i, some 1⟩
    | some p =>
      if p.admits b then
        match p.extend b with
        | .inl _ => faultFrom (i + 1) none rest
        | .inr q => faultFrom (i + 1) (some q) rest
      else some ⟨i - p.seen, some p.seen⟩

def fault? (bytes : Bytes) : Option Fault := faultFrom 0 none bytes

def replacement : Char := '\uFFFD'

/-- The characters read, last first, after `acc`. -/
def lossyFrom (acc : List Char) (p : Option Partial) : Bytes → List Char
  | [] => if p.isSome then replacement :: acc else acc
  | b :: rest =>
    let fresh (acc : List Char) : List Char × Option Partial :=
      match lead b with
      | .whole c => (c :: acc, none)
      | .opens q => (acc, some q)
      | .never => (replacement :: acc, none)
    let next :=
      match p with
      | none => fresh acc
      | some p =>
        if p.admits b then
          match p.extend b with
          | .inl c => (c :: acc, none)
          | .inr q => (acc, some q)
        else fresh (replacement :: acc)
    lossyFrom next.1 next.2 rest

def lossy (bytes : Bytes) : List Char := (lossyFrom [] none bytes).reverse

end TunnelAgent.Utf8
