import TunnelAgent.Text.Utf8

/-!
The fixed binary form of message fields: little-endian words of fixed width, texts and
sequences behind an eight-byte count, one byte before an optional value, four bytes before a
choice. A `Format` pairs the writer of a type with its reader; the reader leaves the bytes that
follow the value, and fails with the first defect it meets.
-/

namespace TunnelAgent.Serial

inductive Fault where
  /-- a word, or a byte of a sequence, is cut short -/
  | endOfBytes
  /-- a text announces more bytes than follow -/
  | shortText
  | text (fault : Utf8.Fault)
  | optionTag (found : UInt8)
  | choice (found : UInt32) (count : Nat)
  deriving DecidableEq, Repr

def Fault.message : Fault → String
  | .endOfBytes => "io error: unexpected end of file"
  | .shortText => "io error: "
  | .text f => s!"string is not valid utf8: {f.message}"
  | .optionTag b => s!"tag for enum is not valid, found {b}"
  | .choice n k => s!"invalid value: integer `{n}`, expected variant index 0 <= i < {k}"

structure Format (α : Type) where
  write : α → Bytes
  read : Bytes → Except Fault (α × Bytes)

namespace Format

variable {α β : Type}

/-- The value at the front of `bytes`; what follows it is ignored. -/
def decode (f : Format α) (bytes : Bytes) : Except Fault α :=
  match f.read bytes with
  | .ok (a, _) => .ok a
  | .error e => .error e

/-- A word of `w` bytes. -/
def word (w : Nat) : Format Nat where
  write n := Bytes.little w n
  read bytes :=
    let front := bytes.take w
    if front.length = w then .ok (Bytes.ofLittle front, bytes.drop w) else .error .endOfBytes

/-- The same bytes under another type. -/
def via (f : Format α) (forth : α → β) (back : β → α) : Format β where
  write b := f.write (back b)
  read bytes :=
    match f.read bytes with
    | .ok (a, rest) => .ok (forth a, rest)
    | .error e => .error e

def u8 : Format UInt8 := (word 1).via UInt8.ofNat UInt8.toNat
def u16 : Format UInt16 := (word 2).via UInt16.ofNat UInt16.toNat
def u32 : Format UInt32 := (word 4).via UInt32.ofNat UInt32.toNat
def u64 : Format UInt64 := (word 8).via UInt64.ofNat UInt64.toNat

/-- One value after the other. -/
def pair (f : Format α) (g : Format β) : Format (α × β) where
  write p := f.write p.1 ++ g.write p.2
  read bytes :=
    match f.read bytes with
    | .error e => .error e
    | .ok (a, rest) =>
      match g.read rest with
      | .error e => .error e
      | .ok (b, rest) => .ok ((a, b), rest)

def text : Format String where
  write s :=
    let bytes := Utf8.encode s
    Bytes.little 8 bytes.length ++ bytes
  read bytes :=
    match (word 8).read bytes with
    | .error e => .error e
    | .ok (n, rest) =>
      let front := rest.take n
      if front.length = n then
        match Utf8.decode? front with
        | some s => .ok (s, rest.drop n)
        | none => .error (.text ((Utf8.fault? front).getD ⟨0, none⟩))
      else .error .shortText

def option (f : Format α) : Format (Option α) where
  write
    | none => [0]
    | some a => 1 :: f.write a
  read
    | [] => .error .endOfBytes
    | b :: rest =>
      if b = 0 then .ok (none, rest)
      else if b = 1 then
        match f.read rest with
        | .ok (a, rest) => .ok (some a, rest)
        | .error e => .error e
      else .error (.optionTag b)

/-- `n` values, those already read before them in `acc`, last first. -/
def readMany (f : Format α) : Nat → List α → Bytes → Except Fault (List α × Bytes)
  | 0, acc, bytes => .ok (acc.reverse, bytes)
  | n + 1, acc, bytes =>
    match f.read bytes with
    | .error e => .error e
    | .ok (a, rest) => readMany f n (a :: acc) rest

def sequence (f : Format α) : Format (List α) where
  write xs := Bytes.little 8 xs.length ++ xs.flatMap f.write
  read bytes :=
    match (word 8).read bytes with
    | .error e => .error e
    | .ok (n, rest) => f.readMany n [] rest

/-- A byte string: written in one piece, read byte by byte. -/
def blob : Format Bytes where
  write bytes := Bytes.little 8 bytes.length ++ bytes
  read := (sequence u8).read

/-- The number of one of `count` choices. -/
def choice (count : Nat) : Format Nat where
  write n := Bytes.little 4 n
  read bytes :=
    match u32.read bytes with
    | .error e => .error e
    | .ok (n, rest) => if n.toNat < count then .ok (n.toNat, rest) else .error (.choice n count)

end Format

end TunnelAgent.Serial
