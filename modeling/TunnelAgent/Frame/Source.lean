import TunnelAgent.Frame.Fault

/-!
A byte stream as its reader meets it. A read asks for some bytes and gets between one and that
many while bytes remain, how many is up to the stream's schedule; then it meets the stream's end.
`fill` reads until a field is complete, so no schedule changes what a field holds.
-/

namespace TunnelAgent

/-- What follows the last byte of a stream. -/
inductive StreamEnd where
  /-- nothing yet: more bytes may come -/
  | pending
  | eof
  | fails (fault : IoFault)
  deriving DecidableEq, Repr

/-- `limit k` bounds the `k`-th read; zero sets no bound. -/
structure Source where
  bytes : Bytes
  finish : StreamEnd
  limit : Nat → Nat := fun _ => 0
  reads : Nat := 0

inductive ReadResult where
  | data (bytes : Bytes)
  | finished (finish : StreamEnd)

inductive FillResult where
  | full (bytes : Bytes)
  | short (finish : StreamEnd)

namespace Source

def allowance (s : Source) (want : Nat) : Nat :=
  if s.limit s.reads = 0 then want else min want (s.limit s.reads)

/-- One read for at most `want` bytes. -/
def read (want : Nat) (s : Source) : ReadResult × Source :=
  if s.bytes.isEmpty then (.finished s.finish, { s with reads := s.reads + 1 })
  else
    let n := s.allowance want
    (.data (s.bytes.take n), { s with bytes := s.bytes.drop n, reads := s.reads + 1 })

/-- Reads until `want` more bytes are there; `got` holds those read so far, last first. Each read
that finds bytes yields one at least, so `steps ≥ want` reads are enough. -/
def fillFrom : Nat → Nat → Bytes → Source → FillResult × Source
  | _, 0, got, s => (.full got.reverse, s)
  | 0, _ + 1, got, s => (.full got.reverse, s)
  | steps + 1, want + 1, got, s =>
    match s.read (want + 1) with
    | (.finished e, s) => (.short e, s)
    | (.data piece, s) => fillFrom steps (want + 1 - piece.length) (piece.reverse ++ got) s

/-- Reads a field of `want` bytes. -/
def fill (want : Nat) (s : Source) : FillResult × Source := fillFrom want want [] s

end Source

end TunnelAgent
