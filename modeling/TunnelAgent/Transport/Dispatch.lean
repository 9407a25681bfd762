import TunnelAgent.Transport.Reader

/-!
Routing received frames to handlers. A table holds at most one handler per frame type. The loop
reads and handles one frame at a time, drops frames without a handler, and ends with the first
fault: of the stream, of a handler, or because the transport was closed.

Handlers act on a state `σ`; `closed` says of that state whether the transport is closed in it.
-/

namespace TunnelAgent.Dispatch

variable {σ : Type}

/-- A handler's verdict on a frame, and the state it leaves. -/
abbrev Handler (σ : Type) := Frame → σ → Except String Unit × σ

abbrev Table (σ : Type) := List (FrameType × Handler σ)

/-- A handler was registered for this type before. -/
structure Duplicate where
  type : FrameType
  deriving DecidableEq, Repr

def Duplicate.message (d : Duplicate) : String := s!"A handler for {d.type.name} is already registered"

namespace Table

def find? (table : Table σ) (type : FrameType) : Option (Handler σ) := table.lookup type

def contains (table : Table σ) (type : FrameType) : Bool := (table.find? type).isSome

def register (table : Table σ) (type : FrameType) (handler : Handler σ) :
    Except Duplicate (Table σ) :=
  if table.contains type then .error ⟨type⟩ else .ok (table ++ [(type, handler)])

/-- Hands one frame to the handler of its type. -/
def dispatch (table : Table σ) (frame : Frame) (state : σ) : Except TransportFault Unit × σ :=
  match table.find? frame.type with
  | none => (.ok (), state)
  | some handler =>
    match handler frame state with
    | (.ok (), state) => (.ok (), state)
    | (.error text, state) => (.error (.handler frame.type text), state)

end Table

/-- Where the loop stands when it can go no further: ended by a fault, or waiting for bytes. -/
structure Outcome (σ : Type) where
  fault : Option TransportFault
  reader : Reader
  state : σ

/-- Handles at most `n` frames. -/
def loop (closed : σ → Bool) (table : Table σ) : Nat → Reader → σ → Outcome σ
  | 0, reader, state => ⟨none, reader, state⟩
  | n + 1, reader, state =>
    match reader.readOne (closed state) with
    | (.waiting, reader) => ⟨none, reader, state⟩
    | (.failed e, reader) => ⟨some e, reader, state⟩
    | (.frame f, reader) =>
      match table.dispatch f state with
      | (.error e, state) => ⟨some e, reader, state⟩
      | (.ok (), state) => loop closed table n reader state

/-- Dispatches what the reader's stream holds. Each frame takes bytes off the stream, so the
number of bytes bounds the number of frames. -/
def start (closed : σ → Bool) (table : Table σ) (reader : Reader) (state : σ) : Outcome σ :=
  loop closed table (reader.source.bytes.length + 1) reader state

end TunnelAgent.Dispatch
