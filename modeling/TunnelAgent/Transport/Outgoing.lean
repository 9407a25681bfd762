import TunnelAgent.Frame.Envelope
import TunnelAgent.Transport.Fault

/-!
The sending side of a transport. Frames are queued without waiting; one writer takes them in
order, numbers them and writes each envelope whole into a bounded pipe. Closing the transport
stops the writer before its next frame, not inside one. A failing write closes the transport.
-/

namespace TunnelAgent

/-- A frame on its way to the writer. -/
structure Outbound where
  type : FrameType
  payload : Bytes
  deriving DecidableEq, Repr

namespace Outbound

def ofMessage (m : Message) : Outbound := ⟨m.type, m.encode⟩

/-- A frame is queued if it can ever be framed and the writer has not ended. -/
def offer (writerOpen : Bool) (frame : Outbound) : Except TransportFault Outbound :=
  if Envelope.fits frame.payload then
    if writerOpen then .ok frame else .error .writerClosed
  else .error (.frame (.payloadTooLarge frame.payload.length))

end Outbound

/-- A bounded byte pipe, from the writer's end. -/
structure Pipe where
  capacity : Nat
  held : Bytes := []
  readerGone : Bool := false
  ended : Bool := false
  deriving DecidableEq, Repr

namespace Pipe

def room (p : Pipe) : Nat := p.capacity - p.held.length

/-- Takes at most `n` bytes out; true if the end of the stream has been seen, too. -/
def take (n : Nat) (p : Pipe) : Bytes × Bool × Pipe :=
  (p.held.take n, p.ended && p.held.length < n, { p with held := p.held.drop n })

end Pipe

namespace Outgoing

inductive Stage where
  /-- between two frames -/
  | idle
  /-- `rest` of an envelope of `size` bytes is still to be written -/
  | writing (rest : Bytes) (size : Nat)
  | ended
  deriving DecidableEq, Repr

end Outgoing

structure Outgoing where
  pipe : Pipe
  queue : List Outbound := []
  encoder : Encoder := {}
  stage : Outgoing.Stage := .idle
  closed : Bool := false
  /-- some handle for queueing frames is left -/
  handles : Bool := true
  bytesSent : Nat := 0
  deriving DecidableEq, Repr

namespace Outgoing

def isOpen (o : Outgoing) : Bool := o.stage != .ended

def enqueue (frames : List Outbound) (o : Outgoing) : Outgoing :=
  if o.isOpen then { o with queue := o.queue ++ frames } else o

def send (frame : Outbound) (o : Outgoing) : Except TransportFault Unit × Outgoing :=
  match frame.offer o.isOpen with
  | .ok frame => (.ok (), o.enqueue [frame])
  | .error e => (.error e, o)

def close (o : Outgoing) : Outgoing := { o with closed := true }

def dropHandles (o : Outgoing) : Outgoing := { o with handles := false }

/-- The reading end of the pipe disappears. -/
def dropReader (o : Outgoing) : Outgoing := { o with pipe := { o.pipe with readerGone := true } }

/-- The writer ends: its queue is refused from now on and the pipe is shut. -/
def finish (o : Outgoing) : Outgoing :=
  { o with stage := .ended, queue := [], pipe := { o.pipe with ended := true } }

/-- One step of the writer; `none` when it has to wait or has ended. -/
def step (o : Outgoing) : Option Outgoing :=
  match o.stage with
  | .ended => none
  | .idle =>
    if o.closed then some o.finish
    else
      match o.queue with
      | [] => if o.handles then none else some o.finish
      | frame :: queue =>
        match o.encoder.encode frame.type frame.payload with
        | .ok (bytes, encoder) => some { o with queue, encoder, stage := .writing bytes bytes.length }
        | .error _ => some { o with queue }
  | .writing [] size => some { o with stage := .idle, bytesSent := o.bytesSent + size }
  | .writing (b :: rest) size =>
    if o.pipe.readerGone then some { o with closed := true }.finish
    else if o.pipe.room = 0 then none
    else
      let n := o.pipe.room
      some { o with
        pipe := { o.pipe with held := o.pipe.held ++ (b :: rest).take n }
        stage := .writing ((b :: rest).drop n) size }

/-- No more steps than this are possible before the writer waits. -/
def work (o : Outgoing) : Nat :=
  o.queue.foldl (fun n f => n + Envelope.size f.payload + 2) 2 +
    match o.stage with
    | .writing rest _ => rest.length + 1
    | _ => 0

def run : Nat → Outgoing → Outgoing
  | 0, o => o
  | n + 1, o =>
    match o.step with
    | some o => run n o
    | none => o

/-- Lets the writer go on until it waits. -/
def settle (o : Outgoing) : Outgoing := run o.work o

/-- The other end of the pipe reads at most `n` bytes. -/
def read (n : Nat) (o : Outgoing) : Bytes × Bool × Outgoing :=
  let (bytes, eof, pipe) := o.pipe.take n
  (bytes, eof, { o with pipe })

end Outgoing

end TunnelAgent
