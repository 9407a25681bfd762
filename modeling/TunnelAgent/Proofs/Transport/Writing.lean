import TunnelAgent.Proofs.Frame.RoundTrip
import TunnelAgent.Proofs.Transport.Writer

/-! # What a writer puts on the wire

A line is a writer with its senders on one side and its peer on the other, in any interleaving of
their moves. Its account splits the accepted frames in two: those whose envelopes are written, and
the later ones. What has gone into the pipe is the envelopes of the first, and after them at most a
part of the next envelope, which is the one that the writer is suspended in. -/

namespace TunnelAgent

/-- The envelopes of these frames, numbered from zero. -/
def Outbound.envelopes (frames : List Outbound) : List Bytes :=
  Encoder.envelopes 0 (frames.map fun frame => .parts frame.type frame.payload)

theorem Encoder.envelopes_append (sequence : UInt64) (calls more : List Call) :
    envelopes sequence (calls ++ more) =
      envelopes sequence calls ++ envelopes (sequence + .ofNat calls.length) more := by
  induction calls generalizing sequence with
  | nil => simp [envelopes]
  | cons call calls ih =>
    rw [List.cons_append, envelopes, ih, envelopes, List.cons_append, List.length_cons,
      UInt64.ofNat_add, UInt64.add_comm (.ofNat _), ← UInt64.add_assoc]
    rfl

namespace Outbound

/-- The envelope of each frame is numbered by its place. -/
theorem envelopes_eq_mapIdx (frames : List Outbound) :
    envelopes frames =
      frames.mapIdx fun i frame => Envelope.encode (.ofNat i) frame.type frame.payload := by
  refine (Encoder.envelopes_eq_mapIdx 0 _).trans (List.ext_getElem? fun i => ?_)
  rw [List.getElem?_mapIdx, List.getElem?_mapIdx, List.getElem?_map, Option.map_map, Nat.zero_add]
  rfl
theorem envelopes_append (frames more : List Outbound) :
    envelopes (frames ++ more) = envelopes frames ++
      Encoder.envelopes (.ofNat frames.length) (more.map fun frame => .parts frame.type frame.payload) := by
  rw [envelopes, List.map_append, Encoder.envelopes_append, List.length_map, UInt64.zero_add]
  rfl

theorem envelopes_append_cons (frames : List Outbound) (frame : Outbound) (more : List Outbound) :
    ∃ later, envelopes (frames ++ frame :: more) = envelopes frames ++
      Envelope.encode (.ofNat frames.length) frame.type frame.payload :: later :=
  ⟨_, envelopes_append frames (frame :: more)⟩

theorem length_envelopes (frames : List Outbound) : (envelopes frames).length = frames.length := by
  rw [envelopes, Encoder.length_envelopes, List.length_map]

end Outbound

namespace Outgoing
open Envelope

/-- What may happen next on a line; `write` is one step of the writer. -/
inductive Event where
  | clone
  | drop
  | send (frame : Outbound)
  | write
  | close
  | read (n : Nat)
  | dropPeer
  deriving DecidableEq, Repr

/-- A writer between its senders and its peer. `accepted` holds the frames for which a send has
returned without a fault, in this order; `received` is what the peer has read. -/
structure Line where
  outgoing : Outgoing
  senders : Nat := 1
  accepted : List Outbound := []
  received : Bytes := []
  sawEnd : Bool := false

namespace Line

/-- A line with one sender and nothing written yet. -/
def fresh (capacity : Nat) : Line where
  outgoing := { pipe := { capacity } }

/-- An event that is not possible changes nothing: a move of a sender or of a peer that is gone, or
a step of a writer that has to wait. -/
def next (line : Line) : Event → Line
  | .clone => if line.senders = 0 then line else { line with senders := line.senders + 1 }
  | .drop =>
    match line.senders with
    | 0 => line
    | 1 => { line with senders := 0, outgoing := line.outgoing.dropHandles }
    | n + 2 => { line with senders := n + 1 }
  | .send frame =>
    if line.senders = 0 then line
    else
      match line.outgoing.send frame with
      | (.ok (), outgoing) => { line with outgoing, accepted := line.accepted ++ [frame] }
      | (.error _, outgoing) => { line with outgoing }
  | .write =>
    match line.outgoing.step with
    | some outgoing => { line with outgoing }
    | none => line
  | .close => { line with outgoing := line.outgoing.close }
  | .read n =>
    if line.outgoing.pipe.readerGone then line
    else
      let (bytes, eof, outgoing) := line.outgoing.read n
      { line with outgoing, received := line.received ++ bytes, sawEnd := line.sawEnd || eof }
  | .dropPeer => { line with outgoing := line.outgoing.dropReader }

def after : List Event → Line → Line
  | [], line => line
  | event :: events, line => after events (line.next event)

/-- What has gone into the pipe, read or not. -/
def output (line : Line) : Bytes := line.received ++ line.outgoing.pipe.held

/-- All that an event can do to a line. -/
inductive Moves (line : Line) : Event → Line → Prop
  | nothing (event : Event) : Moves line event line
  | clone : line.senders ≠ 0 → Moves line .clone { line with senders := line.senders + 1 }
  | drop {n : Nat} : line.senders = n + 2 → Moves line .drop { line with senders := n + 1 }
  | dropLast : Moves line .drop { line with senders := 0, outgoing := line.outgoing.dropHandles }
  | send {frame : Outbound} : fits frame.payload → line.outgoing.stage ≠ .ended →
      Moves line (.send frame) { line with
        outgoing := { line.outgoing with queue := line.outgoing.queue ++ [frame] }
        accepted := line.accepted ++ [frame] }
  | write {o' : Outgoing} : line.outgoing.step = some o' →
      Moves line .write { line with outgoing := o' }
  | close : Moves line .close { line with outgoing := line.outgoing.close }
  | read (n : Nat) : Moves line (.read n) { line with
      outgoing := (line.outgoing.read n).2.2
      received := line.received ++ line.outgoing.pipe.held.take n
      sawEnd := line.sawEnd || line.outgoing.pipe.ended && line.outgoing.pipe.held.length < n }
  | dropPeer : Moves line .dropPeer { line with outgoing := line.outgoing.dropReader }

theorem moves_next (line : Line) (event : Event) : line.Moves event (line.next event) := by
  cases event with
  | clone =>
    rw [next]
    split
    · exact .nothing _
    · exact .clone ‹_›
  | drop =>
    rw [next]
    split
    · exact .nothing _
    · exact .dropLast
    · exact .drop ‹_›
  | send frame =>
    rw [next]
    split
    · exact .nothing _
    rcases send_cases frame line.outgoing with ⟨hfits, hopen, hsend⟩ | ⟨fault, hsend⟩ <;> rw [hsend]
    · exact .send hfits hopen
    · exact .nothing _
  | write =>
    rw [next]
    split
    · exact .write ‹_›
    · exact .nothing _
  | close => exact .close
  | read n =>
    rw [next]
    split
    · exact .nothing _
    · exact .read n
  | dropPeer => exact .dropPeer

end Line

/-- Where the writer stands when the envelopes of `done` are written and counted, and after them
`part` of the next one: between two frames, in the next frame, or at its end. A writer that has
ended inside an envelope never completes it. -/
inductive Stands (o : Outgoing) (done later : List Outbound) (part : Bytes) : Prop
  | idle : o.stage = .idle → o.encoder.next = .ofNat done.length → later = o.queue → part = [] →
      Stands o done later part
  | writing {frame : Outbound} {rest : Bytes} :
      o.stage = .writing rest (part ++ rest).length → o.encoder.next = .ofNat (done.length + 1) →
      later = frame :: o.queue →
      encode (.ofNat done.length) frame.type frame.payload = part ++ rest → Stands o done later part
  | ended : o.stage = .ended → o.queue = [] →
      o.closed = true ∨ o.handles = false ∧ later = [] →
      (part ≠ [] → ∃ frame more rest, later = frame :: more ∧ rest ≠ [] ∧
        encode (.ofNat done.length) frame.type frame.payload = part ++ rest) →
      Stands o done later part

/-- The account of a line: `done` is written and counted, `later` is not, and `part` of the first
of these is written. -/
structure Line.Account (capacity : Nat) (line : Line) (done later : List Outbound) (part : Bytes) :
    Prop where
  accepted : line.accepted = done ++ later
  fitting : ∀ frame ∈ line.accepted, fits frame.payload
  output : line.output = (Outbound.envelopes done).flatten ++ part
  sent : line.outgoing.bytesSent = (Outbound.envelopes done).flatten.length
  stands : Stands line.outgoing done later part
  handles : line.outgoing.handles = decide (line.senders ≠ 0)
  shut : line.outgoing.pipe.ended = true ↔ line.outgoing.stage = .ended
  sawEnd : line.sawEnd = true → line.outgoing.stage = .ended ∧ line.outgoing.pipe.held = []
  capacity : line.outgoing.pipe.capacity = capacity

section

variable {o : Outgoing} {done later : List Outbound} {part : Bytes}

/-- The writer stands where it stood when frames are put behind those in its queue. -/
theorem Stands.grow {o' : Outgoing} {frames : List Outbound} (h : Stands o done later part)
    (hstage : o'.stage = o.stage) (hencoder : o'.encoder = o.encoder)
    (hqueue : o'.queue = o.queue ++ frames) (haccepting : o.stage = .ended → frames = [])
    (hwhy : o.closed = true ∨ o.handles = false ∧ later = [] →
      o'.closed = true ∨ o'.handles = false ∧ later = []) : Stands o' done (later ++ frames) part := by
  cases h with
  | idle h hnext hlater hpart =>
    exact .idle (hstage.trans h) (hencoder ▸ hnext) (by rw [hqueue, hlater]) hpart
  | writing h hnext hlater hencode =>
    exact .writing (hstage.trans h) (hencoder ▸ hnext) (by rw [hqueue, hlater]; rfl) hencode
  | ended h hempty hended hlost =>
    obtain rfl := haccepting h
    rw [List.append_nil] at hqueue ⊢
    exact .ended (hstage.trans h) (hqueue.trans hempty) (hwhy hended) hlost

theorem Stands.congr {o' : Outgoing} (h : Stands o done later part) (hstage : o'.stage = o.stage)
    (hencoder : o'.encoder = o.encoder) (hqueue : o'.queue = o.queue)
    (hwhy : o.closed = true ∨ o.handles = false ∧ later = [] →
      o'.closed = true ∨ o'.handles = false ∧ later = []) : Stands o' done later part := by
  have hgrown := h.grow hstage hencoder (hqueue.trans (List.append_nil _).symm) (fun _ => rfl) hwhy
  rwa [List.append_nil] at hgrown

theorem Stands.of_idle (h : Stands o done later part) (hstage : o.stage = .idle) :
    o.encoder.next = .ofNat done.length ∧ later = o.queue ∧ part = [] := by
  cases h with
  | idle _ hnext hlater hpart => exact ⟨hnext, hlater, hpart⟩
  | writing h _ _ _ | ended h _ _ _ =>
    rw [hstage] at h
    cases h

theorem Stands.of_writing (h : Stands o done later part) {rest : Bytes} {size : Nat}
    (hstage : o.stage = .writing rest size) :
    size = (part ++ rest).length ∧ o.encoder.next = .ofNat (done.length + 1) ∧
      ∃ frame, later = frame :: o.queue ∧
        encode (.ofNat done.length) frame.type frame.payload = part ++ rest := by
  cases h with
  | writing h hnext hlater hencode =>
    rw [hstage] at h
    cases h
    exact ⟨rfl, hnext, _, hlater, hencode⟩
  | idle h _ _ _ | ended h _ _ _ =>
    rw [hstage] at h
    cases h

/-- What is written of an envelope that has not been counted, and where that envelope stands. -/
theorem Stands.envelope_of_part (h : Stands o done later part) (hpart : part ≠ []) :
    ∃ rest more, Outbound.envelopes (done ++ later) =
        Outbound.envelopes done ++ (part ++ rest) :: more ∧
      (rest = [] → o.stage = .writing [] part.length) := by
  cases h with
  | idle _ _ _ hnone => exact absurd hnone hpart
  | @writing frame rest hstage _ hlater hencode =>
    obtain ⟨more, henvelopes⟩ := Outbound.envelopes_append_cons done frame o.queue
    refine ⟨rest, more, ?_, fun hrest => ?_⟩
    · rw [hlater, henvelopes, hencode]
    · rw [hstage, hrest, List.append_nil]
  | ended _ _ _ hlost =>
    obtain ⟨frame, frames, rest, hlater, hrest, hencode⟩ := hlost hpart
    obtain ⟨more, henvelopes⟩ := Outbound.envelopes_append_cons done frame frames
    refine ⟨rest, more, ?_, fun hnone => absurd hnone hrest⟩
    rw [hlater, henvelopes, hencode]

/-- What is written is the beginning of the envelopes of all frames. -/
theorem Stands.isPrefix (h : Stands o done later part) :
    (Outbound.envelopes done).flatten ++ part <+: (Outbound.envelopes (done ++ later)).flatten := by
  by_cases hpart : part = []
  · rw [hpart, List.append_nil, Outbound.envelopes_append, List.flatten_append]
    exact List.prefix_append _ _
  · obtain ⟨rest, more, henvelopes, -⟩ := h.envelope_of_part hpart
    rw [henvelopes, List.flatten_append, List.flatten_cons, List.append_assoc]
    exact (List.prefix_append_right_inj _).mpr (List.prefix_append _ _)

/-- A part is one of the first frame that is left. -/
theorem Stands.part_of_nil (h : Stands o done [] part) : part = [] := by
  cases h with
  | idle _ _ _ hpart => exact hpart
  | writing _ _ hlater => cases hlater
  | ended _ _ _ hlost =>
    by_cases hpart : part = []
    · exact hpart
    · obtain ⟨frame, more, rest, hlater, -⟩ := hlost hpart
      cases hlater

/-- A frame is done when its envelope has been counted; whatever a step of the writer puts into the
pipe continues the envelopes. -/
theorem Stands.write (h : Stands o done later part) (hfits : ∀ frame ∈ later, fits frame.payload)
    {o' : Outgoing} (hstep : o.step = some o') :
    ∃ done' later' part' written, Stands o' done' later' part' ∧ done' ++ later' = done ++ later ∧
      o'.pipe.held = o.pipe.held ++ written ∧
      (Outbound.envelopes done').flatten ++ part' =
        (Outbound.envelopes done).flatten ++ part ++ written ∧
      o'.bytesSent + (Outbound.envelopes done).flatten.length =
        o.bytesSent + (Outbound.envelopes done').flatten.length := by
  cases writes_of_step hstep with
  | shut hstage hwhy =>
    obtain ⟨-, hlater, hpart⟩ := h.of_idle hstage
    have hdone : o.closed = true ∨ o.handles = false ∧ later = [] :=
      hwhy.imp_right fun hlast => ⟨hlast.2, hlater.trans hlast.1⟩
    exact ⟨done, later, part, [], .ended rfl rfl hdone (absurd hpart), rfl,
      (List.append_nil _).symm, (List.append_nil _).symm, rfl⟩
  | start hstage hclosed hqueue =>
    obtain ⟨hnext, hlater, hpart⟩ := h.of_idle hstage
    have hafter : o.encoder.next + 1 = .ofNat (done.length + 1) := by
      rw [hnext, UInt64.ofNat_add]
      rfl
    exact ⟨done, later, part, [], .writing (by rw [hpart, List.nil_append]) hafter
      (hlater.trans hqueue) (by rw [hpart, List.nil_append, hnext]), rfl,
      (List.append_nil _).symm, (List.append_nil _).symm, rfl⟩
  | skip hstage hqueue hlarge =>
    -- every frame that is left fits, so the encoder takes it
    obtain ⟨-, hlater, -⟩ := h.of_idle hstage
    refine absurd (hfits _ ?_) hlarge
    rw [hlater, hqueue]
    exact List.mem_cons_self
  | count hstage =>
    obtain ⟨hsize, hnext, frame, hlater, hencode⟩ := h.of_writing hstage
    rw [List.append_nil] at hsize hencode
    have hflat : (Outbound.envelopes (done ++ [frame])).flatten =
        (Outbound.envelopes done).flatten ++ part := by
      rw [Outbound.envelopes_append, List.flatten_append, ← hencode]
      exact congrArg (_ ++ ·) (List.append_nil _)
    refine ⟨done ++ [frame], o.queue, [], [], .idle rfl ?_ rfl rfl, ?_, (List.append_nil _).symm,
      ?_, ?_⟩
    · rw [List.length_append]
      exact hnext
    · rw [hlater, List.append_assoc]
      rfl
    · rw [hflat]
    · rw [hflat, List.length_append, hsize]
      show o.bytesSent + part.length + _ = _
      omega
  | lose hstage hrest hgone =>
    obtain ⟨-, -, frame, hlater, hencode⟩ := h.of_writing hstage
    exact ⟨done, later, part, [], .ended rfl rfl (.inl rfl) fun _ => ⟨frame, _, _, hlater, hrest, hencode⟩,
      rfl, (List.append_nil _).symm, (List.append_nil _).symm, rfl⟩
  | @put rest size hstage hrest hroom =>
    obtain ⟨hsize, hnext, frame, hlater, hencode⟩ := h.of_writing hstage
    have hsplit : part ++ rest = part ++ rest.take o.pipe.room ++ rest.drop o.pipe.room := by
      rw [List.append_assoc, List.take_append_drop]
    exact ⟨done, later, part ++ rest.take o.pipe.room, rest.take o.pipe.room,
      .writing (by rw [hsize, hsplit]) hnext hlater (hencode.trans hsplit), rfl, rfl,
      (List.append_assoc ..).symm, rfl⟩

/-- A step of an unfinished writer shuts the pipe only if it ends. -/
theorem kept_of_step {o' : Outgoing} (hstep : o.step = some o') :
    o'.handles = o.handles ∧ o'.pipe.capacity = o.pipe.capacity ∧
      (o.pipe.ended = false → (o'.pipe.ended = true ↔ o'.stage = .ended)) := by
  have hgoing : ∀ {stage : Stage}, stage ≠ .ended → o.pipe.ended = false →
      (o.pipe.ended = true ↔ stage = .ended) := by
    intro stage hstage hunshut
    rw [hunshut]
    exact iff_of_false nofun hstage
  cases writes_of_step hstep with
  | shut | lose => exact ⟨rfl, rfl, fun _ => iff_of_true rfl rfl⟩
  | start | skip | count | put => exact ⟨rfl, rfl, hgoing nofun⟩

end

namespace Line.Account

variable {capacity : Nat} {line : Line} {done later : List Outbound} {part : Bytes}

theorem fresh (capacity : Nat) : (Line.fresh capacity).Account capacity [] [] [] where
  accepted := rfl
  fitting := nofun
  output := rfl
  sent := rfl
  stands := .idle rfl rfl rfl rfl
  handles := rfl
  shut := by simp [Line.fresh]
  sawEnd := nofun
  capacity := rfl

/-- A step of the writer keeps the account. -/
theorem write (h : line.Account capacity done later part) {o' : Outgoing}
    (hstep : line.outgoing.step = some o') :
    ∃ done later part, Line.Account capacity { line with outgoing := o' } done later part := by
  have hopen : line.outgoing.stage ≠ .ended := fun hended => by
    simp only [step, hended] at hstep
    cases hstep
  have hfits : ∀ frame ∈ later, fits frame.payload := by
    intro frame hframe
    exact h.fitting frame (h.accepted ▸ List.mem_append_right _ hframe)
  obtain ⟨hhandles, hcapacity, hshut⟩ := kept_of_step hstep
  obtain ⟨done', later', part', written, hstands, hframes, hheld, houtput, hsent⟩ :=
    h.stands.write hfits hstep
  refine ⟨done', later', part', {
    accepted := h.accepted.trans hframes.symm
    fitting := h.fitting
    output := ?_
    sent := ?_
    stands := hstands
    handles := hhandles.trans h.handles
    shut := hshut (Bool.eq_false_iff.mpr (mt h.shut.mp hopen))
    sawEnd := fun hsaw => absurd (h.sawEnd hsaw).1 hopen
    capacity := hcapacity.trans h.capacity }⟩
  · rw [houtput, ← h.output, Line.output, Line.output, hheld, List.append_assoc]
  · have hbefore := h.sent
    show o'.bytesSent = _
    omega

theorem send (h : line.Account capacity done later part) {frame : Outbound}
    (hfits : fits frame.payload) (hopen : line.outgoing.stage ≠ .ended) :
    Line.Account capacity
      { line with
        outgoing := { line.outgoing with queue := line.outgoing.queue ++ [frame] }
        accepted := line.accepted ++ [frame] }
      done (later ++ [frame]) part := by
  have hstands : Stands { line.outgoing with queue := line.outgoing.queue ++ [frame] } done
      (later ++ [frame]) part := h.stands.grow rfl rfl rfl (fun hended => absurd hended hopen) id
  refine { h with accepted := ?_, fitting := fun f hf => ?_, stands := hstands }
  · exact (congrArg (· ++ [frame]) h.accepted).trans (List.append_assoc ..)
  · rcases List.mem_append.mp hf with hf | hf
    · exact h.fitting f hf
    · rwa [List.mem_singleton.mp hf]

theorem read (h : line.Account capacity done later part) (n : Nat) :
    Line.Account capacity
      { line with
        outgoing := (line.outgoing.read n).2.2
        received := line.received ++ line.outgoing.pipe.held.take n
        sawEnd := line.sawEnd || line.outgoing.pipe.ended && line.outgoing.pipe.held.length < n }
      done later part := by
  have hpart : line.received ++ line.outgoing.pipe.held.take n ++ line.outgoing.pipe.held.drop n =
      line.output := by
    rw [List.append_assoc, List.take_append_drop]
    rfl
  refine { h with
    output := hpart.trans h.output
    stands := h.stands.congr rfl rfl rfl id
    shut := h.shut
    sawEnd := fun hsaw => ?_ }
  rcases Bool.or_eq_true _ _ ▸ hsaw with hsaw | hsaw
  · obtain ⟨hended, hheld⟩ := h.sawEnd hsaw
    exact ⟨hended, by rw [Outgoing.read, Pipe.take, hheld, List.drop_nil]⟩
  · obtain ⟨hended, hlength⟩ := Bool.and_eq_true _ _ ▸ hsaw
    exact ⟨h.shut.mp hended, List.drop_eq_nil_of_le (Nat.le_of_lt (of_decide_eq_true hlength))⟩

/-- Whatever happens on a line, its account can be given. -/
theorem next (h : line.Account capacity done later part) (event : Event) :
    ∃ done later part, (line.next event).Account capacity done later part := by
  have hmoves := line.moves_next event
  generalize line.next event = line' at hmoves ⊢
  cases hmoves with
  | nothing => exact ⟨done, later, part, h⟩
  | clone hsome =>
    exact ⟨done, later, part, { h with handles := by rw [h.handles, decide_eq_true hsome]; rfl }⟩
  | drop hsenders =>
    exact ⟨done, later, part, { h with handles := by rw [h.handles, hsenders]; rfl }⟩
  | dropLast =>
    exact ⟨done, later, part, { h with
      stands := h.stands.congr rfl rfl rfl (·.imp_right fun hdone => ⟨rfl, hdone.2⟩)
      handles := rfl }⟩
  | send hfits hopen => exact ⟨done, _, part, h.send hfits hopen⟩
  | write hstep => exact h.write hstep
  | close =>
    exact ⟨done, later, part, { h with stands := h.stands.congr rfl rfl rfl fun _ => .inl rfl }⟩
  | read n => exact ⟨done, later, part, h.read n⟩
  | dropPeer => exact ⟨done, later, part, { h with stands := h.stands.congr rfl rfl rfl id }⟩

theorem after (h : line.Account capacity done later part) (events : List Event) :
    ∃ done later part, (line.after events).Account capacity done later part := by
  induction events generalizing line done later part with
  | nil => exact ⟨done, later, part, h⟩
  | cons event events ih =>
    obtain ⟨done', later', part', hnext⟩ := h.next event
    exact ih hnext

end Line.Account

/-! ## After close -/

/-- What is still to be written of the envelope that has been started. -/
def unwritten (o : Outgoing) : Bytes :=
  match o.stage with
  | .writing rest _ => rest
  | _ => []

/-- From `line` to `line'` no envelope has been started, and the one that had been is at most
completed. -/
structure Completes (line line' : Line) : Prop where
  closed : line'.outgoing.closed = true
  encoder : line'.outgoing.encoder = line.outgoing.encoder
  output : ∃ written, line'.output = line.output ++ written ∧
    written ++ line'.outgoing.unwritten <+: line.outgoing.unwritten

namespace Completes

variable {line line' line'' : Line}

theorem of_stage (hclosed : line'.outgoing.closed = true)
    (hencoder : line'.outgoing.encoder = line.outgoing.encoder)
    (hstage : line'.outgoing.stage = line.outgoing.stage) (houtput : line'.output = line.output) :
    Completes line line' := by
  have hsame : line'.outgoing.unwritten = line.outgoing.unwritten := by rw [unwritten, hstage, unwritten]
  exact ⟨hclosed, hencoder, [], houtput.trans (List.append_nil _).symm, hsame ▸ List.prefix_refl _⟩

theorem trans (h : Completes line line') (h' : Completes line' line'') : Completes line line'' := by
  obtain ⟨written, houtput, hprefix⟩ := h.output
  obtain ⟨written', houtput', hprefix'⟩ := h'.output
  refine ⟨h'.closed, h'.encoder.trans h.encoder, written ++ written', ?_, ?_⟩
  · rw [houtput', houtput, List.append_assoc]
  · rw [List.append_assoc]
    exact ((List.prefix_append_right_inj written).mpr hprefix').trans hprefix

theorem write (h : line.outgoing.closed = true) {o' : Outgoing} (hstep : line.outgoing.step = some o') :
    Completes line { line with outgoing := o' } := by
  cases writes_of_step hstep with
  | shut hstage hwhy => exact ⟨h, rfl, [], (List.append_nil _).symm, List.nil_prefix⟩
  | start hstage hclosed hqueue hfits =>
    rw [h] at hclosed
    cases hclosed
  | skip hstage hqueue hfits => exact of_stage h rfl hstage.symm rfl
  | count hstage => exact ⟨h, rfl, [], (List.append_nil _).symm, List.nil_prefix⟩
  | lose hstage hrest hgone => exact ⟨rfl, rfl, [], (List.append_nil _).symm, List.nil_prefix⟩
  | @put rest size hstage hrest hroom =>
    have hsplit : rest.take line.outgoing.pipe.room ++ rest.drop line.outgoing.pipe.room =
        line.outgoing.unwritten := by
      rw [List.take_append_drop, unwritten, hstage]
    exact ⟨h, rfl, _, (List.append_assoc ..).symm, hsplit ▸ List.prefix_refl _⟩

theorem next (h : line.outgoing.closed = true) (event : Event) : Completes line (line.next event) := by
  have hmoves := line.moves_next event
  generalize line.next event = line' at hmoves ⊢
  cases hmoves with
  | write hstep => exact write h hstep
  | close => exact of_stage rfl rfl rfl rfl
  | read n =>
    refine of_stage h rfl rfl ?_
    exact (List.append_assoc ..).trans (congrArg (line.received ++ ·) (List.take_append_drop ..))
  | nothing | clone | drop | dropLast | send | dropPeer => exact of_stage h rfl rfl rfl

theorem after (h : line.outgoing.closed = true) (events : List Event) :
    Completes line (line.after events) := by
  induction events generalizing line with
  | nil => exact of_stage h rfl rfl rfl
  | cons event events ih => exact (next h event).trans (ih (next h event).closed)

end Completes

theorem Line.closed_of_close {line : Line} {events : List Event} (h : .close ∈ events) :
    (line.after events).outgoing.closed = true := by
  induction events generalizing line with
  | nil => cases h
  | cons event events ih =>
    cases h with
    | head => exact (Completes.after rfl events).closed
    | tail _ hlater => exact ih hlater

/-! ## The end of the stream -/

/-- The transport has not been closed, and the peer is there. -/
structure Line.Open (line : Line) : Prop where
  unclosed : line.outgoing.closed = false
  peer : line.outgoing.pipe.readerGone = false

namespace Line.Open

variable {line : Line}

theorem next (h : line.Open) {event : Event} (hclose : event ≠ .close) (hdrop : event ≠ .dropPeer) :
    (line.next event).Open := by
  have hmoves := line.moves_next event
  generalize line.next event = line' at hmoves ⊢
  cases hmoves with
  | write hstep =>
    cases writes_of_step hstep with
    | lose hstage hrest hgone =>
      rw [h.peer] at hgone
      cases hgone
    | shut | start | skip | count | put => exact { h with }
  | close => exact absurd rfl hclose
  | dropPeer => exact absurd rfl hdrop
  | nothing | clone | drop | dropLast | send | read => exact { h with }

theorem after (h : line.Open) {events : List Event} (hclose : .close ∉ events)
    (hdrop : .dropPeer ∉ events) : (line.after events).Open := by
  induction events generalizing line with
  | nil => exact h
  | cons event events ih =>
    have hnext := h.next (List.ne_of_not_mem_cons hclose).symm (List.ne_of_not_mem_cons hdrop).symm
    exact ih hnext (List.not_mem_of_not_mem_cons hclose) (List.not_mem_of_not_mem_cons hdrop)

end Line.Open

theorem Line.accepted_of_send {line : Line} (hsenders : line.senders ≠ 0) (frame : Outbound) :
    (line.next (.send frame)).accepted =
      line.accepted ++ if (line.outgoing.send frame).1.isOk then [frame] else [] := by
  rw [next, if_neg hsenders]
  rcases send_cases frame line.outgoing with ⟨-, -, hsend⟩ | ⟨fault, hsend⟩ <;> rw [hsend]
  · rfl
  · exact (List.append_nil _).symm

theorem Line.accepted_of_read (n : Nat) (line : Line) :
    (line.next (.read n)).accepted = line.accepted := by
  rw [next]
  split <;> rfl

/-- A read finds out that the stream has ended when there are no bytes in front of the end. -/
theorem Line.read_of_end {line : Line} (hopen : line.Open) (hended : line.outgoing.pipe.ended = true)
    (hheld : line.outgoing.pipe.held = []) (n : Nat) :
    (line.next (.read (n + 1))).sawEnd = true ∧
      (line.next (.read (n + 1))).received = line.received := by
  simp [next, hopen.peer, Outgoing.read, Pipe.take, hended, hheld]

namespace Line.Account

variable {capacity : Nat} {line : Line} {done later : List Outbound} {part : Bytes}

theorem envelope_of_part (h : line.Account capacity done later part) (hpart : part ≠ []) :
    ∃ rest more, Outbound.envelopes line.accepted =
        Outbound.envelopes done ++ (part ++ rest) :: more ∧
      (rest = [] → line.outgoing.stage = .writing [] part.length) := by
  rw [h.accepted]
  exact h.stands.envelope_of_part hpart

theorem output_prefix (h : line.Account capacity done later part) :
    line.output <+: (Outbound.envelopes line.accepted).flatten := by
  rw [h.output, h.accepted]
  exact h.stands.isPrefix

/-- No frame in the queue is one that the encoder refuses. -/
theorem encodes (h : line.Account capacity done later part) {frame : Outbound}
    (hframe : frame ∈ line.outgoing.queue) (encoder : Encoder) :
    ∃ written, encoder.encode frame.type frame.payload = .ok written := by
  have hlater : frame ∈ later := by
    cases h.stands with
    | idle _ _ hlater _ => exact hlater ▸ hframe
    | writing _ _ hlater _ => exact hlater ▸ List.mem_cons_of_mem _ hframe
    | ended _ hqueue _ _ =>
      rw [hqueue] at hframe
      cases hframe
  have hfits := h.fitting frame (h.accepted ▸ List.mem_append_right done hlater)
  exact ⟨_, by rw [Encoder.encode, if_pos hfits]⟩

/-- The writer ends by itself only when its senders have gone. -/
theorem going (h : line.Account capacity done later part) (hopen : line.Open)
    (hsenders : line.senders ≠ 0) : line.outgoing.stage ≠ .ended := by
  intro hstage
  cases h.stands with
  | idle hother _ _ _ | writing hother _ _ _ =>
    rw [hstage] at hother
    cases hother
  | ended _ _ hwhy =>
    rcases hwhy with hclosed | ⟨hhandles, -⟩
    · rw [hopen.unclosed] at hclosed
      cases hclosed
    · rw [h.handles] at hhandles
      exact of_decide_eq_false hhandles hsenders

/-- Where nothing has been closed, the peer that sees the end has everything. -/
theorem received_of_end (h : line.Account capacity done later part) (hopen : line.Open)
    (hstage : line.outgoing.stage = .ended) (hheld : line.outgoing.pipe.held = []) :
    line.senders = 0 ∧ line.received = (Outbound.envelopes line.accepted).flatten := by
  refine ⟨Decidable.not_not.mp fun hsenders => h.going hopen hsenders hstage, ?_⟩
  cases h.stands with
  | idle hother _ _ _ | writing hother _ _ _ =>
    rw [hstage] at hother
    cases hother
  | ended _ _ hwhy =>
    rcases hwhy with hclosed | ⟨-, hlater⟩
    · rw [hopen.unclosed] at hclosed
      cases hclosed
    subst hlater
    have houtput := h.output
    rw [Line.output, hheld, List.append_nil, h.stands.part_of_nil, List.append_nil] at houtput
    rw [houtput, h.accepted, List.append_nil]

/-- A writer without senders, over a pipe that is empty and has room, comes to rest at its end. -/
theorem ended_of_rest (h : line.Account capacity done later part) (hcapacity : 0 < capacity)
    (hsenders : line.senders = 0) (hstep : line.outgoing.step = none)
    (hheld : line.outgoing.pipe.held = []) : line.outgoing.stage = .ended := by
  cases waits_of_step hstep with
  | ended hstage => exact hstage
  | idle _ _ _ hhandles =>
    rw [h.handles, hsenders] at hhandles
    cases hhandles
  | full _ hroom =>
    rw [Pipe.room, hheld, h.capacity] at hroom
    simp only [List.length_nil] at hroom
    omega

/-- Once the senders are gone, some writing and reading takes the peer to the end of the stream. -/
theorem drains (h : line.Account capacity done later part) (hopen : line.Open)
    (hcapacity : 0 < capacity) (hsenders : line.senders = 0) :
    ∃ more, (∀ event ∈ more, event = .write ∨ ∃ n, event = .read n) ∧
      (line.after more).sawEnd = true ∧ (line.after more).accepted = line.accepted := by
  induction hleft : line.outgoing.backlog using Nat.strongRecOn
    generalizing line done later part with
  | _ left ih =>
    -- one move that leaves less to do, and the rest by induction
    have hmove : ∀ event, (event = .write ∨ ∃ n, event = .read n) →
        (line.next event).senders = line.senders →
        (line.next event).accepted = line.accepted →
        (line.next event).outgoing.backlog < line.outgoing.backlog →
        ∃ more, (∀ event ∈ more, event = .write ∨ ∃ n, event = .read n) ∧
          (line.after more).sawEnd = true ∧ (line.after more).accepted = line.accepted := by
      intro event hevent hsame haccepted hless
      obtain ⟨done', later', part', hnext⟩ := h.next event
      have hnextOpen : (line.next event).Open := by
        rcases hevent with rfl | ⟨n, rfl⟩ <;> exact hopen.next nofun nofun
      obtain ⟨more, hmore, hend, hkept⟩ :=
        ih _ (hleft ▸ hless) hnext hnextOpen (hsame.trans hsenders) rfl
      exact ⟨event :: more, List.forall_mem_cons.mpr ⟨hevent, hmore⟩, hend, hkept.trans haccepted⟩
    by_cases hheld : line.outgoing.pipe.held = []
    · cases hstep : line.outgoing.step with
      | some o' =>
        refine hmove .write (.inl rfl) ?_ ?_ ?_ <;> simp only [Line.next, hstep]
        exact backlog_of_step hstep
      | none =>
        have hended := h.shut.mpr (h.ended_of_rest hcapacity hsenders hstep hheld)
        exact ⟨[.read 1], by simp, (read_of_end hopen hended hheld 0).1, accepted_of_read 1 line⟩
    · have hlength := List.length_pos_iff.mpr hheld
      refine hmove (.read line.outgoing.pipe.held.length) (.inr ⟨_, rfl⟩) ?_
        (accepted_of_read _ line) ?_ <;>
        simp only [Line.next, hopen.peer, Bool.false_eq_true, if_false, Outgoing.read, Pipe.take]
      simp only [backlog, List.drop_length, List.length_nil]
      omega

end Line.Account

/-- Whatever is sent, written, read, closed and dropped, over a pipe of any capacity: what has gone
into the pipe is the first envelopes of the accepted frames, counted in `bytesSent`, and then at
most a part of the next one; only between its last byte and its being counted is that part the
whole. The encoder refuses nothing that is queued. A send answers ok for every frame that fits until
the writer has ended, and a frame is accepted exactly then. Closing closes, nothing else does but the
loss of the peer, and from then on no envelope is started. While neither happens, the writer goes on
as long as there is a sender, the end of the stream is seen only when the senders are gone and
everything has been received, and it can always be reached. -/
theorem Line.writes_in_order (capacity : Nat) (events : List Event) :
    let line := (Line.fresh capacity).after events
    let envelopes := Outbound.envelopes line.accepted
    line.output <+: envelopes.flatten ∧
    (∃ k part, k ≤ envelopes.length ∧ line.output = (envelopes.take k).flatten ++ part ∧
      line.outgoing.bytesSent = (envelopes.take k).flatten.length ∧
      (part ≠ [] → ∃ rest, envelopes[k]? = some (part ++ rest) ∧
        (rest = [] → line.outgoing.stage = .writing [] part.length))) ∧
    (∀ frame ∈ line.outgoing.queue, ∀ encoder : Encoder,
      ∃ written, encoder.encode frame.type frame.payload = .ok written) ∧
    (∀ frame, line.senders ≠ 0 →
      ((line.outgoing.send frame).1 = .ok () ↔ fits frame.payload ∧ line.outgoing.stage ≠ .ended) ∧
      (line.next (.send frame)).accepted =
        line.accepted ++ if (line.outgoing.send frame).1.isOk then [frame] else []) ∧
    (.close ∈ events → line.outgoing.closed = true) ∧
    (line.outgoing.closed = true → .close ∈ events ∨ .dropPeer ∈ events) ∧
    (line.outgoing.closed = true → ∀ more, Completes line (line.after more)) ∧
    (.close ∉ events → .dropPeer ∉ events → line.senders ≠ 0 → line.outgoing.stage ≠ .ended) ∧
    (.close ∉ events → .dropPeer ∉ events →
      (line.sawEnd = true → line.senders = 0 ∧ line.received = envelopes.flatten) ∧
      (line.senders = 0 → 0 < capacity →
        (line.outgoing.step = none → line.outgoing.pipe.held = [] →
          line.received = envelopes.flatten ∧
            ∀ n, (line.next (.read (n + 1))).sawEnd = true ∧
              (line.next (.read (n + 1))).received = line.received) ∧
        ∃ more, (∀ event ∈ more, event = .write ∨ ∃ n, event = .read n) ∧
          (line.after more).sawEnd = true ∧ (line.after more).received = envelopes.flatten)) := by
  intro line envelopes
  obtain ⟨done, later, part, h⟩ := (Account.fresh capacity).after events
  have htake : envelopes.take done.length = Outbound.envelopes done := by
    show (Outbound.envelopes line.accepted).take done.length = _
    rw [h.accepted, Outbound.envelopes_append,
      List.take_left' (Outbound.length_envelopes done)]
  have hopen : .close ∉ events → .dropPeer ∉ events → line.Open := Line.Open.after ⟨rfl, rfl⟩
  refine ⟨h.output_prefix, ⟨done.length, part, ?_, ?_, ?_, fun hpart => ?_⟩,
    fun frame hframe encoder => h.encodes hframe encoder,
    fun frame hsenders => ⟨send_eq_ok_iff frame line.outgoing, accepted_of_send hsenders frame⟩,
    closed_of_close, fun hclosed => ?_, fun hclosed more => Completes.after hclosed more,
    fun hclose hdrop hsenders => h.going (hopen hclose hdrop) hsenders, fun hclose hdrop => ?_⟩
  · show _ ≤ (Outbound.envelopes line.accepted).length
    rw [Outbound.length_envelopes, h.accepted, List.length_append]
    omega
  · rw [htake, h.output]
  · rw [htake, h.sent]
  · obtain ⟨rest, more, henvelopes, hwhole⟩ := h.envelope_of_part hpart
    refine ⟨rest, ?_, hwhole⟩
    show (Outbound.envelopes line.accepted)[done.length]? = _
    rw [henvelopes, ← Outbound.length_envelopes done, List.getElem?_append_right (Nat.le_refl _),
      Nat.sub_self]
    rfl
  · by_cases hclose : .close ∈ events
    · exact .inl hclose
    by_cases hdrop : .dropPeer ∈ events
    · exact .inr hdrop
    rw [(hopen hclose hdrop).unclosed] at hclosed
    cases hclosed
  · have hopen := hopen hclose hdrop
    refine ⟨fun hsaw => ?_, fun hsenders hcapacity => ⟨fun hstep hheld => ?_, ?_⟩⟩
    · obtain ⟨hstage, hheld⟩ := h.sawEnd hsaw
      exact h.received_of_end hopen hstage hheld
    · have hstage := h.ended_of_rest hcapacity hsenders hstep hheld
      exact ⟨(h.received_of_end hopen hstage hheld).2,
        read_of_end hopen (h.shut.mpr hstage) hheld⟩
    · obtain ⟨more, hmore, hend, hkept⟩ := h.drains hopen hcapacity hsenders
      refine ⟨more, hmore, hend, ?_⟩
      obtain ⟨done', later', part', h'⟩ := h.after more
      have hopen' : (line.after more).Open :=
        hopen.after (fun hmem => by rcases hmore _ hmem with h | ⟨n, h⟩ <;> cases h)
          fun hmem => by rcases hmore _ hmem with h | ⟨n, h⟩ <;> cases h
      obtain ⟨hstage, hheld⟩ := h'.sawEnd hend
      rw [(h'.received_of_end hopen' hstage hheld).2, hkept]

-- closed inside the first of two envelopes, which is completed; the second frame is lost
example :
    let line := (Line.fresh 16).after
      [.send ⟨.healthCheck, []⟩, .send ⟨.healthCheck, []⟩, .write, .write, .close, .read 16, .write,
        .write, .write, .read 16]
    line.accepted.length = 2 ∧ line.received.length = 22 ∧ line.outgoing.bytesSent = 22 ∧
      line.sawEnd = true := by
  decide

end Outgoing

end TunnelAgent
