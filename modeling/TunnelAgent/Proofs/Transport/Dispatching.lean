import TunnelAgent.Proofs.Frame.Ending
import TunnelAgent.Proofs.Session.Closing

/-! # What the dispatch loop does with a stream

The loop takes up the stream where the reads before it have left it. It hands every frame, in the
order of the stream, to the handler that was registered first for its type, and stops at the first
fault: of the stream, of a handler, or because the transport is found closed before a read. What it
has decoded, together with the reads before it, is what a decoder finds in the stream call by call,
so no frame is passed over and none is counted twice. -/

namespace TunnelAgent

/-- What the decoder said in a read. An aborted read does not ask it, and a read that waits has not
come back yet. -/
def Received.decoded? : Received → Option Decoded
  | frame f => some (.frame f)
  | failed (.frame fault) => some (.fault fault)
  | _ => none

/-- The bytes of the envelopes among the decoder's answers. -/
def Decoded.traffic : List Decoded → Nat
  | [] => 0
  | frame f :: rest => 22 + f.payload.length + traffic rest
  | _ :: rest => traffic rest

theorem Decoded.traffic_append (before after : List Decoded) :
    traffic (before ++ after) = traffic before + traffic after := by
  induction before with
  | nil => exact (Nat.zero_add _).symm
  | cons decoded rest ih => cases decoded <;> simp only [List.cons_append, traffic, ih, Nat.add_assoc]

namespace Reader

/-- Reads one after the other; each finds the transport closed or open. -/
def reads : List Bool → Reader → List Received × Reader
  | [], r => ([], r)
  | closed :: rest, r =>
    let (received, r) := r.readOne closed
    let (later, r) := reads rest r
    (received :: later, r)

/-- What the decoder answers to `n` calls from here on, whatever it is. -/
def answers (n : Nat) (r : Reader) : List Decoded :=
  (Decoder.readings true n r.decoder r.source).map (·.decoded)

/-- From `r` to `r'` the decoder has been called and has said `log`. -/
structure Heard (log : List Decoded) (r r' : Reader) : Prop where
  answers : ∀ n, r.answers (log.length + n) = log ++ r'.answers n
  received : r'.bytesReceived = r.bytesReceived + Decoded.traffic log
  finish : r'.source.finish = r.source.finish

variable {r r' r'' : Reader}

theorem Heard.refl (r : Reader) : Heard [] r r :=
  ⟨fun n => by rw [List.length_nil, Nat.zero_add, List.nil_append], rfl, rfl⟩

theorem Heard.trans {log log' : List Decoded} (h : Heard log r r') (h' : Heard log' r' r'') :
    Heard (log ++ log') r r'' := by
  refine ⟨fun n => ?_, ?_, h'.finish.trans h.finish⟩
  · rw [List.length_append, Nat.add_assoc, h.answers, h'.answers, List.append_assoc]
  · rw [h'.received, h.received, Decoded.traffic_append, Nat.add_assoc]

theorem heard_of_readFrame {decoded : Decoded} {d : Decoder} {u : Source} {n : Nat}
    (h : r.decoder.readFrame r.source = (decoded, d, u))
    (hn : n = r.bytesReceived + Decoded.traffic [decoded]) : Heard [decoded] r ⟨d, u, n⟩ := by
  refine ⟨fun k => ?_, hn, ?_⟩
  · rw [List.length_singleton, Nat.add_comm, answers, Decoder.readings, h]
    rfl
  · have hfinish := Decoder.finish_of_readFrame r.decoder r.source
    rw [h] at hfinish
    exact hfinish

theorem heard_readOne (closed : Bool) (r : Reader) :
    Heard (r.readOne closed).1.decoded?.toList r (r.readOne closed).2 := by
  unfold readOne
  split
  · exact .refl r
  split
  · exact .refl r
  · rename_i hread
    exact heard_of_readFrame hread rfl
  · rename_i frame _ _ hread
    refine heard_of_readFrame hread ?_
    simp only [Decoded.traffic, Envelope.size, Envelope.headerSize, Nat.add_zero]

theorem heard_reads (flags : List Bool) (r : Reader) :
    Heard ((r.reads flags).1.filterMap (·.decoded?)) r (r.reads flags).2 := by
  induction flags generalizing r with
  | nil => exact .refl r
  | cons closed rest ih =>
    have hcons : (r.reads (closed :: rest)).1.filterMap (·.decoded?) =
        (r.readOne closed).1.decoded?.toList ++
          ((r.readOne closed).2.reads rest).1.filterMap (·.decoded?) := by
      simp only [reads]
      cases hdecoded : (r.readOne closed).1.decoded? with
      | none => rw [List.filterMap_cons_none hdecoded]; rfl
      | some decoded => rw [List.filterMap_cons_some hdecoded]; rfl
    rw [hcons]
    exact (heard_readOne closed r).trans (ih (r.readOne closed).2)

/-- Nothing is read on a closed transport. -/
theorem reads_of_closed {flags : List Bool} (h : ∀ closed ∈ flags, closed = true) (r : Reader) :
    r.reads flags = (flags.map fun _ => .failed .aborted, r) := by
  induction flags with
  | nil => rfl
  | cons closed rest ih =>
    obtain rfl : closed = true := h closed List.mem_cons_self
    have hrest := ih fun c hc => h c (List.mem_cons_of_mem _ hc)
    simp only [reads, readOne, if_true, hrest, List.map_cons]

end Reader

namespace Dispatch

variable {σ : Type}

/-- Registers handlers one after the other; what is refused leaves the table as it is. -/
def Table.registerAll (table : Table σ) :
    List (FrameType × Handler σ) → List (Except Duplicate Unit) × Table σ
  | [] => ([], table)
  | (type, handler) :: calls =>
    match table.register type handler with
    | .ok table' =>
      let (verdicts, last) := registerAll table' calls
      (.ok () :: verdicts, last)
    | .error duplicate =>
      let (verdicts, last) := registerAll table calls
      (.error duplicate :: verdicts, last)

/-- What becomes of a frame: the handler registered first for its type gets it, and a frame of a
type without a handler is dropped. -/
def serve (calls : List (FrameType × Handler σ)) (frame : Frame) (state : σ) :
    Except String Unit × σ :=
  match calls.find? (·.1 = frame.type) with
  | some (_, handler) => handler frame state
  | none => (.ok (), state)

/-- All the frames are served in order and without a failure, each read on an open transport. -/
inductive Served (closed : σ → Bool) (calls : List (FrameType × Handler σ)) : List Frame → σ → σ → Prop
  | nothing (state : σ) : Served closed calls [] state state
  | next {frame : Frame} {rest : List Frame} {state state' last : σ} :
      closed state = false → serve calls frame state = (.ok (), state') →
      Served closed calls rest state' last → Served closed calls (frame :: rest) state last

/-- Where the loop stops: the fault it ends with, what the decoder has said last, and the state. It
waits without a fault if the stream has no more bytes yet. -/
inductive Stops (closed : σ → Bool) (calls : List (FrameType × Handler σ)) (state : σ) :
    Option TransportFault → List Decoded → σ → Prop
  | aborted : closed state = true → Stops closed calls state (some .aborted) [] state
  | stream (fault : FrameFault) :
      closed state = false → Stops closed calls state (some (.frame fault)) [.fault fault] state
  | handler {frame : Frame} {text : String} {last : σ} :
      closed state = false → serve calls frame state = (.error text, last) →
      Stops closed calls state (some (.handler frame.type text)) [.frame frame] last
  | waits : closed state = false → Stops closed calls state none [] state

section

variable {table : Table σ} {calls : List (FrameType × Handler σ)}

theorem find?_append (table : Table σ) (type : FrameType) (handler : Handler σ) (t : FrameType) :
    Table.find? (table ++ [(type, handler)]) t =
      (table.find? t).or (if type = t then some handler else none) := by
  rw [Table.find?, List.lookup_append]
  congr 1
  by_cases h : type = t
  · rw [if_pos h, h, List.lookup_cons_self]
  · rw [if_neg h, List.lookup_cons, beq_eq_false_iff_ne.mpr (Ne.symm h)]
    rfl

theorem contains_append (table : Table σ) (type : FrameType) (handler : Handler σ) (t : FrameType) :
    Table.contains (table ++ [(type, handler)]) t = (table.contains t || type = t) := by
  rw [Table.contains, find?_append, Option.isSome_or, Table.contains]
  by_cases h : type = t
  · rw [if_pos h, decide_eq_true h]
    rfl
  · rw [if_neg h, decide_eq_false h]
    rfl

/-- The first registration of a type wins. -/
theorem find?_registerAll (calls : List (FrameType × Handler σ)) (table : Table σ) (type : FrameType) :
    (table.registerAll calls).2.find? type =
      (table.find? type).or ((calls.find? (·.1 = type)).map (·.2)) := by
  induction calls generalizing table with
  | nil => exact (Option.or_none).symm
  | cons call calls ih =>
    obtain ⟨t, handler⟩ := call
    simp only [Table.registerAll, Table.register]
    by_cases hheld : table.contains t
    · rw [if_pos hheld]
      simp only [ih]
      by_cases ht : t = type
      · subst ht
        obtain ⟨first, hfirst⟩ := Option.isSome_iff_exists.mp hheld
        rw [hfirst, Option.some_or, Option.some_or]
      · rw [List.find?_cons_of_neg (by simpa using ht)]
    · rw [if_neg hheld]
      simp only [ih, find?_append, Option.or_assoc]
      by_cases ht : t = type
      · rw [if_pos ht, List.find?_cons_of_pos (by simpa using ht)]
        rfl
      · rw [if_neg ht, List.find?_cons_of_neg (by simpa using ht), Option.none_or]

/-- A registration is refused if and only if its type was registered before. -/
theorem verdict_of_registerAll {calls : List (FrameType × Handler σ)} (table : Table σ) {i : Nat}
    {call : FrameType × Handler σ} (h : calls[i]? = some call) :
    (table.registerAll calls).1[i]? =
      some (if table.contains call.1 || (calls.take i).any (·.1 = call.1) then .error ⟨call.1⟩
        else .ok ()) := by
  induction calls generalizing table i with
  | nil => cases h
  | cons first calls ih =>
    obtain ⟨t, handler⟩ := first
    simp only [Table.registerAll, Table.register]
    cases i with
    | zero =>
      cases h
      rw [List.take_zero, List.any_nil, Bool.or_false]
      by_cases ht : table.contains t
      · rw [if_pos ht, if_pos ht]
        rfl
      · rw [if_neg ht, if_neg ht]
        rfl
    | succ i =>
      rw [List.getElem?_cons_succ] at h
      rw [List.take_succ_cons, List.any_cons]
      by_cases ht : table.contains t
      · rw [if_pos ht]
        simp only [List.getElem?_cons_succ, ih table h]
        by_cases heq : t = call.1
        · rw [← heq, ht, Bool.true_or, Bool.true_or]
        · rw [decide_eq_false heq, Bool.false_or]
      · rw [if_neg ht]
        simp only [List.getElem?_cons_succ, ih _ h, contains_append, Bool.or_assoc]

theorem length_registerAll (calls : List (FrameType × Handler σ)) (table : Table σ) :
    (table.registerAll calls).1.length = calls.length := by
  induction calls generalizing table with
  | nil => rfl
  | cons call calls ih =>
    obtain ⟨type, handler⟩ := call
    rw [Table.registerAll]
    cases table.register type handler with
    | ok table' => exact congrArg (· + 1) (ih table')
    | error duplicate => exact congrArg (· + 1) (ih table)

theorem dispatch_registerAll (calls : List (FrameType × Handler σ)) (frame : Frame) (state : σ) :
    (Table.registerAll [] calls).2.dispatch frame state =
      match serve calls frame state with
      | (.ok (), state') => (.ok (), state')
      | (.error text, state') => (.error (.handler frame.type text), state') := by
  rw [Table.dispatch, find?_registerAll, serve]
  cases calls.find? (·.1 = frame.type) with
  | none => rfl
  | some call => rfl

/-- With more steps than the stream has bytes, the loop goes on until it has to stop. -/
theorem loop_stops (closed : σ → Bool) (calls : List (FrameType × Handler σ)) {n : Nat}
    {reader : Reader} {state : σ} (hn : reader.source.bytes.length < n) {out : Outcome σ}
    (h : loop closed (Table.registerAll [] calls).2 n reader state = out) :
    ∃ frames middle said, Served closed calls frames state middle ∧
      Stops closed calls middle out.fault said out.state ∧
      Reader.Heard (frames.map .frame ++ said) reader out.reader ∧
      (out.fault = none → (out.reader.decoder.readFrame out.reader.source).1 = .pending) := by
  induction n generalizing reader state with
  | zero => omega
  | succ n ih =>
    rw [loop] at h
    cases hclosed : closed state with
    | true =>
      rw [hclosed] at h
      cases h
      exact ⟨[], state, [], .nothing state, .aborted hclosed, .refl reader, fun h => by cases h⟩
    | false =>
      have hheard := reader.heard_readOne false
      rcases hread : reader.decoder.readFrame reader.source with ⟨decoded, d, u⟩
      simp only [hclosed, Reader.readOne, hread] at h hheard
      cases decoded with
      | pending =>
        cases h
        exact ⟨[], state, [], .nothing state, .waits hclosed, .refl reader,
          fun _ => congrArg Prod.fst hread⟩
      | fault fault =>
        cases h
        exact ⟨[], state, [.fault fault], .nothing state, .stream fault hclosed, hheard,
          fun h => by cases h⟩
      | frame frame =>
        simp only [Bool.false_eq_true, if_false, dispatch_registerAll] at h
        rcases hserve : serve calls frame state with ⟨verdict, state'⟩
        rw [hserve] at h
        cases verdict with
        | error text =>
          cases h
          exact ⟨[], state, [.frame frame], .nothing state, .handler hclosed hserve, hheard,
            fun h => by cases h⟩
        | ok _ =>
          -- the frame has taken its bytes off the stream, so the steps left are enough for the rest
          have hlength : u.bytes.length < n := by
            have := Decoder.length_of_readFrame hread
            simp only [Envelope.size] at this
            omega
          obtain ⟨frames, middle, said, hserved, hstops, hrest, hpending⟩ := ih hlength h
          exact ⟨frame :: frames, middle, said, .next hclosed hserve hserved, hstops,
            hheard.trans hrest, hpending⟩

/-- The dispatch loop after any registrations and any reads that were made first. Of every type the
first registration stands. The frames served and the answer the loop stops at are what the decoder
gives after what the early reads have got from it, and each envelope is counted once. The loop waits
only where a stream without an end has no more bytes. On a closed transport no read gives anything
but `aborted`, and a session's transport stays closed. -/
theorem start_serves (closed : σ → Bool) (calls : List (FrameType × Handler σ)) (flags : List Bool)
    (reader : Reader) (state : σ) :
    let table := (Table.registerAll [] calls).2
    let early := reader.reads flags
    let out := start closed table early.2 state
    ((Table.registerAll [] calls).1.length = calls.length ∧
      ∀ i call, calls[i]? = some call → (Table.registerAll [] calls).1[i]? =
        some (if (calls.take i).any (·.1 = call.1) then .error ⟨call.1⟩ else .ok ())) ∧
    (∀ type, table.find? type = (calls.find? (·.1 = type)).map (·.2)) ∧
    (∃ frames middle said,
      Served closed calls frames state middle ∧ Stops closed calls middle out.fault said out.state ∧
      let log := early.1.filterMap (·.decoded?) ++ (frames.map .frame ++ said)
      (Decoder.readings true log.length reader.decoder reader.source).map (·.decoded) = log ∧
      out.reader.bytesReceived = reader.bytesReceived + Decoded.traffic log) ∧
    (out.fault = none → reader.source.finish = .pending ∧
      (out.reader.decoder.readFrame out.reader.source).1 = .pending) ∧
    (∀ later, (∀ shut ∈ later, shut = true) →
      out.reader.reads later = (later.map fun _ => .failed .aborted, out.reader)) ∧
    ∀ actions s s', s.outgoing.closed = true → Session.run actions s = some s' →
      s'.receive = some (.error .aborted, s') := by
  intro table early out
  have hearly : Reader.Heard (early.1.filterMap (·.decoded?)) reader early.2 :=
    reader.heard_reads flags
  obtain ⟨frames, middle, said, hserved, hstops, hheard, hpending⟩ :=
    loop_stops closed calls (Nat.lt_succ_self early.2.source.bytes.length)
      (rfl : start closed table early.2 state = out)
  have hall := hearly.trans hheard
  refine ⟨⟨length_registerAll calls [], fun i call hcall => ?_⟩, fun type => ?_,
    ⟨frames, middle, said, hserved, hstops, ?_, hall.received⟩, fun hnone => ?_,
    fun later hlater => Reader.reads_of_closed hlater out.reader, fun actions s s' hs hrun => ?_⟩
  · rw [verdict_of_registerAll [] hcall]
    rfl
  · rw [find?_registerAll]
    rfl
  · have hanswers := hall.answers 0
    rw [Nat.add_zero, Reader.answers] at hanswers
    rw [hanswers, Reader.answers, Decoder.readings, List.map_nil, List.append_nil]
  · have hnext := hpending hnone
    refine ⟨?_, hnext⟩
    have hread : out.reader.decoder.readFrame out.reader.source = (.pending, _, _) :=
      Prod.ext hnext rfl
    rw [← hall.finish]
    exact Decoder.finish_of_pending hread
  · rcases Session.receive_cases s' with ⟨-, hreceive⟩ | ⟨hopen, -⟩
    · exact hreceive
    · rw [Session.closed_of_run hrun hs] at hopen
      cases hopen

end

end Dispatch

end TunnelAgent
