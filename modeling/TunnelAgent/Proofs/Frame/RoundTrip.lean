import TunnelAgent.Proofs.Frame.Grammar

/-! # What an encoder has written is what a decoder reads

A whole conversation in one direction: a list of encoder calls, some refused, the stream of the
envelopes they returned, and a fresh decoder on that stream cut anywhere. The decoder's run is
described by recursion on the accepted calls, then position by position. -/

namespace TunnelAgent

namespace Encoder
open Envelope

/-- One use of an encoder: a type with a payload, or a frame whose own sequence is not looked at. -/
inductive Call where
  | parts (type : FrameType) (payload : Bytes)
  | frame (frame : Frame)
  deriving DecidableEq, Repr

def Call.type : Call → FrameType
  | parts type _ => type
  | frame f => f.type

def Call.payload : Call → Bytes
  | parts _ payload => payload
  | frame f => f.payload

def perform (e : Encoder) : Call → Except FrameFault (Bytes × Encoder)
  | .parts type payload => e.encode type payload
  | .frame frame => e.encodeFrame frame

/-- The encoder after a call, whether or not the call returned an envelope. -/
def after (e : Encoder) (call : Call) : Encoder :=
  match e.perform call with
  | .ok (_, e') => e'
  | .error _ => e

/-- All calls one after the other: the encoder they leave and the envelopes they returned. -/
def run (e : Encoder) : List Call → Encoder × List Bytes
  | [] => (e, [])
  | call :: calls =>
    let (last, envelopes) := (e.after call).run calls
    match e.perform call with
    | .ok (envelope, _) => (last, envelope :: envelopes)
    | .error _ => (last, envelopes)

def accepted (calls : List Call) : List Call :=
  calls.filter fun call => 1 + call.payload.length ≤ 1048576

/-- The envelopes of calls that all fit, numbered from `sequence`. -/
def envelopes (sequence : UInt64) : List Call → List Bytes
  | [] => []
  | call :: calls =>
    Envelope.encode sequence call.type call.payload :: envelopes (sequence + 1) calls

theorem perform_eq (e : Encoder) (call : Call) : e.perform call = e.encode call.type call.payload := by
  cases call <;> rfl

theorem perform_of_fits {e : Encoder} {call : Call} (h : fits call.payload) :
    e.perform call = .ok (Envelope.encode e.next call.type call.payload, ⟨e.next + 1⟩) := by
  rw [perform_eq, encode, if_pos h]

theorem perform_of_not_fits {e : Encoder} {call : Call} (h : ¬ fits call.payload) :
    e.perform call = .error (.payloadTooLarge call.payload.length) := by
  rw [perform_eq, encode, if_neg h]

theorem mem_accepted {call : Call} {calls : List Call} :
    call ∈ accepted calls ↔ call ∈ calls ∧ fits call.payload := by
  simp [accepted, fits, maxBody, Nat.add_comm]

theorem accepted_cons_of_fits {call : Call} (calls : List Call) (h : fits call.payload) :
    accepted (call :: calls) = call :: accepted calls := by
  rw [fits, maxBody] at h
  rw [accepted, List.filter_cons_of_pos (by simp; omega), accepted]

theorem accepted_cons_of_not_fits {call : Call} (calls : List Call) (h : ¬ fits call.payload) :
    accepted (call :: calls) = accepted calls := by
  rw [fits, maxBody] at h
  rw [accepted, List.filter_cons_of_neg (by simp; omega), accepted]

@[simp] theorem length_envelopes (sequence : UInt64) (calls : List Call) :
    (envelopes sequence calls).length = calls.length := by
  induction calls generalizing sequence with
  | nil => rfl
  | cons call calls ih => rw [envelopes, List.length_cons, List.length_cons, ih]

theorem envelopes_eq_mapIdx (n : Nat) (calls : List Call) :
    envelopes (.ofNat n) calls =
      calls.mapIdx fun i call => Envelope.encode (.ofNat (n + i)) call.type call.payload := by
  induction calls generalizing n with
  | nil => rfl
  | cons call calls ih =>
    have hnext : UInt64.ofNat n + 1 = .ofNat (n + 1) := (UInt64.ofNat_add n 1).symm
    simp only [envelopes, List.mapIdx_cons, hnext, ih, Nat.add_zero, Nat.add_assoc, Nat.add_comm 1]

/-- A run returns the envelopes of the accepted calls, and moves the number on once for each. -/
theorem run_eq (e : Encoder) (calls : List Call) :
    e.run calls =
      (⟨e.next + UInt64.ofNat (accepted calls).length⟩, envelopes e.next (accepted calls)) := by
  induction calls generalizing e with
  | nil => simp [run, accepted, envelopes]
  | cons call calls ih =>
    by_cases h : fits call.payload
    · simp only [run, after, perform_of_fits h, ih, accepted_cons_of_fits calls h, envelopes,
        List.length_cons]
      rw [UInt64.add_assoc, UInt64.ofNat_add, UInt64.add_comm 1]
      rfl
    · simp only [run, after, perform_of_not_fits h, ih, accepted_cons_of_not_fits calls h]

end Encoder

namespace Decoder
open Envelope Source Encoder

/-- What a reader that expects `sequence` gets from the first `p` bytes of the calls' envelopes. -/
def yields (sequence : UInt64) : List Call → Nat → List Decoded
  | [], _ => [.fault .connectionClosed]
  | call :: calls, p =>
    if p = 0 then [.fault .connectionClosed]
    else if p < Envelope.size call.payload then [.fault .truncated]
    else .frame ⟨call.type, sequence, call.payload⟩ ::
      yields (sequence + 1) calls (p - Envelope.size call.payload)

theorem length_encode_eq_size (sequence : UInt64) (call : Call) :
    (Envelope.encode sequence call.type call.payload).length = Envelope.size call.payload := by
  rw [length_encode, size]
  omega

theorem readings_of_fault (n : Nat) {d d' : Decoder} {s u : Source} {fault : FrameFault}
    (h : d.readFrame s = (.fault fault, d', u)) :
    (readings false n d s).map (·.decoded) = [Decoded.fault fault].take n := by
  cases n with
  | zero => rfl
  | succ n => simp [readings, h, Decoded.isFrame]

theorem readings_of_frame (n : Nat) {d d' : Decoder} {s u : Source} {frame : Frame}
    (h : d.readFrame s = (.frame frame, d', u)) :
    (readings false (n + 1) d s).map (·.decoded) =
      .frame frame :: (readings false n d' u).map (·.decoded) := by
  simp [readings, h, Decoded.isFrame]

/-- Encoder and decoder keep step: whatever the schedule of the reads, `n` calls on the cut stream
yield the first `n` results. -/
theorem readings_envelopes (n : Nat) (sequence : UInt64) {calls : List Call} {p : Nat} {s : Source}
    (hcalls : ∀ call ∈ calls, fits call.payload) (hs : s.finish = .eof)
    (hb : s.bytes = (envelopes sequence calls).flatten.take p) :
    (readings false n ⟨sequence⟩ s).map (·.decoded) = (yields sequence calls p).take n := by
  induction calls generalizing n sequence p s with
  | nil =>
    obtain ⟨u, hread⟩ := readFrame_nil ⟨sequence⟩ hs (by simpa [envelopes] using hb)
    exact readings_of_fault n hread
  | cons call calls ih =>
    have hfits : fits call.payload := hcalls call List.mem_cons_self
    have hsize := length_encode_eq_size sequence call
    simp only [envelopes, List.flatten_cons] at hb
    rw [yields]
    by_cases hp : p = 0
    · subst hp
      obtain ⟨u, hread⟩ := readFrame_nil ⟨sequence⟩ hs (by simpa using hb)
      rw [if_pos rfl]
      exact readings_of_fault n hread
    rw [if_neg hp]
    by_cases hcut : p < Envelope.size call.payload
    · rw [List.take_append_of_le_length (by omega)] at hb
      obtain ⟨d', u, hread⟩ :=
        readFrame_cut ⟨sequence⟩ hs hfits (Nat.pos_of_ne_zero hp) (by rwa [hsize]) hb
      rw [if_pos hcut]
      exact readings_of_fault n hread
    rw [if_neg hcut]
    cases n with
    | zero => rfl
    | succ n =>
      rw [List.take_append, List.take_of_length_le (by omega)] at hb
      obtain ⟨u, hread, hat⟩ := readFrame_encode ⟨sequence⟩ hs hb hfits
      have hrest : u.bytes =
          (envelopes (sequence + 1) calls).flatten.take (p - Envelope.size call.payload) := by
        rw [hat.1, hb, List.drop_left, hsize]
      rw [readings_of_frame n hread, List.take_succ_cons,
        ih n (sequence + 1) (fun c hc => hcalls c (List.mem_cons_of_mem _ hc))
          (hat.2.1.trans hs) hrest]

/-- Where the `i`-th envelope of a stream begins; the last offset is the end of the stream. -/
def offset (envelopes : List Bytes) (i : Nat) : Nat := (envelopes.take i).flatten.length

/-- A cut that falls between two envelopes, or at either end. -/
def IsBoundary (envelopes : List Bytes) (p : Nat) : Prop :=
  ∃ i, i ≤ envelopes.length ∧ offset envelopes i = p

instance (envelopes : List Bytes) (p : Nat) : Decidable (IsBoundary envelopes p) :=
  inferInstanceAs (Decidable (∃ i, i ≤ envelopes.length ∧ offset envelopes i = p))

/-- The frames of the calls whose envelope ends within the first `p` bytes. -/
def within (sequence : UInt64) (calls : List Call) (p : Nat) : List Frame :=
  (calls.zipIdx.filter fun c => offset (envelopes sequence calls) (c.2 + 1) ≤ p).map
    fun c => ⟨c.1.type, sequence + UInt64.ofNat c.2, c.1.payload⟩

/-- How a reader of the first `p` bytes ends. -/
def ending (envelopes : List Bytes) (p : Nat) : FrameFault :=
  if IsBoundary envelopes p then .connectionClosed else .truncated

@[simp] theorem offset_zero (envelopes : List Bytes) : offset envelopes 0 = 0 := rfl

theorem offset_cons (envelope : Bytes) (rest : List Bytes) (i : Nat) :
    offset (envelope :: rest) (i + 1) = envelope.length + offset rest i := by
  simp [offset]

theorem isBoundary_cons {envelope : Bytes} {rest : List Bytes} {p : Nat} :
    IsBoundary (envelope :: rest) p ↔
      p = 0 ∨ envelope.length ≤ p ∧ IsBoundary rest (p - envelope.length) := by
  constructor
  · intro h
    obtain ⟨i, hi, hp⟩ := h
    cases i with
    | zero => exact .inl hp.symm
    | succ i =>
      rw [offset_cons] at hp
      exact .inr ⟨by omega, i, Nat.le_of_succ_le_succ hi, by omega⟩
  · intro h
    rcases h with rfl | ⟨hle, i, hi, hp⟩
    · exact ⟨0, Nat.zero_le _, rfl⟩
    · exact ⟨i + 1, Nat.succ_le_succ hi, by rw [offset_cons]; omega⟩

/-- A cut inside the first envelope leaves none whole. -/
theorem within_cons_of_lt {sequence : UInt64} {call : Call} {calls : List Call} {p : Nat}
    (h : p < Envelope.size call.payload) : within sequence (call :: calls) p = [] := by
  have hsize := length_encode_eq_size sequence call
  rw [within, List.map_eq_nil_iff, List.filter_eq_nil_iff]
  intro c _
  rw [envelopes, offset_cons]
  simp only [decide_eq_true_eq, Nat.not_le]
  omega

theorem within_cons_of_le {sequence : UInt64} {call : Call} {calls : List Call} {p : Nat}
    (h : Envelope.size call.payload ≤ p) :
    within sequence (call :: calls) p =
      ⟨call.type, sequence, call.payload⟩ ::
        within (sequence + 1) calls (p - Envelope.size call.payload) := by
  have hsize := length_encode_eq_size sequence call
  have hfirst : offset (envelopes sequence (call :: calls)) (0 + 1) ≤ p := by
    rw [envelopes, offset_cons, offset_zero]
    omega
  have hrest : ∀ i, offset (envelopes sequence (call :: calls)) (i + 1 + 1) ≤ p ↔
      offset (envelopes (sequence + 1) calls) (i + 1) ≤ p - Envelope.size call.payload := by
    intro i
    rw [envelopes, offset_cons]
    omega
  have hnext : ∀ i, sequence + UInt64.ofNat (i + 1) = sequence + 1 + UInt64.ofNat i := by
    intro i
    rw [UInt64.add_assoc, UInt64.ofNat_add, UInt64.add_comm 1]
    rfl
  rw [within, List.zipIdx_cons, List.filter_cons_of_pos (by simpa using hfirst), List.map_cons,
    Nat.zero_add, List.zipIdx_succ, List.filter_map, List.map_map, within]
  simp only [Function.comp_def, hrest, hnext]
  simp

theorem yields_eq {sequence : UInt64} {calls : List Call} {p : Nat}
    (hp : p ≤ (envelopes sequence calls).flatten.length) :
    yields sequence calls p =
      (within sequence calls p).map .frame ++ [.fault (ending (envelopes sequence calls) p)] := by
  induction calls generalizing sequence p with
  | nil =>
    obtain rfl : p = 0 := by simpa [envelopes] using hp
    rfl
  | cons call calls ih =>
    have hsize := length_encode_eq_size sequence call
    have hpos : 0 < Envelope.size call.payload := by
      rw [size]
      omega
    rw [yields]
    by_cases hcut : p < Envelope.size call.payload
    · have hends : IsBoundary (envelopes sequence (call :: calls)) p ↔ p = 0 := by
        rw [envelopes, isBoundary_cons]
        omega
      rw [if_pos hcut, within_cons_of_lt hcut, ending]
      simp only [hends]
      split <;> rfl
    · have hends : ending (envelopes sequence (call :: calls)) p =
          ending (envelopes (sequence + 1) calls) (p - Envelope.size call.payload) := by
        have hiff : IsBoundary (envelopes sequence (call :: calls)) p ↔
            IsBoundary (envelopes (sequence + 1) calls) (p - Envelope.size call.payload) := by
          rw [envelopes, isBoundary_cons, hsize]
          constructor
          · intro h
            rcases h with rfl | ⟨-, h⟩
            · omega
            · exact h
          · intro h
            exact .inr ⟨Nat.not_lt.mp hcut, h⟩
        simp only [ending, hiff]
      have hrest : p - Envelope.size call.payload ≤ (envelopes (sequence + 1) calls).flatten.length := by
        rw [envelopes, List.flatten_cons, List.length_append] at hp
        omega
      rw [if_neg (by omega), if_neg hcut, within_cons_of_le (Nat.not_lt.mp hcut), ih hrest, hends]
      rfl

/-- No envelope is passed over: the frames read carry consecutive sequences. -/
theorem within_sequences (sequence : UInt64) (calls : List Call) (p : Nat) :
    (within sequence calls p).map (·.sequence) =
      (List.range (within sequence calls p).length).map fun i => sequence + UInt64.ofNat i := by
  induction calls generalizing sequence p with
  | nil => rfl
  | cons call calls ih =>
    by_cases hcut : p < Envelope.size call.payload
    · rw [within_cons_of_lt hcut]
      rfl
    · rw [within_cons_of_le (Nat.not_lt.mp hcut), List.map_cons, ih, List.length_cons,
        List.range_succ_eq_map, List.map_cons, List.map_map]
      simp only [Function.comp_def, List.cons.injEq]
      refine ⟨(UInt64.add_zero sequence).symm, List.map_congr_left fun i _ => ?_⟩
      rw [UInt64.add_assoc, Nat.succ_eq_add_one, UInt64.ofNat_add, UInt64.add_comm 1]
      rfl

theorem toNat_zero_add_ofNat {i : Nat} (h : i < 2 ^ 64) : (0 + UInt64.ofNat i).toNat = i := by
  rw [UInt64.zero_add, UInt64.toNat_ofNat']
  exact Nat.mod_eq_of_lt h

/-- The frames read back, with the numbers the accepted calls have in their list. -/
theorem within_map {calls : List Call} (h : calls.length < 2 ^ 64) (p : Nat) :
    (within 0 calls p).map (fun f => (f.type, f.sequence.toNat, f.payload)) =
      (calls.zipIdx.filter fun c => offset (envelopes 0 calls) (c.2 + 1) ≤ p).map
        fun c => (c.1.type, c.2, c.1.payload) := by
  rw [within, List.map_map]
  refine List.map_congr_left fun c hc => ?_
  have hlt : c.2 < calls.length := by
    have hmem := List.mem_zipIdx' (List.mem_filter.mp hc).1
    exact hmem.1
  simp only [Function.comp_apply, toNat_zero_add_ofNat (Nat.lt_trans hlt h)]

theorem length_within_le (sequence : UInt64) (calls : List Call) (p : Nat) :
    (within sequence calls p).length ≤ calls.length := by
  rw [within, List.length_map]
  exact Nat.le_trans (List.length_filter_le _ _) (Nat.le_of_eq List.length_zipIdx)

/-- A fresh encoder, any calls, and a fresh decoder on any first part of what was returned, read in
any pieces: it yields the frames of the accepted calls whose envelope arrived whole, numbered from
zero, and then reports a closed connection after a whole envelope, a truncated one inside. -/
theorem roundTrip (calls : List Call) (h : (accepted calls).length < 2 ^ 64) :
    let returned := (Encoder.run {} calls).2
    (∀ (e : Encoder) call, 1048576 < 1 + call.payload.length →
      e.perform call = .error (.payloadTooLarge call.payload.length) ∧ e.after call = e) ∧
      returned.length = (accepted calls).length ∧
      (Encoder.run {} calls).1.next.toNat = (accepted calls).length ∧
      ∀ p, p ≤ returned.flatten.length → ∀ limit reads, ∃ frames : List Frame,
        frames.map (fun f => (f.type, f.sequence.toNat, f.payload)) =
          ((accepted calls).zipIdx.filter fun c => offset returned (c.2 + 1) ≤ p).map
            (fun c => (c.1.type, c.2, c.1.payload)) ∧
        frames.map (·.sequence.toNat) = List.range frames.length ∧
        ∀ n, (readings false n {} ⟨returned.flatten.take p, .eof, limit, reads⟩).map (·.decoded) =
          (frames.map Decoded.frame ++
            [Decoded.fault (if IsBoundary returned p then .connectionClosed else .truncated)]).take n := by
  intro returned
  have hrun := run_eq {} calls
  have hreturned : returned = envelopes 0 (accepted calls) := congrArg Prod.snd hrun
  refine ⟨?_, ?_, ?_, ?_⟩
  · intro e call hlarge
    have hfits : ¬ fits call.payload := by
      rw [fits, maxBody]
      omega
    have hperform : e.perform call = _ := perform_of_not_fits hfits
    exact ⟨hperform, by rw [after, hperform]⟩
  · rw [hreturned, length_envelopes]
  · rw [hrun]
    exact toNat_zero_add_ofNat h
  · intro p hp limit reads
    rw [hreturned] at hp ⊢
    refine ⟨within 0 (accepted calls) p, within_map h p, ?_, ?_⟩
    · have hsequences := congrArg (List.map UInt64.toNat) (within_sequences 0 (accepted calls) p)
      rw [List.map_map, List.map_map] at hsequences
      refine hsequences.trans ?_
      conv => rhs; rw [← List.map_id (List.range _)]
      refine List.map_congr_left fun i hi => ?_
      have hlt := Nat.lt_of_lt_of_le (List.mem_range.mp hi) (length_within_le 0 (accepted calls) p)
      exact toNat_zero_add_ofNat (Nat.lt_trans hlt h)
    · intro n
      have hyields := yields_eq hp
      rw [ending] at hyields
      rw [← hyields]
      exact readings_envelopes n 0 (fun call hcall => (mem_accepted.mp hcall).2) rfl rfl

theorem roundTrip_cut_in_second :
    let calls := [.parts .healthCheck [1], .frame ⟨.socketData, 9, []⟩]
    (accepted calls).length < 2 ^ 64 ∧
      (readings false 5 {} ⟨(Encoder.run {} calls).2.flatten.take 30, .eof, fun _ => 5, 0⟩).map
        (·.decoded) = [.frame ⟨.healthCheck, 0, [1]⟩, .fault .truncated] := by
  intro calls
  have hlt : (accepted calls).length < 2 ^ 64 := by decide
  refine ⟨hlt, ?_⟩
  obtain ⟨frames, hframes, -, hall⟩ := (roundTrip calls hlt).2.2.2 30 (by decide) (fun _ => 5) 0
  have hone : frames.map (fun f => (f.type, f.sequence.toNat, f.payload)) =
      [(.healthCheck, 0, [1])] := hframes.trans (by decide)
  obtain ⟨⟨type, sequence, payload⟩, rfl, hframe⟩ := List.map_eq_singleton_iff.mp hone
  simp only [Prod.mk.injEq] at hframe
  obtain ⟨rfl, hzero, rfl⟩ := hframe
  obtain rfl : sequence = 0 := UInt64.toNat_inj.mp hzero
  exact (hall 5).trans (by decide)

end Decoder

end TunnelAgent
