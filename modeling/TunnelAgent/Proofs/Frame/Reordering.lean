import TunnelAgent.Proofs.Frame.Ending
import TunnelAgent.Proofs.Frame.RoundTrip

/-! # No envelope is passed over, repeated or moved unseen

The envelopes of a run may reach the reader in any selection and order: it takes them as long as
each stands at its own place, and reports the first that does not. On any stream at all the frames
that a persistent reader gets carry increasing numbers, even where it reads on after a fault in the
middle of an envelope. Numbers are 64-bit words: they come again after `2 ^ 64` envelopes. -/

namespace TunnelAgent

namespace Encoder

variable (calls : List Call) (i : Fin calls.length)

/-- The envelope of the call at this place, in a run in which all calls fit. -/
def envelopeAt : Bytes := Envelope.encode (.ofNat i) calls[i].type calls[i].payload

/-- The frame in it. -/
def frameAt : Frame := ⟨calls[i].type, .ofNat i, calls[i].payload⟩

theorem envelopes_eq_ofFn : envelopes 0 calls = List.ofFn (envelopeAt calls) := by
  refine (envelopes_eq_mapIdx 0 calls).trans (List.ext_getElem (by simp) fun i hi hi' => ?_)
  simp [envelopeAt]

end Encoder

/-- The frame that a call has yielded. -/
def Decoded.frame? : Decoded → Option Frame
  | .frame f => some f
  | _ => none

namespace Envelope

/-- An envelope of another sequence fails at its sequence. -/
theorem firstFault_other {sequence expected : UInt64} {b : Bytes}
    (hb : b.take 17 = preface sequence)
    (h : sequence ≠ expected) : firstFault expected b = some (.badSequence expected sequence) := by
  have hpass := firstOf_eq_none_iff.mp (preface_pass_iff.mpr hb)
  simp only [prefaceChecks, List.forall_mem_cons, bne_eq_false_iff_eq] at hpass
  obtain ⟨hempty, hmarker, h9, hmagic, h17, hsequence, -⟩ := hpass
  simp only [firstFault, prefaceChecks, List.cons_append, firstOf_cons, hempty, hmarker, h9, hmagic,
    h17, hsequence, bne_self_eq_false, Bool.false_eq_true, if_false]
  exact if_pos (bne_iff_ne.mpr h)

end Envelope

namespace Decoder
open Envelope Source Encoder

section

variable {d d' : Decoder} {s u : Source}

theorem length_fill_le (want : Nat) (s : Source) :
    (s.fill want).2.bytes.length ≤ s.bytes.length := by
  by_cases h : want ≤ s.bytes.length
  · obtain ⟨t, hfill, hbytes, -⟩ := fill_of_le h
    rw [hfill, hbytes, List.length_drop]
    omega
  · obtain ⟨t, hfill, hbytes, -⟩ := fill_of_lt (Nat.not_le.mp h)
    rw [hfill, hbytes, List.length_drop]
    omega

theorem length_readBody_le (sequence : UInt64) (s : Source) :
    (readBody sequence s).2.bytes.length ≤ s.bytes.length := by
  have hlength := length_fill_le 4 s
  unfold readBody
  split
  · rename_i hfill
    rwa [hfill] at hlength
  · rename_i length t hfill
    rw [hfill] at hlength
    simp only
    split
    · exact hlength
    have hbody := length_fill_le (Bytes.ofBig length) t
    split
    · rename_i hfill'
      rw [hfill'] at hbody
      exact Nat.le_trans hbody hlength
    · rename_i hfill'
      rw [hfill'] at hbody
      exact Nat.le_trans hbody hlength

/-- A call leaves the decoder alone, or has come past a preface of 17 bytes. -/
theorem readFrame_advances (h : d.readFrame s = (decoded, d', u)) :
    (d' = d ∧ u.bytes.length ≤ s.bytes.length) ∨
      d' = ⟨d.expected + 1⟩ ∧ u.bytes.length + 17 ≤ s.bytes.length := by
  rw [readFrame_eq] at h
  cases h
  rcases readFrame_cases d (s := s.endingIn .eof) rfl with
      ⟨fault, n, t, -, hread, hat, -⟩ | ⟨t, -, hread, hat, h17⟩
  · rw [hread]
    refine .inl ⟨rfl, ?_⟩
    rw [show (t.endingIn s.finish).bytes = s.bytes.drop n from hat.1, List.length_drop]
    omega
  · rw [hread]
    refine .inr ⟨rfl, ?_⟩
    have hbody := length_readBody_le d.expected t
    rw [show t.bytes = s.bytes.drop 17 from hat.1, List.length_drop] at hbody
    have h17' : 17 ≤ s.bytes.length := h17
    rw [show ((readBody d.expected t).2.endingIn s.finish).bytes = (readBody d.expected t).2.bytes
      from rfl]
    omega

theorem readFrame_other {sequence : UInt64} {type : FrameType} {payload rest : Bytes}
    (hs : s.finish = .eof) (hb : s.bytes = encode sequence type payload ++ rest)
    (h : sequence ≠ d.expected) :
    ∃ d' u, d.readFrame s = (.fault (.badSequence d.expected sequence), d', u) := by
  have hpreface : s.bytes.take 17 = preface sequence := by
    rw [hb, encode_append]
    exact List.take_left' (length_preface _)
  obtain ⟨d', n, u, hread, -⟩ := readFrame_fault d hs (firstFault_other hpreface h)
  exact ⟨d', u, hread⟩

end

section

variable {calls : List Call}

/-- What a reader of the envelopes at these places ends with, after `kept` of them. -/
def stop (number : Nat) (places : List (Fin calls.length)) (kept : Nat) : FrameFault :=
  places[kept]?.elim .connectionClosed fun i => .badSequence (.ofNat (number + kept)) (.ofNat i)

/-- A reader that expects `number` takes the envelopes that stand at their own places. -/
theorem readings_places (hcalls : ∀ call ∈ calls, fits call.payload) (number : Nat)
    (places : List (Fin calls.length)) :
    ∃ kept, kept ≤ places.length ∧
      (∀ j i, j < kept → places[j]? = some i → UInt64.ofNat i = .ofNat (number + j)) ∧
      (∀ i, places[kept]? = some i → UInt64.ofNat i ≠ .ofNat (number + kept)) ∧
      ∀ n (s : Source), s.finish = .eof → s.bytes = (places.map (envelopeAt calls)).flatten →
        (readings false n ⟨.ofNat number⟩ s).map (·.decoded) =
          ((places.take kept).map (fun i => Decoded.frame (frameAt calls i)) ++
            [Decoded.fault (stop number places kept)]).take n := by
  induction places generalizing number with
  | nil =>
    refine ⟨0, Nat.le_refl _, fun j i hj => absurd hj (Nat.not_lt_zero j), ?_, ?_⟩
    · intro i hi
      cases hi
    · intro n s hs hb
      obtain ⟨u, hread⟩ := readFrame_nil ⟨.ofNat number⟩ hs hb
      exact readings_of_fault n hread
  | cons place places ih =>
    by_cases hplace : UInt64.ofNat place = .ofNat number
    · obtain ⟨kept, hle, hkept, hstop, hreads⟩ := ih (number + 1)
      refine ⟨kept + 1, Nat.succ_le_succ hle, ?_, ?_, ?_⟩
      · intro j i hj hi
        cases j with
        | zero =>
          cases hi
          exact hplace
        | succ j =>
          rw [hkept j i (by omega) hi]
          congr 1
          omega
      · intro i hi
        rw [show number + (kept + 1) = number + 1 + kept by omega]
        exact hstop i hi
      · intro n s hs hb
        have hfits : fits calls[place].payload := hcalls _ (List.getElem_mem _)
        have hfirst : s.bytes = encode (.ofNat number) calls[place].type calls[place].payload ++
            (places.map (envelopeAt calls)).flatten := by
          rw [hb, List.map_cons, List.flatten_cons, envelopeAt, hplace]
        obtain ⟨u, hread, hat⟩ := readFrame_encode ⟨.ofNat number⟩ hs hfirst hfits
        have hrest : u.bytes = (places.map (envelopeAt calls)).flatten := by
          rw [hat.1, hfirst, List.drop_left]
        have hnext : (⟨UInt64.ofNat number + 1⟩ : Decoder) = ⟨.ofNat (number + 1)⟩ := by
          rw [UInt64.ofNat_add]
          rfl
        have hlast : stop number (place :: places) (kept + 1) = stop (number + 1) places kept := by
          rw [stop, stop, List.getElem?_cons_succ,
            show number + (kept + 1) = number + 1 + kept by omega]
        cases n with
        | zero => rfl
        | succ n =>
          rw [readings_of_frame n hread, hnext, hreads n u (hat.2.1.trans hs) hrest, hlast,
            List.take_succ_cons, List.map_cons, List.cons_append, List.take_succ_cons, frameAt,
            hplace]
    · refine ⟨0, Nat.zero_le _, fun j i hj => absurd hj (Nat.not_lt_zero j), ?_, ?_⟩
      · intro i hi
        cases hi
        exact hplace
      · intro n s hs hb
        rw [List.map_cons, List.flatten_cons, envelopeAt] at hb
        obtain ⟨d', u, hread⟩ := readFrame_other (d := ⟨.ofNat number⟩) hs hb hplace
        exact readings_of_fault n hread

/-- With fewer envelopes than numbers, those that carry the expected number are those in place. -/
theorem in_place_of_few {places : List (Fin calls.length)} {kept : Nat} (hle : kept ≤ places.length)
    (hkept : ∀ j i, j < kept → places[j]? = some i → UInt64.ofNat i = .ofNat j)
    (hstop : ∀ i, places[kept]? = some i → UInt64.ofNat i ≠ .ofNat kept)
    (hfew : calls.length < 2 ^ 64) :
    (∀ j i, j < kept → places[j]? = some i → i.val = j) ∧
      ∀ i, places[kept]? = some i → i.val ≠ kept ∧
        (UInt64.ofNat kept).toNat = kept ∧ (UInt64.ofNat i).toNat = i := by
  have hvalue : ∀ k, k ≤ calls.length → (UInt64.ofNat k).toNat = k := fun k hk =>
    UInt64.toNat_ofNat_of_lt' (Nat.lt_of_le_of_lt hk hfew)
  have hplace : ∀ j i, j < kept → j ≤ calls.length → places[j]? = some i → i.val = j := by
    intro j i hj hsmall hi
    have hnumber := congrArg UInt64.toNat (hkept j i hj hi)
    rwa [hvalue _ (Nat.le_of_lt i.isLt), hvalue _ hsmall] at hnumber
  have hshort : kept ≤ calls.length := by
    rw [← Nat.not_lt]
    intro hlong
    have hi := List.getElem?_eq_getElem (Nat.lt_of_lt_of_le hlong hle)
    have hlast := places[calls.length].isLt
    have hout := hplace _ _ hlong (Nat.le_refl _) hi
    omega
  refine ⟨fun j i hj => hplace j i hj (by omega), fun i hi => ⟨?_, hvalue _ hshort, ?_⟩⟩
  · intro heq
    exact hstop i hi (by rw [heq])
  · exact hvalue _ (Nat.le_of_lt i.isLt)

end

/-! ## Reading on after faults -/

section

variable {d : Decoder} {s : Source}

/-- The frames that a reader gets in `n` calls, whether or not there are faults between them. -/
def framesRead (n : Nat) (d : Decoder) (s : Source) : List Frame :=
  (readings true n d s).filterMap (·.decoded.frame?)

/-- The distances of these numbers from the expected one; each costs a call and a preface. -/
structure Ascends (n : Nat) (d : Decoder) (s : Source) (numbers : List Nat) : Prop where
  sequences : (framesRead n d s).map (·.sequence) = numbers.map fun i => d.expected + .ofNat i
  ascending : numbers.Pairwise (· < ·)
  bound : ∀ i ∈ numbers, i < n ∧ 17 * (i + 1) ≤ s.bytes.length

/-- What is read after a frame ascends from the number after the frame's. -/
theorem Ascends.shift {n : Nat} {u : Source} {numbers : List Nat}
    (h : Ascends n ⟨d.expected + 1⟩ u numbers) (hu : u.bytes.length + 17 ≤ s.bytes.length) :
    (framesRead n ⟨d.expected + 1⟩ u).map (·.sequence) =
        (numbers.map (· + 1)).map (fun i => d.expected + .ofNat i) ∧
      (numbers.map (· + 1)).Pairwise (· < ·) ∧
      ∀ i ∈ numbers.map (· + 1), 0 < i ∧ i < n + 1 ∧ 17 * (i + 1) ≤ s.bytes.length := by
  refine ⟨?_, ?_, ?_⟩
  · rw [h.sequences, List.map_map]
    refine List.map_congr_left fun i _ => ?_
    rw [Function.comp_apply, UInt64.ofNat_add, UInt64.add_comm (.ofNat i), ← UInt64.add_assoc]
    rfl
  · rw [List.pairwise_map]
    exact h.ascending.imp Nat.succ_lt_succ
  · intro i hi
    obtain ⟨j, hj, rfl⟩ := List.mem_map.mp hi
    have hbound := h.bound j hj
    omega

theorem exists_ascends (n : Nat) (d : Decoder) (s : Source) : ∃ numbers, Ascends n d s numbers := by
  induction n generalizing d s with
  | zero => exact ⟨[], rfl, List.Pairwise.nil, List.forall_mem_nil _⟩
  | succ n ih =>
    rcases hread : d.readFrame s with ⟨decoded, d', u⟩
    have hsplit : framesRead (n + 1) d s = decoded.frame?.toList ++ framesRead n d' u := by
      cases decoded <;> simp [framesRead, readings, hread, Decoded.frame?]
    obtain ⟨numbers, hnumbers⟩ := ih d' u
    cases decoded with
    | frame frame =>
      obtain ⟨-, hsequence, rfl, -, hbytes⟩ := envelope_of_readFrame hread
      have hlength := length_of_readFrame hread
      rw [Envelope.size, headerSize] at hlength
      obtain ⟨hsequences, hascending, hbound⟩ := hnumbers.shift (s := s) (by omega)
      refine ⟨0 :: numbers.map (· + 1), ?_, ?_, ?_⟩
      · rw [hsplit]
        simp [Decoded.frame?, hsequence, hsequences]
      · exact List.pairwise_cons.mpr ⟨fun i hi => (hbound i hi).1, hascending⟩
      · exact List.forall_mem_cons.mpr ⟨by omega, fun i hi => (hbound i hi).2⟩
    | _ =>
      rcases readFrame_advances hread with ⟨rfl, hlength⟩ | ⟨rfl, hlength⟩
      · refine ⟨numbers, ?_, hnumbers.ascending, fun i hi => ?_⟩
        · rw [hsplit]
          exact hnumbers.sequences
        have hbound := hnumbers.bound i hi
        omega
      · obtain ⟨hsequences, hascending, hbound⟩ := hnumbers.shift hlength
        exact ⟨numbers.map (· + 1), by rw [hsplit]; exact hsequences, hascending,
          fun i hi => (hbound i hi).2⟩

end

/-- From the envelopes of a run in any selection and order a fresh decoder returns the frames of
those that stand at their own places, up to the first that does not; this one it reports with its
own number and the expected one, and the end of the stream if there is none. On any stream, however
often it is called after faults, the frames it returns carry increasing numbers, as long as there
are numbers enough. -/
theorem reordering_detected (calls : List Call) :
    let sent := accepted calls
    (Encoder.run {} calls).2 = List.ofFn (envelopeAt sent) ∧
      (∀ (places : List (Fin sent.length)) limit reads, ∃ kept, kept ≤ places.length ∧
        (∀ j i, j < kept → places[j]? = some i → UInt64.ofNat i = .ofNat j) ∧
        (∀ i, places[kept]? = some i → UInt64.ofNat i ≠ .ofNat kept) ∧
        (sent.length < 2 ^ 64 →
          (∀ j i, j < kept → places[j]? = some i → i.val = j) ∧
          ∀ i, places[kept]? = some i → i.val ≠ kept ∧
            (UInt64.ofNat kept).toNat = kept ∧ (UInt64.ofNat i).toNat = i) ∧
        ∀ n, (readings false n {} ⟨(places.map (envelopeAt sent)).flatten, .eof, limit, reads⟩).map
            (·.decoded) =
          ((places.take kept).map (fun i => Decoded.frame (frameAt sent i)) ++
            [Decoded.fault (places[kept]?.elim .connectionClosed fun i =>
              .badSequence (.ofNat kept) (.ofNat i))]).take n) ∧
      ∀ (s : Source) n, n ≤ 2 ^ 64 ∨ s.bytes.length < 17 * 2 ^ 64 →
        ((framesRead n {} s).map (·.sequence)).Pairwise (· < ·) := by
  intro sent
  refine ⟨?_, fun places limit reads => ?_, fun s n hfew => ?_⟩
  · rw [run_eq]
    exact envelopes_eq_ofFn sent
  · obtain ⟨kept, hle, hkept, hstop, hreads⟩ :=
      readings_places (fun call hcall => (mem_accepted.mp hcall).2) 0 places
    simp only [Nat.zero_add, stop] at hkept hstop hreads
    exact ⟨kept, hle, hkept, hstop, in_place_of_few hle hkept hstop, fun n => hreads n _ rfl rfl⟩
  · obtain ⟨numbers, hnumbers⟩ := exists_ascends n {} s
    have hsequences : (framesRead n {} s).map (·.sequence) = numbers.map .ofNat := by
      simpa using hnumbers.sequences
    have hsmall : ∀ i ∈ numbers, i < 2 ^ 64 := by
      intro i hi
      have hbound := hnumbers.bound i hi
      omega
    rw [hsequences, List.pairwise_map]
    refine hnumbers.ascending.imp_of_mem fun hi hj hlt => ?_
    rwa [UInt64.lt_iff_toNat_lt, UInt64.toNat_ofNat_of_lt' (hsmall _ hi),
      UInt64.toNat_ofNat_of_lt' (hsmall _ hj)]

/-- The last two of three envelopes change places. -/
theorem reordering_detected_of_swap :
    let calls := [Call.parts .healthCheck [1], .parts .healthCheck [2], .parts .healthCheck [3]]
    let places : List (Fin (accepted calls).length) :=
      [⟨0, by decide⟩, ⟨2, by decide⟩, ⟨1, by decide⟩]
    (accepted calls).length < 2 ^ 64 ∧
      (readings false 4 {}
          ⟨(places.map (envelopeAt (accepted calls))).flatten, .eof, fun _ => 1, 0⟩).map (·.decoded) =
        [.frame ⟨.healthCheck, 0, [1]⟩, .fault (.badSequence 1 2)] := by
  intro calls places
  have hfew : (accepted calls).length < 2 ^ 64 := by decide
  obtain ⟨kept, -, -, -, hplaces, hreads⟩ :=
    (reordering_detected calls).2.1 places (fun _ => 1) 0
  obtain ⟨hkept, hstop⟩ := hplaces hfew
  have hone : kept = 1 := by
    rcases kept with - | - | kept
    · exact absurd rfl (hstop _ rfl).1
    · rfl
    · exact absurd (hkept 1 _ (by omega) rfl) (by decide)
  subst hone
  exact ⟨hfew, hreads 4⟩

end Decoder

end TunnelAgent
