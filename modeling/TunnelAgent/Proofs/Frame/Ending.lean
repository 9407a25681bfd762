import TunnelAgent.Proofs.Frame.Grammar

/-! # How a stream ends shows only where its bytes run out

A call of the decoder on a stream that has not ended yet, or will fail, goes as on the same bytes
followed by a clean end, except that it reports the stream's own end where the other reports a
connection closed or a truncated envelope. So a frame is read as soon as its envelope is there, and
what has been reported of the bytes so far holds for the whole stream. -/

namespace TunnelAgent

/-- A read that meets the end meets this one. -/
def ReadResult.meeting (e : StreamEnd) : ReadResult → ReadResult
  | .finished _ => .finished e
  | .data bytes => .data bytes

def FillResult.meeting (e : StreamEnd) : FillResult → FillResult
  | .short _ => .short e
  | .full bytes => .full bytes

namespace Source

/-- The same bytes with another end. -/
def endingIn (e : StreamEnd) (s : Source) : Source := { s with finish := e }

theorem read_endingIn (e : StreamEnd) (want : Nat) (s : Source) :
    (s.endingIn e).read want = ((s.read want).1.meeting e, (s.read want).2.endingIn e) := by
  unfold read
  rw [show (s.endingIn e).bytes = s.bytes from rfl]
  split <;> rfl

theorem fillFrom_endingIn (e : StreamEnd) (steps want : Nat) (got : Bytes) (s : Source) :
    fillFrom steps want got (s.endingIn e) =
      ((fillFrom steps want got s).1.meeting e, (fillFrom steps want got s).2.endingIn e) := by
  induction steps generalizing want got s with
  | zero => cases want <;> rfl
  | succ steps ih =>
    cases want with
    | zero => rfl
    | succ want =>
      simp only [fillFrom, read_endingIn]
      obtain ⟨result, t⟩ := s.read (want + 1)
      cases result with
      | finished _ => rfl
      | data piece => exact ih _ _ t

theorem fill_endingIn (e : StreamEnd) (want : Nat) (s : Source) :
    (s.endingIn e).fill want = ((s.fill want).1.meeting e, (s.fill want).2.endingIn e) :=
  fillFrom_endingIn e want want [] s

/-- A field is there, or the stream ends in it. -/
theorem fill_cases (want : Nat) (s : Source) :
    (∃ bytes t, s.fill want = (.full bytes, t) ∧ t.finish = s.finish) ∨
      ∃ t, s.fill want = (.short s.finish, t) := by
  by_cases h : want ≤ s.bytes.length
  · obtain ⟨t, hfill, hat⟩ := fill_of_le h
    exact .inl ⟨_, t, hfill, hat.2.1⟩
  · obtain ⟨t, hfill, -⟩ := fill_of_lt (Nat.not_le.mp h)
    exact .inr ⟨t, hfill⟩

end Source

/-- What a call yields on a stream with another end, given what it yields before a clean one. -/
def Decoded.meeting (e : StreamEnd) : Decoded → Decoded
  | .fault .connectionClosed => Decoder.outside e
  | .fault .truncated => Decoder.inside e
  | decoded => decoded

namespace Decoder
open Envelope Source

theorem body_meeting (e : StreamEnd) (sequence : UInt64) (bytes : Bytes) :
    (body sequence bytes).meeting e = body sequence bytes := by
  cases bytes with
  | nil => rfl
  | cons b payload =>
    simp only [body]
    split <;> rfl

theorem readBody_endingIn (e : StreamEnd) (sequence : UInt64) {s : Source} (hs : s.finish = .eof) :
    readBody sequence (s.endingIn e) =
      ((readBody sequence s).1.meeting e, (readBody sequence s).2.endingIn e) := by
  simp only [readBody, fill_endingIn]
  rcases s.fill_cases 4 with ⟨length, t, hfill, ht⟩ | ⟨t, hfill⟩
  case inr =>
    rw [hfill, hs]
    rfl
  rw [hfill]
  simp only [FillResult.meeting]
  by_cases hmax : Bytes.ofBig length > maxBody
  · rw [if_pos hmax, if_pos hmax]
    rfl
  rw [if_neg hmax, if_neg hmax, fill_endingIn]
  rcases t.fill_cases (Bytes.ofBig length) with ⟨bytes, u, hfill', -⟩ | ⟨u, hfill'⟩
  · rw [hfill']
    simp only [FillResult.meeting, body_meeting]
  · rw [hfill', ht, hs]
    rfl

theorem readSequence_endingIn (e : StreamEnd) (d : Decoder) {s : Source} (hs : s.finish = .eof) :
    d.readSequence (s.endingIn e) =
      ((d.readSequence s).1.meeting e, (d.readSequence s).2.1, (d.readSequence s).2.2.endingIn e) := by
  simp only [readSequence, fill_endingIn]
  rcases s.fill_cases 8 with ⟨field, t, hfill, ht⟩ | ⟨t, hfill⟩
  case inr =>
    rw [hfill, hs]
    rfl
  rw [hfill]
  simp only [FillResult.meeting]
  split
  · rw [readBody_endingIn e _ (ht.trans hs)]
  · rfl

theorem readMagic_endingIn (e : StreamEnd) (d : Decoder) {s : Source} (hs : s.finish = .eof) :
    d.readMagic (s.endingIn e) =
      ((d.readMagic s).1.meeting e, (d.readMagic s).2.1, (d.readMagic s).2.2.endingIn e) := by
  simp only [readMagic, fill_endingIn]
  rcases s.fill_cases 8 with ⟨field, t, hfill, ht⟩ | ⟨t, hfill⟩
  case inr =>
    rw [hfill, hs]
    rfl
  rw [hfill]
  simp only [FillResult.meeting]
  split
  · exact readSequence_endingIn e d (ht.trans hs)
  · rfl

theorem readFrame_endingIn (e : StreamEnd) (d : Decoder) {s : Source} (hs : s.finish = .eof) :
    d.readFrame (s.endingIn e) =
      ((d.readFrame s).1.meeting e, (d.readFrame s).2.1, (d.readFrame s).2.2.endingIn e) := by
  simp only [readFrame, read_endingIn]
  by_cases hempty : s.bytes = []
  · obtain ⟨t, hread, -⟩ := read_of_nil 1 hempty
    rw [hread, hs]
    rfl
  obtain ⟨n, t, -, -, hread, hat⟩ := read_of_ne_nil Nat.one_pos hempty
  rw [hread]
  simp only [ReadResult.meeting]
  cases s.bytes.take n with
  | nil => rfl
  | cons marker rest =>
    simp only
    split
    · exact readMagic_endingIn e d (hat.2.1.trans hs)
    · rfl

section

variable {d d' : Decoder} {s u : Source}

/-- A call is decided by the same call before a clean end. -/
theorem readFrame_eq (d : Decoder) (s : Source) :
    d.readFrame s =
      ((d.readFrame (s.endingIn .eof)).1.meeting s.finish, (d.readFrame (s.endingIn .eof)).2.1,
        (d.readFrame (s.endingIn .eof)).2.2.endingIn s.finish) :=
  readFrame_endingIn s.finish d (s := s.endingIn .eof) rfl

theorem finish_of_readFrame (d : Decoder) (s : Source) : (d.readFrame s).2.2.finish = s.finish := by
  rw [readFrame_eq]
  rfl

theorem eq_frame_of_meeting {e : StreamEnd} {decoded : Decoded} {frame : Frame}
    (h : decoded.meeting e = .frame frame) : decoded = .frame frame := by
  unfold Decoded.meeting at h
  split at h
  · cases e <;> cases h
  · cases e with
    | fails fault =>
      simp only [inside] at h
      split at h <;> cases h
    | _ => cases h
  · exact h

/-- An envelope that is there is read, whether or not the stream has ended. -/
theorem readFrame_of_envelope {type : FrameType} {payload rest : Bytes}
    (hb : s.bytes = encode d.expected type payload ++ rest) (h : fits payload) :
    ∃ u, d.readFrame s = (.frame ⟨type, d.expected, payload⟩, ⟨d.expected + 1⟩, u) ∧
      s.At (encode d.expected type payload).length u := by
  obtain ⟨u, hread, hbytes, -, hlimit⟩ := readFrame_encode d (s := s.endingIn .eof) rfl hb h
  refine ⟨u.endingIn s.finish, ?_, hbytes, rfl, hlimit⟩
  rw [readFrame_eq, hread]
  rfl

/-- A frame that has been read was the first envelope of the stream. -/
theorem envelope_of_readFrame {frame : Frame} (h : d.readFrame s = (.frame frame, d', u)) :
    fits frame.payload ∧ frame.sequence = d.expected ∧ d' = ⟨d.expected + 1⟩ ∧
      u.finish = s.finish ∧ s.bytes = encode d.expected frame.type frame.payload ++ u.bytes := by
  have hclean : (d.readFrame (s.endingIn .eof)).1 = .frame frame := by
    rw [readFrame_eq] at h
    exact eq_frame_of_meeting (congrArg Prod.fst h)
  cases hfault : firstFault d.expected s.bytes with
  | some fault =>
    obtain ⟨_, _, _, hread, -⟩ := readFrame_fault d (s := s.endingIn .eof) rfl hfault
    rw [hread] at hclean
    cases hclean
  | none =>
    obtain ⟨type, payload, rest, hfits, hb⟩ := firstFault_eq_none_iff.mp hfault
    obtain ⟨t, hread, hbytes, hfinish, -⟩ := readFrame_of_envelope hb hfits
    rw [h] at hread
    cases hread
    refine ⟨hfits, rfl, rfl, hfinish, ?_⟩
    rw [hbytes, hb, List.drop_left]

/-- A call takes a whole envelope off the stream for each frame. -/
theorem length_of_readFrame {frame : Frame} (h : d.readFrame s = (.frame frame, d', u)) :
    s.bytes.length = Envelope.size frame.payload + u.bytes.length := by
  obtain ⟨-, -, -, -, hbytes⟩ := envelope_of_readFrame h
  rw [hbytes, List.length_append, length_encode, size]
  omega

/-- What has been reported of the bytes so far, the bytes to come do not take back. -/
theorem not_envelope_of_fault {fault : FrameFault} (h : d.readFrame s = (.fault fault, d', u))
    (hs : s.finish = .pending) {type : FrameType} {payload more rest : Bytes} (hfits : fits payload) :
    s.bytes ++ more ≠ encode d.expected type payload ++ rest := by
  intro hb
  have hclean := readFrame_eq d s
  rw [h, hs] at hclean
  by_cases hwhole : (encode d.expected type payload).length ≤ s.bytes.length
  · have htake := congrArg (List.take (encode d.expected type payload).length) hb
    rw [List.take_left, List.take_append_of_le_length hwhole] at htake
    obtain ⟨t, hread, -⟩ := readFrame_of_envelope (d := d) (s := s)
      (by rw [← htake, List.take_append_drop]) hfits
    rw [h] at hread
    cases hread
  -- The bytes so far are a part of the envelope: a clean end would cut it, this one is waited for.
  have hpart : s.bytes = (encode d.expected type payload).take s.bytes.length := by
    have htake := congrArg (List.take s.bytes.length) hb
    rwa [List.take_left, List.take_append_of_le_length (by omega)] at htake
  by_cases hempty : s.bytes.length = 0
  · obtain ⟨t, hread⟩ := readFrame_nil d (s := s.endingIn .eof) rfl (List.length_eq_zero_iff.mp hempty)
    rw [hread] at hclean
    cases hclean
  · obtain ⟨_, _, hread⟩ := readFrame_cut d (s := s.endingIn .eof) rfl hfits
      (Nat.pos_of_ne_zero hempty) (Nat.not_le.mp hwhole) hpart
    rw [hread] at hclean
    cases hclean

/-- A call waits for bytes only on a stream that has not ended. -/
theorem finish_of_pending (h : d.readFrame s = (.pending, d', u)) : s.finish = .pending := by
  have hclean := readFrame_eq d s
  rw [h] at hclean
  obtain ⟨hframe | hfault, -⟩ := readFrame_fault_iff d (s := s.endingIn .eof) rfl
  · obtain ⟨frame, hframe⟩ := hframe
    rw [hframe] at hclean
    cases hclean
  · obtain ⟨fault, hfault⟩ := hfault
    rw [hfault] at hclean
    have hmeets := congrArg Prod.fst hclean
    cases hs : s.finish with
    | pending => rfl
    | eof =>
      rw [hs] at hmeets
      unfold Decoded.meeting at hmeets
      split at hmeets <;> cases hmeets
    | fails io =>
      rw [hs] at hmeets
      unfold Decoded.meeting at hmeets
      split at hmeets
      · cases hmeets
      · simp only [inside] at hmeets
        split at hmeets <;> cases hmeets
      · cases hmeets

end

end Decoder

end TunnelAgent
