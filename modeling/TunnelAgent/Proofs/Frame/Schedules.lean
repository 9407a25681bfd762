import TunnelAgent.Proofs.Frame.Ending

/-! # How the bytes arrive does not show

Two streams with the same bytes before the same end may deliver them in pieces of any size. Each
field is read until it is complete, so a call of the decoder takes the same fields off both, comes
to the same result and leaves them at the same place; calls that go on after a fault start from
there, so a whole series of them cannot tell the two apart. What is left to say is where the end
itself shows: in front of an envelope, or inside one. -/

namespace TunnelAgent

namespace Source

/-- The same bytes before the same end, whatever the two schedules. -/
structure Alike (s t : Source) : Prop where
  bytes : s.bytes = t.bytes
  finish : s.finish = t.finish

section

variable {s t u v : Source}

theorem Alike.onward {n : Nat} (h : s.Alike t) (hs : s.At n u) (ht : t.At n v) : u.Alike v :=
  ⟨by rw [hs.1, ht.1, h.bytes], hs.2.1.trans (h.finish.trans ht.2.1.symm)⟩

theorem Alike.endingIn (h : s.Alike t) (e : StreamEnd) : (s.endingIn e).Alike (t.endingIn e) :=
  ⟨h.bytes, rfl⟩

/-- A field is whole on both streams or cut by the end on both. -/
theorem Alike.fill (want : Nat) (h : s.Alike t) :
    (∃ field u v, s.fill want = (.full field, u) ∧ t.fill want = (.full field, v) ∧ u.Alike v) ∨
      ∃ u v, s.fill want = (.short s.finish, u) ∧ t.fill want = (.short s.finish, v) ∧ u.Alike v := by
  by_cases hwant : want ≤ s.bytes.length
  · obtain ⟨u, hs, hu⟩ := fill_of_le hwant
    obtain ⟨v, ht, hv⟩ := fill_of_le (h.bytes ▸ hwant : want ≤ t.bytes.length)
    rw [← h.bytes] at ht
    exact .inl ⟨_, u, v, hs, ht, h.onward hu hv⟩
  · obtain ⟨u, hs, hu⟩ := fill_of_lt (Nat.not_le.mp hwant)
    obtain ⟨v, ht, hv⟩ := fill_of_lt (h.bytes ▸ Nat.not_le.mp hwant : t.bytes.length < want)
    rw [← h.finish] at ht
    rw [← h.bytes] at hv
    exact .inr ⟨u, v, hs, ht, h.onward hu hv⟩

end

end Source

namespace Decoder
open Envelope Source

section

variable {s t : Source}

theorem readBody_alike (sequence : UInt64) (h : s.Alike t) :
    ∃ decoded u v, readBody sequence s = (decoded, u) ∧ readBody sequence t = (decoded, v) ∧
      u.Alike v := by
  rcases h.fill 4 with ⟨length, u, v, hs, ht, huv⟩ | ⟨u, v, hs, ht, huv⟩
  case inr =>
    exact ⟨inside s.finish, u, v, by simp only [readBody, hs], by simp only [readBody, ht], huv⟩
  by_cases hmax : maxBody < Bytes.ofBig length
  · exact ⟨_, u, v, by simp only [readBody, hs]; exact if_pos hmax,
      by simp only [readBody, ht]; exact if_pos hmax, huv⟩
  rcases huv.fill (Bytes.ofBig length) with ⟨bytes, u', v', hu, hv, huv'⟩ | ⟨u', v', hu, hv, huv'⟩
  · exact ⟨_, u', v', readBody_of_full hs hmax hu, readBody_of_full ht hmax hv, huv'⟩
  · exact ⟨_, u', v', readBody_of_short hs hmax hu, readBody_of_short ht hmax hv, huv'⟩

theorem readSequence_alike (d : Decoder) (h : s.Alike t) :
    ∃ decoded d' u v, d.readSequence s = (decoded, d', u) ∧ d.readSequence t = (decoded, d', v) ∧
      u.Alike v := by
  rcases h.fill 8 with ⟨field, u, v, hs, ht, huv⟩ | ⟨u, v, hs, ht, huv⟩
  case inr =>
    exact ⟨inside s.finish, d, u, v, by simp only [readSequence, hs], by simp only [readSequence, ht], huv⟩
  simp only [readSequence, hs, ht]
  split
  · obtain ⟨decoded, u', v', hu, hv, huv'⟩ := readBody_alike (.ofNat (Bytes.ofBig field)) huv
    exact ⟨decoded, _, u', v', by rw [hu], by rw [hv], huv'⟩
  · exact ⟨_, d, u, v, rfl, rfl, huv⟩

theorem readMagic_alike (d : Decoder) (h : s.Alike t) :
    ∃ decoded d' u v, d.readMagic s = (decoded, d', u) ∧ d.readMagic t = (decoded, d', v) ∧
      u.Alike v := by
  rcases h.fill 8 with ⟨field, u, v, hs, ht, huv⟩ | ⟨u, v, hs, ht, huv⟩
  case inr =>
    exact ⟨inside s.finish, d, u, v, by simp only [readMagic, hs], by simp only [readMagic, ht], huv⟩
  simp only [readMagic, hs, ht]
  split
  · exact readSequence_alike d huv
  · exact ⟨_, d, u, v, rfl, rfl, huv⟩

/-- One call comes to the same result on both streams, expects the same sequence next and leaves the
same bytes. -/
theorem readFrame_alike (d : Decoder) (h : s.Alike t) :
    ∃ decoded d' u v, d.readFrame s = (decoded, d', u) ∧ d.readFrame t = (decoded, d', v) ∧
      u.Alike v := by
  by_cases hempty : s.bytes = []
  · obtain ⟨u, hs, hu⟩ := read_of_nil 1 hempty
    obtain ⟨v, ht, hv⟩ := read_of_nil 1 (h.bytes ▸ hempty : t.bytes = [])
    rw [← h.finish] at ht
    exact ⟨outside s.finish, d, u, v, by simp only [readFrame, hs], by simp only [readFrame, ht],
      h.onward hu hv⟩
  obtain ⟨n, u, hpos, hle, hs, hu⟩ := read_of_ne_nil Nat.one_pos hempty
  obtain ⟨m, v, hpos', hle', ht, hv⟩ := read_of_ne_nil Nat.one_pos (h.bytes ▸ hempty : t.bytes ≠ [])
  -- A read for one byte yields that byte under every schedule.
  obtain rfl : n = 1 := by omega
  obtain rfl : m = 1 := by omega
  obtain ⟨marker, rest, hb⟩ := List.exists_cons_of_ne_nil hempty
  rw [hb] at hs
  rw [← h.bytes, hb] at ht
  simp only [readFrame, hs, ht, List.take_succ_cons, List.take_zero]
  split
  · exact readMagic_alike d (h.onward hu hv)
  · exact ⟨_, d, u, v, rfl, rfl, h.onward hu hv⟩

/-- What a call yields lies in the bytes and the end of the stream alone. -/
theorem decoded_congr (d : Decoder) (h : s.Alike t) : (d.readFrame s).1 = (d.readFrame t).1 := by
  obtain ⟨decoded, d', u, v, hs, ht, -⟩ := readFrame_alike d h
  rw [hs, ht]

end

/-- What the caller sees of a call: its result, the sequence expected after it and the number of
bytes it took. -/
structure Shown where
  decoded : Decoded
  expected : UInt64
  taken : Nat
  deriving DecidableEq

/-- What a series of calls shows, the first of them made on `s`. -/
def shown : Source → List Reading → List Shown
  | _, [] => []
  | s, r :: rest =>
    ⟨r.decoded, r.decoder.expected, s.bytes.length - r.source.bytes.length⟩ :: shown r.source rest

/-- One call for each of `ends`, made whatever the calls before it came to: a call that runs out of
bytes meets its own end, so that a stream may fail in another way each time. -/
def calls : List StreamEnd → Decoder → Source → List Reading
  | [], _, _ => []
  | e :: ends, d, s =>
    let (decoded, d, s) := d.readFrame (s.endingIn e)
    ⟨decoded, d, s⟩ :: calls ends d s

/-- A reader that goes on after faults is one whose calls all meet the stream's end. -/
theorem readings_eq_calls (n : Nat) (d : Decoder) (s : Source) :
    readings true n d s = calls (List.replicate n s.finish) d s := by
  induction n generalizing d s with
  | zero => rfl
  | succ n ih =>
    have hrest := ih (d.readFrame s).2.1 (d.readFrame s).2.2
    rw [finish_of_readFrame] at hrest
    rw [List.replicate_succ, calls, readings, show s.endingIn s.finish = s from rfl]
    simp only [Bool.true_or, if_true, hrest]

theorem shown_calls_alike {s t : Source} (ends : List StreamEnd) (d : Decoder) (h : s.Alike t) :
    shown s (calls ends d s) = shown t (calls ends d t) := by
  induction ends generalizing d s t with
  | nil => rfl
  | cons e ends ih =>
    obtain ⟨decoded, d', u, v, hs, ht, huv⟩ := readFrame_alike d (h.endingIn e)
    simp only [calls, shown, hs, ht, h.bytes, huv.bytes]
    rw [ih d' huv]

/-! ## Where the end of the stream shows -/

theorem firstFault_eq_connectionClosed_iff {expected : UInt64} {b : Bytes} :
    firstFault expected b = some .connectionClosed ↔ b = [] := by
  constructor
  · intro h
    obtain ⟨check, hfind, hfault⟩ := Option.map_eq_some_iff.mp h
    have hfailed := List.find?_some hfind
    have hmem := List.mem_of_find?_eq_some hfind
    simp only [prefaceChecks, bodyChecks, List.mem_append, List.mem_cons, List.not_mem_nil,
      or_false] at hmem
    rcases hmem with (rfl | rfl | rfl | rfl | rfl | rfl) | (rfl | rfl | rfl | rfl | rfl)
    case inl.inl => exact List.isEmpty_iff.mp hfailed
    all_goals cases hfault
  · intro h
    subst h
    rfl

/-- The checks report no failure of the stream below. -/
theorem firstFault_ne_io (expected : UInt64) (b : Bytes) (fault : IoFault) :
    firstFault expected b ≠ some (.io fault) := by
  intro h
  obtain ⟨check, hfind, hfault⟩ := Option.map_eq_some_iff.mp h
  have hmem := List.mem_of_find?_eq_some hfind
  simp only [prefaceChecks, bodyChecks, List.mem_append, List.mem_cons, List.not_mem_nil,
    or_false] at hmem
  rcases hmem with (rfl | rfl | rfl | rfl | rfl | rfl) | (rfl | rfl | rfl | rfl | rfl)
  all_goals cases hfault

theorem meeting_eq_io_iff {decoded : Decoded} {fault : IoFault} (h : decoded ≠ .fault (.io fault)) :
    decoded.meeting (.fails fault) = .fault (.io fault) ↔
      decoded = .fault .connectionClosed ∨
        decoded = .fault .truncated ∧ fault.kind ≠ .unexpectedEof := by
  unfold Decoded.meeting
  split
  · simp [outside]
  · by_cases hkind : fault.kind = .unexpectedEof <;> simp [inside, hkind]
  · simp_all

theorem meeting_eq_truncated_iff {decoded : Decoded} {fault : IoFault} :
    decoded.meeting (.fails fault) = .fault .truncated ↔
      decoded = .fault .truncated ∧ fault.kind = .unexpectedEof := by
  unfold Decoded.meeting
  split
  · simp [outside]
  · by_cases hkind : fault.kind = .unexpectedEof <;> simp [inside, hkind]
  · simp_all

/-- A failing stream shows in front of an envelope as it is, whatever its kind; inside one, a failure
of the kind of an early end counts as one. -/
theorem readFrame_fails (d : Decoder) (b : Bytes) (fault : IoFault) (limit : Nat → Nat)
    (reads : Nat) :
    let out := d.readFrame ⟨b, .fails fault, limit, reads⟩
    (out.1 = .fault (.io fault) ↔
        b = [] ∨ firstFault d.expected b = some .truncated ∧ fault.kind ≠ .unexpectedEof) ∧
      (out.1 = .fault .truncated ↔
        firstFault d.expected b = some .truncated ∧ fault.kind = .unexpectedEof) := by
  intro out
  obtain ⟨-, hfault⟩ := readFrame_fault_iff d (s := ⟨b, .eof, limit, reads⟩) rfl
  have hmeets : out.1 = (d.readFrame ⟨b, .eof, limit, reads⟩).1.meeting (.fails fault) :=
    congrArg Prod.fst (readFrame_endingIn (.fails fault) d (s := ⟨b, .eof, limit, reads⟩) rfl)
  have hio : (d.readFrame ⟨b, .eof, limit, reads⟩).1 ≠ .fault (.io fault) :=
    fun h => firstFault_ne_io _ _ _ ((hfault _).mp h)
  rw [hmeets, meeting_eq_io_iff hio, meeting_eq_truncated_iff, hfault, hfault,
    firstFault_eq_connectionClosed_iff]
  exact ⟨Iff.rfl, Iff.rfl⟩

/-- A field that the stream begins with. -/
theorem fill_append {s : Source} {field rest : Bytes} {n : Nat} (hn : field.length = n)
    (h : s.bytes = field ++ rest) : ∃ t, s.fill n = (.full field, t) ∧ t.bytes = rest := by
  subst hn
  have hlen : field.length ≤ s.bytes.length := by simp [h]
  obtain ⟨t, hfill, hat⟩ := fill_of_le hlen
  refine ⟨t, ?_, ?_⟩
  · rw [hfill, h, List.take_left]
  · rw [hat.1, h, List.drop_left]

/-- Where a stream stands once the fields up to the length of the body have been read. -/
def afterLength (s : Source) : Source :=
  ((((s.read 1).2.fill 8).2.fill 8).2.fill 4).2

/-- A body of no bytes is not read for. -/
theorem readFrame_emptyBody (d : Decoder) (rest : Bytes) (e : StreamEnd) (limit : Nat → Nat)
    (reads : Nat) :
    let s : Source := ⟨preface d.expected ++ (Bytes.big 4 0 ++ rest), e, limit, reads⟩
    d.readFrame s = (.fault .emptyBody, ⟨d.expected + 1⟩, afterLength s) ∧
      (afterLength s).bytes = rest := by
  intro s
  have hs : s.bytes = startMarker :: (magic ++ (Bytes.big 8 d.expected.toNat ++
      (Bytes.big 4 0 ++ rest))) := by
    simp [s, preface]
  obtain ⟨n, t, hpos, hle, hmarker, ht⟩ := read_of_ne_nil (s := s) Nat.one_pos (by simp [hs])
  obtain rfl : n = 1 := by omega
  have htail := ht.1
  rw [hs] at hmarker htail
  obtain ⟨u, hmagic, hu⟩ := fill_append (n := 8) rfl htail
  obtain ⟨v, hsequence, hv⟩ := fill_append (Bytes.length_big 8 _) hu
  obtain ⟨w, hlength, hw⟩ := fill_append (Bytes.length_big 4 _) hv
  have hafter : afterLength s = w := by rw [afterLength, hmarker, hmagic, hsequence, hlength]
  have hexpected : UInt64.ofNat (Bytes.ofBig (Bytes.big 8 d.expected.toNat)) = d.expected := by
    rw [Bytes.ofBig_big, Nat.mod_eq_of_lt (show d.expected.toNat < Bytes.words 8 from d.expected.toNat_lt)]
    exact UInt64.ofNat_toNat
  refine ⟨?_, by rw [hafter, hw]⟩
  rw [hafter]
  simp only [readFrame, hmarker, List.take_succ_cons, List.take_zero, if_true, readMagic, hmagic,
    readSequence, hsequence, hexpected]
  rw [readBody_of_full hlength (by decide) rfl]
  rfl

/-- No schedule of reads changes what a series of calls shows, whether or not they go on after
faults and however the stream fails in the meantime. The end shows where the bytes run out, as the
failure itself in front of an envelope, and a body of no bytes is refused once its length is there. -/
theorem schedule_does_not_show (d : Decoder) (b : Bytes) (e : StreamEnd) (limit : Nat → Nat)
    (reads : Nat) :
    let s : Source := ⟨b, e, limit, reads⟩
    let whole : Source := { bytes := b, finish := e }
    (∀ n, shown s (readings true n d s) = shown whole (readings true n d whole)) ∧
      (∀ ends, shown s (calls ends d s) = shown whole (calls ends d whole)) ∧
      (∀ fault,
        let out := d.readFrame ⟨b, .fails fault, limit, reads⟩
        (out.1 = .fault (.io fault) ↔
            b = [] ∨ firstFault d.expected b = some .truncated ∧ fault.kind ≠ .unexpectedEof) ∧
          (out.1 = .fault .truncated ↔
            firstFault d.expected b = some .truncated ∧ fault.kind = .unexpectedEof)) ∧
      ∀ rest,
        let s : Source := ⟨preface d.expected ++ (Bytes.big 4 0 ++ rest), e, limit, reads⟩
        d.readFrame s = (.fault .emptyBody, ⟨d.expected + 1⟩, afterLength s) ∧
          (afterLength s).bytes = rest := by
  intro s whole
  have halike : s.Alike whole := ⟨rfl, rfl⟩
  refine ⟨fun n => ?_, fun ends => shown_calls_alike ends d halike,
    fun fault => readFrame_fails d b fault limit reads,
    fun rest => readFrame_emptyBody d rest e limit reads⟩
  rw [readings_eq_calls, readings_eq_calls]
  exact shown_calls_alike _ d halike

/-- A stray byte, an envelope and the end, byte by byte. -/
example :
    let s : Source := ⟨0x2B :: Envelope.encode 0 .healthCheck [1], .eof, fun _ => 1, 0⟩
    shown s (readings true 3 {} s) =
      [⟨.fault (.badStartMarker 0x2B), 0, 1⟩, ⟨.frame ⟨.healthCheck, 0, [1]⟩, 1, 23⟩,
        ⟨.fault .connectionClosed, 1, 0⟩] := by decide

end Decoder

end TunnelAgent
