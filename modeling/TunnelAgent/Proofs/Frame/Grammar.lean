import Mathlib.Algebra.Group.Nat.Defs
import TunnelAgent.Proofs.Frame.Checks

/-! # The decoder accepts exactly what the encoder writes

All checks pass on a stream if and only if it begins with an envelope of the expected sequence.
The main statement gives, for every stream that ends, what one call returns, what it takes off the
stream, and when the sequence moves on. -/

namespace TunnelAgent

theorem FrameType.ofCode?_eq_some_iff {b : UInt8} {type : FrameType} :
    ofCode? b = some type ↔ type.code = b := by
  constructor
  · intro h
    simpa using List.find?_some h
  · intro h
    subst h
    cases type <;> rfl

namespace Bytes

theorem slice_append {a field rest : Bytes} {i n : Nat} (hi : a.length = i) (hn : field.length = n) :
    slice (a ++ (field ++ rest)) i n = field := by
  subst hi hn
  rw [slice, List.drop_left, List.take_left]

theorem slice_take {b : Bytes} {i n q : Nat} (h : i + n ≤ q) :
    slice (b.take q) i n = b.slice i n := by
  rw [slice, slice, List.drop_take, List.take_take, Nat.min_eq_left (by omega)]

theorem length_slice {b : Bytes} {i n : Nat} (h : i + n ≤ b.length) : (b.slice i n).length = n := by
  rw [slice, List.length_take, List.length_drop]
  omega

/-- The first bytes, and the field after them. -/
theorem take_add_slice (b : Bytes) (i n : Nat) : b.take (i + n) = b.take i ++ b.slice i n :=
  List.take_add

/-- A field that holds a number is the form of that number. -/
theorem big_ofBig_slice {b : Bytes} {i n : Nat} (h : i + n ≤ b.length) :
    big n (ofBig (b.slice i n)) = b.slice i n := by
  have hbig := big_ofBig (b.slice i n)
  rwa [length_slice h] at hbig

theorem ofBig_slice_lt {b : Bytes} {i n : Nat} (h : i + n ≤ b.length) :
    ofBig (b.slice i n) < words n := by
  have hlt := ofLittle_lt (b.slice i n).reverse
  rwa [List.length_reverse, length_slice h] at hlt

end Bytes

namespace Envelope
open Bytes

/-- Marker, magic and sequence. -/
def preface (sequence : UInt64) : Bytes := startMarker :: (magic ++ big 8 sequence.toNat)

theorem length_preface (sequence : UInt64) : (preface sequence).length = 17 := by
  simp [preface, magic]

/-- An envelope field by field, in front of what follows it. -/
theorem encode_append (sequence : UInt64) (type : FrameType) (payload rest : Bytes) :
    encode sequence type payload ++ rest =
      preface sequence ++ (big 4 (payload.length + 1) ++ (type.code :: (payload ++ rest))) := by
  simp [encode, header, preface]

theorem length_encode (sequence : UInt64) (type : FrameType) (payload : Bytes) :
    (encode sequence type payload).length = headerSize + (payload.length + 1) := by
  simp only [encode, header, magic, headerSize, List.length_append, List.length_cons, length_big,
    List.length_nil]

theorem preface_pass_iff {expected : UInt64} {b : Bytes} :
    firstOf (prefaceChecks expected b) = none ↔ b.take 17 = preface expected := by
  rw [firstOf_eq_none_iff]
  simp only [prefaceChecks, List.forall_mem_cons, List.isEmpty_eq_false_iff, bne_eq_false_iff_eq,
    decide_eq_false_iff_not, Nat.not_lt]
  constructor
  · intro h
    obtain ⟨hempty, hmarker, -, hmagic, h17, hsequence, -⟩ := h
    have hvalue : ofBig (b.slice 9 8) = expected.toNat := by
      rw [← hsequence, sequenceOf, UInt64.toNat_ofNat']
      exact (Nat.mod_eq_of_lt (ofBig_slice_lt h17)).symm
    have hfirst : b.take 1 = [startMarker] := by
      obtain ⟨marker, rest, rfl⟩ := List.exists_cons_of_ne_nil hempty
      rw [← hmarker]
      rfl
    have hfield : b.slice 9 8 = big 8 expected.toNat := by
      rw [← hvalue, big_ofBig_slice h17]
    rw [show 17 = 1 + 8 + 8 from rfl, take_add_slice, take_add_slice, hfirst, hmagic, hfield]
    rfl
  · intro h
    have hb : b = preface expected ++ b.drop 17 := by rw [← h, List.take_append_drop]
    have h17 : 17 ≤ b.length := by
      have hlen := congrArg List.length h
      rw [length_preface, List.length_take] at hlen
      omega
    have hsequence : b.slice 9 8 = big 8 expected.toNat := by
      rw [hb, preface, show startMarker :: (magic ++ big 8 expected.toNat) ++ b.drop 17 =
        (startMarker :: magic) ++ (big 8 expected.toNat ++ b.drop 17) by simp]
      exact slice_append rfl (length_big 8 _)
    have hmagic : b.slice 1 8 = magic := by
      rw [hb, preface, show startMarker :: (magic ++ big 8 expected.toNat) ++ b.drop 17 =
        [startMarker] ++ (magic ++ (big 8 expected.toNat ++ b.drop 17)) by simp]
      exact slice_append rfl rfl
    have hmarker : b.headD 0 = startMarker := by
      rw [hb]
      rfl
    have hvalue : sequenceOf b = expected := by
      rw [sequenceOf, hsequence, ofBig_big,
        Nat.mod_eq_of_lt (show expected.toNat < words 8 from expected.toNat_lt)]
      exact UInt64.ofNat_toNat
    refine ⟨?_, hmarker, Nat.le_trans (by decide) h17, hmagic, h17, hvalue, by simp⟩
    rw [← List.length_pos_iff]
    omega

/-- The fields of an envelope that has been written, whatever follows it. -/
theorem fields_encode (sequence : UInt64) (type : FrameType) {payload : Bytes} (rest : Bytes)
    (h : fits payload) :
    lengthOf (encode sequence type payload ++ rest) = payload.length + 1 ∧
      typeByte (encode sequence type payload ++ rest) = type.code ∧
      slice (encode sequence type payload ++ rest) (headerSize + 1) payload.length = payload := by
  rw [encode_append]
  refine ⟨?_, ?_, ?_⟩
  · have hlt : payload.length + 1 < words 4 := Nat.lt_of_le_of_lt h (by decide)
    rw [lengthOf, slice_append (length_preface _) (length_big 4 _), ofBig_big, Nat.mod_eq_of_lt hlt]
  · have hdrop : List.drop headerSize (preface sequence ++
        (big 4 (payload.length + 1) ++ (type.code :: (payload ++ rest)))) =
          type.code :: (payload ++ rest) := by
      rw [← List.append_assoc]
      exact List.drop_left' (by simp [length_preface, headerSize])
    rw [typeByte, hdrop]
    rfl
  · rw [show preface sequence ++ (big 4 (payload.length + 1) ++ (type.code :: (payload ++ rest))) =
      (preface sequence ++ (big 4 (payload.length + 1) ++ [type.code])) ++ (payload ++ rest) by simp]
    exact slice_append (by simp [length_preface, headerSize]) rfl

theorem firstFault_encode (sequence : UInt64) (type : FrameType) {payload : Bytes} (rest : Bytes)
    (h : fits payload) : firstFault sequence (encode sequence type payload ++ rest) = none := by
  obtain ⟨hlength, htype, -⟩ := fields_encode sequence type rest h
  have hpreface : (encode sequence type payload ++ rest).take 17 = preface sequence := by
    rw [encode_append]
    exact List.take_left' (length_preface _)
  have hcode : FrameType.ofCode? type.code = some type := FrameType.ofCode?_eq_some_iff.mpr rfl
  rw [firstFault_eq, preface_pass_iff.mpr hpreface, Option.none_or, firstOf_eq_none_iff]
  simp only [bodyChecks, List.forall_mem_cons, hlength, htype, hcode, List.length_append,
    length_encode, decide_eq_false_iff_not]
  refine ⟨by omega, Nat.not_lt.mpr h, by omega, rfl, rfl, by simp⟩

/-- A stream on which every check passes begins with an envelope. -/
theorem take_eq_encode {sequence : UInt64} {b : Bytes} {type : FrameType}
    (hpreface : b.take 17 = preface sequence) (htype : FrameType.ofCode? (typeByte b) = some type)
    (hlen : headerSize + lengthOf b ≤ b.length) (hpos : 0 < lengthOf b) :
    b.take (headerSize + lengthOf b) =
      encode sequence type (b.slice (headerSize + 1) (lengthOf b - 1)) := by
  obtain ⟨n, hn⟩ : ∃ n, lengthOf b = n + 1 := ⟨lengthOf b - 1, by omega⟩
  rw [hn] at hlen ⊢
  have hlength : b.slice 17 4 = big 4 (n + 1) := by
    rw [← hn, lengthOf, big_ofBig_slice (Nat.le_trans (Nat.le_add_right _ _) hlen)]
  have hcode : b.slice headerSize 1 = [type.code] := by
    obtain ⟨first, rest, hb⟩ := List.exists_cons_of_ne_nil
      (show b.drop headerSize ≠ [] by rw [Ne, List.drop_eq_nil_iff]; omega)
    rw [FrameType.ofCode?_eq_some_iff.mp htype, typeByte, slice, hb]
    rfl
  have hpayload : (b.slice (headerSize + 1) n).length = n := length_slice (by omega)
  rw [show headerSize + (n + 1) = 17 + 4 + 1 + n by rw [headerSize]; omega, take_add_slice,
    take_add_slice, take_add_slice, hpreface, hlength, show 17 + 4 = headerSize from rfl, hcode,
    Nat.add_sub_cancel, ← List.append_nil (encode _ _ _), encode_append, hpayload]
  simp

/-- Every check passes on the streams that begin with an envelope, and on no others. -/
theorem firstFault_eq_none_iff {sequence : UInt64} {b : Bytes} :
    firstFault sequence b = none ↔
      ∃ type payload rest, fits payload ∧ b = encode sequence type payload ++ rest := by
  constructor
  · intro h
    rw [firstFault_eq, Option.or_eq_none_iff, preface_pass_iff, firstOf_eq_none_iff] at h
    obtain ⟨hpreface, hbody⟩ := h
    simp only [bodyChecks, List.forall_mem_cons, decide_eq_false_iff_not, Nat.not_lt] at hbody
    obtain ⟨-, hmax, hlen, hzero, hnone, -⟩ := hbody
    obtain ⟨type, htype⟩ := Option.isSome_iff_exists.mp (Option.isNone_eq_false_iff.mp hnone)
    have hpos : 0 < lengthOf b := Nat.pos_of_ne_zero (by simpa using hzero)
    refine ⟨type, b.slice (headerSize + 1) (lengthOf b - 1), b.drop (headerSize + lengthOf b), ?_, ?_⟩
    · rw [fits, length_slice (by omega)]
      omega
    · rw [← take_eq_encode hpreface htype hlen hpos, List.take_append_drop]
  · intro h
    obtain ⟨type, payload, rest, h, rfl⟩ := h
    exact firstFault_encode sequence type rest h

/-- An envelope cut anywhere inside is truncated, whichever field the cut falls into. -/
theorem firstFault_take {sequence : UInt64} {b : Bytes} {q : Nat} (h : firstFault sequence b = none)
    (hpos : 0 < q) (hq : q < headerSize + lengthOf b) :
    firstFault sequence (b.take q) = some .truncated := by
  rw [firstFault, firstOf_eq_none_iff] at h
  simp only [prefaceChecks, bodyChecks, List.cons_append, List.nil_append, List.forall_mem_cons,
    List.isEmpty_eq_false_iff, bne_eq_false_iff_eq, decide_eq_false_iff_not, Nat.not_lt] at h
  obtain ⟨hne, hmarker, -, hmagic, -, hsequence, -, hmax, hlen, -⟩ := h
  have hlength : (b.take q).length = q := by
    rw [List.length_take]
    omega
  have hhead : (b.take q).headD 0 = startMarker ∧ (b.take q).isEmpty = false := by
    obtain ⟨first, rest, rfl⟩ := List.exists_cons_of_ne_nil hne
    obtain ⟨q, rfl⟩ : ∃ k, q = k + 1 := ⟨q - 1, by omega⟩
    exact ⟨hmarker, rfl⟩
  simp only [firstFault, prefaceChecks, bodyChecks, List.cons_append, List.nil_append, firstOf_cons,
    hlength, hhead, bne_self_eq_false, decide_eq_true_eq, Bool.false_eq_true, if_false]
  by_cases h9 : q < 9
  · rw [if_pos h9]
  rw [if_neg h9, slice_take (Nat.not_lt.mp h9), hmagic, if_neg (by simp)]
  by_cases h17 : q < 17
  · rw [if_pos h17]
  have hfield : sequenceOf (b.take q) = sequence := by
    rw [sequenceOf, slice_take (Nat.not_lt.mp h17)]
    exact hsequence
  rw [if_neg h17, hfield, if_neg (by simp)]
  by_cases hheader : q < headerSize
  · rw [if_pos hheader]
  have hcount : lengthOf (b.take q) = lengthOf b := by
    rw [lengthOf, slice_take (Nat.not_lt.mp hheader), lengthOf]
  rw [if_neg hheader, hcount, if_neg (Nat.not_lt.mpr hmax), if_pos hq]

end Envelope

theorem Encoder.encode_eq_ok_iff {e : Encoder} {type : FrameType} {payload bytes : Bytes} :
    (∃ e', e.encode type payload = .ok (bytes, e')) ↔
      Envelope.fits payload ∧ bytes = Envelope.encode e.next type payload := by
  unfold encode
  constructor
  · intro h
    obtain ⟨e', h⟩ := h
    split at h
    · cases h
      exact ⟨‹_›, rfl⟩
    · cases h
  · intro h
    obtain ⟨hfits, rfl⟩ := h
    exact ⟨⟨e.next + 1⟩, if_pos hfits⟩

namespace Decoder
open Envelope Source

/-- An envelope of the expected sequence is read whole, and nothing after it. -/
theorem readFrame_encode (d : Decoder) {s : Source} {type : FrameType} {payload rest : Bytes}
    (hs : s.finish = .eof) (hb : s.bytes = encode d.expected type payload ++ rest)
    (h : fits payload) :
    ∃ u, d.readFrame s = (.frame ⟨type, d.expected, payload⟩, ⟨d.expected + 1⟩, u) ∧
      s.At (encode d.expected type payload).length u := by
  obtain ⟨hlength, htype, hpayload⟩ := fields_encode d.expected type rest h
  have hpass := firstFault_encode d.expected type rest h
  rw [← hb] at hlength htype hpayload hpass
  rw [firstFault_eq, Option.or_eq_none_iff] at hpass
  rcases readFrame_cases d hs with ⟨fault, n, u, hfault, -⟩ | ⟨t, -, hread, hat, h17⟩
  · rw [hpass.1] at hfault
    cases hfault
  rcases readBody_cases d.expected hs hat h17 with
      ⟨fault, n, u, hfault, -⟩ | ⟨type', u, -, htype', hbody, hat', -⟩
  · rw [hpass.2] at hfault
    cases hfault
  rw [htype, FrameType.ofCode?_eq_some_iff.mpr rfl, Option.some.injEq] at htype'
  subst htype'
  refine ⟨u, ?_, ?_⟩
  · rw [hread, hbody, hlength, Nat.add_sub_cancel, hpayload]
  · rwa [length_encode, ← hlength]

/-- A stream on which a check fails gives the fault of the first that does. -/
theorem readFrame_fault (d : Decoder) {s : Source} {fault : FrameFault} (hs : s.finish = .eof)
    (h : firstFault d.expected s.bytes = some fault) :
    ∃ d' n u, d.readFrame s = (.fault fault, d', u) ∧ s.At n u ∧ n ≤ s.bytes.length := by
  rw [firstFault_eq] at h
  rcases readFrame_cases d hs with ⟨fault', n, u, hfault, hread, hat, hn⟩ | ⟨t, hpass, hread, hat, h17⟩
  · rw [hfault, Option.some_or, Option.some.injEq] at h
    subst h
    exact ⟨d, n, u, hread, hat, hn⟩
  rw [hpass, Option.none_or] at h
  rcases readBody_cases d.expected hs hat h17 with
      ⟨fault', n, u, hfault, hbody, hat', hn⟩ | ⟨type, u, hpass', -⟩
  · rw [hfault, Option.some.injEq] at h
    subst h
    exact ⟨⟨d.expected + 1⟩, n, u, by rw [hread, hbody], hat', hn⟩
  · rw [hpass'] at h
    cases h

theorem readFrame_expected (d : Decoder) {s : Source} (hs : s.finish = .eof) :
    (d.readFrame s).2.1.expected =
      if s.bytes.take 17 = preface d.expected then d.expected + 1 else d.expected := by
  rcases readFrame_cases d hs with ⟨fault, n, u, hfault, hread, -⟩ | ⟨t, hpass, hread, -⟩
  · have hfail : s.bytes.take 17 ≠ preface d.expected := by
      rw [Ne, ← preface_pass_iff, hfault]
      simp
    rw [hread, if_neg hfail]
  · rw [hread, if_pos (preface_pass_iff.mp hpass)]

/-- What a call takes off the stream is at its front. -/
theorem readFrame_bytes (d : Decoder) {s : Source} (hs : s.finish = .eof) :
    ∃ n, n ≤ s.bytes.length ∧ (d.readFrame s).2.2.bytes = s.bytes.drop n := by
  cases hfault : firstFault d.expected s.bytes with
  | some fault =>
    obtain ⟨d', n, u, hread, hat, hn⟩ := readFrame_fault d hs hfault
    exact ⟨n, hn, by rw [hread, hat.1]⟩
  | none =>
    obtain ⟨type, payload, rest, hfits, hb⟩ := firstFault_eq_none_iff.mp hfault
    obtain ⟨u, hread, hat⟩ := readFrame_encode d hs hb hfits
    refine ⟨_, ?_, by rw [hread, hat.1]⟩
    rw [hb, List.length_append]
    exact Nat.le_add_right _ _

/-- The frames a call yields are those whose envelope the stream begins with. -/
theorem readFrame_frame_iff (d : Decoder) {s : Source} {frame : Frame} {n : Nat}
    (hs : s.finish = .eof) (hn : n ≤ s.bytes.length) :
    (d.readFrame s).1 = .frame frame ∧ (d.readFrame s).2.2.bytes = s.bytes.drop n ↔
      (∃ e, Encoder.encode ⟨d.expected⟩ frame.type frame.payload = .ok (s.bytes.take n, e)) ∧
        frame.sequence = d.expected := by
  rw [Encoder.encode_eq_ok_iff]
  constructor
  · intro h
    obtain ⟨h, hrest⟩ := h
    cases hfault : firstFault d.expected s.bytes with
    | some fault =>
      obtain ⟨d', m, u, hread, -⟩ := readFrame_fault d hs hfault
      rw [hread] at h
      cases h
    | none =>
      obtain ⟨type, payload, rest, hfits, hb⟩ := firstFault_eq_none_iff.mp hfault
      obtain ⟨u, hread, hat⟩ := readFrame_encode d hs hb hfits
      rw [hread] at h hrest
      cases h
      have hlen : (Envelope.encode d.expected type payload).length ≤ s.bytes.length := by
        rw [hb, List.length_append]
        exact Nat.le_add_right _ _
      have hdrop := congrArg List.length (hat.1.symm.trans hrest)
      rw [List.length_drop, List.length_drop] at hdrop
      refine ⟨⟨hfits, ?_⟩, rfl⟩
      rw [hb]
      exact List.take_left' (by omega)
  · obtain ⟨type, sequence, payload⟩ := frame
    intro h
    obtain ⟨⟨hfits, htake⟩, rfl⟩ := h
    have hb : s.bytes = Envelope.encode d.expected type payload ++ s.bytes.drop n := by
      rw [← htake, List.take_append_drop]
    obtain ⟨u, hread, hat⟩ := readFrame_encode d hs hb hfits
    rw [← htake, List.length_take, Nat.min_eq_left hn] at hat
    exact ⟨by rw [hread], by rw [hread, hat.1]⟩

/-- A call yields a frame or the first check that fails, nothing else. -/
theorem readFrame_fault_iff (d : Decoder) {s : Source} (hs : s.finish = .eof) :
    ((∃ frame, (d.readFrame s).1 = .frame frame) ∨ ∃ fault, (d.readFrame s).1 = .fault fault) ∧
      ∀ fault, (d.readFrame s).1 = .fault fault ↔ firstFault d.expected s.bytes = some fault := by
  cases hfault : firstFault d.expected s.bytes with
  | some fault =>
    obtain ⟨d', n, u, hread, -⟩ := readFrame_fault d hs hfault
    exact ⟨.inr ⟨fault, by rw [hread]⟩, by simp [hread]⟩
  | none =>
    obtain ⟨type, payload, rest, hfits, hb⟩ := firstFault_eq_none_iff.mp hfault
    obtain ⟨u, hread, -⟩ := readFrame_encode d hs hb hfits
    exact ⟨.inl ⟨_, by rw [hread]⟩, by simp [hread]⟩

theorem readFrame_nil (d : Decoder) {s : Source} (hs : s.finish = .eof) (hb : s.bytes = []) :
    ∃ u, d.readFrame s = (.fault .connectionClosed, d, u) := by
  obtain ⟨u, hread, -⟩ := read_of_nil 1 hb
  exact ⟨u, by rw [readFrame, hread, hs]; rfl⟩

/-- A stream that ends inside an envelope of the expected sequence. -/
theorem readFrame_cut (d : Decoder) {s : Source} {type : FrameType} {payload : Bytes} {q : Nat}
    (hs : s.finish = .eof) (hfits : fits payload) (hpos : 0 < q)
    (hq : q < (Envelope.encode d.expected type payload).length)
    (hb : s.bytes = (Envelope.encode d.expected type payload).take q) :
    ∃ d' u, d.readFrame s = (.fault .truncated, d', u) := by
  have hwhole := firstFault_encode d.expected type [] hfits
  obtain ⟨hlength, -⟩ := fields_encode d.expected type [] hfits
  rw [List.append_nil] at hwhole hlength
  rw [length_encode, ← hlength] at hq
  have hfault : firstFault d.expected s.bytes = some .truncated := by
    rw [hb]
    exact firstFault_take hwhole hpos hq
  obtain ⟨d', n, u, hread, -⟩ := readFrame_fault d hs hfault
  exact ⟨d', u, hread⟩

/-- One call on a stream that ends: the frames it yields are those whose envelope the stream begins
with, everything else is reported as the first check that fails, and the expected sequence moves on
exactly when the preface is right. -/
theorem readFrame_grammar (d : Decoder) (b : Bytes) (limit : Nat → Nat) (reads : Nat)
    (hd : d.expected.toNat < 2 ^ 64 - 1) :
    let out := d.readFrame ⟨b, .eof, limit, reads⟩
    (∃ n, n ≤ b.length ∧ out.2.2.bytes = b.drop n) ∧
      (∀ frame n, n ≤ b.length →
        (out.1 = .frame frame ∧ out.2.2.bytes = b.drop n ↔
          (∃ e, Encoder.encode ⟨d.expected⟩ frame.type frame.payload = .ok (b.take n, e)) ∧
            frame.sequence = d.expected)) ∧
      ((∃ frame, out.1 = .frame frame) ∨ ∃ fault, out.1 = .fault fault) ∧
      (∀ fault, out.1 = .fault fault ↔ firstFault d.expected b = some fault) ∧
      (∀ type payload q, fits payload → 0 < q →
        q < (Envelope.encode d.expected type payload).length →
          b = (Envelope.encode d.expected type payload).take q → out.1 = .fault .truncated) ∧
      out.2.1.expected.toNat =
        if b.take 17 = startMarker :: (magic ++ Bytes.big 8 d.expected.toNat)
        then d.expected.toNat + 1 else d.expected.toNat := by
  have hs : (⟨b, .eof, limit, reads⟩ : Source).finish = .eof := rfl
  intro out
  obtain ⟨htotal, hfault⟩ := readFrame_fault_iff d hs
  refine ⟨readFrame_bytes d hs, fun frame n hn => readFrame_frame_iff d hs hn, htotal, hfault,
    ?_, ?_⟩
  · intro type payload q hfits hpos hq hb
    obtain ⟨d', u, hread⟩ := readFrame_cut d hs hfits hpos hq hb
    rw [show out = _ from hread]
  · have hnext : (d.expected + 1).toNat = d.expected.toNat + 1 := by
      rw [UInt64.toNat_add]
      exact Nat.mod_eq_of_lt (by simp; omega)
    rw [show out.2.1.expected = _ from readFrame_expected d hs, preface]
    split
    · exact hnext
    · rfl

theorem readFrame_grammar_healthCheck :
    (7 : UInt64).toNat < 2 ^ 64 - 1 ∧
      (readFrame ⟨7⟩ ⟨Envelope.encode 7 .healthCheck [1] ++ [0x2A], .eof, fun _ => 1, 0⟩).1 =
        .frame ⟨.healthCheck, 7, [1]⟩ :=
  ⟨by decide, (((readFrame_grammar ⟨7⟩ _ _ _ (by decide)).2.1 ⟨.healthCheck, 7, [1]⟩ 23
    (by decide)).mpr ⟨⟨⟨8⟩, rfl⟩, rfl⟩).1⟩

end Decoder

end TunnelAgent
