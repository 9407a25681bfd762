import TunnelAgent.Proofs.Frame.Fields

/-! # What one call of the decoder does, as a list of checks

The decoder's control flow is spread over four functions and a stream that is read on the way.
Here it is a list: the checks of an envelope in the order in which they are made, each with the
fault it reports. On a stream that ends, `readFrame` reports the first check of the list that
fails, and yields the frame if none does; the sequence moves on once the preface, the first 17
bytes, has passed. -/

namespace TunnelAgent

namespace Envelope

def sequenceOf (b : Bytes) : UInt64 := UInt64.ofNat (Bytes.ofBig (b.slice 9 8))

def lengthOf (b : Bytes) : Nat := Bytes.ofBig (b.slice 17 4)

/-- A check has failed if its Boolean is true. -/
abbrev Check := Bool × FrameFault

def prefaceChecks (expected : UInt64) (b : Bytes) : List Check := [
  (b.isEmpty, .connectionClosed),
  (b.headD 0 != startMarker, .badStartMarker (b.headD 0)),
  (b.length < 9, .truncated),
  (b.slice 1 8 != magic, .badMagic (b.slice 1 8)),
  (b.length < 17, .truncated),
  (sequenceOf b != expected, .badSequence expected (sequenceOf b))]

def typeByte (b : Bytes) : UInt8 := (b.drop headerSize).headD 0

def bodyChecks (b : Bytes) : List Check := [
  (b.length < headerSize, .truncated),
  (maxBody < lengthOf b, .badLength (UInt32.ofNat (lengthOf b))),
  (b.length < headerSize + lengthOf b, .truncated),
  (lengthOf b == 0, .emptyBody),
  ((FrameType.ofCode? (typeByte b)).isNone, .unknownFrameType (typeByte b))]

def firstOf (checks : List Check) : Option FrameFault := (checks.find? (·.1)).map (·.2)

def firstFault (expected : UInt64) (b : Bytes) : Option FrameFault :=
  firstOf (prefaceChecks expected b ++ bodyChecks b)

@[simp] theorem firstOf_nil : firstOf [] = none := rfl

theorem firstOf_cons (failed : Bool) (fault : FrameFault) (rest : List Check) :
    firstOf ((failed, fault) :: rest) = if failed then some fault else firstOf rest := by
  unfold firstOf
  cases failed <;> simp

theorem firstOf_append (before after : List Check) :
    firstOf (before ++ after) = (firstOf before).or (firstOf after) := by
  unfold firstOf
  rw [List.find?_append]
  cases before.find? (·.1) <;> rfl

/-- Of a list of checks all have passed if none is the first to fail. -/
theorem firstOf_eq_none_iff {checks : List Check} :
    firstOf checks = none ↔ ∀ check ∈ checks, check.1 = false := by
  simp [firstOf]

theorem firstFault_eq (expected : UInt64) (b : Bytes) :
    firstFault expected b = (firstOf (prefaceChecks expected b)).or (firstOf (bodyChecks b)) :=
  firstOf_append _ _

end Envelope

namespace Decoder
open Envelope

section

variable {sequence : UInt64} {s t u : Source} {length : Bytes}

theorem readBody_of_short {e : StreamEnd} (hfill : s.fill 4 = (.full length, t))
    (hmax : ¬ maxBody < Bytes.ofBig length) (hbody : t.fill (Bytes.ofBig length) = (.short e, u)) :
    readBody sequence s = (inside e, u) := by
  simp only [readBody, hfill, if_neg hmax, hbody]

theorem readBody_of_full {bytes : Bytes} (hfill : s.fill 4 = (.full length, t))
    (hmax : ¬ maxBody < Bytes.ofBig length) (hbody : t.fill (Bytes.ofBig length) = (.full bytes, u)) :
    readBody sequence s = (body sequence bytes, u) := by
  simp only [readBody, hfill, if_neg hmax, hbody]

end

/-- The length and the body, on a stream whose preface has been read. -/
theorem readBody_cases (sequence : UInt64) {s t : Source} (hs : s.finish = .eof) (h : s.At 17 t)
    (hlen : 17 ≤ s.bytes.length) :
    (∃ fault n u, firstOf (bodyChecks s.bytes) = some fault ∧
        readBody sequence t = (.fault fault, u) ∧ s.At n u ∧ n ≤ s.bytes.length) ∨
      ∃ type u, firstOf (bodyChecks s.bytes) = none ∧
        FrameType.ofCode? (typeByte s.bytes) = some type ∧
        readBody sequence t =
          (.frame ⟨type, sequence, s.bytes.slice (headerSize + 1) (lengthOf s.bytes - 1)⟩, u) ∧
        s.At (headerSize + lengthOf s.bytes) u ∧ headerSize + lengthOf s.bytes ≤ s.bytes.length ∧
        0 < lengthOf s.bytes ∧ lengthOf s.bytes ≤ maxBody := by
  simp only [bodyChecks, firstOf_cons, firstOf_nil, decide_eq_true_eq]
  by_cases hheader : s.bytes.length < headerSize
  · obtain ⟨u, hfill, hat⟩ := h.fill_of_lt (n := 4) hlen hheader
    exact .inl ⟨.truncated, _, u, if_pos hheader, by simp [readBody, hfill, inside, hs], hat, Nat.le_refl _⟩
  obtain ⟨u, hfill, hat⟩ := h.fill_of_le (n := 4) (Nat.not_lt.mp hheader)
  rw [if_neg hheader]
  by_cases hmax : maxBody < lengthOf s.bytes
  · refine .inl ⟨_, _, u, if_pos hmax, ?_, hat, Nat.not_lt.mp hheader⟩
    simp only [readBody, hfill]
    exact if_pos hmax
  rw [if_neg hmax]
  by_cases hshort : s.bytes.length < headerSize + lengthOf s.bytes
  · obtain ⟨v, hfill', hat'⟩ := hat.fill_of_lt (Nat.not_lt.mp hheader) hshort
    refine .inl ⟨.truncated, _, v, if_pos hshort, ?_, hat', Nat.le_refl _⟩
    rw [readBody_of_short hfill hmax hfill', hs]
    rfl
  rw [if_neg hshort]
  obtain ⟨v, hfill', hat'⟩ := hat.fill_of_le (Nat.not_lt.mp hshort)
  rw [readBody_of_full hfill hmax hfill']
  cases hn : lengthOf s.bytes with
  | zero =>
    rw [hn] at hat' hshort
    exact .inl ⟨.emptyBody, _, v, by simp, by simp [Bytes.slice, body], hat', Nat.not_lt.mp hshort⟩
  | succ n =>
    rw [hn] at hat' hshort hmax
    have hcons : s.bytes.slice headerSize (n + 1) =
        typeByte s.bytes :: s.bytes.slice (headerSize + 1) n := by
      have hne : s.bytes.drop headerSize ≠ [] := by
        rw [Ne, List.drop_eq_nil_iff]
        omega
      obtain ⟨b, rest, hb⟩ := List.exists_cons_of_ne_nil hne
      rw [Bytes.slice, Bytes.slice, typeByte, ← List.drop_drop, hb]
      rfl
    cases htype : FrameType.ofCode? (typeByte s.bytes) with
    | none =>
      refine .inl ⟨.unknownFrameType (typeByte s.bytes), _, v, by simp, ?_, hat', Nat.not_lt.mp hshort⟩
      show (body sequence (s.bytes.slice headerSize (n + 1)), v) = _
      rw [hcons, body, htype]
    | some type =>
      refine .inr ⟨type, v, by simp, rfl, ?_, hat', Nat.not_lt.mp hshort, Nat.succ_pos n,
        Nat.not_lt.mp hmax⟩
      show (body sequence (s.bytes.slice headerSize (n + 1)), v) = _
      rw [hcons, body, htype]
      rfl

/-- The preface: a call that ends in it leaves the decoder as it was, one that comes past it expects
the next sequence from there on. -/
theorem readFrame_cases (d : Decoder) {s : Source} (hs : s.finish = .eof) :
    (∃ fault n u, firstOf (prefaceChecks d.expected s.bytes) = some fault ∧
        d.readFrame s = (.fault fault, d, u) ∧ s.At n u ∧ n ≤ s.bytes.length) ∨
      ∃ u, firstOf (prefaceChecks d.expected s.bytes) = none ∧
        d.readFrame s =
          ((readBody d.expected u).1, ⟨d.expected + 1⟩, (readBody d.expected u).2) ∧
        s.At 17 u ∧ 17 ≤ s.bytes.length := by
  simp only [prefaceChecks, firstOf_cons, firstOf_nil, decide_eq_true_eq, bne_iff_ne]
  by_cases hempty : s.bytes = []
  · obtain ⟨t, hread, hat⟩ := Source.read_of_nil 1 hempty
    exact .inl ⟨.connectionClosed, 0, t, by simp [hempty], by simp [readFrame, hread, outside, hs],
      hat, Nat.zero_le _⟩
  obtain ⟨n, t, hpos, hle, hread, hat⟩ := Source.read_of_ne_nil Nat.one_pos hempty
  obtain rfl : n = 1 := by omega
  have hone : 1 ≤ s.bytes.length := List.length_pos_iff.mpr hempty
  have htake : s.bytes.take 1 = [s.bytes.headD 0] := by
    obtain ⟨b, rest, hb⟩ := List.exists_cons_of_ne_nil hempty
    simp [hb]
  rw [htake] at hread
  rw [if_neg (by simpa using hempty)]
  by_cases hmarker : s.bytes.headD 0 = startMarker
  case neg =>
    exact .inl ⟨_, 1, t, if_pos hmarker, by simp only [readFrame, hread, if_neg hmarker], hat, hone⟩
  rw [if_neg (by simpa using hmarker)]
  have hmagic : d.readFrame s = d.readMagic t := by simp only [readFrame, hread, if_pos hmarker]
  by_cases h9 : s.bytes.length < 9
  · obtain ⟨u, hfill, hat'⟩ := hat.fill_of_lt (n := 8) hone h9
    exact .inl ⟨.truncated, _, u, if_pos h9, by simp [hmagic, readMagic, hfill, inside, hs], hat',
      Nat.le_refl _⟩
  obtain ⟨u, hfill, hat'⟩ := hat.fill_of_le (n := 8) (Nat.not_lt.mp h9)
  rw [if_neg h9]
  by_cases hfield : s.bytes.slice 1 8 = magic
  case neg =>
    refine .inl ⟨_, 9, u, if_pos hfield, ?_, hat', Nat.not_lt.mp h9⟩
    simp only [hmagic, readMagic, hfill, if_neg hfield]
  rw [if_neg (by simpa using hfield)]
  have hsequence : d.readFrame s = d.readSequence u := by
    simp only [hmagic, readMagic, hfill, if_pos hfield]
  by_cases h17 : s.bytes.length < 17
  · obtain ⟨v, hfill', hat''⟩ := hat'.fill_of_lt (n := 8) (Nat.not_lt.mp h9) h17
    exact .inl ⟨.truncated, _, v, if_pos h17, by simp [hsequence, readSequence, hfill', inside, hs],
      hat'', Nat.le_refl _⟩
  obtain ⟨v, hfill', hat''⟩ := hat'.fill_of_le (n := 8) (Nat.not_lt.mp h17)
  rw [if_neg h17]
  by_cases hexpected : sequenceOf s.bytes = d.expected
  case neg =>
    refine .inl ⟨_, 17, v, if_pos hexpected, ?_, hat'', Nat.not_lt.mp h17⟩
    simp only [hsequence, readSequence, hfill']
    exact if_neg hexpected
  refine .inr ⟨v, by simpa using hexpected, ?_, hat'', Nat.not_lt.mp h17⟩
  simp only [hsequence, readSequence, hfill']
  rw [show UInt64.ofNat (Bytes.ofBig (s.bytes.slice 9 8)) = d.expected from hexpected, if_pos rfl]

end Decoder

end TunnelAgent
