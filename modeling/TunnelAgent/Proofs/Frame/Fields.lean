import TunnelAgent.Frame.Decoder

/-! # A field read in pieces is the field

A source yields its bytes in pieces whose sizes its schedule decides. `fill` asks until a field is
complete, so a field that is there comes out whole and a field that is not there takes the stream
to its end: the schedule shows in neither. -/

namespace TunnelAgent

/-- The `n` bytes from the `i`-th on. -/
def Bytes.slice (b : Bytes) (i n : Nat) : Bytes := (b.drop i).take n

namespace Source

/-- The stream after `n` bytes have been taken off it in some number of reads. -/
def At (s : Source) (n : Nat) (t : Source) : Prop :=
  t.bytes = s.bytes.drop n ∧ t.finish = s.finish ∧ t.limit = s.limit

theorem At.trans {s t u : Source} {m n : Nat} (h : s.At m t) (h' : t.At n u) : s.At (m + n) u := by
  obtain ⟨hb, hf, hl⟩ := h
  obtain ⟨hb', hf', hl'⟩ := h'
  refine ⟨?_, hf'.trans hf, hl'.trans hl⟩
  rw [hb', hb, List.drop_drop]

theorem At.all {s t : Source} {n : Nat} (h : s.At n t) (hn : s.bytes.length ≤ n) : t.bytes = [] := by
  rw [h.1, List.drop_eq_nil_iff]
  exact hn

theorem allowance_pos (s : Source) {want : Nat} (h : 0 < want) : 0 < s.allowance want := by
  unfold allowance
  split <;> omega

theorem allowance_le (s : Source) (want : Nat) : s.allowance want ≤ want := by
  unfold allowance
  split <;> omega

theorem read_of_nil {s : Source} (want : Nat) (h : s.bytes = []) :
    ∃ t, s.read want = (.finished s.finish, t) ∧ s.At 0 t :=
  ⟨{ s with reads := s.reads + 1 }, by simp [read, h], rfl, rfl, rfl⟩

/-- A read of a stream that has bytes left yields at least one of them, and no more than asked. -/
theorem read_of_ne_nil {s : Source} {want : Nat} (hw : 0 < want) (h : s.bytes ≠ []) :
    ∃ n t, 0 < n ∧ n ≤ want ∧ s.read want = (.data (s.bytes.take n), t) ∧ s.At n t := by
  refine ⟨s.allowance want, { s with bytes := s.bytes.drop (s.allowance want), reads := s.reads + 1 },
    s.allowance_pos hw, s.allowance_le want, ?_, rfl, rfl, rfl⟩
  simp only [read]
  rw [if_neg (by simpa using h)]

/-- With enough steps a field that is there is read whole. -/
theorem fillFrom_of_le (got : Bytes) {steps want : Nat} {s : Source} (hs : want ≤ steps)
    (hb : want ≤ s.bytes.length) :
    ∃ t, fillFrom steps want got s = (.full (got.reverse ++ s.bytes.take want), t) ∧ s.At want t := by
  induction steps generalizing want got s with
  | zero =>
    obtain rfl : want = 0 := by omega
    exact ⟨s, by simp [fillFrom], rfl, rfl, rfl⟩
  | succ steps ih =>
    cases want with
    | zero => exact ⟨s, by simp [fillFrom], rfl, rfl, rfl⟩
    | succ want =>
      have hne : s.bytes ≠ [] := by
        intro h
        simp [h] at hb
      obtain ⟨n, t, hpos, hle, hread, hat⟩ := read_of_ne_nil (Nat.succ_pos want) hne
      have hlen : (s.bytes.take n).length = n := by
        rw [List.length_take]
        omega
      have hrest : want + 1 - n ≤ t.bytes.length := by
        rw [hat.1, List.length_drop]
        omega
      obtain ⟨u, hfill, hat'⟩ := ih ((s.bytes.take n).reverse ++ got) (by omega) hrest
      refine ⟨u, ?_, ?_⟩
      · simp only [fillFrom, hread, hlen]
        rw [hfill, hat.1, List.reverse_append, List.reverse_reverse, List.append_assoc,
          ← List.take_add, show n + (want + 1 - n) = want + 1 by omega]
      · have h := hat.trans hat'
        rwa [show n + (want + 1 - n) = want + 1 by omega] at h

/-- A field that the stream ends in is read to the end of the stream. -/
theorem fillFrom_of_lt (got : Bytes) {steps want : Nat} {s : Source} (hs : want ≤ steps)
    (hb : s.bytes.length < want) :
    ∃ t, fillFrom steps want got s = (.short s.finish, t) ∧ s.At s.bytes.length t := by
  induction steps generalizing want got s with
  | zero => omega
  | succ steps ih =>
    obtain ⟨want, rfl⟩ : ∃ k, want = k + 1 := ⟨want - 1, by omega⟩
    by_cases hne : s.bytes = []
    · obtain ⟨t, hread, hat⟩ := read_of_nil (want + 1) hne
      refine ⟨t, by simp only [fillFrom, hread], ?_⟩
      simpa [hne] using hat
    · obtain ⟨n, t, hpos, hle, hread, hat⟩ := read_of_ne_nil (Nat.succ_pos want) hne
      have hlen : (s.bytes.take n).length = min n s.bytes.length := List.length_take
      have hrest : t.bytes.length = s.bytes.length - n := by rw [hat.1, List.length_drop]
      have hpos' : 0 < s.bytes.length := List.length_pos_iff.mpr hne
      have hshort : t.bytes.length < want + 1 - min n s.bytes.length := by omega
      obtain ⟨u, hfill, hat'⟩ := ih ((s.bytes.take n).reverse ++ got) (by omega) hshort
      refine ⟨u, ?_, ?_⟩
      · simp only [fillFrom, hread, hlen]
        rw [hfill, hat.2.1]
      · obtain ⟨hb', hf', hl'⟩ := hat.trans hat'
        refine ⟨?_, hf', hl'⟩
        rw [hb', List.drop_eq_nil_of_le (by omega), List.drop_eq_nil_of_le (by omega)]

theorem fill_of_le {want : Nat} {s : Source} (h : want ≤ s.bytes.length) :
    ∃ t, s.fill want = (.full (s.bytes.take want), t) ∧ s.At want t := by
  simpa [fill] using fillFrom_of_le [] (Nat.le_refl want) h

theorem fill_of_lt {want : Nat} {s : Source} (h : s.bytes.length < want) :
    ∃ t, s.fill want = (.short s.finish, t) ∧ s.At s.bytes.length t :=
  fillFrom_of_lt [] (Nat.le_refl want) h

/-- The field that follows the first `i` bytes. -/
theorem At.fill_of_le {s t : Source} {i n : Nat} (h : s.At i t) (hn : i + n ≤ s.bytes.length) :
    ∃ u, t.fill n = (.full (s.bytes.slice i n), u) ∧ s.At (i + n) u := by
  have hlen : n ≤ t.bytes.length := by
    rw [h.1, List.length_drop]
    omega
  obtain ⟨u, hfill, hat⟩ := Source.fill_of_le hlen
  exact ⟨u, by rw [hfill, h.1, Bytes.slice], h.trans hat⟩

theorem At.fill_of_lt {s t : Source} {i n : Nat} (h : s.At i t) (hi : i ≤ s.bytes.length)
    (hn : s.bytes.length < i + n) :
    ∃ u, t.fill n = (.short s.finish, u) ∧ s.At s.bytes.length u := by
  have hlen : t.bytes.length = s.bytes.length - i := by rw [h.1, List.length_drop]
  have hshort : t.bytes.length < n := by omega
  obtain ⟨u, hfill, hat⟩ := Source.fill_of_lt hshort
  refine ⟨u, by rw [hfill, h.2.1], ?_⟩
  have h' := h.trans hat
  rwa [hlen, Nat.add_sub_cancel' hi] at h'

end Source

end TunnelAgent
