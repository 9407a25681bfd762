import Mathlib.Algebra.GroupWithZero.Nat
import Mathlib.Data.Nat.Find
import TunnelAgent.Pool.Timeline

/-! # What can happen to a pool

Acquisitions begin, poll at their times, and give their slots back when their holders like; someone
may close the pool. What is due in one millisecond may happen in any order. In every such history
the free slots and those held are all that there are, and nobody waits beyond their time. The
timeline, which takes the earliest that is due, is one of these histories and leaves nobody waiting. -/

namespace TunnelAgent

/-- A sum over a list that is changed in one place. -/
theorem sum_set {α : Type} {f : α → Nat} {l : List α} {i : Nat} {a : α} (h : l[i]? = some a) :
    ∃ others, (l.map f).sum = others + f a ∧
      ∀ b, ((l.set i b).map f).sum = others + f b := by
  induction l generalizing i with
  | nil => cases h
  | cons x l ih =>
    cases i with
    | zero =>
      simp only [List.getElem?_cons_zero, Option.some.injEq] at h
      subst h
      refine ⟨(l.map f).sum, ?_, fun b => ?_⟩
      · rw [List.map_cons, List.sum_cons, Nat.add_comm]
      · rw [List.set_cons_zero, List.map_cons, List.sum_cons, Nat.add_comm]
    | succ i =>
      rw [List.getElem?_cons_succ] at h
      obtain ⟨others, hsum, hset⟩ := ih h
      refine ⟨f x + others, ?_, fun b => ?_⟩
      · rw [List.map_cons, List.sum_cons, hsum, Nat.add_assoc]
      · rw [List.set_cons_succ, List.map_cons, List.sum_cons, hset, Nat.add_assoc]

namespace Pool

/-- The pool without these slots. -/
def take (slots : UInt32) (p : Pool) : Pool := { p with available := p.available - slots.toNat }

/-- Whatever an overflow does, a request that is made counts its polls modulo `2 ^ 32`. -/
theorem request_of_request? {overflow : Overflow} {p : Pool} {slots : UInt32} {a : Acquisition}
    (h : p.request? overflow slots = some a) : a = p.request slots := by
  cases overflow with
  | wraps => exact (Option.some.inj h).symm
  | panics =>
    simp only [request?, Overflow.succ?] at h
    split at h <;> cases h
    rfl

/-- A poll that is still to be made looks whether the pool is closed, then for room. -/
theorem poll_eq {p : Pool} {a : Acquisition} (h : a.made < a.attempts.toNat) :
    p.poll a =
      if p.closed then (.refused .closed, p)
      else if a.slots.toNat ≤ p.available then (.granted, p.take a.slots)
      else if a.made + 1 < a.attempts.toNat then (.retry { a with made := a.made + 1 }, p)
      else (.refused (.exhausted a.slots a.attempts), p) :=
  if_neg (Nat.not_le.mpr h)

namespace Holder

/-- When a holder does something whether it likes or not. -/
def appointment? : Holder → Option Nat
  | start due _ => some due
  | polling due _ _ => some due
  | _ => none

def held : Holder → Nat
  | holding _ slots => slots.toNat
  | _ => 0

/-- A bound on what a holder still does. -/
def ahead (attempts : Nat) : Holder → Nat
  | start _ _ => attempts + 3
  | polling _ a _ => a.attempts.toNat - a.made + 2
  | holding _ _ => 1
  | done => 0

/-- What a holder polls for when it does something, and for how long it then keeps the slots. -/
def asks (rt : Runtime) (p : Pool) : Holder → Option (Acquisition × Nat)
  | start _ (.acquire slots hold) => (p.request? rt.overflow slots).map (·, hold)
  | polling _ a hold => some (a, hold)
  | _ => none

theorem due?_of_appointment {h : Holder} {due : Nat} (hdue : h.appointment? = some due) :
    h.due? = some due := by
  cases h <;> first | exact hdue | cases hdue

theorem due?_of_ahead {attempts : Nat} {h : Holder} (hahead : h.ahead attempts = 0) :
    h.due? = none := by
  cases h with
  | done => rfl
  | _ => simp [ahead] at hahead

section
variable {rt : Runtime} {p : Pool} {h : Holder} {a : Acquisition} {hold : Nat}

theorem held_of_asks (hasks : h.asks rt p = some (a, hold)) : h.held = 0 := by
  cases h with
  | holding => cases hasks
  | _ => rfl

theorem ahead_of_asks (hasks : h.asks rt p = some (a, hold)) :
    a.attempts.toNat - a.made + 2 ≤ h.ahead (p.retryAttempts + 1).toNat := by
  cases h with
  | start due intent =>
    cases intent with
    | acquire slots hold =>
      obtain ⟨a, hrequest, hpair⟩ := Option.map_eq_some_iff.mp hasks
      cases hpair
      rw [request_of_request? hrequest]
      simp only [ahead, request]
      omega
    | close => cases hasks
  | polling due a hold =>
    cases hasks
    exact Nat.le_refl _
  | _ => cases hasks

end

end Holder

/-! ## What a holder does -/

section
variable (rt : Runtime) (now : Nat) (p : Pool) (a : Acquisition) (hold : Nat) (h : Holder)

/-- What comes of a poll that is still to be made. -/
theorem pollAt_eq (hmade : a.made < a.attempts.toNat) : p.pollAt rt now a hold =
    if p.closed then (some (.refused .closed), .done, p)
    else if a.slots.toNat ≤ p.available then
      (some (.acquired a.slots), .holding (now + rt.lasts hold) a.slots, p.take a.slots)
    else if a.made + 1 < a.attempts.toNat then
      (none, .polling (now + rt.lasts p.retryInterval) { a with made := a.made + 1 } hold, p)
    else (some (.refused (.exhausted a.slots a.attempts)), .done, p) := by
  rw [pollAt, poll_eq hmade]
  by_cases hclosed : p.closed = true
  · rw [if_pos hclosed, if_pos hclosed]
  rw [if_neg hclosed, if_neg hclosed]
  by_cases hroom : a.slots.toNat ≤ p.available
  · rw [if_pos hroom, if_pos hroom]
  rw [if_neg hroom, if_neg hroom]
  by_cases hmore : a.made + 1 < a.attempts.toNat
  · rw [if_pos hmore, if_pos hmore]
  · rw [if_neg hmore, if_neg hmore]

/-- All that can come of what a holder does. -/
inductive Acts : Option Happening × Holder × Pool → Prop
  | acquired {a : Acquisition} {hold : Nat} (asks : h.asks rt p = some (a, hold))
      (room : a.slots.toNat ≤ p.available) :
      Acts (some (.acquired a.slots), .holding (now + rt.lasts hold) a.slots, p.take a.slots)
  | refused {a : Acquisition} {hold : Nat} {fault : PoolFault} (asks : h.asks rt p = some (a, hold)) :
      Acts (some (.refused fault), .done, p)
  | retried {a : Acquisition} {hold : Nat} (asks : h.asks rt p = some (a, hold))
      (more : a.made + 1 < a.attempts.toNat) :
      Acts (none, .polling (now + rt.lasts p.retryInterval) { a with made := a.made + 1 } hold, p)
  | panicked {due hold : Nat} {slots : UInt32} (begins : h = .start due (.acquire slots hold))
      (overflows : p.request? rt.overflow slots = none) : Acts (some .panicked, .done, p)
  | closed {due : Nat} (closes : h = .start due .close) : Acts (some .closed, .done, p.close)
  | released {due : Nat} {slots : UInt32} (holds : h = .holding due slots) :
      Acts (some .released, .done, p.release slots)
  | rested (rests : h = .done) : Acts (none, .done, p)

theorem acts : Acts rt now p h (p.act rt now h) := by
  have hpoll : ∀ a hold, h.asks rt p = some (a, hold) → Acts rt now p h (p.pollAt rt now a hold) := by
    intro a hold hasks
    by_cases hmade : a.made < a.attempts.toNat
    · rw [pollAt_eq rt now p a hold hmade]
      by_cases hclosed : p.closed = true
      · rw [if_pos hclosed]
        exact .refused hasks
      rw [if_neg hclosed]
      by_cases hroom : a.slots.toNat ≤ p.available
      · rw [if_pos hroom]
        exact .acquired hasks hroom
      rw [if_neg hroom]
      by_cases hmore : a.made + 1 < a.attempts.toNat
      · rw [if_pos hmore]
        exact .retried hasks hmore
      · rw [if_neg hmore]
        exact .refused hasks
    · rw [pollAt, poll, if_pos (Nat.not_lt.mp hmade)]
      exact .refused hasks
  cases h with
  | start due intent =>
    cases intent with
    | acquire slots hold =>
      rw [act]
      cases hrequest : p.request? rt.overflow slots with
      | some a => exact hpoll a hold (by rw [Holder.asks, hrequest]; rfl)
      | none => exact .panicked rfl hrequest
    | close => exact .closed rfl
  | polling due a hold => exact hpoll _ _ rfl
  | holding due slots => exact .released rfl
  | done => exact .rested rfl

end

section
variable {rt : Runtime} {now : Nat} {p : Pool} {h : Holder} {r : Option Happening × Holder × Pool}

/-- Slots go from the pool to a holder and back. -/
theorem Acts.held (hacts : Acts rt now p h r) : r.2.2.available + r.2.1.held = p.available + h.held := by
  cases hacts with
  | acquired asks room =>
    rw [Holder.held_of_asks asks]
    exact Nat.sub_add_cancel room
  | refused asks => rw [Holder.held_of_asks asks]; rfl
  | retried asks more => rw [Holder.held_of_asks asks]; rfl
  | panicked begins => rw [begins]; rfl
  | closed closes => rw [closes]; rfl
  | released holds => rw [holds]; rfl
  | rested rests => rw [rests]

/-- How the pool is made never changes. -/
theorem Acts.fixed (hacts : Acts rt now p h r) : r.2.2.capacity = p.capacity ∧
    r.2.2.retryAttempts = p.retryAttempts ∧ r.2.2.retryInterval = p.retryInterval := by
  cases hacts <;> exact ⟨rfl, rfl, rfl⟩

/-- What a holder does next is due no sooner than now. -/
theorem Acts.le_due {due : Nat} (hacts : Acts rt now p h r) (hdue : r.2.1.due? = some due) : now ≤ due := by
  cases hacts with
  | acquired | retried => exact Option.some.inj hdue ▸ Nat.le_add_right ..
  | refused | panicked | closed | released | rested => cases hdue

/-- Whatever a holder does brings it nearer to its end. -/
theorem Acts.ahead (hacts : Acts rt now p h r) (hdone : h ≠ .done) :
    r.2.1.ahead (p.retryAttempts + 1).toNat < h.ahead (p.retryAttempts + 1).toNat := by
  cases hacts with
  | acquired asks room =>
    refine Nat.lt_of_lt_of_le ?_ (Holder.ahead_of_asks asks)
    simp only [Holder.ahead]
    omega
  | refused asks =>
    refine Nat.lt_of_lt_of_le ?_ (Holder.ahead_of_asks asks)
    simp only [Holder.ahead]
    omega
  | retried asks more =>
    refine Nat.lt_of_lt_of_le ?_ (Holder.ahead_of_asks asks)
    simp only [Holder.ahead]
    omega
  | panicked begins => rw [begins]; exact Nat.succ_pos _
  | closed closes => rw [closes]; exact Nat.succ_pos _
  | released holds => rw [holds]; exact Nat.succ_pos _
  | rested rests => exact absurd rests hdone

end

/-! ## Histories -/

/-- Something that a holder has done: when, which one, the pool as it was found, what came of it,
and the pool as it was left. -/
structure Entry where
  time : Nat
  holder : Nat
  found : Pool
  happening : Option Happening
  left : Pool
  deriving DecidableEq, Repr

/-- What is reported of it, if anything has come of it. -/
def Entry.event? (e : Entry) : Option Event :=
  e.happening.map (⟨e.time, e.holder, ·, e.left.available⟩)

namespace Timeline

variable {rt : Runtime} {t₀ t : Timeline} {entries : List Entry} {now i : Nat} {h : Holder}

def held (t : Timeline) : Nat := (t.holders.map Holder.held).sum

/-- What is done at most from here on. -/
def ahead (t : Timeline) : Nat :=
  (t.holders.map (Holder.ahead (t.pool.retryAttempts + 1).toNat)).sum

/-- Holder `i` may act now: it is due, or it holds slots, and nobody has been kept waiting. -/
structure Ready (t : Timeline) (now i : Nat) (h : Holder) : Prop where
  holder : t.holders[i]? = some h
  due : h.appointment? = some now ∨ ∃ due slots, h = .holding due slots
  punctual : ∀ other ∈ t.holders, ∀ due ∈ other.appointment?, now ≤ due

def entry (rt : Runtime) (t : Timeline) (now i : Nat) (h : Holder) : Entry :=
  ⟨now, i, t.pool, (t.pool.act rt now h).1, (t.pool.act rt now h).2.2⟩

def acted (rt : Runtime) (t : Timeline) (now i : Nat) (h : Holder) : Timeline :=
  ⟨(t.pool.act rt now h).2.2, t.holders.set i (t.pool.act rt now h).2.1⟩

/-- All that has happened from the beginning, in order, and what it has led to. -/
inductive History (rt : Runtime) (t₀ : Timeline) : List Entry → Timeline → Prop
  | start : History rt t₀ [] t₀
  | act {entries : List Entry} {t : Timeline} {now i : Nat} {h : Holder}
      (before : History rt t₀ entries t) (later : ∀ e ∈ entries, e.time ≤ now)
      (ready : t.Ready now i h) : History rt t₀ (entries ++ [t.entry rt now i h]) (t.acted rt now i h)

theorem Ready.ne_done (hready : t.Ready now i h) : h ≠ .done := by
  rintro rfl
  rcases hready.due with hdue | ⟨due, slots, hholding⟩
  · cases hdue
  · cases hholding

/-- The holders of a timeline on which one has acted. -/
theorem mem_acted {other : Holder} (hother : other ∈ (t.acted rt now i h).holders) :
    other = (t.pool.act rt now h).2.1 ∨ other ∈ t.holders :=
  (List.mem_or_eq_of_mem_set hother).symm

theorem held_acted (hh : t.holders[i]? = some h) :
    (t.acted rt now i h).pool.available + (t.acted rt now i h).held = t.pool.available + t.held := by
  obtain ⟨others, hsum, hset⟩ := sum_set (f := Holder.held) hh
  have hact := (acts rt now t.pool h).held
  have hnext : (t.acted rt now i h).held = others + (t.pool.act rt now h).2.1.held := hset _
  rw [hnext, held, hsum]
  show (t.pool.act rt now h).2.2.available + _ = _
  omega

theorem ahead_acted (hh : t.holders[i]? = some h) (hdone : h ≠ .done) :
    (t.acted rt now i h).ahead < t.ahead := by
  obtain ⟨others, hsum, hset⟩ := sum_set (f := Holder.ahead (t.pool.retryAttempts + 1).toNat) hh
  have hact := (acts rt now t.pool h).ahead hdone
  have hretries : (t.acted rt now i h).pool.retryAttempts = t.pool.retryAttempts :=
    (acts rt now t.pool h).fixed.2.1
  have hnext : (t.acted rt now i h).ahead =
      others + (t.pool.act rt now h).2.1.ahead (t.pool.retryAttempts + 1).toNat := by
    rw [ahead, hretries]
    exact hset _
  rw [hnext, ahead, hsum]
  omega

namespace History

theorem fixed (h : History rt t₀ entries t) : t.pool.capacity = t₀.pool.capacity ∧
    t.pool.retryAttempts = t₀.pool.retryAttempts ∧
    t.pool.retryInterval = t₀.pool.retryInterval := by
  induction h with
  | start => exact ⟨rfl, rfl, rfl⟩
  | @act entries t now i h before later ready ih =>
    obtain ⟨hcapacity, hretries, hinterval⟩ := (acts rt now t.pool h).fixed
    exact ⟨hcapacity.trans ih.1, hretries.trans ih.2.1, hinterval.trans ih.2.2⟩

/-- What is free and what is held is all that there is. -/
theorem conserves (h : History rt t₀ entries t) :
    t.pool.available + t.held = t₀.pool.available + t₀.held := by
  induction h with
  | start => rfl
  | act before later ready ih => exact (held_acted ready.holder).trans ih

/-- Nobody is kept waiting: all that has happened is no later than what is still to come. -/
theorem punctual (h : History rt t₀ entries t) :
    ∀ e ∈ entries, ∀ other ∈ t.holders, ∀ due ∈ other.appointment?, e.time ≤ due := by
  induction h with
  | start =>
    intro e he
    cases he
  | @act entries t now i h before later ready ih =>
    intro e he other hother due hdue
    rcases mem_acted hother with rfl | hother
    · have hnow : now ≤ due :=
        (acts rt now t.pool h).le_due (Holder.due?_of_appointment hdue)
      rcases List.mem_append.mp he with he | he
      · exact Nat.le_trans (later e he) hnow
      · rw [List.mem_singleton.mp he]
        exact hnow
    · rcases List.mem_append.mp he with he | he
      · exact ih e he other hother due hdue
      · rw [List.mem_singleton.mp he]
        exact ready.punctual other hother due hdue

end History

/-! ## Nobody waits for ever -/

/-- Where somebody waits, the one who waits for the earliest moment may act at that moment. -/
theorem exists_ready {other : Holder} {due : Nat} (hother : other ∈ t.holders)
    (hdue : other.appointment? = some due) :
    ∃ now i h, t.Ready now i h ∧ h.appointment? = some now ∧ now ≤ due := by
  classical
  have hsome : ∃ due, ∃ other ∈ t.holders, other.appointment? = some due :=
    ⟨due, other, hother, hdue⟩
  obtain ⟨h, hmem, hfirst⟩ := Nat.find_spec hsome
  have hleast : ∀ other ∈ t.holders, ∀ due ∈ other.appointment?, Nat.find hsome ≤ due :=
    fun other hother due hdue => Nat.find_min' hsome ⟨other, hother, hdue⟩
  obtain ⟨i, hi⟩ := List.getElem?_of_mem hmem
  exact ⟨_, i, h, ⟨hi, .inl hfirst, hleast⟩, hfirst, hleast other hother due hdue⟩

/-- A holder whose appointments all lie before `limit` has, in some course of events, its last one
by then. -/
theorem History.served {limit : Nat}
    (hlimit : ∀ entries t, History rt t₀ entries t → ∀ h, t.holders[i]? = some h →
      ∀ due ∈ h.appointment?, due ≤ limit)
    (h : History rt t₀ entries t) :
    ∃ more t', History rt t₀ (entries ++ more) t' ∧ (∀ e ∈ more, e.time ≤ limit) ∧
      ∀ h, t'.holders[i]? = some h → h.appointment? = none := by
  induction hahead : t.ahead using Nat.strong_induction_on generalizing entries t with
  | h n ih =>
  by_cases hwaits : ∀ h, t.holders[i]? = some h → h.appointment? = none
  · refine ⟨[], t, by rwa [List.append_nil], fun e he => ?_, hwaits⟩
    cases he
  simp only [not_forall] at hwaits
  obtain ⟨waiting, hwaiting, hsome⟩ := hwaits
  obtain ⟨due, hdue⟩ := Option.ne_none_iff_exists'.mp hsome
  obtain ⟨now, j, first, hready, hfirst, hnow⟩ :=
    exists_ready (List.mem_of_getElem? hwaiting) hdue
  have hless : (t.acted rt now j first).ahead < n :=
    hahead ▸ ahead_acted hready.holder hready.ne_done
  have hlater : ∀ e ∈ entries, e.time ≤ now :=
    fun e he => h.punctual e he first (List.mem_of_getElem? hready.holder) now hfirst
  obtain ⟨more, t', hmore, hearly, hserved⟩ := ih _ hless (h.act hlater hready) rfl
  rw [List.append_assoc] at hmore
  refine ⟨_, t', hmore, ?_, hserved⟩
  intro e he
  rcases List.mem_append.mp he with he | he
  · rw [List.mem_singleton.mp he]
    exact Nat.le_trans hnow (hlimit _ _ h _ hwaiting due hdue)
  · exact hearly e he

/-! ## The timeline is one of the histories -/

/-- Of two that are due the earlier, and the first of two that are due at once. -/
def earlier (best : Option (Nat × Nat)) (candidate : Holder × Nat) : Option (Nat × Nat) :=
  match candidate.1.due?, best with
  | none, _ => best
  | some due, none => some (due, candidate.2)
  | some due, some (b, j) => if due < b then some (due, candidate.2) else some (b, j)

/-- This one is due at that moment, and none of these any sooner. -/
structure Earliest (best : Option (Nat × Nat)) (candidates : List (Holder × Nat)) (due i : Nat) :
    Prop where
  one : best = some (due, i) ∨ ∃ h, (h, i) ∈ candidates ∧ h.due? = some due
  best : ∀ b ∈ best, due ≤ b.1
  others : ∀ c ∈ candidates, ∀ d ∈ c.1.due?, due ≤ d

theorem earliest_earlier {best : Option (Nat × Nat)} {c : Holder × Nat} {due i : Nat}
    (h : earlier best c = some (due, i)) : Earliest best [c] due i := by
  obtain ⟨holder, j⟩ := c
  simp only [earlier] at h
  split at h
  · rename_i hnone
    subst h
    refine ⟨.inl rfl, fun b hb => ?_, fun c hc d hd => ?_⟩
    · rw [← Option.some.inj hb]
    · rw [List.mem_singleton.mp hc, hnone] at hd
      cases hd
  · rename_i due' hsome
    cases h
    refine ⟨.inr ⟨holder, List.mem_singleton_self _, hsome⟩, fun b hb => ?_, fun c hc d hd => ?_⟩
    · cases hb
    · rw [List.mem_singleton.mp hc, hsome] at hd
      exact Nat.le_of_eq (Option.some.inj hd)
  · rename_i due' b k hsome
    split at h
    · cases h
      refine ⟨.inr ⟨holder, List.mem_singleton_self _, hsome⟩, fun c hc => ?_, fun c hc d hd => ?_⟩
      · rw [← Option.some.inj hc]
        omega
      · rw [List.mem_singleton.mp hc, hsome] at hd
        exact Nat.le_of_eq (Option.some.inj hd)
    · cases h
      refine ⟨.inl rfl, fun c hc => ?_, fun c hc d hd => ?_⟩
      · rw [← Option.some.inj hc]
      · rw [List.mem_singleton.mp hc, hsome] at hd
        rw [← Option.some.inj hd]
        omega

theorem earlier_eq_none {best : Option (Nat × Nat)} {c : Holder × Nat}
    (h : earlier best c = none) : best = none ∧ c.1.due? = none := by
  simp only [earlier] at h
  split at h
  · exact ⟨h, ‹_›⟩
  · cases h
  · split at h <;> cases h

theorem earliest_foldl {candidates : List (Holder × Nat)} {best : Option (Nat × Nat)} {due i : Nat}
    (h : candidates.foldl earlier best = some (due, i)) : Earliest best candidates due i := by
  induction candidates generalizing best with
  | nil =>
    subst h
    refine ⟨.inl rfl, fun b hb => ?_, fun c hc => ?_⟩
    · rw [← Option.some.inj hb]
    · cases hc
  | cons c rest ih =>
    obtain ⟨hone, hbest, hothers⟩ := ih h
    -- what is picked in the end is not later than what the first candidate has left
    have hfirst : (∀ b ∈ best, due ≤ b.1) ∧ ∀ d ∈ c.1.due?, due ≤ d := by
      cases hnext : earlier best c with
      | none =>
        obtain ⟨rfl, hnone⟩ := earlier_eq_none hnext
        simp [hnone]
      | some b =>
        have hb := hbest b hnext
        have hc : Earliest best [c] b.1 b.2 := earliest_earlier hnext
        exact ⟨fun other hother => Nat.le_trans hb (hc.best other hother),
          fun d hd => Nat.le_trans hb (hc.others c (List.mem_singleton_self c) d hd)⟩
    refine ⟨?_, hfirst.1, fun other hother d hd => ?_⟩
    · rcases hone with hnext | ⟨holder, hmem, hdue⟩
      · rcases (earliest_earlier hnext).one with hsame | ⟨holder, hmem, hdue⟩
        · exact .inl hsame
        · exact .inr ⟨holder, List.mem_cons.mpr (.inl (List.mem_singleton.mp hmem)), hdue⟩
      · exact .inr ⟨holder, List.mem_cons_of_mem c hmem, hdue⟩
    · rcases List.mem_cons.mp hother with rfl | hother
      · exact hfirst.2 d hd
      · exact hothers other hother d hd

theorem foldl_earlier_eq_none {candidates : List (Holder × Nat)} {best : Option (Nat × Nat)}
    (h : candidates.foldl earlier best = none) : best = none ∧ ∀ c ∈ candidates, c.1.due? = none := by
  induction candidates generalizing best with
  | nil =>
    refine ⟨h, fun c hc => ?_⟩
    cases hc
  | cons c rest ih =>
    obtain ⟨hnext, hrest⟩ := ih h
    obtain ⟨hbest, hc⟩ := earlier_eq_none hnext
    exact ⟨hbest, List.forall_mem_cons.mpr ⟨hc, hrest⟩⟩

theorem next?_eq (holders : List Holder) :
    next? holders = holders.zipIdx.foldl earlier none := rfl

theorem step_eq_some {event : Option Event} {t' : Timeline} (hstep : t.step rt = some (event, t')) :
    ∃ now i h, t.holders[i]? = some h ∧ h.due? = some now ∧
      (∀ other ∈ t.holders, ∀ due ∈ other.due?, now ≤ due) ∧
      event = (t.entry rt now i h).event? ∧ t' = t.acted rt now i h := by
  rw [step, next?_eq] at hstep
  split at hstep
  · cases hstep
  · rename_i now i hnext
    obtain ⟨hone, -, hothers⟩ := earliest_foldl hnext
    rcases hone with hnone | ⟨h, hmem, hdue⟩
    · cases hnone
    have hh : t.holders[i]? = some h := List.mk_mem_zipIdx_iff_getElem?.mp hmem
    simp only [hh, Option.some.injEq, Prod.mk.injEq] at hstep
    refine ⟨now, i, h, hh, hdue, fun other hother due hdue => ?_, hstep.1.symm, hstep.2.symm⟩
    obtain ⟨j, hj⟩ := List.getElem?_of_mem hother
    exact hothers (other, j) (List.mk_mem_zipIdx_iff_getElem?.mpr hj) due hdue

theorem step_eq_none (hstep : t.step rt = none) : ∀ other ∈ t.holders, other.due? = none := by
  rw [step, next?_eq] at hstep
  split at hstep
  · rename_i hnext
    intro other hother
    obtain ⟨j, hj⟩ := List.getElem?_of_mem hother
    exact (foldl_earlier_eq_none hnext).2 (other, j) (List.mk_mem_zipIdx_iff_getElem?.mpr hj)
  · rename_i now i hnext
    rcases (earliest_foldl hnext).one with hnone | ⟨h, hmem, hdue⟩
    · cases hnone
    · simp [List.mk_mem_zipIdx_iff_getElem?.mp hmem] at hstep

/-- A history in which slots have been given back when they were due. -/
def Kept (entries : List Entry) (t : Timeline) : Prop :=
  ∀ e ∈ entries, ∀ other ∈ t.holders, ∀ due ∈ other.due?, e.time ≤ due

theorem ready_of_due (hh : t.holders[i]? = some h) (hdue : h.due? = some now)
    (hfirst : ∀ other ∈ t.holders, ∀ due ∈ other.due?, now ≤ due) : t.Ready now i h := by
  refine ⟨hh, ?_, fun other hother due hwaits =>
    hfirst other hother due (Holder.due?_of_appointment hwaits)⟩
  cases h with
  | holding due slots => exact .inr ⟨due, slots, rfl⟩
  | done => cases hdue
  | _ => exact .inl hdue

theorem kept_act (hkept : Kept entries t) (hlater : ∀ e ∈ entries, e.time ≤ now)
    (hfirst : ∀ other ∈ t.holders, ∀ due ∈ other.due?, now ≤ due) :
    Kept (entries ++ [t.entry rt now i h]) (t.acted rt now i h) := by
  intro e he other hother due hdue
  rcases List.mem_append.mp he with he | he
  · rcases mem_acted hother with rfl | hother
    · exact Nat.le_trans (hlater e he) ((acts rt now t.pool h).le_due hdue)
    · exact hkept e he other hother due hdue
  · rw [List.mem_singleton.mp he]
    rcases mem_acted hother with rfl | hother
    · exact (acts rt now t.pool h).le_due hdue
    · exact hfirst other hother due hdue

theorem runFor_history (n : Nat) (events : List Event) (h : History rt t₀ entries t)
    (hkept : Kept entries t) :
    ∃ more t', History rt t₀ (entries ++ more) t' ∧
      runFor rt n events t = (events.reverse ++ more.filterMap Entry.event?, t') ∧
      (t.ahead ≤ n → ∀ h ∈ t'.holders, h.due? = none) := by
  induction n generalizing events entries t with
  | zero =>
    refine ⟨[], t, by rwa [List.append_nil], by simp [runFor], fun hahead other hother => ?_⟩
    have hnothing : other.ahead (t.pool.retryAttempts + 1).toNat = 0 := by
      have hsum : (t.holders.map (Holder.ahead (t.pool.retryAttempts + 1).toNat)).sum = 0 :=
        Nat.le_zero.mp hahead
      exact List.sum_eq_zero_iff_forall_eq_nat.mp hsum _ (List.mem_map_of_mem hother)
    exact Holder.due?_of_ahead hnothing
  | succ n ih =>
    cases hstep : t.step rt with
    | none =>
      exact ⟨[], t, by rwa [List.append_nil], by simp [runFor, hstep],
        fun _ => step_eq_none hstep⟩
    | some r =>
      obtain ⟨event, next⟩ := r
      obtain ⟨now, i, first, hfirst, hdue, hothers, rfl, rfl⟩ := step_eq_some hstep
      have hready := ready_of_due hfirst hdue hothers
      have hlater : ∀ e ∈ entries, e.time ≤ now :=
        fun e he => hkept e he first (List.mem_of_getElem? hfirst) now hdue
      obtain ⟨later, hgoes, htold⟩ : ∃ later,
          runFor rt (n + 1) events t = runFor rt n later (t.acted rt now i first) ∧
            later.reverse = events.reverse ++ (t.entry rt now i first).event?.toList := by
        cases hevent : (t.entry rt now i first).event? with
        | none => exact ⟨events, by rw [runFor, hstep, hevent], (List.append_nil _).symm⟩
        | some e => exact ⟨e :: events, by rw [runFor, hstep, hevent], List.reverse_cons⟩
      obtain ⟨more, t', hmore, hrun, hover⟩ :=
        ih later (h.act hlater hready) (kept_act hkept hlater hothers)
      rw [List.append_assoc] at hmore
      refine ⟨_, t', hmore, ?_, fun hahead => hover ?_⟩
      · rw [hgoes, hrun, htold, List.append_assoc, List.filterMap_append]
        cases hevent : (t.entry rt now i first).event? <;> simp [hevent]
      · have hless : (t.acted rt now i first).ahead < t.ahead := ahead_acted hfirst hready.ne_done
        omega

/-- A pool as it is made, and what its users plan to do. -/
def beginning (capacity : Nat) (retryAttempts : UInt32) (retryInterval : Nat)
    (plans : List (Nat × Intent)) : Timeline where
  pool := { capacity, retryAttempts, retryInterval }
  holders := plans.map fun (start, intent) => .start start intent

theorem held_beginning (capacity : Nat) (retryAttempts : UInt32) (retryInterval : Nat)
    (plans : List (Nat × Intent)) :
    (beginning capacity retryAttempts retryInterval plans).held = 0 := by
  refine List.sum_eq_zero_iff_forall_eq_nat.mpr fun n hn => ?_
  simp only [beginning, List.map_map] at hn
  obtain ⟨plan, -, rfl⟩ := List.mem_map.mp hn
  rfl

/-- The run of a timeline is one of its histories, and afterwards nothing is left to be done. -/
theorem run_history (rt : Runtime) (capacity : Nat) (retryAttempts : UInt32) (retryInterval : Nat)
    (plans : List (Nat × Intent)) :
    let t₀ := beginning capacity retryAttempts retryInterval plans
    ∃ entries, History rt t₀ entries (t₀.run rt).2 ∧ (t₀.run rt).1 = entries.filterMap Entry.event? ∧
      ∀ h ∈ (t₀.run rt).2.holders, h.due? = none := by
  intro t₀
  have hkept : Kept [] t₀ := by
    intro e he
    cases he
  obtain ⟨entries, t, hhistory, hrun, hover⟩ := runFor_history t₀.work [] .start hkept
  have hwork : t₀.ahead ≤ t₀.work := by
    have hall : (t₀.holders.map (Holder.ahead (retryAttempts + 1).toNat)) =
        List.replicate t₀.holders.length ((retryAttempts + 1).toNat + 3) := by
      simp only [t₀, beginning, List.map_map, List.length_map]
      refine List.eq_replicate_iff.mpr ⟨List.length_map .., fun n hn => ?_⟩
      obtain ⟨plan, -, rfl⟩ := List.mem_map.mp hn
      rfl
    have hsum : t₀.ahead = t₀.work := by
      show (t₀.holders.map (Holder.ahead (retryAttempts + 1).toNat)).sum = _
      rw [hall, List.sum_replicate_nat]
      rfl
    exact Nat.le_of_eq hsum
  rw [run, hrun]
  exact ⟨entries, hhistory, rfl, hover hwork⟩

end Timeline

end Pool

end TunnelAgent
