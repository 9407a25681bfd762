import TunnelAgent.Backoff
import TunnelAgent.Proofs.Duration.Seconds

/-! # A backoff over a whole run

A run is any sequence of waits and resets; a wait is cut short if the agent is asked to stop before
its pause is over. Main statement: for every policy, whatever its factor, the pause stays within the
longest one, and what it is computed from is always a length of time; the attempts are the waits
since the last reset; the limit comes first, a stop second, and neither touches the pause. -/

namespace TunnelAgent

/-- A number of seconds as a length of time. A negative number is none, nor is what is no finite
number, nor a number of seconds beyond the longest length. -/
def Duration.ofSeconds64? (x : Binary64) : Option Duration :=
  match x with
  | .finite negative m _ =>
    if negative ∧ m ≠ 0 ∨ longest < ofSeconds64 x then none else some (ofSeconds64 x)
  | _ => none

theorem Duration.ofSeconds64?_of_le {m : Nat} {e : Int}
    (h : ofSeconds64 (.finite false m e) ≤ longest) :
    ofSeconds64? (.finite false m e) = some (ofSeconds64 (.finite false m e)) := by
  rw [ofSeconds64?, if_neg]
  rintro (⟨hnegative, -⟩ | hlong)
  · cases hnegative
  · exact absurd h (Nat.not_le.mpr hlong)

namespace BackoffPolicy

open Binary64

/-- The pause that follows `pause`, if all that is taken for a length of time on the way is one. -/
def grown? (p : BackoffPolicy) (pause : Duration) : Option Duration :=
  if p.grows then
    let seconds := (Duration.toSeconds pause).mul p.multiplier
    if (Duration.toSeconds p.longest).le seconds then some p.longest
    else Duration.ofSeconds64? seconds
  else some pause

/-- Only a finite number above one makes the pause grow. -/
theorem multiplier_of_grows {p : BackoffPolicy} (h : p.grows = true) :
    ∃ m e, p.multiplier = .finite false m e ∧ 1 < value m e := by
  rw [grows, Bool.and_eq_true, Bool.not_eq_true', one_eq] at h
  obtain ⟨hfinite, hle⟩ := h
  cases hmultiplier : p.multiplier with
  | nan => simp [hmultiplier, isFinite, ratio?] at hfinite
  | infinity negative => simp [hmultiplier, isFinite, ratio?] at hfinite
  | finite negative m e =>
    rw [hmultiplier] at hle
    cases negative with
    | true =>
      rw [negative_le] at hle
      cases hle
    | false =>
      have hone : value (2 ^ 52) (-52) = 1 := by norm_num [value]
      rw [← Bool.not_eq_true, le_finite, hone, not_le] at hle
      exact ⟨m, e, rfl, hle⟩

theorem firstPause_le (p : BackoffPolicy) : p.firstPause ≤ p.longest := Nat.min_le_right _ _

theorem grown_le {p : BackoffPolicy} {pause : Duration} (hlongest : p.longest ≤ Duration.longest)
    (hpause : pause ≤ p.longest) :
    p.grown pause ≤ p.longest ∧ p.grown? pause = some (p.grown pause) := by
  unfold grown grown?
  cases hgrows : p.grows with
  | false => exact ⟨hpause, rfl⟩
  | true =>
    obtain ⟨m, e, hmultiplier, -⟩ := multiplier_of_grows hgrows
    obtain ⟨m', e', -, -, hpauseSeconds, -⟩ := Duration.toSeconds_nearest (hpause.trans hlongest)
    obtain ⟨m'', e'', -, -, hcap, -⟩ := Duration.toSeconds_nearest hlongest
    simp only [if_true, hmultiplier, hpauseSeconds]
    rcases mul_finite m' m e' e with hproduct | ⟨n, k, hproduct, hnumber⟩
    · have hle : (Duration.toSeconds p.longest).le (.infinity false) = true := by
        rw [hcap, le_infinity]
      simp only [hproduct, hle, if_true]
      exact ⟨le_rfl, trivial⟩
    · rw [hproduct]
      cases hle : (Duration.toSeconds p.longest).le (.finite false n k) with
      | true =>
        simp only [if_true]
        exact ⟨le_rfl, trivial⟩
      | false =>
        have hseconds := Duration.ofSeconds64_le hlongest hnumber hle
        simp only [Bool.false_eq_true, if_false]
        exact ⟨hseconds, Duration.ofSeconds64?_of_le (hseconds.trans hlongest)⟩

theorem grown_of_flat {p : BackoffPolicy} (pause : Duration)
    (hflat : ∀ m e, p.multiplier = .finite false m e → value m e ≤ 1) : p.grown pause = pause := by
  refine if_neg fun hgrows => ?_
  obtain ⟨m, e, hmultiplier, hlt⟩ := multiplier_of_grows hgrows
  exact absurd (hflat m e hmultiplier) (not_le.mpr hlt)

theorem grown_of_grows {p : BackoffPolicy} (pause : Duration) {m : Nat} {e : Int}
    (hmultiplier : p.multiplier = .finite false m e) (hlt : 1 < value m e) :
    p.grown pause =
      if (Duration.toSeconds p.longest).le ((Duration.toSeconds pause).mul p.multiplier) then p.longest
      else Duration.ofSeconds64 ((Duration.toSeconds pause).mul p.multiplier) := by
  refine if_pos ?_
  have hone : value (2 ^ 52) (-52) = 1 := by norm_num [value]
  have hle : ¬ (finite false m e).le one = true := by
    rw [one_eq, le_finite, hone, not_le]
    exact hlt
  rw [grows, hmultiplier, Bool.eq_false_iff.mpr hle]
  rfl

end BackoffPolicy

namespace Backoff

/-- The agent is asked to stop: how long after the start of a pause, and whether a stop at the very
moment the pause is over is seen first. -/
structure Stop where
  after : Duration
  first : Bool
  deriving DecidableEq, Repr

def cutShort (length : Duration) (stop : Option Stop) : Bool :=
  stop.any fun s => s.after < length || s.after == length && s.first

inductive Operation where
  | wait (stop : Option Stop)
  | reset
  deriving DecidableEq, Repr

def Operation.isWait : Operation → Bool
  | wait _ => true
  | reset => false

/-- The waits since the last reset. -/
def waits (ops : List Operation) : Nat := (ops.reverse.takeWhile Operation.isWait).length

section

/-! A timer may take longer than it was asked for: `lasts` says how long a pause really takes. -/

variable (lasts : Duration → Duration)

def pauseFor (stop : Option Stop) (b : Backoff) : Except BackoffFault Unit × Backoff :=
  b.wait (cutShort (lasts b.pause) stop)

def perform (b : Backoff) : Operation → Backoff
  | .wait stop => (b.pauseFor lasts stop).2
  | .reset => b.reset

def run (policy : BackoffPolicy) (ops : List Operation) : Backoff :=
  ops.foldl (perform lasts) { policy }

end

variable {lasts : Duration → Duration} {policy : BackoffPolicy} {b : Backoff}

/-- All that a wait can come to. -/
theorem wait_cases (b : Backoff) (cancelled : Bool) :
    (∃ limit, b.policy.limit = some limit ∧ limit < b.attempt + 1 ∧
        b.wait cancelled =
          (.error (.maxAttemptsReached limit), { b with attempt := b.attempt + 1 })) ∨
      (∀ limit, b.policy.limit = some limit → b.attempt + 1 ≤ limit) ∧
        b.wait cancelled =
          if cancelled then (.error .cancelled, { b with attempt := b.attempt + 1 })
          else (.ok (),
            { b with attempt := b.attempt + 1, pause := b.policy.grown b.pause }) := by
  cases hlimit : b.policy.limit with
  | none =>
    exact .inr ⟨fun limit h => (by cases h), by simp only [wait, begin, hlimit, passed]⟩
  | some limit =>
    by_cases hexceeded : limit < b.attempt + 1
    · exact .inl ⟨limit, rfl, hexceeded, by simp only [wait, begin, hlimit, hexceeded, if_true]⟩
    · refine .inr ⟨fun _ h => ?_, by
        simp only [wait, begin, hlimit, hexceeded, if_false, passed]⟩
      cases h
      exact Nat.not_lt.mp hexceeded

theorem cutShort_iff {length : Duration} {stop : Option Stop} :
    cutShort length stop = true ↔
      ∃ s, stop = some s ∧ (s.after < length ∨ s.after = length ∧ s.first = true) := by
  simp [cutShort, Option.any_eq_true]

theorem waits_concat (ops : List Operation) (op : Operation) :
    waits (ops ++ [op]) = if op.isWait then waits ops + 1 else 0 := by
  cases h : op.isWait <;> simp [waits, h]

/-- What a run keeps. -/
structure Kept (policy : BackoffPolicy) (ops : List Operation) (b : Backoff) : Prop where
  policy_eq : b.policy = policy
  attempt_eq : b.attempt = waits ops
  pause_le : b.pause ≤ policy.longest
  flat : (∀ m e, policy.multiplier = .finite false m e → Binary64.value m e ≤ 1) →
    b.pause = policy.firstPause

theorem kept_start (policy : BackoffPolicy) : Kept policy [] { policy } where
  policy_eq := rfl
  attempt_eq := rfl
  pause_le := policy.firstPause_le
  flat _ := rfl

theorem Kept.perform {ops : List Operation} (hlongest : policy.longest ≤ Duration.longest)
    (h : Kept policy ops b) (op : Operation) :
    Kept policy (ops ++ [op]) (b.perform lasts op) := by
  obtain ⟨rfl, hattempt, hpause, hflat⟩ := h
  cases op with
  | reset => exact ⟨rfl, by simp [Backoff.perform, reset, waits_concat, Operation.isWait],
      b.policy.firstPause_le, fun _ => rfl⟩
  | wait stop =>
    have hcount : b.attempt + 1 = waits (ops ++ [.wait stop]) := by
      rw [waits_concat, hattempt, Operation.isWait, if_pos rfl]
    have hfailed : Kept b.policy (ops ++ [.wait stop]) { b with attempt := b.attempt + 1 } :=
      ⟨rfl, hcount, hpause, hflat⟩
    simp only [Backoff.perform, pauseFor]
    obtain ⟨limit, -, -, hwait⟩ | ⟨-, hwait⟩ := wait_cases b (cutShort (lasts b.pause) stop)
    · rw [hwait]
      exact hfailed
    · rw [hwait]
      split
      · exact hfailed
      · refine ⟨rfl, hcount, (BackoffPolicy.grown_le hlongest hpause).1, fun hfactor => ?_⟩
        exact (BackoffPolicy.grown_of_flat b.pause hfactor).trans (hflat hfactor)

theorem kept_run (hlongest : policy.longest ≤ Duration.longest) (ops : List Operation) :
    Kept policy ops (run lasts policy ops) := by
  induction ops using List.reverseRecOn with
  | nil => exact kept_start policy
  | append_singleton ops op ih =>
    rw [run, List.foldl_append]
    exact ih.perform hlongest op

/-- What a wait comes to, by what is kept: the limit is looked at before a stop. -/
theorem wait_outcome (b : Backoff) (cancelled : Bool) :
    (∀ limit, (b.wait cancelled).1 = .error (.maxAttemptsReached limit) ↔
        b.policy.limit = some limit ∧ limit < b.attempt + 1) ∧
      ((b.wait cancelled).1 = .error .cancelled ↔
        (∀ limit, b.policy.limit = some limit → b.attempt + 1 ≤ limit) ∧ cancelled = true) ∧
      (b.wait cancelled).2.attempt = b.attempt + 1 ∧
      (b.wait cancelled).2.pause =
        if (b.wait cancelled).1 = .ok () then b.policy.grown b.pause else b.pause := by
  obtain ⟨limit, hlimit, hexceeded, hwait⟩ | ⟨hwithin, hwait⟩ := wait_cases b cancelled
  · rw [hwait]
    refine ⟨fun other => ?_, ⟨fun h => (by cases h), fun h => ?_⟩, rfl, rfl⟩
    · constructor
      · intro h
        cases h
        exact ⟨hlimit, hexceeded⟩
      · rintro ⟨hother, -⟩
        rw [hlimit] at hother
        cases hother
        rfl
    · exact absurd (h.1 limit hlimit) (Nat.not_le.mpr hexceeded)
  · rw [hwait]
    refine ⟨fun limit => ⟨fun h => ?_, fun h => ?_⟩, ⟨fun h => ⟨hwithin, ?_⟩, fun h => ?_⟩, ?_, ?_⟩
    · cases cancelled <;> cases h
    · exact absurd (hwithin limit h.1) (Nat.not_le.mpr h.2)
    · cases cancelled with
      | true => rfl
      | false => cases h
    · rw [h.2]
      rfl
    · cases cancelled <;> rfl
    · cases cancelled <;> rfl

/-- A backoff over any run: the pause is never above the longest one, and what it is computed from
is a length of time; the attempts are the waits since the last reset; and what a wait, or a reset,
comes to after the run. -/
theorem keeps_within_longest (policy : BackoffPolicy) (hlongest : policy.longest ≤ Duration.longest)
    (lasts : Duration → Duration) (ops : List Operation) :
    let b := run lasts policy ops
    b.pause ≤ policy.longest ∧
      policy.grown? b.pause = some (policy.grown b.pause) ∧
      b.attempt = waits ops ∧
      ((∀ m e, policy.multiplier = .finite false m e → Binary64.value m e ≤ 1) →
        b.pause = min policy.initial policy.longest) ∧
      (∀ stop, let waited := b.pauseFor lasts stop
        (∀ limit, waited.1 = .error (.maxAttemptsReached limit) ↔
          policy.limit = some limit ∧ limit < b.attempt + 1) ∧
        (waited.1 = .error .cancelled ↔
          (∀ limit, policy.limit = some limit → b.attempt + 1 ≤ limit) ∧
            ∃ s, stop = some s ∧
              (s.after < lasts b.pause ∨ s.after = lasts b.pause ∧ s.first = true)) ∧
        waited.2.attempt = b.attempt + 1 ∧
        waited.2.pause = if waited.1 = .ok () then policy.grown b.pause else b.pause) ∧
      b.reset.pause = min policy.initial policy.longest ∧ b.reset.attempt = 0 := by
  intro b
  obtain ⟨hpolicy, hattempt, hpause, hflat⟩ : Kept policy ops b := kept_run hlongest ops
  refine ⟨hpause, (BackoffPolicy.grown_le hlongest hpause).2, hattempt, hflat, fun stop => ?_, ?_⟩
  · have houtcome := wait_outcome b (cutShort (lasts b.pause) stop)
    rw [hpolicy, cutShort_iff] at houtcome
    exact houtcome
  · rw [reset, hpolicy]
    exact ⟨rfl, rfl⟩

/-- The longest pause there is, the largest factor, and a limit of one: the pause after the first
wait comes out at the longest, and a second wait meets the limit although the agent has been asked
to stop. -/
theorem keeps_within_longest_of_largest :
    let policy : BackoffPolicy :=
      { longest := Duration.longest, multiplier := .finite false (2 ^ 53 - 1) 971, limit := some 1 }
    policy.longest ≤ Duration.longest ∧
      (run id policy [.wait none]).pause = Duration.longest ∧
      ((run id policy [.wait none]).pauseFor id (some { after := 0, first := true })).1 =
        .error (.maxAttemptsReached 1) := by
  intro policy
  have hlongest : policy.longest ≤ Duration.longest := le_rfl
  obtain ⟨-, -, hattempt, -, hwait, -⟩ :=
    keeps_within_longest policy hlongest id [.wait none]
  refine ⟨hlongest, by decide +kernel, ?_⟩
  refine ((hwait (some { after := 0, first := true })).1 1).mpr ⟨rfl, ?_⟩
  rw [hattempt]
  decide

end Backoff

end TunnelAgent
