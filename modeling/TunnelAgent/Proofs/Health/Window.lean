import TunnelAgent.Health

/-! # The window of a health monitor

A monitor compares the time since the last tick that saw a success with its deadline. Seen from its
history that is a window of periods: it fails at the first tick that ends so many periods without a
success as may be missed, and at no other. -/

namespace TunnelAgent

namespace HealthConfig

/-- The interval is between a second and a day, and a miss is allowed. -/
theorem clamped (intervalSecs : UInt64) (maxMissed : UInt32) :
    Duration.ofSeconds 1 ≤ (ofParts intervalSecs maxMissed).interval ∧
      (ofParts intervalSecs maxMissed).interval ≤ Duration.ofSeconds 86400 ∧
      (ofParts intervalSecs maxMissed).maxMissed ≠ 0 := by
  refine ⟨Nat.mul_le_mul_right _ ?_, Nat.mul_le_mul_right _ (Nat.min_le_right _ _), ?_⟩
  · exact Nat.le_min.mpr ⟨Nat.le_max_right _ _, by decide⟩
  · simp only [ofParts]
    split
    · decide
    · assumption

theorem maxMissed_ofParts (intervalSecs : UInt64) (maxMissed : UInt32) :
    (ofParts intervalSecs maxMissed).maxMissed.toNat = max maxMissed.toNat 1 := by
  simp only [ofParts]
  split
  · rename_i hzero
    rw [hzero]
    rfl
  · rename_i hnonzero
    have hpos : maxMissed.toNat ≠ 0 := fun h => hnonzero (UInt32.toNat_inj.mp h)
    omega

/-- The product is far from saturating. -/
theorem deadline_ofParts (intervalSecs : UInt64) (maxMissed : UInt32) :
    (ofParts intervalSecs maxMissed).deadline =
      (ofParts intervalSecs maxMissed).interval * max maxMissed.toNat 1 := by
  have hmost : max maxMissed.toNat 1 ≤ 2 ^ 32 := by
    have := maxMissed.toNat_lt
    omega
  have hlongest : (ofParts intervalSecs maxMissed).interval * max maxMissed.toNat 1 ≤
      Duration.longest :=
    Nat.le_trans (Nat.mul_le_mul (clamped intervalSecs maxMissed).2.1 hmost) (by decide)
  rw [deadline, maxMissed_ofParts, Nat.max_assoc, Nat.max_self, Duration.saturatingMul]
  exact Nat.min_eq_left hlongest

end HealthConfig

namespace HealthMonitor
open Envelope

theorem fits_ping (nonce : UInt64) : fits (ping nonce).payload := by
  have hlength : (ping nonce).payload.length = 8 := by
    simp [ping, Outbound.ofMessage, Message.encode, HealthCheck.format, Serial.Format.via,
      Serial.Format.u64, Serial.Format.word]
  rw [fits, hlength]
  decide

theorem fits_answer (nonce : UInt64) : fits (answer nonce).payload := by
  have hlength : (answer nonce).payload.length = 12 := by
    simp [answer, Outbound.ofMessage, Message.encode, HealthCheckResponse.format,
      ResultCode.format, Serial.Format.via, Serial.Format.pair, Serial.Format.u64,
      Serial.Format.word, Serial.Format.choice]
  rw [fits, hlength]
  decide

/-- A tick fails, or notes whether there has been a success and goes on to ping. -/
theorem tick_eq (now : Duration) (w : Bool) (t : Ticking) (m : HealthMonitor) :
    m.tick now w t =
      if m.succeeded = false ∧ m.config.deadline ≤ now - t.lastSuccess then (.failed, m.stop)
      else
        { m with
          succeeded := false
          ticking := some
            ⟨if m.succeeded then now else t.lastSuccess, now + m.config.interval⟩ }.sendPing w := by
  unfold tick
  cases hsucceeded : m.succeeded with
  | true => simp
  | false =>
    by_cases hlate : m.config.deadline ≤ now - t.lastSuccess
    · simp [hlate]
    · simp [hlate]

theorem sendPing_of_open (m : HealthMonitor) :
    m.sendPing true = (.ping (ping m.nextNonce), { m with nextNonce := m.nextNonce + 1 }) := by
  rw [sendPing, Outbound.offer, if_pos (fits_ping _)]
  rfl

/-! ## Histories -/

/-- What happens to a monitor: its time to tick comes, or a handler takes a payload. -/
inductive Happening where
  | tick
  /-- the gateway's answer to a ping -/
  | answered (payload : Bytes)
  /-- a ping of the gateway's -/
  | asked (payload : Bytes)
  deriving DecidableEq, Repr

/-- The nonce of a ping of the gateway's that can be read. -/
def Happening.nonce? : Happening → Option UInt64
  | asked payload =>
    match HealthCheck.format.decode payload with
    | .ok request => some request.nonce
    | .error _ => none
  | _ => none

/-- A sign of life: an answer that says Ok, or a ping of the gateway's. -/
def Happening.succeeds : Happening → Bool
  | tick => false
  | answered payload =>
    match HealthCheckResponse.format.decode payload with
    | .ok response => response.result = .ok
    | .error _ => false
  | asked payload => (asked payload).nonce?.isSome

/-- The ticks so far; they are numbered from zero. -/
def ticks (history : List Happening) : Nat := history.count .tick

/-- There has been a success in the period that ends with tick `k`, or is to end with it. -/
def Heard (history : List Happening) (k : Nat) : Prop :=
  ∃ before happening after, history = before ++ happening :: after ∧ ticks before = k ∧
    happening.succeeds = true

/-- None of the `m` periods up to tick `n` has seen a success. -/
def Silent (m : Nat) (history : List Happening) (n : Nat) : Prop :=
  m ≤ n ∧ ∀ k, n < k + m → k ≤ n → ¬ Heard history k

/-- Tick `n` has come, at the end of `m` such periods. -/
def Overdue (m : Nat) (history : List Happening) (n : Nat) : Prop :=
  n < ticks history ∧ Silent m history n

section

variable {m : Nat} {history : List Happening} {happening : Happening} {k n : Nat}

theorem ticks_concat (history : List Happening) (happening : Happening) :
    ticks (history ++ [happening]) = ticks history + if happening = .tick then 1 else 0 := by
  simp [ticks, List.count_singleton]

theorem heard_concat :
    Heard (history ++ [happening]) k ↔
      Heard history k ∨ ticks history = k ∧ happening.succeeds = true := by
  constructor
  · rintro ⟨before, other, after, hsplit, hk, hsucceeds⟩
    rcases List.eq_nil_or_concat after with rfl | ⟨after, last, rfl⟩
    · obtain ⟨rfl, hlast⟩ := List.append_inj' hsplit rfl
      cases hlast
      exact .inr ⟨hk, hsucceeds⟩
    · rw [List.concat_eq_append, ← List.cons_append, ← List.append_assoc] at hsplit
      exact .inl ⟨before, other, after, (List.append_inj' hsplit rfl).1, hk, hsucceeds⟩
  · rintro (⟨before, other, after, rfl, hk, hsucceeds⟩ | ⟨hk, hsucceeds⟩)
    · exact ⟨before, other, after ++ [happening], by simp, hk, hsucceeds⟩
    · exact ⟨history, happening, [], rfl, hk, hsucceeds⟩

theorem heard_concat_of_lt (h : k < ticks history) :
    Heard (history ++ [happening]) k ↔ Heard history k := by
  rw [heard_concat]
  constructor
  · rintro (hheard | ⟨hk, -⟩)
    · exact hheard
    · omega
  · exact .inl

theorem heard_tick : Heard (history ++ [.tick]) k ↔ Heard history k := by
  simp [heard_concat, Happening.succeeds]

theorem overdue_tick :
    Overdue m (history ++ [.tick]) (ticks history) ↔ Silent m history (ticks history) := by
  simp [Overdue, Silent, heard_tick, ticks_concat]

theorem not_heard_of_lt (h : ticks history < k) : ¬ Heard history k := by
  rintro ⟨before, happening, after, rfl, rfl, -⟩
  rw [ticks, List.count_append] at h
  exact Nat.not_lt.mpr (Nat.le_add_right _ _) h

/-- The last tick so far that noticed a success, or the first one of all. -/
structure Latest (history : List Happening) (last : Nat) : Prop where
  heard : last = 0 ∨ Heard history last
  le : last ≤ ticks history
  since : ∀ k, last < k → k < ticks history → ¬ Heard history k

theorem latest_tick_of_heard (hheard : Heard history (ticks history)) :
    Latest (history ++ [.tick]) (ticks history) := by
  have hticks : ticks (history ++ [.tick]) = ticks history + 1 := ticks_concat history .tick
  refine ⟨.inr (heard_tick.mpr hheard), by omega, fun k hlast hk => ?_⟩
  omega

theorem Latest.tick {last : Nat} (h : Latest history last)
    (hnone : ¬ Heard history (ticks history)) : Latest (history ++ [.tick]) last := by
  have hticks : ticks (history ++ [.tick]) = ticks history + 1 := ticks_concat history .tick
  have hle := h.le
  refine ⟨h.heard.imp_right heard_tick.mpr, by omega, fun k hlast hk => ?_⟩
  rw [heard_tick]
  rcases Nat.lt_succ_iff_lt_or_eq.mp (hticks ▸ hk) with hlt | rfl
  · exact h.since k hlast hlt
  · exact hnone

/-- The window law in terms of the last success, for a tick that is about to come. -/
theorem Latest.silent_iff {last : Nat} (h : Latest history last)
    (hnone : ¬ Heard history (ticks history)) :
    Silent m history (ticks history) ↔ m ≤ ticks history - last := by
  have hle := h.le
  constructor
  · rintro ⟨hm, hsilent⟩
    rcases h.heard with rfl | hheard
    · omega
    · refine Nat.le_of_not_lt fun hshort => ?_
      exact hsilent last (by omega) hle hheard
  · intro hm
    refine ⟨by omega, fun k hk hkn => ?_⟩
    rcases Nat.lt_or_eq_of_le hkn with hlt | rfl
    · exact h.since k (by omega) hlt
    · exact hnone

/-- What comes after a tick does not make it overdue. -/
theorem overdue_concat_of_lt (h : n < ticks history) :
    Overdue m (history ++ [happening]) n ↔ Overdue m history n := by
  have hlonger : n < ticks (history ++ [happening]) := by
    rw [ticks_concat]
    omega
  simp only [Overdue, Silent, hlonger, h, true_and]
  refine and_congr_right fun _ => forall_congr' fun k => imp_congr_right fun _ => ?_
  exact imp_congr_right fun hk => not_congr (heard_concat_of_lt (Nat.lt_of_le_of_lt hk h))

end

/-! ## The life of a monitor -/

/-- A monitor beside its handlers, with what they have sent and when it has failed. -/
structure Life where
  monitor : HealthMonitor
  sent : List Outbound := []
  failures : List Duration := []

namespace Life

/-- A running monitor ticks when a tick is due. The writer is alive. -/
def step (l : Life) : Happening → Life
  | .tick =>
    match l.monitor.ticking with
    | none => l
    | some t =>
      match l.monitor.tick t.due true t with
      | (.ping frame, monitor) => { l with monitor, sent := l.sent ++ [frame] }
      | (.stopped, monitor) => { l with monitor }
      | (.failed, monitor) => { l with monitor, failures := l.failures ++ [t.due] }
  | .answered payload => { l with monitor := (l.monitor.handleResponse payload).2 }
  | .asked payload =>
    match l.monitor.handleRequest true payload with
    | (.ok frame, monitor) => { l with monitor, sent := l.sent ++ [frame] }
    | (.error _, monitor) => { l with monitor }

def start (c : HealthConfig) (nonce : UInt64) (now : Duration) : Life where
  monitor := { config := c, nextNonce := nonce : HealthMonitor }.spawn now

def after (history : List Happening) (l : Life) : Life := history.foldl step l

theorem step_tick (l : Life) :
    l.step .tick =
      match l.monitor.ticking with
      | none => l
      | some t =>
        if l.monitor.succeeded = false ∧ l.monitor.config.deadline ≤ t.due - t.lastSuccess then
          { l with monitor := l.monitor.stop, failures := l.failures ++ [t.due] }
        else { l with
          monitor := { l.monitor with
            nextNonce := l.monitor.nextNonce + 1
            succeeded := false
            ticking := some
              ⟨if l.monitor.succeeded then t.due else t.lastSuccess,
                t.due + l.monitor.config.interval⟩ }
          sent := l.sent ++ [ping l.monitor.nextNonce] } := by
  rw [step.eq_def]
  cases l.monitor.ticking with
  | none => rfl
  | some t =>
    simp only [tick_eq]
    by_cases hfails :
        l.monitor.succeeded = false ∧ l.monitor.config.deadline ≤ t.due - t.lastSuccess
    · simp only [if_pos hfails]
    · simp only [if_neg hfails, sendPing_of_open]

theorem step_of_handled {happening : Happening} (h : happening ≠ .tick) (l : Life) :
    l.step happening = { l with
      monitor := { l.monitor with succeeded := l.monitor.succeeded || happening.succeeds }
      sent := l.sent ++ happening.nonce?.toList.map answer } := by
  cases happening with
  | tick => exact absurd rfl h
  | answered payload =>
    simp only [step, handleResponse, Happening.succeeds, Happening.nonce?]
    cases HealthCheckResponse.format.decode payload with
    | error fault => simp
    | ok response => by_cases hok : response.result = .ok <;> simp [hok]
  | asked payload =>
    simp only [step, handleRequest, Happening.succeeds, Happening.nonce?]
    cases HealthCheck.format.decode payload with
    | error fault => simp
    | ok request => simp [Outbound.offer, fits_answer]

end Life

/-- The frames of one type, in order. -/
def ofType (type : FrameType) (frames : List Outbound) : List Outbound :=
  frames.filter (·.type = type)

/-- What a monitor has sent, and when it has failed, over a history. It may miss `m` successes in a
row. -/
structure Keeps (m : Nat) (interval : Duration) (nonce : UInt64) (t₀ : Duration)
    (history : List Happening) (sent : List Outbound) (failures : List Duration) : Prop where
  /-- every ping of the gateway's is answered once, in order and with its own nonce -/
  answers : ofType .healthCheckResponse sent = (history.filterMap Happening.nonce?).map answer
  /-- there is a ping for every tick before the first that is overdue, and at that one a failure -/
  ticks :
    ((∀ n, ¬ Overdue m history n) ∧ failures = [] ∧
        ofType .healthCheck sent =
          (List.range (ticks history)).map fun n => ping (nonce + UInt64.ofNat n)) ∨
      ∃ n, Overdue m history n ∧ (∀ k < n, ¬ Overdue m history k) ∧
        failures = [t₀ + n * interval] ∧
        ofType .healthCheck sent = (List.range n).map fun n => ping (nonce + UInt64.ofNat n)

theorem ofType_append (type : FrameType) (frames frames' : List Outbound) :
    ofType type (frames ++ frames') = ofType type frames ++ ofType type frames' :=
  List.filter_append ..

theorem ofType_ping (nonces : List UInt64) :
    ofType .healthCheck (nonces.map ping) = nonces.map ping ∧
      ofType .healthCheckResponse (nonces.map ping) = [] := by
  simp [ofType, ping, Outbound.ofMessage, Message.type]

theorem ofType_answer (nonces : List UInt64) :
    ofType .healthCheckResponse (nonces.map answer) = nonces.map answer ∧
      ofType .healthCheck (nonces.map answer) = [] := by
  simp [ofType, answer, Outbound.ofMessage, Message.type]

theorem Keeps.congr {m : Nat} {interval : Duration} {nonce : UInt64} {t₀ : Duration}
    {history : List Happening} {sent sent' : List Outbound} {failures failures' : List Duration}
    (h : Keeps m interval nonce t₀ history sent failures)
    (hpings : ofType .healthCheck sent' = ofType .healthCheck sent)
    (hanswers : ofType .healthCheckResponse sent' = ofType .healthCheckResponse sent)
    (hfailures : failures' = failures) :
    Keeps m interval nonce t₀ history sent' failures' := by
  refine ⟨hanswers.trans h.answers, ?_⟩
  rw [hpings, hfailures]
  exact h.ticks

namespace Life

/-- No tick has been overdue. -/
structure Running (m : Nat) (c : HealthConfig) (nonce : UInt64) (t₀ : Duration)
    (history : List Happening) (l : Life) : Prop where
  config : l.monitor.config = c
  nextNonce : l.monitor.nextNonce = nonce + UInt64.ofNat (HealthMonitor.ticks history)
  ticking : ∃ last, Latest history last ∧ l.monitor.ticking =
    some ⟨t₀ + last * c.interval, t₀ + HealthMonitor.ticks history * c.interval⟩
  succeeded : l.monitor.succeeded = true ↔ Heard history (HealthMonitor.ticks history)
  never : ∀ n, ¬ Overdue m history n
  failures : l.failures = []
  pings : ofType .healthCheck l.sent =
    (List.range (HealthMonitor.ticks history)).map fun n => ping (nonce + UInt64.ofNat n)

/-- Tick `n` has been overdue, and the first to be. -/
structure Failed (m : Nat) (c : HealthConfig) (nonce : UInt64) (t₀ : Duration)
    (history : List Happening) (l : Life) (n : Nat) : Prop where
  ticking : l.monitor.ticking = none
  overdue : Overdue m history n
  first : ∀ k < n, ¬ Overdue m history k
  failures : l.failures = [t₀ + n * c.interval]
  pings : ofType .healthCheck l.sent =
    (List.range n).map fun n => ping (nonce + UInt64.ofNat n)

variable {m : Nat} {c : HealthConfig} {nonce : UInt64} {t₀ : Duration} {history : List Happening}
  {happening : Happening} {l : Life} {n : Nat}

theorem running_start (m : Nat) (c : HealthConfig) (nonce : UInt64) (t₀ : Duration) :
    Running m c nonce t₀ [] (start c nonce t₀) where
  config := rfl
  nextNonce := (UInt64.add_zero nonce).symm
  ticking := by
    refine ⟨0, ⟨.inl rfl, Nat.le_refl _, fun k _ hk => absurd hk (Nat.not_lt_zero k)⟩, ?_⟩
    simp [start, spawn, HealthMonitor.ticks]
  succeeded := by simp [start, spawn, Heard]
  never := fun n hoverdue => Nat.not_lt_zero n hoverdue.1
  failures := rfl
  pings := rfl

theorem Running.heard (h : Running m c nonce t₀ history l)
    (hsucceeded : l.monitor.succeeded = true) : Heard history (HealthMonitor.ticks history) :=
  h.succeeded.mp hsucceeded

theorem Running.not_heard (h : Running m c nonce t₀ history l)
    (hsucceeded : l.monitor.succeeded = false) :
    ¬ Heard history (HealthMonitor.ticks history) := by
  rw [← h.succeeded, hsucceeded]
  exact Bool.false_ne_true

theorem Running.handled (h : Running m c nonce t₀ history l) (hother : happening ≠ .tick) :
    Running m c nonce t₀ (history ++ [happening]) (l.step happening) := by
  have hticks : HealthMonitor.ticks (history ++ [happening]) = HealthMonitor.ticks history := by
    rw [ticks_concat, if_neg hother, Nat.add_zero]
  rw [step_of_handled hother]
  refine ⟨h.config, ?_, ?_, ?_, ?_, h.failures, ?_⟩
  · rw [hticks]
    exact h.nextNonce
  · obtain ⟨last, hlatest, hticking⟩ := h.ticking
    refine ⟨last, ⟨?_, ?_, ?_⟩, ?_⟩
    · exact hlatest.heard.imp_right fun hheard => heard_concat.mpr (.inl hheard)
    · rw [hticks]
      exact hlatest.le
    · rw [hticks]
      exact fun k hlast hk hheard =>
        hlatest.since k hlast hk ((heard_concat_of_lt hk).mp hheard)
    · rw [hticks]
      exact hticking
  · rw [hticks, heard_concat, ← h.succeeded]
    simp
  · rintro n hoverdue
    have hn : n < HealthMonitor.ticks history := hticks ▸ hoverdue.1
    exact h.never n ((overdue_concat_of_lt hn).mp hoverdue)
  · rw [hticks, ofType_append, (ofType_answer _).2, List.append_nil]
    exact h.pings

/-- The tick fails if it is overdue; otherwise it pings. -/
theorem Running.tick (h : Running m c nonce t₀ history l) (hm : 0 < m)
    (hinterval : 0 < c.interval) (hdeadline : c.deadline = c.interval * m) :
    Running m c nonce t₀ (history ++ [.tick]) (l.step .tick) ∨
      Failed m c nonce t₀ (history ++ [.tick]) (l.step .tick) (HealthMonitor.ticks history) := by
  obtain ⟨last, hlatest, hticking⟩ := h.ticking
  have hticks : HealthMonitor.ticks (history ++ [.tick]) = HealthMonitor.ticks history + 1 :=
    ticks_concat history .tick
  have hearlier : ∀ k < HealthMonitor.ticks history, ¬ Overdue m (history ++ [.tick]) k :=
    fun k hk hoverdue => h.never k ((overdue_concat_of_lt hk).mp hoverdue)
  have helapsed : (t₀ + HealthMonitor.ticks history * c.interval) - (t₀ + last * c.interval) =
      c.interval * (HealthMonitor.ticks history - last) := by
    rw [Nat.add_sub_add_left, ← Nat.sub_mul, Nat.mul_comm]
  have hoverdue : Overdue m (history ++ [.tick]) (HealthMonitor.ticks history) ↔
      l.monitor.succeeded = false ∧ m ≤ HealthMonitor.ticks history - last := by
    rw [overdue_tick]
    cases hsucceeded : l.monitor.succeeded with
    | true =>
      refine iff_of_false (fun hsilent => ?_) (by simp)
      exact hsilent.2 _ (Nat.lt_add_of_pos_right hm) (Nat.le_refl _) (h.heard hsucceeded)
    | false =>
      rw [hlatest.silent_iff (h.not_heard hsucceeded)]
      exact (and_iff_right rfl).symm
  rw [step_tick, hticking]
  simp only [h.config, hdeadline, helapsed, Nat.mul_le_mul_left_iff hinterval]
  by_cases hfails : l.monitor.succeeded = false ∧ m ≤ HealthMonitor.ticks history - last
  · rw [if_pos hfails]
    refine .inr ⟨rfl, hoverdue.mpr hfails, hearlier, ?_, h.pings⟩
    rw [h.failures, List.nil_append]
  · rw [if_neg hfails]
    refine .inl ⟨rfl, ?_, ?_, ?_, ?_, h.failures, ?_⟩
    · simp only [h.nextNonce, hticks, UInt64.ofNat_add, UInt64.add_assoc]
      rfl
    · refine ⟨if l.monitor.succeeded then HealthMonitor.ticks history else last, ?_, ?_⟩
      · cases hsucceeded : l.monitor.succeeded with
        | true => exact latest_tick_of_heard (h.heard hsucceeded)
        | false => exact hlatest.tick (h.not_heard hsucceeded)
      · simp only [hticks, Nat.add_mul, Nat.one_mul, Nat.add_assoc]
        split <;> rfl
    · rw [hticks, heard_tick]
      exact iff_of_false Bool.false_ne_true (not_heard_of_lt (Nat.lt_succ_self _))
    · rintro n hoverdue'
      rcases Nat.lt_succ_iff_lt_or_eq.mp (hticks ▸ hoverdue'.1) with hlt | rfl
      · exact hearlier n hlt hoverdue'
      · exact hfails (hoverdue.mp hoverdue')
    · rw [hticks, ofType_append, List.range_succ, List.map_append, h.pings, h.nextNonce]
      exact congrArg _ (ofType_ping [_]).1

theorem Failed.step (h : Failed m c nonce t₀ history l n) (happening : Happening) :
    Failed m c nonce t₀ (history ++ [happening]) (l.step happening) n := by
  have hn := h.overdue.1
  have hoverdue : Overdue m (history ++ [happening]) n := (overdue_concat_of_lt hn).mpr h.overdue
  have hfirst : ∀ k < n, ¬ Overdue m (history ++ [happening]) k := fun k hk hk' =>
    h.first k hk ((overdue_concat_of_lt (Nat.lt_trans hk hn)).mp hk')
  by_cases htick : happening = .tick
  · rw [htick] at hoverdue hfirst ⊢
    rw [step_tick, h.ticking]
    exact ⟨h.ticking, hoverdue, hfirst, h.failures, h.pings⟩
  · rw [step_of_handled htick]
    refine ⟨h.ticking, hoverdue, hfirst, h.failures, ?_⟩
    rw [ofType_append, (ofType_answer _).2, List.append_nil]
    exact h.pings

/-- Over any history a monitor that was running runs on, or fails at the first overdue tick. -/
theorem after_cases (hm : 0 < m) (hinterval : 0 < c.interval)
    (hdeadline : c.deadline = c.interval * m) (later : List Happening)
    (h : Running m c nonce t₀ history l ∨ ∃ n, Failed m c nonce t₀ history l n) :
    Running m c nonce t₀ (history ++ later) (l.after later) ∨
      ∃ n, Failed m c nonce t₀ (history ++ later) (l.after later) n := by
  induction later generalizing history l with
  | nil => rwa [List.append_nil]
  | cons happening later ih =>
    rw [List.append_cons]
    refine ih ?_
    rcases h with hrunning | ⟨n, hfailed⟩
    · by_cases htick : happening = .tick
      · rw [htick]
        exact (hrunning.tick hm hinterval hdeadline).imp_right fun hfailed => ⟨_, hfailed⟩
      · exact .inl (hrunning.handled htick)
    · exact .inr ⟨n, hfailed.step happening⟩

theorem answers_step (happening : Happening) (l : Life) :
    ofType .healthCheckResponse (l.step happening).sent =
      ofType .healthCheckResponse l.sent ++ happening.nonce?.toList.map answer := by
  by_cases htick : happening = .tick
  · rw [htick, step_tick]
    split
    · exact (List.append_nil _).symm
    split
    · exact (List.append_nil _).symm
    · rw [ofType_append]
      exact congrArg _ (ofType_ping [_]).2
  · rw [step_of_handled htick, ofType_append, (ofType_answer _).1]

theorem answers_after (history : List Happening) (l : Life) :
    ofType .healthCheckResponse (l.after history).sent =
      ofType .healthCheckResponse l.sent ++ (history.filterMap Happening.nonce?).map answer := by
  induction history generalizing l with
  | nil => exact (List.append_nil _).symm
  | cons happening history ih =>
    rw [after, List.foldl_cons]
    refine (ih (l.step happening)).trans ?_
    rw [answers_step, List.append_assoc, ← List.map_append]
    cases hnonce : happening.nonce? <;> simp [hnonce]

/-- A monitor that has come to life keeps to the window law, and as long as it runs it waits for
the next multiple of its interval. -/
theorem keeps_after (intervalSecs : UInt64) (maxMissed : UInt32) (nonce : UInt64) (t₀ : Duration)
    (history : List Happening) :
    let c := HealthConfig.ofParts intervalSecs maxMissed
    let l := (start c nonce t₀).after history
    Keeps (max maxMissed.toNat 1) c.interval nonce t₀ history l.sent l.failures ∧
      ((∃ t, l.monitor.ticking = some t) ↔ l.failures = []) ∧
      ∀ t, l.monitor.ticking = some t →
        t.due = t₀ + HealthMonitor.ticks history * c.interval := by
  intro c l
  have hm : 0 < max maxMissed.toNat 1 := Nat.lt_of_lt_of_le Nat.one_pos (Nat.le_max_right _ _)
  have hinterval : 0 < c.interval :=
    Nat.lt_of_lt_of_le (by decide) (HealthConfig.clamped intervalSecs maxMissed).1
  have hcases := after_cases hm hinterval (HealthConfig.deadline_ofParts intervalSecs maxMissed)
    history (.inl (running_start _ c nonce t₀))
  rw [List.nil_append] at hcases
  have hanswers := answers_after history (start c nonce t₀)
  rcases hcases with h | ⟨n, h⟩
  · obtain ⟨last, -, hticking⟩ := h.ticking
    refine ⟨⟨hanswers, .inl ⟨h.never, h.failures, h.pings⟩⟩,
      iff_of_true ⟨_, hticking⟩ h.failures, fun t ht => ?_⟩
    rw [hticking] at ht
    cases ht
    rfl
  · refine ⟨⟨hanswers, .inr ⟨n, h.overdue, h.first, h.failures, h.pings⟩⟩,
      iff_of_false ?_ ?_, fun t ht => ?_⟩
    · rintro ⟨t, ht⟩
      rw [h.ticking] at ht
      cases ht
    · rw [h.failures]
      exact List.cons_ne_nil _ _
    · rw [h.ticking] at ht
      cases ht

end Life

end HealthMonitor

end TunnelAgent
