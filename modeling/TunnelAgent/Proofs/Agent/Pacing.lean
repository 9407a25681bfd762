import TunnelAgent.Proofs.Agent.Steps
import TunnelAgent.Proofs.Backoff.Runs
import TunnelAgent.Proofs.Session.Turn

/-! # What follows a session

Sessions are counted since the last one that came to dispatching, that one included. The count
decides when the agent gives up and how long it pauses: the backoff, which lives on from session to
session, holds nothing else. A stop that is asked for before a pause is over ends the agent in that
pause, whatever comes after it. -/

namespace TunnelAgent

/-- The pause that follows `n` pauses since the start. -/
def BackoffPolicy.pauseAfter (p : BackoffPolicy) : Nat → Duration
  | 0 => p.firstPause
  | n + 1 => p.grown (p.pauseAfter n)

/-- The pauses that a policy prescribes: each is the one before times the factor, cut off at the
longest. A factor that is no number above one leaves them all at the first. -/
structure BackoffPolicy.Prescribes (p : BackoffPolicy) (pause : Nat → Duration) : Prop where
  first : pause 0 = min p.initial p.longest
  flat : (∀ m e, p.multiplier = .finite false m e → Binary64.value m e ≤ 1) →
    ∀ n, pause (n + 1) = pause n
  grown : ∀ m e, p.multiplier = .finite false m e → 1 < Binary64.value m e → ∀ n,
    let seconds := (Duration.toSeconds (pause n)).mul p.multiplier
    pause (n + 1) =
      if (Duration.toSeconds p.longest).le seconds then p.longest else Duration.ofSeconds64 seconds

theorem BackoffPolicy.prescribes_pauseAfter (p : BackoffPolicy) : p.Prescribes p.pauseAfter where
  first := rfl
  flat hflat n := p.grown_of_flat (p.pauseAfter n) hflat
  grown _ _ hmultiplier hgrows n := p.grown_of_grows (p.pauseAfter n) hmultiplier hgrows

/-- A backoff after `n` pauses since the start. -/
def BackoffPolicy.waited (p : BackoffPolicy) (n : Nat) : Backoff where
  policy := p
  pause := p.pauseAfter n
  attempt := n

theorem Backoff.begin_waited (p : BackoffPolicy) (n : Nat) :
    (p.waited n).begin =
      ((p.limit.filter (· < n + 1)).elim (.ok (p.pauseAfter n)) fun limit =>
          .error (.maxAttemptsReached limit),
        { p.waited n with attempt := n + 1 }) := by
  simp only [Backoff.begin, BackoffPolicy.waited]
  cases p.limit with
  | none => rfl
  | some limit => by_cases h : limit < n + 1 <;> simp [Option.filter, h]

namespace Supervisor

/-- A session that has ended, and whether the agent had been asked to stop by then. -/
structure Turn where
  ended : Ended
  shutdown : Bool

/-- The number of sessions since the last one that came to dispatching, which counts, too. -/
def streak (turns : List Turn) : Nat :=
  (turns.reverse.takeWhile fun turn => !turn.ended.reachedDispatching).length +
    if turns.any (·.ended.reachedDispatching) then 1 else 0

theorem streak_concat (turns : List Turn) (turn : Turn) :
    streak (turns ++ [turn]) = if turn.ended.reachedDispatching then 1 else streak turns + 1 := by
  cases h : turn.ended.reachedDispatching <;> simp [streak, h]
  omega

/-- What a session comes to that is the `r`-th of its streak, the first that applies; `none` if a
pause follows it. -/
def outcome? (p : BackoffPolicy) (r : Nat) (turn : Turn) : Option (Except AgentFault Unit) :=
  match turn.ended.result with
  | .ok () => some (.ok ())
  | .error fault =>
    if fault.isCredentialFault then some (.error (.session fault))
    else if turn.shutdown then some (.ok ())
    else
      match p.limit.filter (· < r) with
      | some limit => some (.error (.reconnect (.maxAttemptsReached limit)))
      | none => none

/-- A decision is the outcome of its session, or a pause. -/
theorem decide_waited (p : BackoffPolicy) (n : Nat) (turn : Turn) :
    let r := if turn.ended.reachedDispatching then 1 else n + 1
    (∃ result b, outcome? p r turn = some result ∧
        decide turn.shutdown turn.ended (p.waited n) = (.stop result, b)) ∨
      ∃ m, r = m + 1 ∧ outcome? p r turn = none ∧
        decide turn.shutdown turn.ended (p.waited n) =
          (.pause (p.pauseAfter m), { p.waited m with attempt := r }) := by
  intro r
  obtain ⟨m, hm, hr⟩ : ∃ m,
      (if turn.ended.reachedDispatching then (p.waited n).reset else p.waited n) = p.waited m ∧
        r = m + 1 := by
    cases h : turn.ended.reachedDispatching with
    | true => exact ⟨0, rfl, by simp [r, h]⟩
    | false => exact ⟨n, rfl, by simp [r, h]⟩
  unfold decide outcome?
  rw [hm, hr]
  cases turn.ended.result with
  | ok _ => exact .inl ⟨_, _, rfl, rfl⟩
  | error fault =>
    cases hfault : fault.isCredentialFault with
    | true => exact .inl ⟨.error (.session fault), p.waited m, by simp [hfault]⟩
    | false =>
      cases turn.shutdown with
      | true => exact .inl ⟨.ok (), p.waited m, by simp [hfault]⟩
      | false =>
        simp only [hfault, Backoff.begin_waited, Bool.false_eq_true, if_false]
        cases p.limit.filter (· < m + 1) with
        | some limit => exact .inl ⟨_, _, rfl, rfl⟩
        | none => exact .inr ⟨m, rfl, rfl, rfl⟩

/-- After each of these sessions came a pause. -/
def Passed (p : BackoffPolicy) (turns : List Turn) : Prop :=
  ∀ before turn after, turns = before ++ turn :: after →
    outcome? p (streak (before ++ [turn])) turn = none

theorem passed_nil (p : BackoffPolicy) : Passed p [] := by
  intro before turn after h
  simp at h

theorem Passed.concat {p : BackoffPolicy} {turns : List Turn} {turn : Turn} (h : Passed p turns)
    (hturn : outcome? p (streak (turns ++ [turn])) turn = none) : Passed p (turns ++ [turn]) := by
  intro before other after hsplit
  rcases List.eq_nil_or_concat after with rfl | ⟨after, last, rfl⟩
  · obtain ⟨rfl, hlast⟩ := List.append_inj' hsplit rfl
    cases hlast
    exact hturn
  · rw [List.concat_eq_append, ← List.cons_append, ← List.append_assoc] at hsplit
    exact h before other after (List.append_inj' hsplit rfl).1

end Supervisor

namespace Agent
open Supervisor

/-- The session as it is decided on. -/
def turn (a : Agent) (result : Except SessionFault Unit) : Turn where
  ended := ⟨a.session.reachedDispatching, result⟩
  shutdown := a.session.shared.shutdown

def note (action : Action) (a : Agent) (turns : List Turn) : List Turn :=
  match action, a.session.result? with
  | .conclude _, some result => turns ++ [a.turn result]
  | _, _ => turns

/-- The sessions that a run has decided on, in order. -/
def turnsAfter : List Action → Agent → List Turn → List Turn
  | [], _, turns => turns
  | action :: rest, a, turns =>
    match step action a with
    | none => turns
    | some a' => turnsAfter rest a' (note action a turns)

/-- The backoff of an agent that has decided on these sessions. -/
def Paced (p : BackoffPolicy) (a : Agent) (turns : List Turn) : Prop :=
  match a.stage with
  | .idle => turns = [] ∧ a.backoff = p.waited 0
  | .inSession => Passed p turns ∧ a.backoff = p.waited (streak turns)
  | .pausing .. =>
    Passed p turns ∧ ∃ n, streak turns = n + 1 ∧ a.backoff = { p.waited n with attempt := n + 1 }
  | .stopped _ => True

/-- The steps that the loop over the sessions consists of. -/
inductive IsLoops : Action → Prop
  | begin (listener : Except IoFault Endpoint) : IsLoops (.begin listener)
  | conclude (lasts : Duration → Duration) : IsLoops (.conclude lasts)
  | resume : IsLoops .resume
  | cancel : IsLoops .cancel

variable {p : BackoffPolicy} {a a' : Agent} {turns : List Turn} {lasts : Duration → Duration}

/-- In each stage few steps of the loop are possible. -/
theorem loops_of_step {action : Action} (hloop : IsLoops action) (hstep : step action a = some a') :
    match a.stage with
    | .idle => ∃ listener, action = .begin listener
    | .inSession => (∃ lasts, action = .conclude lasts) ∧ a.session.result?.isSome
    | .pausing due cut =>
      action = .resume ∧ cut = false ∧ due ≤ a.session.now ∨
        action = .cancel ∧ a.session.shared.shutdown = true
    | .stopped _ => False := by
  cases hloop with
  | begin listener =>
    obtain ⟨hstage, -⟩ := begin_cases hstep
    rw [hstage]
    exact ⟨listener, rfl⟩
  | conclude lasts =>
    obtain ⟨result, hstage, hresult, -⟩ := conclude_cases hstep
    rw [hstage, hresult]
    exact ⟨⟨lasts, rfl⟩, rfl⟩
  | resume =>
    obtain ⟨due, hstage, hdue, -⟩ := resume_cases hstep
    rw [hstage]
    exact .inl ⟨rfl, rfl, hdue⟩
  | cancel =>
    obtain ⟨due, cut, hstage, hshutdown, -⟩ := cancel_cases hstep
    rw [hstage]
    exact .inr ⟨rfl, hshutdown⟩

/-- What a step that is not the loop's leaves as it is. -/
structure Aside (a a' : Agent) : Prop where
  stage : a'.stage = a.stage
  backoff : a'.backoff = a.backoff
  shutdown : a'.session.shared.shutdown = a.session.shared.shutdown

theorem aside_of_step {action : Action} (hstep : step action a = some a')
    (hloop : ¬ IsLoops action) (hstop : action ≠ .shutdown) : Aside a a' := by
  cases action with
  | begin listener => exact absurd (.begin listener) hloop
  | conclude lasts => exact absurd (.conclude lasts) hloop
  | resume => exact absurd .resume hloop
  | cancel => exact absurd .cancel hloop
  | shutdown => exact absurd rfl hstop
  | store rules =>
    cases hstep
    exact ⟨rfl, rfl, rfl⟩
  | session action =>
    obtain ⟨hsessions, s, hs, rfl⟩ := sessionStep_cases hstep
    have hnext : a.session.next (.own action) = some s := hs
    refine ⟨rfl, rfl, (Session.turn_of_next hnext).shutdown ?_⟩
    intro h
    cases h
    cases hsessions
  | former index action =>
    obtain ⟨former, pool, rfl⟩ := formerStep_cases hstep
    exact ⟨rfl, rfl, rfl⟩
  | forward call draws =>
    obtain ⟨rules, -, ⟨-, result, s, hs, rfl⟩ | ⟨-, rfl⟩⟩ := forward_cases hstep
    · refine ⟨rfl, rfl, ?_⟩
      obtain ⟨-, resources, -, -, -, rfl⟩ | ⟨-, rfl⟩ := Session.reregister_cases hs <;> rfl
    · exact ⟨rfl, rfl, rfl⟩

/-- The agent has been asked to stop from the first such request on. -/
theorem shutdown_of_step {action : Action} (hstep : step action a = some a') :
    a'.session.shared.shutdown = true ↔
      a.session.shared.shutdown = true ∨ action = .shutdown := by
  by_cases hloop : IsLoops action
  · have hkept : a'.session.shared.shutdown = a.session.shared.shutdown ∧ action ≠ .shutdown := by
      cases hloop with
      | begin listener => obtain ⟨-, rfl | ⟨fault, rfl⟩⟩ := begin_cases hstep <;> simp
      | conclude lasts =>
        obtain ⟨result, -, -, backoff, stage, rfl⟩ := conclude_cases hstep
        simp
      | resume =>
        obtain ⟨due, -, -, rfl⟩ := resume_cases hstep
        exact ⟨rfl, by simp⟩
      | cancel =>
        obtain ⟨due, cut, -, -, rfl⟩ := cancel_cases hstep
        simp
    rw [hkept.1, or_iff_left hkept.2]
  · by_cases hstop : action = .shutdown
    · subst hstop
      cases hstep
      simp [Agent.shutdown]
    · rw [(aside_of_step hstep hloop hstop).shutdown, or_iff_left hstop]

theorem shutdown_of_run {actions : List Action} (hrun : run actions a = some a') :
    a'.session.shared.shutdown = true ↔
      a.session.shared.shutdown = true ∨ Action.shutdown ∈ actions := by
  induction actions generalizing a with
  | nil =>
    cases hrun
    simp
  | cons action rest ih =>
    rw [run] at hrun
    obtain ⟨b, hstep, hrest⟩ := Option.bind_eq_some_iff.mp hrun
    rw [ih hrest, shutdown_of_step hstep, List.mem_cons, or_assoc, eq_comm (a := action)]

/-! ## The end of the loop -/

/-- Nothing is left but to stop in this pause, or the agent has stopped. -/
def Ceased (due : Duration) (a : Agent) : Prop :=
  a.stage = .pausing due true ∧ a.session.shared.shutdown = true ∨ a.stage = .stopped (.ok ())

theorem stopped_of_step {action : Action} {result : Except AgentFault Unit}
    (h : a.stage = .stopped result) (hstep : step action a = some a') :
    a'.stage = .stopped result := by
  by_cases hloop : IsLoops action
  · have hnone := loops_of_step hloop hstep
    rw [h] at hnone
    exact hnone.elim
  · by_cases hstop : action = .shutdown
    · subst hstop
      cases hstep
      simp [Agent.shutdown, h]
    · exact (aside_of_step hstep hloop hstop).stage.trans h

theorem Ceased.step {due : Duration} {action : Action} (h : Ceased due a)
    (hstep : Agent.step action a = some a') : Ceased due a' := by
  rcases h with ⟨hstage, hshutdown⟩ | hstopped
  · by_cases hloop : IsLoops action
    · have hcancel := loops_of_step hloop hstep
      rw [hstage] at hcancel
      rcases hcancel with ⟨-, hcut, -⟩ | ⟨rfl, -⟩
      · cases hcut
      · obtain ⟨due, cut, -, -, rfl⟩ := cancel_cases hstep
        exact .inr rfl
    · refine .inl ⟨?_, (shutdown_of_step hstep).mpr (.inl hshutdown)⟩
      by_cases hstop : action = .shutdown
      · subst hstop
        cases hstep
        simp [Agent.shutdown, hstage]
      · exact (aside_of_step hstep hloop hstop).stage.trans hstage
  · exact .inr (stopped_of_step hstopped hstep)

theorem ceased_shutdown {due : Duration} {cut : Bool} (hstage : a.stage = .pausing due cut)
    (hearly : a.session.now < due) : Ceased due a.shutdown :=
  .inl ⟨by simp [Agent.shutdown, hstage, hearly], rfl⟩

theorem cancel_of_shutdown {due : Duration} {cut : Bool} (hstage : a.stage = .pausing due cut)
    (hshutdown : a.session.shared.shutdown = true) :
    a.cancel = some { a with stage := .stopped (.ok ()) } := by
  rw [cancel, hstage]
  exact if_pos hshutdown

theorem Ceased.outcome {due : Duration} (h : Ceased due a) :
    a.resume = none ∧
      (a.stage = .pausing due true ∧ a.cancel = some { a with stage := .stopped (.ok ()) } ∨
        a.stage = .stopped (.ok ())) := by
  rcases h with ⟨hstage, hshutdown⟩ | hstopped
  · exact ⟨by rw [resume, hstage]; rfl, .inl ⟨hstage, cancel_of_shutdown hstage hshutdown⟩⟩
  · exact ⟨by rw [resume, hstopped], .inr hstopped⟩

/-! ## The count of the sessions -/

theorem note_of_other {action : Action} (h : ∀ lasts, action ≠ .conclude lasts) (a : Agent)
    (turns : List Turn) : note action a turns = turns := by
  cases action with
  | conclude lasts => exact absurd rfl (h lasts)
  | _ => rfl

namespace Paced

theorem create {c : Config} (h : Agent.create c = .ok a) : Paced c.backoffPolicy a [] := by
  unfold Agent.create at h
  split at h <;> cases h
  exact ⟨rfl, rfl⟩

theorem begin {listener : Except IoFault Endpoint} (h : Paced p a turns)
    (hstep : a.begin listener = some a') : Paced p a' turns := by
  obtain ⟨hstage, hcases⟩ := begin_cases hstep
  rw [Paced, hstage] at h
  obtain ⟨rfl, hbackoff⟩ := h
  rcases hcases with rfl | ⟨fault, rfl⟩
  · exact ⟨passed_nil p, hbackoff⟩
  · exact trivial

theorem inSession (h : Paced p a turns) (hstage : a.stage = .inSession) :
    Passed p turns ∧ a.backoff = p.waited (streak turns) := by
  rwa [Paced, hstage] at h

theorem pausing {due : Duration} {cut : Bool} (h : Paced p a turns)
    (hstage : a.stage = .pausing due cut) :
    Passed p turns ∧
      ∃ n, streak turns = n + 1 ∧ a.backoff = { p.waited n with attempt := n + 1 } := by
  rwa [Paced, hstage] at h

/-- The decision on a session. -/
theorem conclude_eq {result : Except SessionFault Unit} (h : Paced p a turns)
    (hstage : a.stage = .inSession) (hresult : a.session.result? = some result)
    (lasts : Duration → Duration) :
    let r := streak (turns ++ [a.turn result])
    (∃ final b, outcome? p r (a.turn result) = some final ∧
        a.conclude lasts = some { a with backoff := b, stage := .stopped final }) ∨
      ∃ n, r = n + 1 ∧ outcome? p r (a.turn result) = none ∧
        a.conclude lasts = some { a with
          backoff := { p.waited n with attempt := r }
          stage := .pausing (a.session.now + lasts (p.pauseAfter n)) false } := by
  intro r
  obtain ⟨-, hbackoff⟩ := h.inSession hstage
  have hrank : r = _ := streak_concat turns (a.turn result)
  have hdecide : ∀ {decision : Decision} {b : Backoff},
      Supervisor.decide (a.turn result).shutdown (a.turn result).ended (p.waited (streak turns)) =
        (decision, b) →
      Supervisor.decide a.session.shared.shutdown ⟨a.session.reachedDispatching, result⟩ a.backoff =
        (decision, b) := by
    intro decision b h
    rw [hbackoff]
    exact h
  rw [hrank]
  rcases decide_waited p (streak turns) (a.turn result) with
    ⟨final, b, hfinal, hstop⟩ | ⟨n, hn, hnone, hpause⟩
  · refine .inl ⟨final, b, hfinal, ?_⟩
    simp only [Agent.conclude, hstage, hresult, hdecide hstop]
  · refine .inr ⟨n, hn, hnone, ?_⟩
    simp only [Agent.conclude, hstage, hresult, hdecide hpause]

theorem conclude (h : Paced p a turns) (hstep : a.conclude lasts = some a') :
    Paced p a' (note (.conclude lasts) a turns) := by
  obtain ⟨result, hstage, hresult, -⟩ := conclude_cases hstep
  have hnote : note (.conclude lasts) a turns = turns ++ [a.turn result] := by
    simp only [note, hresult]
  rw [hnote]
  rcases h.conclude_eq hstage hresult lasts with
    ⟨final, b, -, hconclude⟩ | ⟨n, hn, hnone, hconclude⟩
  · rw [hconclude] at hstep
    cases hstep
    exact trivial
  · rw [hconclude] at hstep
    cases hstep
    exact ⟨(h.inSession hstage).1.concat hnone, n, hn, by rw [hn]⟩

theorem resume (h : Paced p a turns) (hstep : a.resume = some a') : Paced p a' turns := by
  obtain ⟨due, hstage, -, rfl⟩ := resume_cases hstep
  obtain ⟨hpassed, n, hn, hbackoff⟩ := h.pausing hstage
  refine ⟨hpassed, ?_⟩
  rw [hn]
  exact congrArg Backoff.passed hbackoff

theorem cancel (hstep : a.cancel = some a') : Paced p a' turns := by
  obtain ⟨due, cut, -, -, rfl⟩ := cancel_cases hstep
  exact trivial

/-- A request to stop marks a pause, and leaves it a pause. -/
theorem shutdown (h : Paced p a turns) : Paced p a.shutdown turns := by
  rw [Paced] at h
  cases hstage : a.stage with
  | idle | inSession | pausing due cut | stopped result =>
    rw [hstage] at h
    rw [Paced, Agent.shutdown, hstage]
    exact h

theorem aside (h : Paced p a turns) (haside : Aside a a') : Paced p a' turns := by
  rw [Paced, haside.stage, haside.backoff]
  exact h

theorem step {action : Action} (h : Paced p a turns) (hstep : Agent.step action a = some a') :
    Paced p a' (note action a turns) := by
  by_cases hloop : IsLoops action
  · cases hloop with
    | begin listener => exact h.begin hstep
    | conclude lasts => exact h.conclude hstep
    | resume => exact h.resume hstep
    | cancel => exact cancel hstep
  · have hother : ∀ lasts, action ≠ .conclude lasts := by
      intro lasts hconclude
      subst hconclude
      exact hloop (.conclude lasts)
    rw [note_of_other hother]
    by_cases hstop : action = .shutdown
    · subst hstop
      cases hstep
      exact h.shutdown
    · exact h.aside (aside_of_step hstep hloop hstop)

theorem run {actions : List Action} (h : Paced p a turns) (hrun : Agent.run actions a = some a') :
    Paced p a' (turnsAfter actions a turns) := by
  induction actions generalizing a turns with
  | nil =>
    cases hrun
    exact h
  | cons action rest ih =>
    rw [Agent.run] at hrun
    obtain ⟨b, hstep, hrest⟩ := Option.bind_eq_some_iff.mp hrun
    rw [turnsAfter, hstep]
    exact ih (h.step hstep) hrest

end Paced

/-- What the loop over the sessions does, wherever a run has come to. In a session that has ended the
first outcome that applies to it is the loop's, and if none applies a pause starts, the next one of
the streak. A pause that no stop cuts short is followed by another session; a stop that is asked for
in it ends the loop, whatever comes after. -/
theorem after_each_session {c : Config} {a₀ a : Agent} {actions : List Action}
    (hcreate : Agent.create c = .ok a₀) (hrun : Agent.run actions a₀ = some a) :
    let p := c.backoffPolicy
    let turns := turnsAfter actions a₀ []
    p.Prescribes p.pauseAfter ∧
    (a.session.shared.shutdown = true ↔ Action.shutdown ∈ actions) ∧
    (∀ lasts result, a.stage = .inSession → a.session.result? = some result →
      let r := streak (turns ++ [a.turn result])
      Passed p turns ∧
        ∃ backoff, a.conclude lasts = some { a with
          backoff
          stage := (outcome? p r (a.turn result)).elim
            (.pausing (a.session.now + lasts (p.pauseAfter (r - 1))) false) .stopped }) ∧
    (∀ due cut, a.stage = .pausing due cut →
      Passed p turns ∧
      (a.session.shared.shutdown = true → a.cancel = some { a with stage := .stopped (.ok ()) }) ∧
      (cut = false → due ≤ a.session.now → ∃ a', a.resume = some a' ∧ a'.stage = .inSession ∧
        a'.session = .start a.session.settings a.session.handOver a.session.now streamCapacity) ∧
      (a.session.now < due → ∀ later b, run later a.shutdown = some b →
        b.resume = none ∧
          (b.stage = .pausing due true ∧ b.cancel = some { b with stage := .stopped (.ok ()) } ∨
            b.stage = .stopped (.ok ())))) ∧
    (∀ action a', IsLoops action → step action a = some a' →
      match a.stage with
      | .idle => ∃ listener, action = .begin listener
      | .inSession => (∃ lasts, action = .conclude lasts) ∧ a.session.result?.isSome
      | .pausing due cut =>
        action = .resume ∧ cut = false ∧ due ≤ a.session.now ∨
          action = .cancel ∧ a.session.shared.shutdown = true
      | .stopped _ => False) ∧
    (∀ action a', ¬ IsLoops action → action ≠ .shutdown → step action a = some a' →
      a'.stage = a.stage) ∧
    (∃ a', step .shutdown a = some a' ∧ a'.stage =
      match a.stage with
      | .pausing due cut => .pausing due (cut || a.session.now < due)
      | stage => stage) ∧
    ∀ result, a.stage = .stopped result → ∀ later b, run later a = some b →
      b.stage = .stopped result := by
  intro p turns
  have h : Paced p a turns := (Paced.create hcreate).run hrun
  have hfresh : a₀.session.shared.shutdown = false := by
    unfold Agent.create at hcreate
    split at hcreate <;> cases hcreate
    rfl
  refine ⟨p.prescribes_pauseAfter, ?_, fun lasts result hstage hresult => ?_,
    fun due cut hstage => ?_, fun action a' hloop hstep => loops_of_step hloop hstep,
    fun action a' hother hstop hstep => (aside_of_step hstep hother hstop).stage, ⟨_, rfl, rfl⟩,
    fun result hstage later b hlater => preserved_of_run stopped_of_step hstage hlater⟩
  · rw [shutdown_of_run hrun, hfresh]
    simp
  · intro r
    refine ⟨(h.inSession hstage).1, ?_⟩
    rcases h.conclude_eq hstage hresult lasts with
      ⟨final, b, hfinal, hconclude⟩ | ⟨n, hn, hnone, hconclude⟩
    · refine ⟨b, ?_⟩
      rw [hconclude, hfinal]
      rfl
    · have hlast : r - 1 = n := Nat.sub_eq_of_eq_add hn
      refine ⟨{ p.waited n with attempt := r }, ?_⟩
      rw [hconclude, hnone, hlast]
      rfl
  · refine ⟨(h.pausing hstage).1, cancel_of_shutdown hstage, fun hcut hdue => ?_,
      fun hearly later b hlater =>
        (preserved_of_run Ceased.step (ceased_shutdown hstage hearly) hlater).outcome⟩
    subst hcut
    rw [resume, hstage]
    exact ⟨_, if_neg (by simpa using hdue), rfl, rfl⟩

/-- One pause is allowed. -/
def hurriedConfig : Config where
  agentId := "a"
  gateway := { host := "h" }
  credentials := { username := "u" }
  reconnect := { maxAttempts := some 1 }

def hurriedAgent : Agent where
  config := hurriedConfig
  backoff := { policy := hurriedConfig.backoffPolicy }
  session := .start (sessionSettings hurriedConfig) (shared hurriedConfig) 0 streamCapacity

/-- A session that does not come to be connected, and half of the pause after it. -/
def refusedOnce : List Action :=
  [.begin (.ok ⟨.v4 127 0 0 1, 1080⟩), .session (.connect (.error .timeout)), .conclude id,
    .session (.advance 500000000)]

/-- Two such sessions, a second apart. -/
def twiceRefused : List Action :=
  refusedOnce ++ [.session (.advance 1000000000), .resume, .session (.connect (.error .timeout))]

/-- The second session exceeds the limit. Without it, a stop in the pause ends the agent, although
the pause is over before it is seen. -/
theorem after_each_session_of_limit :
    create hurriedConfig = .ok hurriedAgent ∧
      (∃ a, run twiceRefused hurriedAgent = some a ∧
        ∃ backoff, a.conclude id = some { a with
          backoff, stage := .stopped (.error (.reconnect (.maxAttemptsReached 1))) }) ∧
      ∃ a b, run refusedOnce hurriedAgent = some a ∧
        run [.session (.advance 1000000000)] a.shutdown = some b ∧
        b.resume = none ∧ b.cancel = some { b with stage := .stopped (.ok ()) } := by
  have hcreate : create hurriedConfig = .ok hurriedAgent := rfl
  have hrun : run twiceRefused hurriedAgent = some _ := rfl
  have hpause : run refusedOnce hurriedAgent = some _ := rfl
  obtain ⟨-, -, hends, -⟩ := after_each_session hcreate hrun
  obtain ⟨-, backoff, hconclude⟩ := hends id _ rfl rfl
  obtain ⟨-, -, -, hpauses, -⟩ := after_each_session hcreate hpause
  obtain ⟨-, -, -, hstops⟩ := hpauses (Duration.ofSeconds 1) false rfl
  obtain ⟨hresume, ⟨-, hcancel⟩ | hstopped⟩ :=
    hstops (by decide) [.session (.advance 1000000000)] _ rfl
  · exact ⟨hcreate, ⟨_, hrun, backoff, hconclude⟩, _, _, hpause, rfl, hresume, hcancel⟩
  · cases hstopped

end Agent

end TunnelAgent
