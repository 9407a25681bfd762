import TunnelAgent.Agent

/-! # The steps of an agent

What each step of an agent can do, said once. -/

namespace TunnelAgent.Agent

variable {a a' : Agent}

theorem begin_cases {listener : Except IoFault Endpoint} (h : a.begin listener = some a') :
    a.stage = .idle ∧ (a' = { a with stage := .inSession } ∨
      ∃ fault, a' = { a with stage := .stopped (.error (.listener fault)) }) := by
  unfold Agent.begin at h
  split at h <;> cases h
  · exact ⟨‹_›, .inl rfl⟩
  · exact ⟨‹_›, .inr ⟨_, rfl⟩⟩

theorem conclude_cases {lasts : Duration → Duration} (h : a.conclude lasts = some a') :
    ∃ result, a.stage = .inSession ∧ a.session.result? = some result ∧
      ∃ backoff stage, a' = { a with backoff, stage } := by
  unfold Agent.conclude at h
  split at h
  · split at h <;> cases h <;> exact ⟨_, ‹_›, ‹_›, _, _, rfl⟩
  · cases h

theorem resume_cases (h : a.resume = some a') :
    ∃ due, a.stage = .pausing due false ∧ due ≤ a.session.now ∧ a' = { a with
      stage := .inSession
      backoff := a.backoff.passed
      former := a.session.relay :: a.former
      session := .start a.session.settings a.session.handOver a.session.now streamCapacity } := by
  unfold Agent.resume at h
  split at h
  · rename_i due cut hstage
    split at h <;> cases h
    rename_i hpassed
    rw [Bool.or_eq_true, decide_eq_true_iff, not_or, Bool.not_eq_true] at hpassed
    obtain ⟨rfl, hdue⟩ := hpassed
    exact ⟨due, hstage, Nat.le_of_not_lt hdue, rfl⟩
  · cases h

theorem cancel_cases (h : a.cancel = some a') :
    ∃ due cut, a.stage = .pausing due cut ∧ a.session.shared.shutdown = true ∧
      a' = { a with stage := .stopped (.ok ()) } := by
  unfold Agent.cancel at h
  split at h
  · split at h <;> cases h
    exact ⟨_, _, ‹_›, ‹_›, rfl⟩
  · cases h

theorem sessionStep_cases {action : Session.Action} (h : a.sessionStep action = some a') :
    isSessions action = true ∧
      ∃ s, a.session.step action = some s ∧ a' = { a with session := s } := by
  unfold sessionStep at h
  split at h
  · cases h
  split at h
  · obtain ⟨s, hs, rfl⟩ := Option.map_eq_some_iff.mp h
    exact ⟨‹_›, s, hs, rfl⟩
  · cases h

/-- What an ended session has left moves by itself; only the pool is shared with the latest one. -/
theorem formerStep_cases {i : Nat} {action : Relay.Action} (h : a.formerStep i action = some a') :
    ∃ former pool, a' = { a with
      former, session := { a.session with relay := { a.session.relay with pool } } } := by
  unfold formerStep at h
  split at h
  · cases h
  split at h
  · split at h <;> cases h
    exact ⟨_, _, rfl⟩
  · cases h

/-- The second half of a call is over once it is made, whether or not it finds a registrar. -/
theorem forward_cases {call : Nat} {draws : List UInt64} (h : a.forward call draws = some a') :
    ∃ rules, a.calls[call]? = some rules ∧
      ((a.session.published = true ∧ ∃ result s, a.session.reregister rules draws = some (result, s) ∧
          a' = { a with calls := a.calls.eraseIdx call, session := s }) ∨
        a.session.published = false ∧ a' = { a with calls := a.calls.eraseIdx call }) := by
  unfold Agent.forward at h
  split at h
  · cases h
  rename_i rules hcall
  refine ⟨rules, hcall, ?_⟩
  simp only at h
  split at h
  · rename_i hpublished
    obtain ⟨⟨result, s⟩, hs, rfl⟩ := Option.map_eq_some_iff.mp h
    exact .inl ⟨hpublished, result, s, hs, rfl⟩
  · rename_i hpublished
    cases h
    exact .inr ⟨Bool.eq_false_iff.mpr hpublished, rfl⟩

theorem run_append (front back : List Action) (a : Agent) :
    run (front ++ back) a = (run front a).bind (run back) := by
  induction front generalizing a with
  | nil => rfl
  | cons action rest ih =>
    rw [List.cons_append, run, run]
    cases step action a with
    | none => rfl
    | some b => exact ih b

/-- What every step keeps, a run keeps. -/
theorem preserved_of_run {P : Agent → Prop}
    (hkept : ∀ {action a a'}, P a → step action a = some a' → P a') {actions : List Action} (h : P a)
    (hrun : run actions a = some a') : P a' := by
  induction actions generalizing a with
  | nil =>
    cases hrun
    exact h
  | cons action rest ih =>
    obtain ⟨b, hstep, hrest⟩ := Option.bind_eq_some_iff.mp hrun
    exact ih (hkept h hstep) hrest

end TunnelAgent.Agent
