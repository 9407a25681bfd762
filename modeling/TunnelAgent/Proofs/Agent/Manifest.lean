import TunnelAgent.Proofs.Agent.Steps
import TunnelAgent.Proofs.Config.Validity
import TunnelAgent.Proofs.Session.Registering

/-! # Which manifest the gateway has

A call that replaces the manifest first keeps the rules and then registers them on the session that
has published its registrar. Two orders of steps leave the gateway with other rules than the kept
ones: the latest call looks for a registrar after the session has taken the rules for its first
Registration and before it publishes, or an earlier call is registered after the latest one. -/

namespace TunnelAgent.Agent

/-- The rules that a Registration frame carries, as the gateway reads them. -/
def manifest? (frame : Outbound) : Option (List Rule) :=
  match Message.decode frame.type frame.payload with
  | .ok (.registration request) => some (request.resources.map (·.rule))
  | _ => none

theorem manifest?_frame {resources : List Resource}
    (hfits : Envelope.fits (Registrar.frame resources).payload) :
    manifest? (Registrar.frame resources) = some (resources.map (·.rule)) := by
  have hdecode : Message.decode (Registrar.frame resources).type (Registrar.frame resources).payload =
      (RegistrationRequest.format.decode (Registrar.frame resources).payload).map .registration := rfl
  rw [manifest?, hdecode, Registrar.decode_frame hfits]
  rfl

/-- What the steps of an agent have come to, for the manifest of its latest session. -/
structure Ledger where
  /-- the Registration frames that the session has sent -/
  registrations : List Outbound := []
  /-- the rules that the session was last to register -/
  asked : List Rule := []
  /-- the rules that the session took for its first Registration -/
  taken : List Rule := []
  /-- they could not be sent -/
  refused : Bool := false
  /-- the latest call is still in progress -/
  pending : Bool := false
  /-- the latest call found no registrar on a session that had made its first Registration -/
  missed : Bool := false
  /-- the rules of earlier calls that were registered after the latest one -/
  overtaking : List (List Rule) := []

namespace Ledger

/-- The manifest in the last Registration frame that the session has sent. -/
def manifest? (l : Ledger) : Option (List Rule) := l.registrations.getLast?.bind Agent.manifest?

def send (frames : List Outbound) (l : Ledger) : Ledger :=
  { l with registrations := l.registrations ++ frames.filter fun frame => frame.type = .registration }

/-- The session's sender turns the rules down. -/
def refuses (rules : List Rule) (draws : List UInt64) (s : Session) : Bool :=
  match s.reregister rules draws with
  | some (.error _, _) => true
  | _ => false

/-- Calls in progress stand in the order in which they came. -/
def isLatest (call : Nat) (a : Agent) (l : Ledger) : Bool := l.pending && call + 1 = a.calls.length

def record (action : Action) (before after : Agent) (l : Ledger) : Ledger :=
  let sent := l.send (Session.queued before.session after.session)
  match action with
  | .resume => { pending := l.pending }
  | .session _ =>
    if after.session.point.isRegistered && !before.session.point.isRegistered then
      { sent with
        asked := before.resources, taken := before.resources
        refused := false, missed := false, overtaking := [] }
    else sent
  | .store _ => { sent with pending := true, missed := false, overtaking := [] }
  | .forward call draws =>
    let rules := before.calls[call]?.getD []
    let pending := l.pending && !l.isLatest call before
    if before.session.published then
      { sent with
        asked := rules, refused := refuses rules draws before.session
        pending, overtaking := if l.pending then [] else l.overtaking ++ [rules] }
    else if l.isLatest call before then
      { sent with pending, missed := before.session.point.isRegistered }
    else sent
  | _ => sent

/-- The ledger at the end of a run. -/
def after : List Action → Agent → Ledger → Ledger
  | [], _, l => l
  | action :: rest, a, l =>
    match step action a with
    | none => l
    | some a' => after rest a' (l.record action a a')

theorem send_quiet {frames : List Outbound} (h : ∀ frame ∈ frames, frame.type ≠ .registration)
    (l : Ledger) : l.send frames = l := by
  have hfilter : frames.filter (fun frame => frame.type = .registration) = [] := by
    rw [List.filter_eq_nil_iff]
    intro frame hmem heq
    exact h frame hmem (of_decide_eq_true heq)
  rw [send, hfilter, List.append_nil]

theorem manifest?_send {resources : List Resource}
    (hfits : Envelope.fits (Registrar.frame resources).payload) (l : Ledger) :
    (l.send [Registrar.frame resources]).manifest? = some (resources.map (·.rule)) := by
  have hlast : (l.send [Registrar.frame resources]).registrations.getLast? =
      some (Registrar.frame resources) := List.getLast?_concat
  rw [manifest?, hlast, Option.bind_some, manifest?_frame hfits]

end Ledger

/-- The invariant of an agent and its ledger. -/
structure Booked (a : Agent) (l : Ledger) : Prop where
  consistent : a.session.Consistent
  carried : a.session.point.isRegistered = true → l.refused = false → l.manifest? = some l.asked
  latest : l.pending = true → a.calls.getLast? = some a.resources
  settled : a.session.point.isRegistered = true → l.pending = false → l.missed = false →
    l.overtaking = [] → l.asked = a.resources
  /-- before it publishes its registrar, a session has registered once -/
  first : a.session.point.isRegistered = true → a.session.published = false → l.asked = l.taken
  missed : l.missed = true → l.pending = false ∧ (l.overtaking = [] → l.asked = l.taken)
  overtaken : ∀ rules, l.overtaking.getLast? = some rules → l.asked = rules

theorem getLast?_eraseIdx {α : Type} {xs : List α} {i : Nat} (h : i + 1 < xs.length) :
    (xs.eraseIdx i).getLast? = xs.getLast? := by
  have hlength := List.length_eraseIdx_of_lt (show i < xs.length by omega)
  rw [List.getLast?_eq_getElem?, List.getLast?_eq_getElem?, hlength,
    List.getElem?_eraseIdx_of_ge (by omega)]
  congr 1
  omega

namespace Booked

variable {a a' : Agent} {l : Ledger}

/-- A session that has done nothing yet. -/
theorem of_start {settings : Session.Settings} {shared : Session.Shared} {now : Duration}
    {capacity : Nat} {pending : Bool} (hstart : a.session = .start settings shared now capacity)
    (hlatest : pending = true → a.calls.getLast? = some a.resources) :
    Booked a { pending } := by
  have hregistered : a.session.point.isRegistered = true → False := by
    rw [hstart]
    intro h
    cases h
  refine ⟨⟨?_, ?_⟩, fun h => (hregistered h).elim, hlatest, fun h => (hregistered h).elim,
    fun h => (hregistered h).elim, by simp, by simp⟩
  · rw [hstart]
    intro h
    cases h
  · rw [hstart]
    intro h
    cases h

theorem create {c : Config} (h : Agent.create c = .ok a) : Booked a {} := by
  unfold Agent.create at h
  split at h <;> cases h
  refine of_start rfl ?_
  intro h
  cases h

/-- A step that queues nothing and leaves the rules, the calls and the session's point alone. -/
theorem of_same (h : Booked a l) (hqueue : a'.session.outgoing.queue = a.session.outgoing.queue)
    (hrules : a'.resources = a.resources) (hcalls : a'.calls = a.calls)
    (hpoint : a'.session.point = a.session.point)
    (hpublished : a'.session.published = a.session.published)
    (hphase : a'.session.phase = a.session.phase) :
    Booked a' (l.send (Session.queued a.session a'.session)) := by
  rw [Ledger.send_quiet (Session.noneQueued hqueue)]
  refine ⟨⟨?_, ?_⟩, ?_, ?_, ?_, ?_, h.missed, h.overtaken⟩
  · rw [hpublished, hpoint]
    exact h.consistent.published
  · rw [hphase, hpoint]
    exact h.consistent.phase
  · rw [hpoint]
    exact h.carried
  · rw [hcalls, hrules]
    exact h.latest
  · rw [hpoint, hrules]
    exact h.settled
  · rw [hpoint, hpublished]
    exact h.first

theorem begin {listener : Except IoFault Endpoint} (h : Booked a l)
    (hstep : a.begin listener = some a') :
    Booked a' (l.record (.begin listener) a a') := by
  obtain ⟨-, rfl | ⟨fault, rfl⟩⟩ := begin_cases hstep
  · exact h.of_same rfl rfl rfl rfl rfl rfl
  · exact h.of_same rfl rfl rfl rfl rfl rfl

theorem conclude {lasts : Duration → Duration} (h : Booked a l)
    (hstep : a.conclude lasts = some a') : Booked a' (l.record (.conclude lasts) a a') := by
  obtain ⟨result, -, -, backoff, stage, rfl⟩ := conclude_cases hstep
  exact h.of_same rfl rfl rfl rfl rfl rfl

theorem cancel (h : Booked a l) (hstep : a.cancel = some a') :
    Booked a' (l.record .cancel a a') := by
  obtain ⟨due, cut, -, -, rfl⟩ := cancel_cases hstep
  exact h.of_same rfl rfl rfl rfl rfl rfl

theorem former {i : Nat} {action : Relay.Action} (h : Booked a l)
    (hstep : a.formerStep i action = some a') :
    Booked a' (l.record (.former i action) a a') := by
  obtain ⟨former, pool, rfl⟩ := formerStep_cases hstep
  exact h.of_same rfl rfl rfl rfl rfl rfl

/-- The next session has not registered, and calls still in progress stay with the agent. -/
theorem resume (h : Booked a l) (hstep : a.resume = some a') :
    Booked a' (l.record .resume a a') := by
  obtain ⟨due, -, -, rfl⟩ := resume_cases hstep
  exact of_start rfl h.latest

theorem session {action : Session.Action} (h : Booked a l)
    (hstep : a.sessionStep action = some a') :
    Booked a' (l.record (.session action) a a') := by
  obtain ⟨his, s, hs, rfl⟩ := sessionStep_cases hstep
  have hcases : Session.Registers a.session s ∨ Session.Quiet a.session s := by
    refine Session.step_cases ?_ ?_ hs
    · intro rules hrules
      rw [hrules] at his
      cases his
    · intro rules draws hrules
      rw [hrules] at his
      cases his
  cases hcases with
  | inl hregisters =>
    obtain ⟨resources, hresources, hfits, hqueued⟩ := hregisters.frames
    have hrecord : l.record (.session action) a { a with session := s } =
        { l.send [Registrar.frame resources] with
          asked := a.resources, taken := a.resources
          refused := false, missed := false, overtaking := [] } := by
      simp only [Ledger.record, hqueued, hregisters.unregistered, hregisters.registered]
      rfl
    rw [hrecord]
    refine ⟨hregisters.consistent h.consistent, fun _ _ => ?_, ?_, fun _ _ _ _ => ?_,
      fun _ _ => rfl, by simp, by simp⟩
    · exact (Ledger.manifest?_send hfits l).trans (congrArg some hresources)
    · intro hpending
      rw [show ({ a with session := s } : Agent).resources = a.resources from hregisters.rules]
      exact h.latest hpending
    · exact hregisters.rules.symm
  | inr hquiet =>
    have hrecord : l.record (.session action) a { a with session := s } = l := by
      simp only [Ledger.record, Ledger.send_quiet hquiet.frames]
      split
      · rename_i hnew
        rw [Bool.and_eq_true] at hnew
        rw [hquiet.registered hnew.1] at hnew
        cases hnew.2
      · rfl
    have hrules : ({ a with session := s } : Agent).resources = a.resources := hquiet.rules
    rw [hrecord]
    refine ⟨hquiet.consistent h.consistent, fun hs => h.carried (hquiet.registered hs), ?_, ?_,
      fun hs hp => h.first (hquiet.registered hs) (hquiet.published hs hp), h.missed, h.overtaken⟩
    · rw [hrules]
      exact h.latest
    · rw [hrules]
      exact fun hs => h.settled (hquiet.registered hs)

theorem store (h : Booked a l) (rules : List Rule) :
    Booked (a.store rules) (l.record (.store rules) a (a.store rules)) := by
  have hsend : l.send (Session.queued a.session (a.store rules).session) = l :=
    Ledger.send_quiet (Session.noneQueued rfl) l
  rw [Ledger.record, hsend]
  refine ⟨⟨h.consistent.published, h.consistent.phase⟩, h.carried, fun _ => ?_, ?_, h.first, by simp,
    by simp⟩
  · exact List.getLast?_concat
  · intro _ hpending
    cases hpending

/-- A call that is not the latest leaves the latest at the end. -/
theorem latest_of_not_isLatest {call : Nat} {rules : List Rule} (h : Booked a l)
    (hcall : a.calls[call]? = some rules)
    (hpending : (l.pending && !l.isLatest call a) = true) :
    (a.calls.eraseIdx call).getLast? = some a.resources := by
  rw [Bool.and_eq_true, Bool.not_eq_true', Ledger.isLatest] at hpending
  obtain ⟨hpending, hother⟩ := hpending
  rw [hpending, Bool.true_and, decide_eq_false_iff_not] at hother
  obtain ⟨hlt, -⟩ := List.getElem?_eq_some_iff.mp hcall
  rw [getLast?_eraseIdx (by omega)]
  exact h.latest hpending

/-- The rules in force are those of the latest call. -/
theorem rules_of_isLatest {call : Nat} {rules : List Rule} (h : Booked a l)
    (hcall : a.calls[call]? = some rules) (hlatest : l.isLatest call a = true) :
    rules = a.resources := by
  rw [Ledger.isLatest, Bool.and_eq_true, decide_eq_true_iff] at hlatest
  obtain ⟨hpending, hlength⟩ := hlatest
  have hlast := h.latest hpending
  rw [List.getLast?_eq_getElem?, ← hlength, Nat.add_sub_cancel, hcall] at hlast
  exact Option.some.inj hlast

theorem forward_published {call : Nat} {draws : List UInt64} {rules : List Rule} {s : Session}
    {result : Except TransportFault Unit} (h : Booked a l) (hcall : a.calls[call]? = some rules)
    (hpublished : a.session.published = true)
    (hs : a.session.reregister rules draws = some (result, s)) :
    let a' : Agent := { a with calls := a.calls.eraseIdx call, session := s }
    Booked a' (l.record (.forward call draws) a a') := by
  intro a'
  have hsent := Session.reregister_cases hs
  have hkept : s.shared = a.session.shared ∧ s.point = a.session.point ∧
      s.published = a.session.published ∧ s.phase = a.session.phase := by
    rcases hsent with ⟨-, resources, -, -, -, rfl⟩ | ⟨-, rfl⟩ <;> exact ⟨rfl, rfl, rfl, rfl⟩
  obtain ⟨hshared, hpoint, hpublic, hphase⟩ := hkept
  have hrules : a'.resources = a.resources := congrArg (·.rules) hshared
  simp only [Ledger.record, hcall, hpublished, if_true, Option.getD_some]
  refine ⟨⟨?_, ?_⟩, ?_, ?_, ?_, ?_, ?_, ?_⟩
  · rw [show a'.session.published = _ from hpublic, show a'.session.point = _ from hpoint]
    exact h.consistent.published
  · rw [show a'.session.phase = _ from hphase, show a'.session.point = _ from hpoint]
    exact h.consistent.phase
  · intro _ haccepted
    cases hsent with
    | inl hsent =>
      obtain ⟨-, resources, hresources, hfits, hqueued, -⟩ := hsent
      rw [show Session.queued a.session a'.session = _ from hqueued]
      exact (Ledger.manifest?_send hfits l).trans (congrArg some hresources)
    | inr hfault =>
      obtain ⟨⟨fault, rfl⟩, -⟩ := hfault
      simp only [Ledger.refuses, hs] at haccepted
      cases haccepted
  · intro hpending
    rw [hrules]
    exact h.latest_of_not_isLatest hcall hpending
  · intro _ hpending _ hovertaking
    -- The latest call was in progress and is so no more: it is this one.
    have hlatest : l.isLatest call a = true := by
      simpa [show l.pending = true by simpa using hovertaking] using hpending
    rw [hrules]
    exact h.rules_of_isLatest hcall hlatest
  · intro _ hunpublished
    rw [show a'.session.published = _ from hpublic, hpublished] at hunpublished
    cases hunpublished
  · intro hmissed
    simp [(h.missed hmissed).1]
  · intro last hlast
    cases hpending : l.pending with
    | true => simp [hpending] at hlast
    | false => simpa [hpending] using hlast

theorem forward_unpublished {call : Nat} {draws : List UInt64} {rules : List Rule} (h : Booked a l)
    (hcall : a.calls[call]? = some rules) (hpublished : a.session.published = false) :
    let a' : Agent := { a with calls := a.calls.eraseIdx call }
    Booked a' (l.record (.forward call draws) a a') := by
  intro a'
  have hsend : l.send (Session.queued a.session a'.session) = l :=
    Ledger.send_quiet (Session.noneQueued rfl) l
  simp only [Ledger.record, hpublished, hsend, Bool.false_eq_true, if_false]
  cases hlatest : l.isLatest call a with
  | true =>
    refine ⟨h.consistent, h.carried, ?_, ?_, h.first, fun hmissed => ?_, h.overtaken⟩
    · intro hpending
      simp at hpending
    · intro hregistered _ hmissed
      rw [show a'.session.point = a.session.point from rfl] at hregistered
      simp [hregistered] at hmissed
    · exact ⟨by simp, fun _ => h.first (by simpa using hmissed) hpublished⟩
  | false =>
    refine ⟨h.consistent, h.carried, fun hpending => ?_, ?_, h.first, ?_, h.overtaken⟩
    · exact h.latest_of_not_isLatest hcall (by simpa [hlatest] using hpending)
    · exact h.settled
    · exact h.missed

theorem forward {call : Nat} {draws : List UInt64} (h : Booked a l)
    (hstep : a.forward call draws = some a') :
    Booked a' (l.record (.forward call draws) a a') := by
  obtain ⟨rules, hcall, ⟨hpublished, result, s, hs, rfl⟩ | ⟨hpublished, rfl⟩⟩ := forward_cases hstep
  · exact h.forward_published hcall hpublished hs
  · exact h.forward_unpublished hcall hpublished

theorem step {action : Action} (h : Booked a l) (hstep : Agent.step action a = some a') :
    Booked a' (l.record action a a') := by
  cases action with
  | begin listener => exact h.begin hstep
  | session action => exact h.session hstep
  | former index action => exact h.former hstep
  | conclude lasts => exact h.conclude hstep
  | resume => exact h.resume hstep
  | cancel => exact h.cancel hstep
  | store rules =>
    cases hstep
    exact h.store rules
  | forward call draws => exact h.forward hstep
  | shutdown =>
    cases hstep
    exact h.of_same rfl rfl rfl rfl rfl rfl

theorem run {actions : List Action} (h : Booked a l) (hrun : Agent.run actions a = some a') :
    Booked a' (Ledger.after actions a l) := by
  induction actions generalizing a l with
  | nil =>
    cases hrun
    exact h
  | cons action rest ih =>
    rw [Agent.run] at hrun
    obtain ⟨b, hstep, hrest⟩ := Option.bind_eq_some_iff.mp hrun
    rw [Ledger.after, hstep]
    exact ih (h.step hstep) hrest

end Booked

/-- While a session dispatches and no call is in progress, the last Registration that the session
has sent carries the rules in force, if the latest call found the registrar, or came early enough,
and no earlier call was registered after it. A call that fell between leaves the rules that the
session had taken by then, and one that was overtaken those of the call that was registered last. -/
theorem manifest_in_force_iff {c : Config} {a₀ a : Agent} {actions : List Action}
    (hcreate : create c = .ok a₀) (hrun : run actions a₀ = some a)
    (hphase : a.session.phase = .dispatching) (hcalls : a.calls = [])
    (hsent : (Ledger.after actions a₀ {}).refused = false) :
    let l := Ledger.after actions a₀ {}
    l.manifest? = some l.asked ∧
      (l.missed = true → l.overtaking = [] → l.asked = l.taken) ∧
      (∀ rules, l.overtaking.getLast? = some rules → l.asked = rules) ∧
      (l.manifest? = some a.resources ↔
        (l.missed = false ∧ l.overtaking = []) ∨
          (l.missed = true ∧ l.overtaking = [] ∧ l.taken = a.resources) ∨
          l.overtaking.getLast? = some a.resources) := by
  intro l
  have h : Booked a l := (Booked.create hcreate).run hrun
  have hregistered : a.session.point.isRegistered = true := by
    rw [h.consistent.phase hphase]
    rfl
  have hmanifest := h.carried hregistered hsent
  have hpending : l.pending = false := by
    cases hp : l.pending with
    | false => rfl
    | true =>
      have hlatest := h.latest hp
      rw [hcalls] at hlatest
      cases hlatest
  refine ⟨hmanifest, fun hmissed => (h.missed hmissed).2, h.overtaken, ?_⟩
  rw [hmanifest, Option.some.injEq]
  cases hlast : l.overtaking.getLast? with
  | some rules =>
    have hne : l.overtaking ≠ [] := by
      intro hnil
      rw [hnil] at hlast
      cases hlast
    simp [h.overtaken rules hlast, hne]
  | none =>
    have hnil := List.getLast?_eq_none_iff.mp hlast
    cases hmissed : l.missed with
    | false => simp [hnil, h.settled hregistered hpending hmissed hnil]
    | true => simp [hnil, (h.missed hmissed).2 hnil]

def bareAgent : Agent where
  config := bareConfig
  backoff := { policy := bareConfig.backoffPolicy }
  session := .start (sessionSettings bareConfig) (shared bareConfig) 0 streamCapacity

def ruleAt (port : UInt16) : Rule := { name := "r", pattern := "p", host := "h", port }

def gatewayAnswers (sequence : UInt64) (m : Message) : Action :=
  .session (.deliver (Envelope.encode sequence m.type m.encode))

/-- From the start to the first Registration. -/
def toRegistered : List Action :=
  [.begin (.ok ⟨.v4 127 0 0 1, 1080⟩), .session (.connect (.ok ())), .session (.main [] 0),
    .session (.main [] 0), .session (.main [] 0),
    gatewayAnswers 0 (.authorizationResponse ⟨.ok, none⟩), .session (.main [] 0),
    .session (.main [] 0)]

/-- From the first Registration to dispatching. -/
def toDispatching : List Action :=
  [gatewayAnswers 1 (.registrationResponse ⟨.ok, none, none⟩), .session (.main [] 0),
    .session (.main [] 0)]

/-- Two calls on a dispatching session; the second one is registered first. -/
def crossing : List Action :=
  toRegistered ++ toDispatching ++
    [.store [ruleAt 1], .store [ruleAt 2], .forward 1 [7], .forward 0 [8]]

theorem manifest_overtaken :
    create bareConfig = .ok bareAgent ∧ ∃ a, run crossing bareAgent = some a ∧
      a.session.phase = .dispatching ∧ a.calls = [] ∧ a.resources = [ruleAt 2] ∧
      (Ledger.after crossing bareAgent {}).manifest? = some [ruleAt 1] := by
  have hcreate : create bareConfig = .ok bareAgent := rfl
  have hrun : run crossing bareAgent = some _ := rfl
  obtain ⟨hasked, -, hovertaken, -⟩ := manifest_in_force_iff hcreate hrun rfl rfl rfl
  exact ⟨hcreate, _, hrun, rfl, rfl, rfl, hasked.trans (congrArg some (hovertaken _ rfl))⟩

/-- The call comes while the session waits for the answer to its first Registration. -/
def intoTheGap : List Action :=
  toRegistered ++ [.store [ruleAt 1], .forward 0 []] ++ toDispatching

theorem manifest_missed :
    create bareConfig = .ok bareAgent ∧ ∃ a, run intoTheGap bareAgent = some a ∧
      a.session.phase = .dispatching ∧ a.calls = [] ∧
      (Ledger.after intoTheGap bareAgent {}).refused = false ∧ a.resources = [ruleAt 1] ∧
      (Ledger.after intoTheGap bareAgent {}).manifest? = some [] :=
  ⟨rfl, _, rfl, rfl, rfl, rfl, rfl, rfl⟩

end TunnelAgent.Agent
