import TunnelAgent.Proofs.Relay.Moves
import TunnelAgent.Proofs.Session.Turn

/-! # The diary of a session

Kept beside a run: the gateway's stream, what the main task has read of it and what has kept it from
reading on, the frames queued, and how much of them the gateway has read. -/

namespace TunnelAgent.Session
open Envelope

/-- How the gateway's stream ends with an action. -/
def Action.finish : Action → StreamEnd
  | gatewayEnds finish => finish
  | _ => .pending

/-- The bytes that the gateway reads. -/
def Action.taken : Action → Session → Bytes
  | gatewayReads count, s => (s.outgoing.read count).1
  | _, _ => []

structure Diary where
  /-- the gateway's bytes, read or not, until the session has ended -/
  stream : Bytes := []
  finish : StreamEnd := .pending
  /-- what the main task has read -/
  frames : List Frame := []
  setback : Option Setback := none
  /-- the health monitor has failed -/
  unwell : Bool := false
  /-- the agent had been asked to stop when the main task took its last step -/
  stopping : Bool := false
  /-- the session has been in its last phase -/
  entered : Bool := false
  /-- the frames put into the queue -/
  sent : List Outbound := []
  /-- the rules in force when the session made its first manifest -/
  rules : List Rule := []
  /-- what the gateway has read -/
  received : Bytes := []

/-- The frame that the main task has met. -/
def heard : Option (Except Setback Frame) → List Frame
  | some (.ok frame) => [frame]
  | _ => []

namespace Diary

/-- The entry for an event in which the main task has met this. -/
def enter (event : Event) (met : Option (Except Setback Frame)) (s s' : Session) (d : Diary) :
    Diary where
  stream := if s.result?.isSome then d.stream else d.stream ++ event.action.bytes
  finish := if s.result?.isSome ∨ d.finish ≠ .pending then d.finish else event.action.finish
  frames := d.frames ++ heard met
  setback :=
    match met with
    | some (.error setback) => some setback
    | _ => d.setback
  unwell := d.unwell || fails event s
  stopping := if event.action.isMain then s.shared.shutdown else d.stopping
  entered := d.entered || decide (s'.phase = .dispatching)
  sent := d.sent ++ queued s s'
  rules :=
    match s.point with
    | .registering => s.shared.rules
    | _ => d.rules
  received := d.received ++ event.action.taken s

def record (event : Event) (s s' : Session) (d : Diary) : Diary :=
  d.enter event (meets? event s) s s'

def run : List Event → Session → Diary → Option (Session × Diary)
  | [], s, d => some (s, d)
  | event :: events, s, d =>
    match s.next event with
    | none => none
    | some t => run events t (d.record event s t)

/-- What every turn preserves, a run preserves. -/
theorem preserved_of_run {P : Session → Diary → Prop}
    (hturn : ∀ {event met s s' d}, P s d → Turn s event met s' → P s' (d.enter event met s s'))
    {events : List Event} {s s' : Session} {d d' : Diary} (hP : P s d)
    (h : run events s d = some (s', d')) : P s' d' := by
  induction events generalizing s d with
  | nil =>
    cases h
    exact hP
  | cons event events ih =>
    rw [run] at h
    split at h
    · cases h
    · rename_i t hnext
      exact ih (hturn hP (turn_of_next hnext)) h

end Diary

/-! ## Beside the main task -/

/-- The types of the frames that a session sends once it dispatches. -/
def tunnelTypes : List FrameType := [.healthCheck, .healthCheckResponse, .registration, .socketData]

/-- A frame that a dispatching session sends. -/
structure Tunnelled (frame : Outbound) : Prop where
  fits : fits frame.payload
  type : frame.type ∈ tunnelTypes

theorem tunnelled_of_effects {w : Bool} {action : Relay.Action} {r r' : Relay}
    {effects : List Relay.Effect} (h : r.step w action = some (r', effects)) {frame : Outbound}
    (hframe : frame ∈ effects.filterMap Relay.Effect.frame?) : Tunnelled frame := by
  obtain ⟨effect, heffect, hout⟩ := List.mem_filterMap.mp hframe
  refine ⟨?_, by rw [Relay.type_of_frame hout]; decide⟩
  have hsent : ∀ {g data}, Relay.Sendable w data → effect = .queued g data →
      fits frame.payload := by
    rintro g data hsendable rfl
    cases hout
    exact hsendable.2
  rcases Relay.step_cases h with ⟨-, rfl⟩ | ⟨g, c, base, stage, -, hmove, -⟩
  · cases heffect
  cases hmove with
  | announced _ sent => exact hsent sent (List.mem_singleton.mp heffect)
  | forwarded bytes down _ _ _ sent => exact hsent sent (List.mem_singleton.mp heffect)
  | reportedSetup | reported =>
    obtain ⟨hsendable, hqueued⟩ := Relay.mem_attempt.mp heffect
    exact hsent hsendable hqueued
  | wrote | shut =>
    rw [List.mem_singleton.mp heffect] at hout
    cases hout
  | _ => cases heffect

theorem tunnelled_of_tick {now : Duration} {w : Bool} {t : Ticking} {m m' : HealthMonitor}
    {frame : Outbound} (h : m.tick now w t = (.ping frame, m')) : Tunnelled frame := by
  rw [HealthMonitor.frame_of_tick h]
  exact ⟨HealthMonitor.fits_ping _, (by decide : FrameType.healthCheck ∈ tunnelTypes)⟩

theorem tunnelled_answer (nonce : UInt64) : Tunnelled (HealthMonitor.answer nonce) :=
  ⟨HealthMonitor.fits_answer nonce, (by decide : FrameType.healthCheckResponse ∈ tunnelTypes)⟩

theorem tunnelled_registration {resources : List Resource}
    (hfits : fits (Registrar.frame resources).payload) : Tunnelled (Registrar.frame resources) :=
  ⟨hfits, (by decide : FrameType.registration ∈ tunnelTypes)⟩

theorem tunnelled_of_enqueue {s s' : Session} {frames : List Outbound}
    (h : s'.outgoing = s.outgoing.enqueue frames) (hframes : ∀ frame ∈ frames, Tunnelled frame) :
    ∀ frame ∈ queued s s', Tunnelled frame := by
  rw [queued_of_enqueue h]
  split
  · exact hframes
  · exact nofun

/-- What an event beside the main task does to the session. -/
structure Aside (event : Event) (s s' : Session) : Prop where
  point : s'.point = s.point
  phase : s'.phase = s.phase
  reached : s'.reachedDispatching = s.reachedDispatching
  published : s'.published = s.published
  settings : s'.settings = s.settings
  health : s'.healthFailed = (s.healthFailed || fails event s)
  live : s'.shared.live = (s.shared.live && !fails event s)
  closed : s.outgoing.closed = true ∨ fails event s = true → s'.outgoing.closed = true
  still : s.monitor.ticking = none → s'.monitor.ticking = none
  sent : ∀ frame ∈ queued s s', Tunnelled frame
  silent : s.reachedDispatching = false → s.published = false → s.monitor.ticking = none →
    queued s s' = []

variable {s s' : Session} {event : Event} {met : Option (Except Setback Frame)}

theorem fails_of_still (event : Event) (h : s.monitor.ticking = none) : fails event s = false := by
  unfold fails
  split
  · rw [h]
  · rfl

/-- Only a tick can fail. -/
theorem fails_of_other (h : event ≠ .own .tick) (s : Session) : fails event s = false := by
  cases event with
  | call rules draws => rfl
  | own action =>
    cases action with
    | tick => exact absurd rfl h
    | _ => rfl

theorem fails_of_main (h : event.action.isMain = true) : fails event s = false := by
  refine fails_of_other ?_ s
  rintro rfl
  cases h

theorem fails_of_reregister {rules : List Rule} {draws : List UInt64}
    (h : event.action = .reregister rules draws) (s : Session) : fails event s = false := by
  refine fails_of_other ?_ s
  rintro rfl
  cases h

/-- An event in which the monitor does not fail. -/
theorem aside_of_well (hfails : fails event s = false) (hpoint : s'.point = s.point)
    (hphase : s'.phase = s.phase) (hreached : s'.reachedDispatching = s.reachedDispatching)
    (hpublished : s'.published = s.published) (hsettings : s'.settings = s.settings)
    (hhealth : s'.healthFailed = s.healthFailed) (hlive : s'.shared.live = s.shared.live)
    (hclosed : s.outgoing.closed = true → s'.outgoing.closed = true)
    (hstill : s.monitor.ticking = none → s'.monitor.ticking = none)
    (hsent : ∀ frame ∈ queued s s', Tunnelled frame)
    (hsilent : s.reachedDispatching = false → s.published = false → s.monitor.ticking = none →
      queued s s' = []) : Aside event s s' := by
  refine ⟨hpoint, hphase, hreached, hpublished, hsettings, ?_, ?_, ?_, hstill, hsent, hsilent⟩
  · rw [hfails, Bool.or_false, hhealth]
  · rw [hfails, Bool.not_false, Bool.and_true, hlive]
  · rw [hfails]
    rintro (h | h)
    · exact hclosed h
    · cases h

/-- An event that queues nothing, either. -/
theorem aside_of_same (hfails : fails event s = false) (hpoint : s'.point = s.point)
    (hphase : s'.phase = s.phase) (hreached : s'.reachedDispatching = s.reachedDispatching)
    (hpublished : s'.published = s.published) (hsettings : s'.settings = s.settings)
    (hhealth : s'.healthFailed = s.healthFailed) (hlive : s'.shared.live = s.shared.live)
    (hclosed : s.outgoing.closed = true → s'.outgoing.closed = true)
    (hstill : s.monitor.ticking = none → s'.monitor.ticking = none)
    (hnone : queued s s' = []) : Aside event s s' := by
  refine aside_of_well hfails hpoint hphase hreached hpublished hsettings hhealth hlive hclosed
    hstill ?_ fun _ _ _ => hnone
  rw [hnone]
  exact nofun

theorem Turn.aside (h : Turn s event met s') (hmain : event.action.isMain = false) :
    met = none ∧ Aside event s s' := by
  have hsame : ∀ t : Session, t.outgoing.queue = s.outgoing.queue → queued s t = [] :=
    fun t => queued_of_queue_eq
  have hkept : ∀ frames : List Outbound, s.outgoing.closed = true →
      (s.outgoing.enqueue frames).closed = true :=
    fun frames hclosed => (Outgoing.closed_of_enqueue _ _).trans hclosed
  cases h with
  | written _ hstep =>
    exact ⟨rfl, aside_of_same rfl rfl rfl rfl rfl rfl rfl rfl (Outgoing.closed_of_step hstep) id
      (queued_of_write hstep)⟩
  | watched =>
    exact ⟨rfl, aside_of_same rfl rfl rfl rfl rfl rfl rfl rfl (fun _ => rfl) id (hsame _ rfl)⟩
  | pinged hticking htick hfails =>
    refine ⟨rfl, aside_of_well hfails rfl rfl rfl rfl rfl rfl rfl (hkept _) ?_
      (tunnelled_of_enqueue rfl fun frame hframe => ?_) fun _ _ hnone => ?_⟩
    · intro hnone
      rw [hticking] at hnone
      cases hnone
    · rw [List.mem_singleton.mp hframe]
      exact tunnelled_of_tick htick
    · rw [hticking] at hnone
      cases hnone
  | unpinged hticking _ hfails =>
    refine ⟨rfl, aside_of_same hfails rfl rfl rfl rfl rfl rfl rfl id ?_ (hsame _ rfl)⟩
    intro hnone
    rw [hticking] at hnone
    cases hnone
  | @failed t monitor hticking _ hfails =>
    have hnone : queued s
        { s with monitor, healthFailed := true, shared := { s.shared with live := false } }.close =
          [] := hsame _ rfl
    refine ⟨rfl, rfl, rfl, rfl, rfl, rfl, ?_, ?_, fun _ => rfl, ?_, ?_, fun _ _ _ => hnone⟩
    · rw [hfails]
      exact (Bool.or_true _).symm
    · rw [hfails]
      exact (Bool.and_false _).symm
    · intro hstill
      rw [hticking] at hstill
      cases hstill
    · rw [hnone]
      exact nofun
  | relayed hreached _ hstep =>
    refine ⟨rfl, aside_of_well rfl rfl rfl rfl rfl rfl rfl rfl (hkept _) id
      (tunnelled_of_enqueue rfl fun frame => tunnelled_of_effects hstep) fun hunreached => ?_⟩
    rw [hreached] at hunreached
    cases hunreached
  | renewed haction hheld hfits =>
    refine ⟨rfl, aside_of_well (fails_of_reregister haction s) rfl rfl rfl rfl rfl rfl rfl (hkept _)
      id (tunnelled_of_enqueue rfl fun frame hframe => ?_) fun hunreached hunpublished => ?_⟩
    · rw [List.mem_singleton.mp hframe]
      exact tunnelled_registration hfits
    · rw [hunreached, hunpublished] at hheld
      rcases hheld with h | h <;> cases h
  | unrenewed haction =>
    exact ⟨rfl, aside_of_same (fails_of_reregister haction s) rfl rfl rfl rfl rfl rfl rfl id id
      (hsame _ rfl)⟩
  | advanced | delivered | finished | taken | deserted | stopped | ruled =>
    exact ⟨rfl, aside_of_same rfl rfl rfl rfl rfl rfl rfl rfl id id (hsame _ rfl)⟩
  | _ => cases hmain

end TunnelAgent.Session
