import TunnelAgent.Proofs.Session.Progress

/-! # The monitor of a session

What befalls the health monitor of a session is a history of its own: the ticks, and the frames of
the two types that its handlers take. While the writer is alive and the clock stops at every tick,
the session's monitor lives that history out, and the session turns a failure into the end of its
transport. -/

namespace TunnelAgent.Session
open HealthMonitor

/-- What an event is to the monitor, if the main task has met this in it. -/
def happening? (event : Event) (met : Option (Except Setback Frame)) : Option Happening :=
  match event, met with
  | .own .tick, _ => some .tick
  | _, some (.ok frame) =>
    match frame.type with
    | .healthCheck => some (.asked frame.payload)
    | .healthCheckResponse => some (.answered frame.payload)
    | _ => none
  | _, _ => none

/-- Kept beside a run from the start of the monitor on. -/
structure Vigil where
  history : List Happening := []
  /-- the frames put into the queue -/
  sent : List Outbound := []
  /-- when the monitor has failed the session -/
  failures : List Duration := []

namespace Vigil

def record (event : Event) (s s' : Session) (v : Vigil) : Vigil where
  history := v.history ++ (happening? event (meets? event s)).toList
  sent := v.sent ++ queued s s'
  failures := v.failures ++ if fails event s then [s.now] else []

def run : List Event → Session → Vigil → Option (Session × Vigil)
  | [], s, v => some (s, v)
  | event :: events, s, v =>
    match s.next event with
    | none => none
    | some t => run events t (v.record event s t)

end Vigil

/-- The session dispatches, its writer is alive, and the clock has not passed a tick. -/
structure Attended (s : Session) : Prop where
  point : s.point = .dispatching
  writerOpen : s.writerOpen = true
  punctual : ∀ t, s.monitor.ticking = some t → s.now ≤ t.due

theorem Attended.of_ticking {s : Session} {t : Ticking} (hpoint : s.point = .dispatching)
    (hopen : s.writerOpen = true) (hticking : s.monitor.ticking = some t) (hnow : s.now ≤ t.due) :
    Attended s := by
  refine ⟨hpoint, hopen, fun t' ht' => ?_⟩
  cases hticking.symm.trans ht'
  exact hnow

/-- The session is attended on its way, until its monitor fails. -/
def AttendedOver : List Event → Session → Prop
  | [], s => s.healthFailed = false → Attended s
  | event :: events, s =>
    (s.healthFailed = false → Attended s) ∧ ∀ t, s.next event = some t → AttendedOver events t

theorem AttendedOver.now {events : List Event} {s : Session} (h : AttendedOver events s)
    (hwell : s.healthFailed = false) : Attended s := by
  cases events with
  | nil => exact h hwell
  | cons event events => exact h.1 hwell

theorem AttendedOver.step {event : Event} {events : List Event} {s t : Session}
    (hnow : s.healthFailed = false → Attended s) (hnext : s.next event = some t)
    (hrest : AttendedOver events t) : AttendedOver (event :: events) s := by
  refine ⟨hnow, fun t' hnext' => ?_⟩
  cases hnext.symm.trans hnext'
  exact hrest

/-- The life that a session's monitor leads is this one, up to the frames of other types. -/
structure LivesBy (s : Session) (v : Vigil) (l : Life) : Prop where
  monitor : s.monitor = l.monitor
  pings : ofType .healthCheck v.sent = ofType .healthCheck l.sent
  answers : ofType .healthCheckResponse v.sent = ofType .healthCheckResponse l.sent
  failures : v.failures = l.failures
  failed : s.healthFailed = true ↔ l.failures ≠ []
  live : s.shared.live = true ↔ l.failures = []
  closed : s.healthFailed = true → s.outgoing.closed = true
  still : s.healthFailed = true → s.monitor.ticking = none
  past : s.point = .dispatching ∨ ∃ result, s.point = .ended result

variable {s s' : Session} {event : Event} {met : Option (Except Setback Frame)} {v : Vigil}
  {l : Life}

theorem ofType_eq_nil {type : FrameType} {frames : List Outbound}
    (h : ∀ frame ∈ frames, frame.type ≠ type) : ofType type frames = [] := by
  refine List.filter_eq_nil_iff.mpr fun frame hframe => ?_
  simpa using h frame hframe

/-- The session leaves its monitor alone and sends nothing for it. -/
structure Spares (s s' : Session) : Prop where
  monitor : s'.monitor = s.monitor
  pings : ofType .healthCheck (queued s s') = []
  answers : ofType .healthCheckResponse (queued s s') = []

theorem spares_of_same (hmonitor : s'.monitor = s.monitor) (hqueued : queued s s' = []) :
    Spares s s' := by
  refine ⟨hmonitor, ?_, ?_⟩ <;> rw [hqueued] <;> rfl

theorem spares_of_enqueue {frames : List Outbound} (hmonitor : s'.monitor = s.monitor)
    (hqueue : s'.outgoing = s.outgoing.enqueue frames)
    (hframes : ∀ frame ∈ frames, frame.type ≠ .healthCheck ∧ frame.type ≠ .healthCheckResponse) :
    Spares s s' := by
  have hqueued : ∀ frame ∈ queued s s', frame ∈ frames := by
    rw [queued_of_enqueue hqueue]
    split
    · exact fun _ => id
    · exact nofun
  exact ⟨hmonitor, ofType_eq_nil fun frame hframe => (hframes frame (hqueued frame hframe)).1,
    ofType_eq_nil fun frame hframe => (hframes frame (hqueued frame hframe)).2⟩

/-- What goes on beside the main task, the monitor's ticks apart. -/
theorem Turn.spares (h : Turn s event met s') (hmain : event.action.isMain = false)
    (htick : event ≠ .own .tick) : Spares s s' := by
  cases h with
  | written _ hstep => exact spares_of_same rfl (queued_of_write hstep)
  | relayed =>
    refine spares_of_enqueue rfl rfl fun frame hframe => ?_
    obtain ⟨effect, -, hout⟩ := List.mem_filterMap.mp hframe
    rw [Relay.type_of_frame hout]
    decide
  | renewed =>
    refine spares_of_enqueue rfl rfl fun frame hframe => ?_
    rw [List.mem_singleton.mp hframe]
    exact ⟨nofun, nofun⟩
  | watched | advanced | delivered | finished | taken | deserted | stopped | ruled | unrenewed =>
    exact spares_of_same rfl (queued_of_queue_eq rfl)
  | pinged | unpinged | failed => exact absurd rfl htick
  | _ => cases hmain

/-- The session goes on with what its monitor has nothing to do with. -/
theorem LivesBy.spared (h : LivesBy s v l) (hspares : Spares s s')
    (hfails : fails event s = false) (hhealth : s'.healthFailed = s.healthFailed)
    (hlive : s'.shared.live = s.shared.live)
    (hclosed : s.outgoing.closed = true → s'.outgoing.closed = true)
    (hpast : s'.point = .dispatching ∨ ∃ result, s'.point = .ended result) :
    LivesBy s' (v.record event s s') l := by
  refine ⟨hspares.monitor.trans h.monitor, ?_, ?_, ?_, ?_, ?_, ?_, ?_, hpast⟩
  · rw [Vigil.record, ofType_append, hspares.pings, List.append_nil]
    exact h.pings
  · rw [Vigil.record, ofType_append, hspares.answers, List.append_nil]
    exact h.answers
  · simp only [Vigil.record, hfails, Bool.false_eq_true, if_false, List.append_nil]
    exact h.failures
  · rw [hhealth]
    exact h.failed
  · rw [hlive]
    exact h.live
  · rw [hhealth]
    exact fun hfailed => hclosed (h.closed hfailed)
  · rw [hhealth, hspares.monitor]
    exact h.still

theorem queued_of_open {frames : List Outbound} (hopen : s.writerOpen = true)
    (h : s'.outgoing = s.outgoing.enqueue frames) : queued s s' = frames := by
  rw [queued_of_enqueue h]
  exact if_pos hopen

/-- While the monitor has not failed, the session sends what the life has it send. -/
theorem LivesBy.well {l' : Life} {frames : List Outbound} (h : LivesBy s v l)
    (hwell : s.healthFailed = false) (hqueued : queued s s' = frames)
    (hmonitor : s'.monitor = l'.monitor) (hsent : l'.sent = l.sent ++ frames)
    (hfailures : l'.failures = l.failures) (hfails : fails event s = false)
    (hhealth : s'.healthFailed = s.healthFailed) (hlive : s'.shared.live = s.shared.live)
    (hpoint : s'.point = .dispatching) : LivesBy s' (v.record event s s') l' := by
  refine ⟨hmonitor, ?_, ?_, ?_, ?_, ?_, ?_, ?_, .inl hpoint⟩
  · rw [Vigil.record, hqueued, hsent, ofType_append, ofType_append, h.pings]
  · rw [Vigil.record, hqueued, hsent, ofType_append, ofType_append, h.answers]
  · simp only [Vigil.record, hfails, hfailures, h.failures]
    exact List.append_nil _
  · rw [hhealth, hfailures]
    exact h.failed
  · rw [hlive, hfailures]
    exact h.live
  · rw [hhealth, hwell]
    exact nofun
  · rw [hhealth, hwell]
    exact nofun

theorem happening?_none_of_other (h : event ≠ .own .tick) : happening? event none = none := by
  cases event with
  | call rules draws => rfl
  | own action =>
    cases action with
    | tick => exact absurd rfl h
    | _ => rfl

theorem LivesBy.aside (h : LivesBy s v l) (hturn : Turn s event (meets? event s) s')
    (hmain : event.action.isMain = false) (htick : event ≠ .own .tick) :
    happening? event (meets? event s) = none ∧ LivesBy s' (v.record event s s') l := by
  obtain ⟨hmet, haside⟩ := hturn.aside hmain
  have hfails := fails_of_other htick s
  have hhealth := haside.health
  have hlive := haside.live
  rw [hfails] at hhealth hlive
  rw [hmet]
  refine ⟨happening?_none_of_other htick, h.spared (hturn.spares hmain htick) hfails ?_ ?_ ?_ ?_⟩
  · rw [hhealth, Bool.or_false]
  · rw [hlive, Bool.not_false, Bool.and_true]
  · exact fun hclosed => haside.closed (.inl hclosed)
  · rw [haside.point]
    exact h.past

/-- A tick of the session's is a tick in the life of its monitor. -/
theorem LivesBy.tick (h : LivesBy s v l) (hattended : s.healthFailed = false → Attended s)
    (hstep : s.tick = some s') :
    LivesBy s' (v.record (.own .tick) s s') (l.step .tick) := by
  have hwell : s.healthFailed = false := by
    refine Bool.eq_false_iff.mpr fun hfailed => ?_
    rw [Session.tick, h.still hfailed] at hstep
    cases hstep
  obtain ⟨hpoint, hopen, hpunctual⟩ := hattended hwell
  obtain ⟨t, hticking, hdue, hcases⟩ := tick_cases hstep
  have hnow : s.now = t.due := Nat.le_antisymm (hpunctual t hticking) hdue
  have hfails : fails (.own .tick) s =
      decide (s.monitor.succeeded = false ∧ s.monitor.config.deadline ≤ s.now - t.lastSuccess) := by
    simp [fails, hticking, Bool.decide_and]
  rw [hopen, tick_eq] at hcases
  rw [Life.step_tick, ← h.monitor, hticking]
  simp only [← hnow]
  by_cases hlate : s.monitor.succeeded = false ∧ s.monitor.config.deadline ≤ s.now - t.lastSuccess
  · rw [if_pos hlate] at hcases
    obtain ⟨_, _, htick, -⟩ | ⟨_, htick, -⟩ | ⟨_, htick, rfl⟩ := hcases <;> cases htick
    simp only [if_pos hlate]
    have hqueued : queued s { s with
        monitor := s.monitor.stop
        healthFailed := true
        shared := { s.shared with live := false } }.close = [] := queued_of_queue_eq rfl
    refine ⟨rfl, ?_, ?_, ?_, ?_, ?_, fun _ => rfl, fun _ => rfl, .inl hpoint⟩
    · rw [Vigil.record, hqueued, List.append_nil]
      exact h.pings
    · rw [Vigil.record, hqueued, List.append_nil]
      exact h.answers
    · simp only [Vigil.record, hfails, hlate, h.failures]
      rfl
    · exact iff_of_true rfl (by simp)
    · exact iff_of_false Bool.false_ne_true (by simp)
  · rw [if_neg hlate, sendPing_of_open] at hcases
    obtain ⟨_, _, htick, rfl⟩ | ⟨_, htick, -⟩ | ⟨_, htick, -⟩ := hcases <;> cases htick
    simp only [if_neg hlate]
    refine h.well hwell (queued_of_open hopen rfl) rfl rfl rfl ?_ rfl rfl hpoint
    rw [hfails]
    exact decide_eq_false hlate

/-- A frame that is handled is a happening in the life of the monitor, or none of its concern. -/
theorem life_of_dispatch {frame : Frame} {draws : List UInt64} {nonce : UInt64}
    (hmonitor : s.monitor = l.monitor) (hopen : s.writerOpen = true)
    (hdispatch : handlers.dispatch frame s = (.ok (), s')) :
    let l' := l.after (happening? (.own (.main draws nonce)) (some (.ok frame))).toList
    s'.monitor = l'.monitor ∧ l'.sent = l.sent ++ queued s s' ∧ l'.failures = l.failures := by
  intro l'
  have hkept : ∀ {t : Session}, happening? (.own (.main draws nonce)) (some (.ok frame)) = none →
      t.monitor = s.monitor → t.outgoing = s.outgoing →
      t.monitor = l'.monitor ∧ l'.sent = l.sent ++ queued s t ∧ l'.failures = l.failures := by
    intro t hnone hsame houtgoing
    have hl : l' = l := by
      simp only [l', hnone]
      rfl
    rw [hl, queued_of_queue_eq (by rw [houtgoing])]
    exact ⟨hsame.trans hmonitor, (List.append_nil _).symm, rfl⟩
  unfold Dispatch.Table.dispatch at hdispatch
  cases htype : frame.type with
  | registrationResponse =>
    have hfind : handlers.find? .registrationResponse = some handleRegistration := rfl
    simp only [htype, hfind, handleRegistration] at hdispatch
    cases hdispatch
    exact hkept (by simp only [happening?, htype]) rfl rfl
  | healthCheck =>
    have hfind : handlers.find? .healthCheck = some handlePing := rfl
    have hl : l' = l.step (.asked frame.payload) := by
      simp only [l', happening?, htype]
      rfl
    simp only [htype, hfind, handlePing, hopen] at hdispatch
    rw [hl, Life.step, ← hmonitor]
    cases hreply : s.monitor.handleRequest true frame.payload with
    | mk outcome monitor =>
      rw [hreply] at hdispatch
      cases outcome with
      | error text => cases hdispatch
      | ok reply =>
        cases hdispatch
        refine ⟨rfl, ?_, rfl⟩
        rw [queued_of_open hopen rfl]
  | healthCheckResponse =>
    have hfind : handlers.find? .healthCheckResponse = some handlePong := rfl
    have hl : l' = l.step (.answered frame.payload) := by
      simp only [l', happening?, htype]
      rfl
    simp only [htype, hfind, handlePong] at hdispatch
    rw [hl, Life.step, ← hmonitor]
    cases hanswer : s.monitor.handleResponse frame.payload with
    | mk outcome monitor =>
      rw [hanswer] at hdispatch
      cases outcome with
      | error text => cases hdispatch
      | ok _ =>
        cases hdispatch
        refine ⟨rfl, ?_, rfl⟩
        exact (List.append_nil _).symm.trans (congrArg _ (queued_of_queue_eq rfl).symm)
  | socketData =>
    have hfind : handlers.find? .socketData = some handleSocketData := rfl
    simp only [htype, hfind, handleSocketData] at hdispatch
    cases hrelay : s.relay.handle s.now frame.payload with
    | error fault =>
      rw [hrelay] at hdispatch
      cases hdispatch
    | ok relay =>
      rw [hrelay] at hdispatch
      cases hdispatch
      exact hkept (by simp only [happening?, htype]) rfl rfl
  | authorization | authorizationResponse | registration =>
    rw [htype] at hdispatch
    cases hdispatch
    exact hkept (by simp only [happening?, htype]) rfl rfl

/-- The main task goes on with a frame, or leaves once the monitor has failed. -/
theorem LivesBy.main (h : LivesBy s v l) (hattended : s.healthFailed = false → Attended s)
    (hattended' : s'.healthFailed = false → Attended s')
    (hturn : Turn s event (meets? event s) s') (hmain : event.action.isMain = true) :
    LivesBy s' (v.record event s s')
      (l.after (happening? event (meets? event s)).toList) := by
  have hpoint : s.point = .dispatching := by
    rcases h.past with hpoint | ⟨result, hpoint⟩
    · exact hpoint
    · have hgoing := hturn.going hmain
      simp only [result?, hpoint] at hgoing
      cases hgoing
  have hwell : s.outgoing.closed = false → s.healthFailed = false := by
    intro hopen
    refine Bool.eq_false_iff.mpr fun hfailed => ?_
    rw [h.closed hfailed] at hopen
    cases hopen
  -- a session is attended until its monitor fails, so it cannot leave before
  have hleft : ∀ {t : Session} {fault : TransportFault}, s' = t.leave fault →
      s'.healthFailed = true := by
    rintro t fault rfl
    refine Bool.of_not_eq_false fun hwell => ?_
    cases (hattended' hwell).point
  generalize hmet : meets? event s = met at hturn
  cases hturn with
  | left =>
    have hfailed : s.healthFailed = true := hleft rfl
    have hmonitor : s.monitor.stop = s.monitor := by
      rw [HealthMonitor.stop, ← h.still hfailed]
    have hlive : s.shared.live = false := by
      refine Bool.eq_false_iff.mpr fun hlive => ?_
      exact h.failed.mp hfailed (h.live.mp hlive)
    refine h.spared (spares_of_same hmonitor (queued_of_queue_eq rfl)) rfl rfl hlive.symm
      (fun _ => rfl) (.inr ⟨_, rfl⟩)
  | lost _ hopen => cases (hwell hopen).symm.trans (hleft rfl)
  | @handled draws nonce frame reader _ _ hopen hread hdispatch =>
    have hattends := hattended (hwell hopen)
    obtain ⟨hmonitor, hsent, hfailures⟩ := life_of_dispatch (s := { s with reader }) h.monitor
      hattends.writerOpen hdispatch
    have htended := tended_of_dispatch hdispatch
    exact h.well (hwell hopen) rfl hmonitor hsent hfailures rfl htended.healthFailed htended.live
      ((handled_of_dispatch hdispatch).point.trans hpoint)
  | unhandled _ hopen _ hdispatch =>
    have hhealth := (tended_of_dispatch hdispatch).healthFailed
    cases (hwell hopen).symm.trans (hhealth.symm.trans (hleft rfl))
  | connected hearly | unconnected hearly | greeted hearly | unwritten hearly | put hearly
  | admitted hearly | refused hearly | accepted hearly | declined hearly | opened hearly =>
    cases hpoint.symm.trans hearly
  | asked hasks | oversized hasks | stranded hasks =>
    cases hasks with
    | authorization hearly | registration hearly => cases hpoint.symm.trans hearly
  | shut hawaits | unread hawaits =>
    rcases hawaits with hearly | ⟨resources, hearly⟩ <;> cases hpoint.symm.trans hearly
  | renewed haction | unrenewed haction =>
    rw [haction] at hmain
    cases hmain
  | _ => cases hmain

theorem LivesBy.next (h : LivesBy s v l) (hattended : s.healthFailed = false → Attended s)
    (hattended' : s'.healthFailed = false → Attended s') (hnext : s.next event = some s') :
    LivesBy s' (v.record event s s')
      (l.after (happening? event (meets? event s)).toList) := by
  have hturn := turn_of_next hnext
  by_cases htick : event = .own .tick
  · subst htick
    exact h.tick hattended hnext
  cases hmain : event.action.isMain with
  | true => exact h.main hattended hattended' hturn hmain
  | false =>
    obtain ⟨hnone, hlives⟩ := h.aside hturn hmain htick
    rw [hnone]
    exact hlives

theorem LivesBy.run {events : List Event} {v' : Vigil} (h : LivesBy s v l)
    (hattended : AttendedOver events s) (hrun : Vigil.run events s v = some (s', v')) :
    ∃ later, v'.history = v.history ++ later ∧ LivesBy s' v' (l.after later) := by
  induction events generalizing s v l with
  | nil =>
    cases hrun
    exact ⟨[], (List.append_nil _).symm, h⟩
  | cons event events ih =>
    rw [Vigil.run] at hrun
    split at hrun
    · cases hrun
    rename_i t hnext
    have hrest := hattended.2 t hnext
    obtain ⟨later, hhistory, hlives⟩ :=
      ih (h.next hattended.1 hrest.now hnext) hrest hrun
    refine ⟨(happening? event (meets? event s)).toList ++ later, ?_, ?_⟩
    · rw [hhistory, Vigil.record, List.append_assoc]
    · rw [Life.after, List.foldl_append]
      exact hlives

/-- The session has yet to start its monitor, or has started it before. -/
def Unstarted (s : Session) : Prop :=
  s.point = .dispatching ∨ (∃ result, s.point = .ended result) ∨
    s.healthFailed = false ∧ s.monitor.ticking = none

theorem Unstarted.early (h : Unstarted s) (hearly : s.point.isEarly = true) :
    s.healthFailed = false ∧ s.monitor.ticking = none := by
  rcases h with hpoint | ⟨result, hpoint⟩ | hfresh
  · rw [hpoint] at hearly
    cases hearly
  · rw [hpoint] at hearly
    cases hearly
  · exact hfresh

theorem Unstarted.turn (h : Unstarted s) (hturn : Turn s event met s') : Unstarted s' := by
  cases hmain : event.action.isMain with
  | false =>
    obtain ⟨-, haside⟩ := hturn.aside hmain
    rw [Unstarted, haside.point]
    refine h.imp_right (Or.imp_right fun ⟨hwell, hstill⟩ => ⟨?_, haside.still hstill⟩)
    rw [haside.health, hwell, fails_of_still event hstill]
    rfl
  | true =>
    cases hturn with
    | unconnected | unwritten | oversized | stranded | shut | unread | refused | declined | left
    | lost | unhandled => exact .inr (.inl ⟨_, rfl⟩)
    | opened => exact .inl rfl
    | handled hpoint _ _ hdispatch =>
      exact .inl ((handled_of_dispatch hdispatch).point.trans hpoint)
    | connected hpoint | greeted hpoint | put hpoint | admitted hpoint | accepted hpoint =>
      exact .inr (.inr (h.early (by rw [hpoint]; rfl)))
    | asked hasks =>
      refine .inr (.inr (h.early ?_))
      cases hasks with
      | authorization hpoint | registration hpoint =>
        rw [hpoint]
        rfl
    | renewed haction | unrenewed haction =>
      rw [haction] at hmain
      cases hmain
    | _ => cases hmain

theorem unstarted_of_run {events : List Event} {v' : Vigil} (h : Unstarted s)
    (hrun : Vigil.run events s v = some (s', v')) : Unstarted s' := by
  induction events generalizing s v with
  | nil =>
    cases hrun
    exact h
  | cons event events ih =>
    rw [Vigil.run] at hrun
    split at hrun
    · cases hrun
    · rename_i t hnext
      exact ih (h.turn (turn_of_next hnext)) hrun

theorem livesBy_openTunnel (c : HealthConfig) (nonce : UInt64) (hwell : s.healthFailed = false) :
    LivesBy (s.openTunnel c nonce) {} (Life.start c nonce s.now) := by
  have hnever : ∀ {p : Prop}, (s.openTunnel c nonce).healthFailed = true → p :=
    fun hfailed => absurd (hwell.symm.trans hfailed) Bool.false_ne_true
  refine ⟨rfl, rfl, rfl, rfl, iff_of_false ?_ ?_, iff_of_true rfl rfl, hnever, hnever, .inl rfl⟩
  · exact hnever
  · exact fun hsome => hsome rfl

/-- The monitor fails at the first tick that ends as many silent periods as may be missed, and pings
at every tick before: over any history of a monitor with its writer alive, and over that of any
session that starts one and is attended until it fails. -/
theorem monitor_keeps_window (intervalSecs : UInt64) (maxMissed : UInt32) (nonce : UInt64) :
    (HealthConfig.ofParts intervalSecs maxMissed).deadline =
      (HealthConfig.ofParts intervalSecs maxMissed).interval * max maxMissed.toNat 1 ∧
    let c := HealthConfig.ofParts intervalSecs maxMissed
    let m := max maxMissed.toNat 1
    (∀ (t₀ : Duration) (history : List Happening),
      let l := (Life.start c nonce t₀).after history
      Keeps m c.interval nonce t₀ history l.sent l.failures ∧
      ((∃ t, l.monitor.ticking = some t) ↔ l.failures = []) ∧
      ∀ t, l.monitor.ticking = some t → t.due = t₀ + ticks history * c.interval) ∧
    ∀ {settings : Settings} {shared : Shared} {now : Duration} {capacity : Nat}
      {before events : List Event} {s s₀ s' : Session} {v₀ v : Vigil} {draws : List UInt64},
      Vigil.run before (.start settings shared now capacity) {} = some (s, v₀) →
      s.point = .opening c → s.main draws nonce = some s₀ →
      AttendedOver events s₀ → Vigil.run events s₀ {} = some (s', v) →
      Keeps m c.interval nonce s.now v.history v.sent v.failures ∧
      (s'.healthFailed = true ↔ v.failures ≠ []) ∧ (s'.shared.live = true ↔ v.failures = []) ∧
      (v.failures ≠ [] → s'.outgoing.closed = true) ∧
      ∀ t, s'.monitor.ticking = some t →
        v.failures = [] ∧ t.due = s.now + ticks v.history * c.interval := by
  have hkeeps := Life.keeps_after intervalSecs maxMissed nonce
  refine ⟨HealthConfig.deadline_ofParts intervalSecs maxMissed, hkeeps, ?_⟩
  intro settings shared now capacity before events s s₀ s' v₀ v draws hbefore hpoint hopens
    hattended hrun
  have hwell : s.healthFailed = false := by
    have hunstarted : Unstarted s := unstarted_of_run (.inr (.inr ⟨rfl, rfl⟩)) hbefore
    exact (hunstarted.early (by rw [hpoint]; rfl)).1
  simp only [main, hpoint] at hopens
  cases hopens
  obtain ⟨later, hhistory, h⟩ := (livesBy_openTunnel _ nonce hwell).run hattended hrun
  rw [List.nil_append] at hhistory
  subst hhistory
  obtain ⟨hkept, hticks, hdue⟩ := hkeeps s.now v.history
  refine ⟨hkept.congr h.pings h.answers h.failures, ?_, ?_, ?_, fun t ht => ⟨?_, ?_⟩⟩
  · rw [h.failures]
    exact h.failed
  · rw [h.failures]
    exact h.live
  · rw [h.failures]
    exact fun hsome => h.closed (h.failed.mpr hsome)
  · rw [h.failures]
    exact hticks.mp ⟨t, h.monitor ▸ ht⟩
  · exact hdue t (h.monitor ▸ ht)

/-- From the start to the point where the monitor is to be started. -/
def toOpening : List Event := .own (.connect (.ok ())) :: letIn.dropLast

/-- The gateway says nothing for a second. -/
def unanswered : List Event :=
  [.own .tick, .own (.advance (Duration.ofSeconds 1)), .own .tick, .own (.main [] 0)]

theorem monitor_keeps_window_unanswered :
    ∃ s s₀ s' v₀ v,
      Vigil.run toOpening (.start plainSettings plainShared 0 65536) {} = some (s, v₀) ∧ s.main [] 9 = some s₀ ∧ Vigil.run unanswered s₀ {} = some (s', v) ∧
      v.failures = [Duration.ofSeconds 1] ∧ s'.healthFailed = true ∧ s'.shared.live = false := by
  have hbefore : Vigil.run toOpening (.start plainSettings plainShared 0 65536) {} =
      some (_, _) := rfl
  obtain ⟨-, -, hsession⟩ := monitor_keeps_window 1 1 9
  have hkept := hsession hbefore rfl (rfl : main [] 9 _ = some _)
    (show AttendedOver unanswered _ from ?_) rfl
  · obtain ⟨-, hfailed, hlive, -⟩ := hkept
    refine ⟨_, _, _, _, _, hbefore, rfl, rfl, rfl, hfailed.mpr (List.cons_ne_nil _ _), ?_⟩
    exact Bool.eq_false_iff.mpr fun h => List.cons_ne_nil _ _ (hlive.mp h)
  · refine .step (fun _ => Attended.of_ticking rfl rfl rfl (by decide)) rfl ?_
    refine .step (fun _ => Attended.of_ticking rfl rfl rfl (by decide)) rfl ?_
    refine .step (fun _ => Attended.of_ticking rfl rfl rfl (by decide)) rfl ?_
    exact .step nofun rfl nofun

end TunnelAgent.Session
