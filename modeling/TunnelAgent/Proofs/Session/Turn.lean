import TunnelAgent.Proofs.Health.Window
import TunnelAgent.Proofs.Session.Closing
import TunnelAgent.Proofs.Session.Exchange
import TunnelAgent.Proofs.Session.Favour

/-! # The turns of a session

All that an event can do to a session: each step of the main task, with what the task meets in it,
and whatever goes on beside it. Invariants of a session are shown turn by turn. -/

namespace TunnelAgent.Session
open Envelope

/-- A call by a holder of the registrar does what registering at once does. -/
def Event.action : Event → Action
  | own action => action
  | call rules draws => .reregister rules draws

/-- An authorization reply that can be read and says Ok. -/
def Admitted (frame : Frame) : Prop := frame.type = .authorizationResponse ∧ Admits frame.payload

/-- A registration reply that can be read and says Ok. -/
def Accepted (frame : Frame) : Prop :=
  frame.type = .registrationResponse ∧ ∃ reply, Accepts frame.payload reply

/-- The payload cannot be read as the message that the frame's handler needs. A registration reply
is taken as it is. -/
def Garbled (frame : Frame) : Prop :=
  match frame.type with
  | .healthCheck => ∀ message, HealthCheck.format.decode frame.payload ≠ .ok message
  | .healthCheckResponse => ∀ message, HealthCheckResponse.format.decode frame.payload ≠ .ok message
  | .socketData => ∀ message, SocketData.format.decode frame.payload ≠ .ok message
  | _ => False

/-- What keeps the main task from its next frame. -/
inductive Setback where
  /-- the preamble cannot be written -/
  | unwritten
  /-- its own request is too large to be framed -/
  | oversized
  /-- the writer has stopped before its request -/
  | stranded
  /-- the stream yields a fault -/
  | unread (fault : FrameFault)
  /-- the transport has been closed on this side -/
  | closed
  deriving DecidableEq, Repr

def hindrance? (frame : Outbound) (s : Session) : Option Setback :=
  if fits frame.payload then
    if s.writerOpen then none else some .stranded
  else some .oversized

def reading? (s : Session) : Option (Except Setback Frame) :=
  if s.outgoing.closed then some (.error .closed)
  else
    match (s.reader.decoder.readFrame s.reader.source).1 with
    | .frame frame => some (.ok frame)
    | .fault fault => some (.error (.unread fault))
    | .pending => none

/-- What the main task meets: the frame that it reads, or a setback. -/
def meets? : Event → Session → Option (Except Setback Frame)
  | .own (.main draws _), s =>
    match s.point with
    | .greeting rest =>
      if rest ≠ [] ∧ s.outgoing.pipe.readerGone = true then some (.error .unwritten) else none
    | .authorizing =>
      (s.hindrance? (.ofMessage (.authorization s.settings.credentials))).map .error
    | .registering =>
      (assignKeys s.shared.rules draws).bind fun keyed =>
        (s.hindrance? (Registrar.frame keyed.1)).map .error
    | .awaitingAuthorization => s.reading?
    | .awaitingRegistration _ => s.reading?
    | .dispatching => s.reading?
    | _ => none
  | _, _ => none

/-- A tick has seen no success since the one before it, and none since the deadline. -/
def fails : Event → Session → Bool
  | .own .tick, s =>
    match s.monitor.ticking with
    | some t => !s.monitor.succeeded && decide (s.monitor.config.deadline ≤ s.now - t.lastSuccess)
    | none => false
  | _, _ => false

/-- The request of the main task, and where it awaits the reply. -/
inductive Asks (s : Session) (draws : List UInt64) : Outbound → Point → Prop
  | authorization : s.point = .authorizing →
      Asks s draws (.ofMessage (.authorization s.settings.credentials)) .awaitingAuthorization
  | registration {resources : List Resource} {rest : List UInt64} : s.point = .registering →
      assignKeys s.shared.rules draws = some (resources, rest) →
      Asks s draws (Registrar.frame resources) (.awaitingRegistration resources)

/-- The main task awaits one of the two replies. -/
def Point.AwaitsReply (point : Point) : Prop :=
  point = .awaitingAuthorization ∨ ∃ resources, point = .awaitingRegistration resources

inductive Turn (s : Session) : Event → Option (Except Setback Frame) → Session → Prop
  | connected : s.point = .connecting →
      Turn s (.own (.connect (.ok ()))) none
        { s with phase := .connected, point := .greeting (Utf8.encode preamble) }
  | unconnected {fault : TransportFault} : s.point = .connecting →
      Turn s (.own (.connect (.error fault))) none (s.conclude (.ofConnect fault))
  | greeted {draws : List UInt64} {nonce : UInt64} : s.point = .greeting [] →
      Turn s (.own (.main draws nonce)) none { s with phase := .greeted, point := .authorizing }
  | unwritten {draws : List UInt64} {nonce : UInt64} {rest : Bytes} : s.point = .greeting rest →
      Turn s (.own (.main draws nonce)) (some (.error .unwritten))
        (s.conclude (.transport IoFault.brokenPipe.text))
  | put {draws : List UInt64} {nonce : UInt64} {rest : Bytes} : s.point = .greeting rest →
      Turn s (.own (.main draws nonce)) none { s with
        outgoing := { s.outgoing with pipe :=
          { s.outgoing.pipe with held := s.outgoing.pipe.held ++ rest.take s.outgoing.pipe.room } }
        point := .greeting (rest.drop s.outgoing.pipe.room) }
  | asked {draws : List UInt64} {nonce : UInt64} {frame : Outbound} {next : Point} :
      s.Asks draws frame next → fits frame.payload → s.writerOpen = true →
      Turn s (.own (.main draws nonce)) none
        { s with outgoing := s.outgoing.enqueue [frame], point := next }
  | oversized {draws : List UInt64} {nonce : UInt64} {frame : Outbound} {next : Point} :
      s.Asks draws frame next →
      Turn s (.own (.main draws nonce)) (some (.error .oversized))
        (s.conclude (.framing (FrameFault.payloadTooLarge frame.payload.length).message))
  | stranded {draws : List UInt64} {nonce : UInt64} {frame : Outbound} {next : Point} :
      s.Asks draws frame next →
      Turn s (.own (.main draws nonce)) (some (.error .stranded))
        (s.conclude (.transport TransportFault.writerClosed.message))
  | shut {draws : List UInt64} {nonce : UInt64} : s.point.AwaitsReply → s.outgoing.closed = true →
      Turn s (.own (.main draws nonce)) (some (.error .closed)) (s.conclude .closed)
  | unread {draws : List UInt64} {nonce : UInt64} {fault : FrameFault} {reader : Reader} :
      s.point.AwaitsReply → s.outgoing.closed = false →
      s.reader.decoder.readFrame s.reader.source = (.fault fault, reader.decoder, reader.source) →
      Turn s (.own (.main draws nonce)) (some (.error (.unread fault)))
        ({ s with reader }.conclude (.ofTransport (.frame fault)))
  | admitted {draws : List UInt64} {nonce : UInt64} {frame : Frame} {reader : Reader} :
      s.point = .awaitingAuthorization → s.outgoing.closed = false →
      s.reader.decoder.readFrame s.reader.source = (.frame frame, reader.decoder, reader.source) →
      Admitted frame →
      Turn s (.own (.main draws nonce)) (some (.ok frame))
        { s with reader, phase := .authorized, point := .registering }
  | refused {draws : List UInt64} {nonce : UInt64} {frame : Frame} {reader : Reader} {text : String} :
      s.point = .awaitingAuthorization → s.outgoing.closed = false →
      s.reader.decoder.readFrame s.reader.source = (.frame frame, reader.decoder, reader.source) →
      ¬ Admitted frame →
      Turn s (.own (.main draws nonce)) (some (.ok frame))
        ({ s with reader }.conclude (.authentication text))
  | accepted {draws : List UInt64} {nonce : UInt64} {frame : Frame} {reader : Reader}
      {resources : List Resource} {reply : RegistrationResponse} :
      s.point = .awaitingRegistration resources → s.outgoing.closed = false →
      s.reader.decoder.readFrame s.reader.source = (.frame frame, reader.decoder, reader.source) →
      frame.type = .registrationResponse → Accepts frame.payload reply →
      Turn s (.own (.main draws nonce)) (some (.ok frame)) { s with
        reader
        shared := { s.shared with access := .ofResources resources }
        phase := .registered
        point := .opening (healthConfig s.settings.health reply.healthCheck) }
  | declined {draws : List UInt64} {nonce : UInt64} {frame : Frame} {reader : Reader}
      {resources : List Resource} {text : String} :
      s.point = .awaitingRegistration resources → s.outgoing.closed = false →
      s.reader.decoder.readFrame s.reader.source = (.frame frame, reader.decoder, reader.source) →
      ¬ Accepted frame →
      Turn s (.own (.main draws nonce)) (some (.ok frame))
        ({ s with reader }.conclude (.registration text))
  | opened {draws : List UInt64} {nonce : UInt64} {health : HealthConfig} :
      s.point = .opening health →
      Turn s (.own (.main draws nonce)) none (s.openTunnel health nonce)
  | left {draws : List UInt64} {nonce : UInt64} : s.point = .dispatching →
      s.outgoing.closed = true →
      Turn s (.own (.main draws nonce)) (some (.error .closed)) (s.leave .aborted)
  | lost {draws : List UInt64} {nonce : UInt64} {fault : FrameFault} {reader : Reader} :
      s.point = .dispatching → s.outgoing.closed = false →
      s.reader.decoder.readFrame s.reader.source = (.fault fault, reader.decoder, reader.source) →
      Turn s (.own (.main draws nonce)) (some (.error (.unread fault)))
        ({ s with reader }.leave (.frame fault))
  | handled {draws : List UInt64} {nonce : UInt64} {frame : Frame} {reader : Reader} {t : Session} :
      s.point = .dispatching → s.outgoing.closed = false →
      s.reader.decoder.readFrame s.reader.source = (.frame frame, reader.decoder, reader.source) →
      handlers.dispatch frame { s with reader } = (.ok (), t) →
      Turn s (.own (.main draws nonce)) (some (.ok frame)) t
  | unhandled {draws : List UInt64} {nonce : UInt64} {frame : Frame} {reader : Reader}
      {fault : TransportFault} {t : Session} :
      s.point = .dispatching → s.outgoing.closed = false →
      s.reader.decoder.readFrame s.reader.source = (.frame frame, reader.decoder, reader.source) →
      handlers.dispatch frame { s with reader } = (.error fault, t) →
      Turn s (.own (.main draws nonce)) (some (.ok frame)) (t.leave fault)
  | written {outgoing : Outgoing} : s.framed = true → s.outgoing.step = some outgoing →
      Turn s (.own .write) none { s with outgoing }
  | watched : s.framed = true → Turn s (.own .watch) none s.close
  | pinged {t : Ticking} {frame : Outbound} {monitor : HealthMonitor} :
      s.monitor.ticking = some t →
      s.monitor.tick s.now s.writerOpen t = (.ping frame, monitor) →
      fails (.own .tick) s = false →
      Turn s (.own .tick) none ({ s with monitor }.enqueue [frame])
  | unpinged {t : Ticking} {monitor : HealthMonitor} : s.monitor.ticking = some t →
      s.monitor.tick s.now s.writerOpen t = (.stopped, monitor) →
      fails (.own .tick) s = false →
      Turn s (.own .tick) none { s with monitor }
  | failed {t : Ticking} {monitor : HealthMonitor} : s.monitor.ticking = some t →
      s.monitor.tick s.now s.writerOpen t = (.failed, monitor) →
      fails (.own .tick) s = true →
      Turn s (.own .tick) none
        { s with monitor, healthFailed := true, shared := { s.shared with live := false } }.close
  | relayed {action : Relay.Action} {relay : Relay} {effects : List Relay.Effect} :
      s.reachedDispatching = true → isRelays action = true →
      s.relay.step s.writerOpen action = some (relay, effects) →
      Turn s (.own (.relay action)) none
        ({ s with relay }.enqueue (effects.filterMap Relay.Effect.frame?))
  | advanced {now : Duration} : Turn s (.own (.advance now)) none { s with now }
  | delivered {bytes : Bytes} :
      Turn s (.own (.deliver bytes)) none { s with reader := s.reader.deliver bytes }
  | finished {finish : StreamEnd} :
      Turn s (.own (.gatewayEnds finish)) none { s with reader := s.reader.endWith finish }
  | taken {count : Nat} :
      Turn s (.own (.gatewayReads count)) none { s with outgoing := (s.outgoing.read count).2.2 }
  | deserted : Turn s (.own .gatewayGone) none { s with outgoing := s.outgoing.dropReader }
  | stopped : Turn s (.own .shutdown) none { s with shared := { s.shared with shutdown := true } }
  | ruled {rules : List Rule} :
      Turn s (.own (.setRules rules)) none { s with shared := { s.shared with rules } }
  | renewed {event : Event} {rules : List Rule} {draws : List UInt64} {resources : List Resource} :
      event.action = .reregister rules draws →
      s.published = true ∨ s.reachedDispatching = true →
      fits (Registrar.frame resources).payload →
      Turn s event none { s with
        registrar := { pending := s.registrar.pending ++ [resources] }
        outgoing := s.outgoing.enqueue [Registrar.frame resources] }
  | unrenewed {event : Event} {rules : List Rule} {draws : List UInt64} :
      event.action = .reregister rules draws → Turn s event none s

variable {s s' : Session}

theorem admitted_iff {frame : Frame} : checkAuthorization frame = .ok () ↔ Admitted frame :=
  checkAuthorization_eq_ok_iff

theorem not_accepted {frame : Frame} {text : String} (h : checkRegistration frame = .error text) :
    ¬ Accepted frame := by
  rintro ⟨htype, reply, haccepts⟩
  rw [checkRegistration_eq_ok_iff.mpr ⟨htype, reply, haccepts, rfl⟩] at h
  cases h

/-- A wait meets the end of the transport, a fault of the stream, or a frame. -/
theorem turn_of_await {fail : TransportFault → Session → Session} {take : Frame → Session → Session}
    (h : s.await fail take = some s') :
    (s.outgoing.closed = true ∧ s.reading? = some (.error .closed) ∧ s' = fail .aborted s) ∨
      (∃ fault reader, s.outgoing.closed = false ∧
        s.reader.decoder.readFrame s.reader.source = (.fault fault, reader.decoder, reader.source) ∧
        s.reading? = some (.error (.unread fault)) ∧ s' = fail (.frame fault) { s with reader }) ∨
      ∃ frame reader, s.outgoing.closed = false ∧
        s.reader.decoder.readFrame s.reader.source = (.frame frame, reader.decoder, reader.source) ∧
        s.reading? = some (.ok frame) ∧ s' = take frame { s with reader } := by
  unfold await at h
  rcases receive_cases s with ⟨hclosed, hreceive⟩ |
      ⟨hopen, ⟨d, u, hread, hreceive⟩ | ⟨fault, d, u, hread, hreceive⟩ | ⟨frame, d, u, hread, hreceive⟩⟩ <;>
    rw [hreceive] at h <;> cases h
  · exact .inl ⟨hclosed, by rw [reading?, if_pos hclosed], rfl⟩
  · exact .inr (.inl ⟨fault, _, hopen, hread, by simp [reading?, hopen, hread], rfl⟩)
  · exact .inr (.inr ⟨frame, _, hopen, hread, by simp [reading?, hopen, hread], rfl⟩)

theorem turn_of_request {draws : List UInt64} {nonce : UInt64} {frame : Outbound} {next : Point}
    (hasks : s.Asks draws frame next) :
    Turn s (.own (.main draws nonce)) ((s.hindrance? frame).map .error) (s.request frame next) := by
  by_cases hfits : fits frame.payload
  · cases hopen : s.writerOpen with
    | true =>
      have hoffer : frame.offer s.outgoing.isOpen = .ok frame := by
        rw [Outbound.offer, if_pos hfits]
        exact if_pos hopen
      simp only [hindrance?, if_pos hfits, hopen, request, send, Outgoing.send, hoffer, if_true]
      exact .asked hasks hfits hopen
    | false =>
      have hoffer : frame.offer s.outgoing.isOpen = .error .writerClosed := by
        rw [Outbound.offer, if_pos hfits]
        exact if_neg (Bool.eq_false_iff.mp hopen)
      simp only [hindrance?, if_pos hfits, hopen, request, send, Outgoing.send, hoffer]
      exact .stranded hasks
  · have hoffer : frame.offer s.outgoing.isOpen =
        .error (.frame (.payloadTooLarge frame.payload.length)) := by
      rw [Outbound.offer, if_neg hfits]
    simp only [hindrance?, if_neg hfits, request, send, Outgoing.send, hoffer]
    exact .oversized hasks

theorem turn_of_main {draws : List UInt64} {nonce : UInt64} (h : s.main draws nonce = some s') :
    Turn s (.own (.main draws nonce)) (meets? (.own (.main draws nonce)) s) s' := by
  cases hpoint : s.point with
  | connecting =>
    simp only [main, hpoint] at h
    cases h
  | greeting rest =>
    simp only [main, hpoint, greet] at h
    simp only [meets?, hpoint]
    by_cases hrest : rest = []
    · subst hrest
      simp only [if_true, Option.some.injEq] at h
      subst h
      simpa using Turn.greeted hpoint
    rw [if_neg hrest] at h
    by_cases hgone : s.outgoing.pipe.readerGone = true
    · rw [if_pos hgone, Option.some.injEq] at h
      subst h
      rw [if_pos ⟨hrest, hgone⟩]
      exact .unwritten hpoint
    · rw [if_neg hgone] at h
      rw [if_neg fun hcut => hgone hcut.2]
      split at h <;> cases h
      exact .put hpoint
  | authorizing =>
    simp only [main, hpoint, Option.some.injEq] at h
    subst h
    simp only [meets?, hpoint]
    exact turn_of_request (.authorization hpoint)
  | awaitingAuthorization =>
    simp only [main, hpoint] at h
    simp only [meets?, hpoint]
    rcases turn_of_await h with ⟨hclosed, hmeets, rfl⟩ | ⟨fault, reader, hopen, hread, hmeets, rfl⟩ |
        ⟨frame, reader, hopen, hread, hmeets, rfl⟩ <;> rw [hmeets]
    · exact .shut (.inl hpoint) hclosed
    · exact .unread (.inl hpoint) hopen hread
    · unfold takeAuthorization
      cases hcheck : checkAuthorization frame with
      | ok _ => exact .admitted hpoint hopen hread (admitted_iff.mp hcheck)
      | error text =>
        refine .refused hpoint hopen hread fun hadmitted => ?_
        rw [admitted_iff.mpr hadmitted] at hcheck
        cases hcheck
  | registering =>
    simp only [main, hpoint, register] at h
    simp only [meets?, hpoint]
    split at h <;> cases h
    rename_i resources rest hkeys
    rw [hkeys]
    exact turn_of_request (.registration hpoint hkeys)
  | awaitingRegistration resources =>
    simp only [main, hpoint] at h
    simp only [meets?, hpoint]
    rcases turn_of_await h with ⟨hclosed, hmeets, rfl⟩ | ⟨fault, reader, hopen, hread, hmeets, rfl⟩ |
        ⟨frame, reader, hopen, hread, hmeets, rfl⟩ <;> rw [hmeets]
    · exact .shut (.inr ⟨_, hpoint⟩) hclosed
    · exact .unread (.inr ⟨_, hpoint⟩) hopen hread
    · unfold takeRegistration
      cases hcheck : checkRegistration frame with
      | ok settings =>
        obtain ⟨htype, reply, haccepts, rfl⟩ := checkRegistration_eq_ok_iff.mp hcheck
        exact .accepted hpoint hopen hread htype haccepts
      | error text => exact .declined hpoint hopen hread (not_accepted hcheck)
  | opening health =>
    simp only [main, hpoint, Option.some.injEq] at h
    subst h
    simp only [meets?, hpoint]
    exact .opened hpoint
  | dispatching =>
    simp only [main, hpoint] at h
    simp only [meets?, hpoint]
    rcases turn_of_await h with ⟨hclosed, hmeets, rfl⟩ | ⟨fault, reader, hopen, hread, hmeets, rfl⟩ |
        ⟨frame, reader, hopen, hread, hmeets, rfl⟩ <;> rw [hmeets]
    · exact .left hpoint hclosed
    · exact .lost hpoint hopen hread
    · unfold dispatch
      split
      · exact .handled hpoint hopen hread ‹_›
      · exact .unhandled hpoint hopen hread ‹_›
  | ended result =>
    simp only [main, hpoint] at h
    cases h

theorem turn_of_tick (h : s.tick = some s') : Turn s (.own .tick) none s' := by
  obtain ⟨t, hticking, -, hcases⟩ := tick_cases h
  have hfails : fails (.own .tick) s =
      (!s.monitor.succeeded && decide (s.monitor.config.deadline ≤ s.now - t.lastSuccess)) := by
    simp only [fails, hticking]
  have houtcome : fails (.own .tick) s =
      decide ((s.monitor.tick s.now s.writerOpen t).1 = .failed) := by
    have hping : ∀ m : HealthMonitor, (m.sendPing s.writerOpen).1 ≠ .failed := by
      intro m
      unfold HealthMonitor.sendPing
      split <;> exact nofun
    rw [hfails, HealthMonitor.tick_eq]
    split
    · rename_i hlate
      simp [hlate]
    · rename_i hlate
      simpa [hping] using hlate
  rcases hcases with ⟨frame, monitor, htick, rfl⟩ | ⟨monitor, htick, rfl⟩ | ⟨monitor, htick, rfl⟩ <;>
    rw [htick] at houtcome
  · exact .pinged hticking htick houtcome
  · exact .unpinged hticking htick houtcome
  · exact .failed hticking htick houtcome

theorem turn_of_next {event : Event} (h : s.next event = some s') :
    Turn s event (meets? event s) s' := by
  cases event with
  | call rules draws =>
    obtain ⟨⟨result, t⟩, hcall, rfl⟩ := Option.map_eq_some_iff.mp h
    obtain ⟨hreached, ⟨-, resources, -, hfits, -, rfl⟩ | ⟨-, rfl⟩⟩ := call_cases hcall
    · exact .renewed rfl (.inr hreached) hfits
    · exact .unrenewed rfl
  | own action =>
    cases action with
    | connect outcome =>
      simp only [next, step, connect] at h
      split at h <;> cases h
      · exact .connected ‹_›
      · exact .unconnected ‹_›
    | main draws nonce => exact turn_of_main h
    | write =>
      simp only [next, step, write] at h
      split at h
      · obtain ⟨outgoing, hstep, rfl⟩ := Option.map_eq_some_iff.mp h
        exact .written ‹_› hstep
      · cases h
    | watch =>
      simp only [next, step, watch] at h
      split at h <;> cases h
      rename_i hwatch
      simp only [Bool.and_eq_true] at hwatch
      exact .watched hwatch.1.1
    | tick => exact turn_of_tick h
    | relay action =>
      simp only [next, step, relayStep] at h
      split at h
      · rename_i hown
        split at h <;> cases h
        exact .relayed hown.1 hown.2 ‹_›
      · cases h
    | advance now =>
      simp only [next, step] at h
      split at h <;> cases h
      exact .advanced
    | deliver bytes => cases h; exact .delivered
    | gatewayEnds finish => cases h; exact .finished
    | gatewayReads count => cases h; exact .taken
    | gatewayGone => cases h; exact .deserted
    | shutdown => cases h; exact .stopped
    | setRules rules => cases h; exact .ruled
    | reregister rules draws =>
      obtain ⟨⟨result, t⟩, hcall, rfl⟩ := Option.map_eq_some_iff.mp h
      rcases reregister_cases hcall with ⟨-, resources, -, hfits, -, rfl⟩ | ⟨-, rfl⟩
      · have hpublished : s.published = true := by
          unfold reregister at hcall
          split at hcall
          · assumption
          · cases hcall
        exact .renewed rfl (.inl hpublished) hfits
      · exact .unrenewed rfl

/-- A session that has ended does not go on. -/
theorem Turn.going {event : Event} {met : Option (Except Setback Frame)} (h : Turn s event met s')
    (hmain : event.action.isMain = true) : s.result? = none := by
  have hresult : ∀ {point : Point}, s.point = point → (∀ result, point ≠ .ended result) →
      s.result? = none := by
    rintro point rfl hgoing
    unfold result?
    split
    · exact absurd ‹_› (hgoing _)
    · rfl
  cases h with
  | connected hpoint | unconnected hpoint | greeted hpoint | unwritten hpoint | put hpoint
  | admitted hpoint | refused hpoint | accepted hpoint | declined hpoint | opened hpoint | left hpoint
  | lost hpoint | handled hpoint | unhandled hpoint => exact hresult hpoint nofun
  | asked hasks | oversized hasks | stranded hasks =>
    cases hasks with
    | authorization hpoint | registration hpoint => exact hresult hpoint nofun
  | shut hawaits | unread hawaits =>
    rcases hawaits with hpoint | ⟨resources, hpoint⟩ <;> exact hresult hpoint nofun
  | renewed haction | unrenewed haction =>
    rw [haction] at hmain
    cases hmain
  | _ => cases hmain

/-! ## Handlers -/

/-- What else a handler may do, whatever it answers. -/
structure Tended (s t : Session) : Prop where
  reader : t.reader = s.reader
  healthFailed : t.healthFailed = s.healthFailed
  live : t.shared.live = s.shared.live
  shutdown : t.shared.shutdown = s.shared.shutdown
  relay : t.relay = s.relay ∨ ∃ data, t.relay = s.relay.take s.now data
  outgoing : t.outgoing = s.outgoing ∨
    ∃ nonce, t.outgoing = s.outgoing.enqueue [HealthMonitor.answer nonce]

theorem tended_dispatch (frame : Frame) (s : Session) :
    Tended s (handlers.dispatch frame s).2 := by
  refine state_of_dispatch (fun _ => ⟨rfl, rfl, rfl, rfl, .inl rfl, .inl rfl⟩) ?_
  intro handler hfind
  cases htype : frame.type <;> rw [htype] at hfind <;> cases hfind
  · exact ⟨rfl, rfl, rfl, rfl, .inl rfl, .inl rfl⟩
  · unfold handlePing HealthMonitor.handleRequest
    cases HealthCheck.format.decode frame.payload with
    | error fault => exact ⟨rfl, rfl, rfl, rfl, .inl rfl, .inl rfl⟩
    | ok request =>
      cases hoffer : (HealthMonitor.answer request.nonce).offer s.writerOpen with
      | error fault =>
        simp only [hoffer]
        exact ⟨rfl, rfl, rfl, rfl, .inl rfl, .inl rfl⟩
      | ok reply =>
        obtain ⟨rfl, -⟩ := Outbound.offer_eq_ok hoffer
        simp only [hoffer]
        exact ⟨rfl, rfl, rfl, rfl, .inl rfl, .inr ⟨request.nonce, rfl⟩⟩
  · exact ⟨rfl, rfl, rfl, rfl, .inl rfl, .inl rfl⟩
  · unfold handleSocketData Relay.handle
    cases SocketData.format.decode frame.payload with
    | error fault => exact ⟨rfl, rfl, rfl, rfl, .inl rfl, .inl rfl⟩
    | ok data => exact ⟨rfl, rfl, rfl, rfl, .inr ⟨data, rfl⟩, .inl rfl⟩

section

variable {frame : Frame} {reader : Reader} {outcome : Except TransportFault Unit} {t : Session}

theorem tended_of_dispatch (h : handlers.dispatch frame { s with reader } = (outcome, t)) :
    Tended { s with reader } t := by
  have htended := tended_dispatch frame { s with reader }
  rwa [h] at htended

theorem handled_of_dispatch (h : handlers.dispatch frame { s with reader } = (outcome, t)) :
    Handled { s with reader } t := by
  have hhandled := handled_dispatch frame { s with reader }
  rwa [h] at hhandled

end

/-- Only the request to stop touches that request. -/
theorem Turn.shutdown {event : Event} {met : Option (Except Setback Frame)} (h : Turn s event met s')
    (hother : event ≠ .own .shutdown) : s'.shared.shutdown = s.shared.shutdown := by
  cases h with
  | handled _ _ _ hdispatch => exact (tended_of_dispatch hdispatch).shutdown
  | unhandled _ _ _ hdispatch => exact (tended_of_dispatch hdispatch).shutdown
  | stopped => exact absurd rfl hother
  | _ => rfl

/-- While answers can be queued, a handler fails on the frames that it cannot read and on no others,
and changes nothing. -/
theorem dispatch_of_open (frame : Frame) (hopen : s.writerOpen = true) :
    (Garbled frame ∧ ∃ text, handlers.dispatch frame s = (.error (.handler frame.type text), s)) ∨
      ¬ Garbled frame ∧ (handlers.dispatch frame s).1 = .ok () := by
  unfold Dispatch.Table.dispatch
  cases htype : frame.type with
  | registrationResponse => exact .inr ⟨by simp [Garbled, htype], rfl⟩
  | healthCheck =>
    have hfind : handlers.find? .healthCheck = some handlePing := rfl
    simp only [Garbled, htype, hfind, handlePing, HealthMonitor.handleRequest]
    cases HealthCheck.format.decode frame.payload with
    | error fault =>
      refine .inl ⟨?_, _, rfl⟩
      intro message hdecode
      cases hdecode
    | ok request =>
      have hoffer : (HealthMonitor.answer request.nonce).offer s.writerOpen =
          .ok (HealthMonitor.answer request.nonce) := by
        rw [Outbound.offer, if_pos (HealthMonitor.fits_answer _), hopen]
        rfl
      exact .inr ⟨fun hnone => hnone request rfl, by simp only [hoffer]⟩
  | healthCheckResponse =>
    have hfind : handlers.find? .healthCheckResponse = some handlePong := rfl
    simp only [Garbled, htype, hfind, handlePong, HealthMonitor.handleResponse]
    cases HealthCheckResponse.format.decode frame.payload with
    | error fault =>
      refine .inl ⟨?_, _, rfl⟩
      intro message hdecode
      cases hdecode
    | ok response => exact .inr ⟨fun hnone => hnone response rfl, rfl⟩
  | socketData =>
    have hfind : handlers.find? .socketData = some handleSocketData := rfl
    simp only [Garbled, htype, hfind, handleSocketData, Relay.handle]
    cases SocketData.format.decode frame.payload with
    | error fault =>
      refine .inl ⟨?_, _, rfl⟩
      intro message hdecode
      cases hdecode
    | ok data => exact .inr ⟨fun hnone => hnone data rfl, rfl⟩
  | _ => exact .inr ⟨by simp [Garbled, htype], rfl⟩

end TunnelAgent.Session
