import TunnelAgent.Proofs.Message.Canonical
import TunnelAgent.Proofs.Registration.Keys
import TunnelAgent.Proofs.Session.Beside

/-! # The one step of a session that registers its manifest

A session makes one Registration by itself, from the rules in force at that step. Every other step
of its own is quiet: it queues no Registration, leaves the rules alone and does not come past that
step. -/

namespace TunnelAgent

/-- The writer only takes frames out of the queue. -/
theorem Outgoing.queue_of_step {o o' : Outgoing} (h : o.step = some o') :
    ∃ k, o'.queue = o.queue.drop k := by
  cases writes_of_step h with
  | shut | lose => exact ⟨o.queue.length, List.drop_length.symm⟩
  | start _ _ hqueue | skip _ hqueue => exact ⟨1, by rw [hqueue]; rfl⟩
  | count | put => exact ⟨0, rfl⟩

theorem Outbound.offer_eq_ok {w : Bool} {frame out : Outbound} (h : frame.offer w = .ok out) :
    out = frame ∧ Envelope.fits frame.payload ∧ w = true := by
  unfold offer at h
  split at h
  · split at h
    · cases h
      exact ⟨rfl, ‹_›, ‹_›⟩
    · cases h
  · cases h

/-- A Registration that fits an envelope is read as the manifest it was made from. -/
theorem Registrar.decode_frame {resources : List Resource}
    (hfits : Envelope.fits (Registrar.frame resources).payload) :
    RegistrationRequest.format.decode (Registrar.frame resources).payload = .ok ⟨resources⟩ :=
  RegistrationRequest.exact.decode_write (Nat.lt_trans hfits (by decide))

theorem HealthMonitor.type_of_handleRequest {w : Bool} {payload : Bytes} {m m' : HealthMonitor}
    {reply : Outbound} (h : m.handleRequest w payload = (.ok reply, m')) :
    reply.type = .healthCheckResponse := by
  unfold handleRequest at h
  split at h
  · cases h
  simp only at h
  split at h <;> cases h
  rename_i hoffer
  rw [(Outbound.offer_eq_ok hoffer).1]
  rfl

theorem HealthMonitor.frame_of_tick {now : Duration} {w : Bool} {t : Ticking}
    {m m' : HealthMonitor} {frame : Outbound} (h : m.tick now w t = (.ping frame, m')) :
    frame = ping m.nextNonce := by
  rw [tick_eq] at h
  split at h
  · cases h
  · unfold sendPing at h
    split at h <;> cases h
    rename_i hoffer
    exact (Outbound.offer_eq_ok hoffer).1

theorem Relay.type_of_frame {effect : Relay.Effect} {frame : Outbound}
    (h : effect.frame? = some frame) : frame.type = .socketData := by
  cases effect <;> cases h
  rfl

namespace Session

/-- The session has made its Registration, and has not ended. -/
def Point.isRegistered : Point → Bool
  | awaitingRegistration _ => true
  | opening _ => true
  | dispatching => true
  | _ => false

/-- The frames that a step has put into the queue. -/
def queued (before after : Session) : List Outbound :=
  after.outgoing.queue.drop before.outgoing.queue.length

/-- The registrar can be found, and the session is in its last phase, only while it dispatches. -/
structure Consistent (s : Session) : Prop where
  published : s.published = true → s.point = .dispatching
  phase : s.phase = .dispatching → s.point = .dispatching

structure Quiet (s s' : Session) : Prop where
  rules : s'.shared.rules = s.shared.rules
  frames : ∀ frame ∈ queued s s', frame.type ≠ .registration
  registered : s'.point.isRegistered = true → s.point.isRegistered = true
  published : s'.point.isRegistered = true → s'.published = false → s.published = false
  consistent : s.Consistent → s'.Consistent

/-- The step that registers the rules in force, under some keys. -/
structure Registers (s s' : Session) : Prop where
  rules : s'.shared.rules = s.shared.rules
  frames : ∃ resources : List Resource, resources.map (·.rule) = s.shared.rules ∧
    Envelope.fits (Registrar.frame resources).payload ∧ queued s s' = [Registrar.frame resources]
  unregistered : s.point.isRegistered = false
  registered : s'.point.isRegistered = true
  consistent : s.Consistent → s'.Consistent

theorem queued_of_queue_eq {s s' : Session} (h : s'.outgoing.queue = s.outgoing.queue) :
    queued s s' = [] := by
  rw [queued, h, List.drop_length]

theorem noneQueued {s s' : Session} (h : s'.outgoing.queue = s.outgoing.queue) :
    ∀ frame ∈ queued s s', frame.type ≠ .registration := by
  rw [queued_of_queue_eq h]
  simp

theorem queued_of_enqueue {s s' : Session} {frames : List Outbound}
    (h : s'.outgoing = s.outgoing.enqueue frames) :
    queued s s' = if s.outgoing.isOpen then frames else [] := by
  rw [queued, h, Outgoing.enqueue]
  split
  · exact List.drop_left
  · exact List.drop_length

theorem noneQueued_of_enqueue {s s' : Session} {frames : List Outbound}
    (h : s'.outgoing = s.outgoing.enqueue frames)
    (hframes : ∀ frame ∈ frames, frame.type ≠ .registration) :
    ∀ frame ∈ queued s s', frame.type ≠ .registration := by
  rw [queued_of_enqueue h]
  split
  · exact hframes
  · simp

theorem queued_of_write {s s' : Session} (h : s.outgoing.step = some s'.outgoing) :
    queued s s' = [] := by
  obtain ⟨k, hk⟩ := Outgoing.queue_of_step h
  rw [queued, hk, List.drop_drop, List.drop_eq_nil_iff]
  exact Nat.le_add_left _ _

/-- A step that changes neither the point nor the phase. -/
theorem quiet_of_same {s s' : Session} (hrules : s'.shared.rules = s.shared.rules)
    (hframes : ∀ frame ∈ queued s s', frame.type ≠ .registration) (hpoint : s'.point = s.point)
    (hpublished : s'.published = s.published) (hphase : s'.phase = s.phase) : Quiet s s' := by
  refine ⟨hrules, hframes, by rw [hpoint]; exact id, fun _ => hpublished.symm.trans,
    fun h => ⟨?_, ?_⟩⟩
  · rw [hpublished, hpoint]
    exact h.published
  · rw [hphase, hpoint]
    exact h.phase

theorem Consistent.unpublished {s : Session} (h : s.Consistent) (hpoint : s.point ≠ .dispatching) :
    s.published = false := by
  cases hp : s.published with
  | false => rfl
  | true => exact absurd (h.published hp) hpoint

theorem Consistent.early {s s' : Session} (h : s.Consistent) (hpoint : s.point ≠ .dispatching)
    (hpublished : s'.published = s.published)
    (hphase : s'.phase = .dispatching → s.phase = .dispatching) : s'.Consistent := by
  refine ⟨?_, fun hdispatching => absurd (h.phase (hphase hdispatching)) hpoint⟩
  rw [hpublished, h.unpublished hpoint]
  intro h
  cases h

/-- A step on the way to dispatching. -/
theorem quiet_of_early {s s' : Session} (hpoint : s.point ≠ .dispatching)
    (hrules : s'.shared.rules = s.shared.rules)
    (hframes : ∀ frame ∈ queued s s', frame.type ≠ .registration)
    (hregistered : s'.point.isRegistered = true → s.point.isRegistered = true)
    (hpublished : s'.published = s.published)
    (hphase : s'.phase = .dispatching → s.phase = .dispatching) : Quiet s s' :=
  ⟨hrules, hframes, hregistered, fun _ => hpublished.symm.trans,
    fun hs => hs.early hpoint hpublished hphase⟩

/-- A session that ends, from a form of itself that does not publish its registrar. -/
theorem quiet_conclude {s s' : Session} (fault : SessionFault)
    (hrules : s'.shared.rules = s.shared.rules)
    (hframes : ∀ frame ∈ queued s s', frame.type ≠ .registration)
    (hpublished : s.Consistent → s'.published = false) : Quiet s (s'.conclude fault) := by
  refine ⟨hrules, hframes, by simp [conclude, Point.isRegistered],
    by simp [conclude, Point.isRegistered], fun h => ⟨?_, ?_⟩⟩
  · intro hp
    rw [show (s'.conclude fault).published = s'.published from rfl, hpublished h] at hp
    cases hp
  · intro hphase
    simp only [conclude] at hphase
    split at hphase <;> cases hphase

theorem quiet_leave {s s' : Session} (fault : TransportFault)
    (hrules : s'.shared.rules = s.shared.rules)
    (hframes : ∀ frame ∈ queued s s', frame.type ≠ .registration) : Quiet s (s'.leave fault) :=
  quiet_conclude _ hrules hframes fun _ => rfl

theorem quiet_connect {s s' : Session} {outcome : Except TransportFault Unit}
    (h : s.connect outcome = some s') : Quiet s s' := by
  unfold connect at h
  split at h
  · rename_i hpoint
    cases h
    exact quiet_of_early (by simp [hpoint]) rfl (noneQueued rfl)
      (by simp [Point.isRegistered]) rfl (by simp)
  · rename_i hpoint
    cases h
    exact quiet_conclude _ rfl (noneQueued rfl) fun hs => hs.unpublished (by simp [hpoint])
  · cases h

theorem quiet_greet {s s' : Session} {rest : Bytes} (hpoint : s.point ≠ .dispatching)
    (h : s.greet rest = some s') : Quiet s s' := by
  unfold greet at h
  split at h
  · cases h
    exact quiet_of_early hpoint rfl (noneQueued rfl)
      (by simp [Point.isRegistered]) rfl (by simp)
  simp only at h
  split at h
  · cases h
    exact quiet_conclude _ rfl (noneQueued rfl) fun hs => hs.unpublished hpoint
  split at h
  · cases h
  · cases h
    exact quiet_of_early hpoint rfl (noneQueued rfl)
      (by simp [Point.isRegistered]) rfl id

/-- A request is queued, or it is refused and the session ends. -/
theorem request_cases (frame : Outbound) (next : Point) (s : Session) :
    ((s.send frame).1.isOk = true ∧ Envelope.fits frame.payload ∧
        queued s (s.request frame next) = [frame] ∧
        s.request frame next =
          { s with outgoing := s.outgoing.enqueue [frame], point := next }) ∨
      (s.send frame).1.isOk = false ∧ ∃ fault, s.request frame next = s.conclude fault := by
  by_cases hfits : Envelope.fits frame.payload
  · cases hopen : s.outgoing.isOpen with
    | true =>
      have hsend : s.send frame = (.ok (), { s with outgoing := s.outgoing.enqueue [frame] }) := by
        simp [send, Outgoing.send, Outbound.offer, hfits, hopen]
      have hrequest : s.request frame next =
          { s with outgoing := s.outgoing.enqueue [frame], point := next } := by
        rw [request, hsend]
      have hqueued : queued s (s.request frame next) = [frame] := by
        rw [queued_of_enqueue (show (s.request frame next).outgoing = _ by rw [hrequest]), hopen]
        rfl
      exact .inl ⟨by rw [hsend]; rfl, hfits, hqueued, hrequest⟩
    | false =>
      have hsend : s.send frame = (.error .writerClosed, s) := by
        simp [send, Outgoing.send, Outbound.offer, hfits, hopen]
      exact .inr ⟨by rw [hsend]; rfl, .ofTransport .writerClosed, by rw [request, hsend]⟩
  · have hsend : s.send frame = (.error (.frame (.payloadTooLarge frame.payload.length)), s) := by
      simp [send, Outgoing.send, Outbound.offer, hfits]
    exact .inr ⟨by rw [hsend]; rfl, .ofTransport _, by rw [request, hsend]⟩

theorem quiet_authorize {s : Session} (hpoint : s.point ≠ .dispatching) : Quiet s s.authorize := by
  rw [authorize]
  rcases request_cases (.ofMessage (.authorization s.settings.credentials)) .awaitingAuthorization s with
      ⟨-, -, hqueued, hrequest⟩ | ⟨-, fault, hrequest⟩
  · refine quiet_of_early hpoint (by rw [hrequest]) ?_ (by rw [hrequest]; intro h; cases h)
      (by rw [hrequest]) (by rw [hrequest]; exact id)
    rw [hqueued]
    intro frame hmem
    rw [List.mem_singleton.mp hmem]
    intro h
    cases h
  · rw [hrequest]
    exact quiet_conclude _ rfl (noneQueued rfl) fun hs => hs.unpublished hpoint

theorem register_cases {s s' : Session} {draws : List UInt64} (hpoint : s.point = .registering)
    (h : s.register draws = some s') : Registers s s' ∨ Quiet s s' := by
  have hother : s.point ≠ .dispatching := by simp [hpoint]
  unfold register at h
  split at h
  · cases h
  rename_i resources rest hkeys
  cases h
  rcases request_cases (Registrar.frame resources) (.awaitingRegistration resources) s with
      ⟨-, hfits, hqueued, hrequest⟩ | ⟨-, fault, hrequest⟩
  · refine .inl ⟨by rw [hrequest], ⟨resources, assignKeys_rules hkeys, hfits, hqueued⟩, ?_, ?_, ?_⟩
    · rw [hpoint]
      rfl
    · rw [hrequest]
      rfl
    · intro hs
      rw [hrequest]
      exact hs.early hother rfl id
  · rw [hrequest]
    exact .inr (quiet_conclude _ rfl (noneQueued rfl) fun hs => hs.unpublished hother)

/-- A wait ends with a frame or with a fault; only the reader has moved. -/
theorem await_cases {fail : TransportFault → Session → Session} {take : Frame → Session → Session}
    {s s' : Session} (h : s.await fail take = some s') :
    ∃ reader,
      (∃ fault, s.receive = some (.error fault, { s with reader }) ∧
        s' = fail fault { s with reader }) ∨
      ∃ frame, s.receive = some (.ok frame, { s with reader }) ∧
        s' = take frame { s with reader } := by
  unfold await at h
  split at h
  · cases h
  all_goals
    rename_i hreceive
    have hreader := hreceive
    unfold receive at hreader
    split at hreader <;> cases hreader
    cases h
  · exact ⟨_, .inl ⟨_, hreceive, rfl⟩⟩
  · exact ⟨_, .inr ⟨_, hreceive, rfl⟩⟩

theorem quiet_takeAuthorization {s s' : Session} {frame : Frame} {reader : Reader}
    (hpoint : s.point ≠ .dispatching) (h : s' = takeAuthorization frame { s with reader }) :
    Quiet s s' := by
  subst h
  unfold takeAuthorization
  split
  · exact quiet_conclude _ rfl (noneQueued rfl) fun hs => hs.unpublished hpoint
  · exact quiet_of_early hpoint rfl (noneQueued rfl)
      (by simp [Point.isRegistered]) rfl (by simp)

theorem quiet_takeRegistration {s s' : Session} {frame : Frame} {reader : Reader}
    {resources : List Resource} (hpoint : s.point = .awaitingRegistration resources)
    (h : s' = takeRegistration resources frame { s with reader }) : Quiet s s' := by
  have hother : s.point ≠ .dispatching := by simp [hpoint]
  subst h
  unfold takeRegistration
  split
  · exact quiet_conclude _ rfl (noneQueued rfl) fun hs => hs.unpublished hother
  · exact quiet_of_early hother rfl (noneQueued rfl) (fun _ => by rw [hpoint]; rfl) rfl (by simp)

/-- What a handler may do to the session: its point, its phase and its registrar's publication
stay as they are, it queues no Registration, and it does not set the health cadence. -/
structure Handled (s s' : Session) : Prop where
  rules : s'.shared.rules = s.shared.rules
  frames : ∀ frame ∈ queued s s', frame.type ≠ .registration
  point : s'.point = s.point
  published : s'.published = s.published
  phase : s'.phase = s.phase
  reachedDispatching : s'.reachedDispatching = s.reachedDispatching
  config : s'.monitor.config = s.monitor.config

theorem handled_ping (frame : Frame) (s : Session) : Handled s (handlePing frame s).2 := by
  have hconfig := s.monitor.config_of_handleRequest s.writerOpen frame.payload
  unfold handlePing
  split <;> rename_i hreply <;> rw [hreply] at hconfig
  · refine ⟨rfl, noneQueued_of_enqueue rfl ?_, rfl, rfl, rfl, rfl, hconfig⟩
    intro out hmem
    rw [List.mem_singleton.mp hmem, HealthMonitor.type_of_handleRequest hreply]
    intro h
    cases h
  · exact ⟨rfl, noneQueued rfl, rfl, rfl, rfl, rfl, hconfig⟩

theorem handled_pong (frame : Frame) (s : Session) : Handled s (handlePong frame s).2 :=
  ⟨rfl, noneQueued rfl, rfl, rfl, rfl, rfl, s.monitor.config_of_handleResponse frame.payload⟩

theorem handled_socketData (frame : Frame) (s : Session) :
    Handled s (handleSocketData frame s).2 := by
  unfold handleSocketData
  split <;> exact ⟨rfl, noneQueued rfl, rfl, rfl, rfl, rfl, rfl⟩

/-- A frame is handled by the handler of its type, if there is one. -/
theorem state_of_dispatch {P : Session → Prop} {frame : Frame} {s : Session}
    (hnone : handlers.find? frame.type = none → P s)
    (hsome : ∀ handler, handlers.find? frame.type = some handler → P (handler frame s).2) :
    P (handlers.dispatch frame s).2 := by
  unfold Dispatch.Table.dispatch
  split
  · exact hnone ‹_›
  · rename_i handler hfind
    have hstate := hsome handler hfind
    split <;> rename_i heq <;> rw [heq] at hstate <;> exact hstate

theorem handled_dispatch (frame : Frame) (s : Session) :
    Handled s (handlers.dispatch frame s).2 := by
  refine state_of_dispatch (fun _ => ⟨rfl, noneQueued rfl, rfl, rfl, rfl, rfl, rfl⟩) ?_
  intro handler hfind
  cases htype : frame.type <;> rw [htype] at hfind <;> cases hfind
  · exact ⟨rfl, noneQueued rfl, rfl, rfl, rfl, rfl, rfl⟩
  · exact handled_ping frame s
  · exact handled_pong frame s
  · exact handled_socketData frame s

theorem quiet_dispatch {s s' : Session} {frame : Frame} {reader : Reader}
    (h : s' = dispatch frame { s with reader }) : Quiet s s' := by
  have hhandled := handled_dispatch frame { s with reader }
  subst h
  unfold dispatch
  split
  · rename_i t hdispatch
    rw [hdispatch] at hhandled
    exact quiet_of_same hhandled.rules hhandled.frames hhandled.point hhandled.published hhandled.phase
  · rename_i fault t hdispatch
    rw [hdispatch] at hhandled
    exact quiet_leave fault hhandled.rules hhandled.frames

theorem quiet_openTunnel (health : HealthConfig) (nonce : UInt64) {s : Session}
    (hpoint : s.point = .opening health) : Quiet s (s.openTunnel health nonce) :=
  ⟨rfl, noneQueued rfl, fun _ => by rw [hpoint]; rfl, by simp [openTunnel],
    fun _ => ⟨fun _ => rfl, fun _ => rfl⟩⟩

theorem main_cases {s s' : Session} {draws : List UInt64} {nonce : UInt64}
    (h : s.main draws nonce = some s') : Registers s s' ∨ Quiet s s' := by
  cases hpoint : s.point with
  | connecting =>
    simp only [main, hpoint] at h
    cases h
  | greeting rest =>
    simp only [main, hpoint] at h
    exact .inr (quiet_greet (by simp [hpoint]) h)
  | authorizing =>
    simp only [main, hpoint] at h
    cases h
    exact .inr (quiet_authorize (by simp [hpoint]))
  | awaitingAuthorization =>
    simp only [main, hpoint] at h
    have hother : s.point ≠ .dispatching := by simp [hpoint]
    obtain ⟨reader, ⟨fault, -, rfl⟩ | ⟨frame, -, hframe⟩⟩ := await_cases h
    · exact .inr (quiet_conclude _ rfl (noneQueued rfl) fun hs => hs.unpublished hother)
    · exact .inr (quiet_takeAuthorization hother hframe)
  | registering =>
    simp only [main, hpoint] at h
    exact register_cases hpoint h
  | awaitingRegistration resources =>
    simp only [main, hpoint] at h
    have hother : s.point ≠ .dispatching := by simp [hpoint]
    obtain ⟨reader, ⟨fault, -, rfl⟩ | ⟨frame, -, hframe⟩⟩ := await_cases h
    · exact .inr (quiet_conclude _ rfl (noneQueued rfl) fun hs => hs.unpublished hother)
    · exact .inr (quiet_takeRegistration hpoint hframe)
  | opening health =>
    simp only [main, hpoint] at h
    cases h
    exact .inr (quiet_openTunnel _ nonce hpoint)
  | dispatching =>
    simp only [main, hpoint] at h
    obtain ⟨reader, ⟨fault, -, rfl⟩ | ⟨frame, -, hframe⟩⟩ := await_cases h
    · exact .inr (quiet_leave fault rfl (noneQueued rfl))
    · exact .inr (quiet_dispatch hframe)
  | ended result =>
    simp only [main, hpoint] at h
    cases h

theorem quiet_tick {s s' : Session} (h : s.tick = some s') : Quiet s s' := by
  obtain ⟨t, -, -, ⟨frame, monitor, htick, rfl⟩ | ⟨monitor, -, rfl⟩ | ⟨monitor, -, rfl⟩⟩ :=
    tick_cases h
  · refine quiet_of_same rfl (noneQueued_of_enqueue rfl ?_) rfl rfl rfl
    intro frame hmem
    rw [List.mem_singleton.mp hmem, HealthMonitor.frame_of_tick htick]
    intro h
    cases h
  · exact quiet_of_same rfl (noneQueued rfl) rfl rfl rfl
  · exact quiet_of_same rfl (noneQueued rfl) rfl rfl rfl

theorem quiet_relayStep {s s' : Session} {action : Relay.Action}
    (h : s.relayStep action = some s') : Quiet s s' := by
  unfold relayStep at h
  split at h
  · cases h
  rename_i relay effects _
  cases h
  refine quiet_of_same rfl (noneQueued_of_enqueue rfl ?_) rfl rfl rfl
  intro frame hmem
  obtain ⟨effect, -, hframe⟩ := List.mem_filterMap.mp hmem
  rw [Relay.type_of_frame hframe]
  intro h
  cases h

theorem quiet_write {s s' : Session} (h : s.write = some s') : Quiet s s' := by
  unfold write at h
  split at h
  · obtain ⟨outgoing, hstep, rfl⟩ := Option.map_eq_some_iff.mp h
    refine quiet_of_same rfl ?_ rfl rfl rfl
    rw [queued_of_write hstep]
    simp
  · cases h

theorem quiet_watch {s s' : Session} (h : s.watch = some s') : Quiet s s' := by
  unfold watch at h
  split at h <;> cases h
  exact quiet_of_same rfl (noneQueued rfl) rfl rfl rfl

/-- A session's own steps are quiet, except the one that registers. -/
theorem step_cases {s s' : Session} {action : Action} (hset : ∀ rules, action ≠ .setRules rules)
    (hcall : ∀ rules draws, action ≠ .reregister rules draws) (h : s.step action = some s') :
    Registers s s' ∨ Quiet s s' := by
  cases action with
  | connect outcome => exact .inr (quiet_connect h)
  | main draws nonce => exact main_cases h
  | write => exact .inr (quiet_write h)
  | watch => exact .inr (quiet_watch h)
  | tick => exact .inr (quiet_tick h)
  | relay action =>
    rw [step] at h
    split at h
    · exact .inr (quiet_relayStep h)
    · cases h
  | advance now =>
    rw [step] at h
    split at h <;> cases h
    exact .inr (quiet_of_same rfl (noneQueued rfl) rfl rfl rfl)
  | deliver bytes => cases h; exact .inr (quiet_of_same rfl (noneQueued rfl) rfl rfl rfl)
  | gatewayEnds finish => cases h; exact .inr (quiet_of_same rfl (noneQueued rfl) rfl rfl rfl)
  | gatewayReads count => cases h; exact .inr (quiet_of_same rfl (noneQueued rfl) rfl rfl rfl)
  | gatewayGone => cases h; exact .inr (quiet_of_same rfl (noneQueued rfl) rfl rfl rfl)
  | shutdown => cases h; exact .inr (quiet_of_same rfl (noneQueued rfl) rfl rfl rfl)
  | setRules rules => exact absurd rfl (hset rules)
  | reregister rules draws => exact absurd rfl (hcall rules draws)

/-- A step that is no call registers the rules in force, or queues no Registration. -/
theorem registers_or_none {s s' : Session} {action : Action}
    (hcall : ∀ rules draws, action ≠ .reregister rules draws) (h : s.step action = some s') :
    Registers s s' ∨ ∀ frame ∈ queued s s', frame.type ≠ .registration := by
  by_cases hset : ∃ rules, action = .setRules rules
  · obtain ⟨rules, rfl⟩ := hset
    cases h
    exact .inr (noneQueued rfl)
  · exact (step_cases (fun rules hrules => hset ⟨rules, hrules⟩) hcall h).imp_right (·.frames)

/-- Only a call registers beside the main task. -/
theorem noneQueued_beside {s s' : Session} {action : Action} (hmain : action.isMain = false)
    (hcall : ∀ rules draws, action ≠ .reregister rules draws) (h : s.step action = some s') :
    ∀ frame ∈ queued s s', frame.type ≠ .registration := by
  rcases registers_or_none hcall h with hregisters | hnone
  · have hchange := hregisters.registered
    rw [(beside_of_step hmain h).point, hregisters.unregistered] at hchange
    cases hchange
  · exact hnone

/-- A call queues the Registration of a manifest that waits for its reply behind the others, or it
is refused and nothing has happened. -/
theorem reregister_cases {s s' : Session} {rules : List Rule} {draws : List UInt64}
    {result : Except TransportFault Unit} (h : s.reregister rules draws = some (result, s')) :
    (result = .ok () ∧ ∃ resources : List Resource, resources.map (·.rule) = rules ∧
        Envelope.fits (Registrar.frame resources).payload ∧
        queued s s' = [Registrar.frame resources] ∧
        s' = { s with
          registrar := { pending := s.registrar.pending ++ [resources] }
          outgoing := s.outgoing.enqueue [Registrar.frame resources] }) ∨
      (∃ fault, result = .error fault) ∧ s' = s := by
  unfold reregister at h
  split at h
  case isFalse => cases h
  split at h
  · cases h
  rename_i resources rest hkeys
  split at h <;> rename_i hregister <;> cases h
  · unfold Registrar.register at hregister
    split at hregister <;> cases hregister
    rename_i hoffer
    obtain ⟨rfl, hfits, hopen⟩ := Outbound.offer_eq_ok hoffer
    refine .inl ⟨rfl, resources, assignKeys_rules hkeys, hfits, ?_, rfl⟩
    rw [queued_of_enqueue rfl, if_pos (show s.outgoing.isOpen = true from hopen)]
  · unfold Registrar.register at hregister
    split at hregister <;> cases hregister
    exact .inr ⟨⟨_, rfl⟩, rfl⟩

end Session

end TunnelAgent
