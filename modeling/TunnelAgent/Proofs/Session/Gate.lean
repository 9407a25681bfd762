import TunnelAgent.Agent
import TunnelAgent.Proofs.Health.Window
import TunnelAgent.Proofs.Session.Closing
import TunnelAgent.Proofs.Session.Favour
import TunnelAgent.Proofs.Session.History

/-! # The way to dispatching

A session comes to dispatch through one gate: the gateway's first two frames are in its favour, and
nothing has hindered it before the second one is taken. The invariant follows the points of the
main task. Up to the gate the gateway's stream is what has been taken off it and what is left of
it; past the gate the favour is won for good; and a session that has ended before it can never be
said to have been favoured without having been hindered. -/

namespace TunnelAgent

namespace Session
open Envelope

/-- A session on the way, with `taken` read of the gateway's stream. -/
structure Early (c : Config) (shared : Shared) (phase : Phase) (taken : Bytes) (expected : UInt64)
    (own : Option Outbound) (s : Session) (h : History) : Prop where
  settings : s.settings = Agent.sessionSettings c
  access : s.shared.access = shared.access
  unreached : s.reachedDispatching = false
  unpublished : s.published = false
  inPhase : s.phase = phase
  early : phase.isEarly = true
  visited : h.visited = phase.way
  expected : s.reader.decoder.expected = expected
  stream : h.stream = taken ++ s.reader.source.bytes
  ended : s.reader.source.finish ≠ .pending → h.ended = true
  own : h.registration? = own
  hindered : h.hindered = s.outgoing.closed

/-- The gateway's favour is won: nothing can take it back. -/
structure Won (reply : RegistrationResponse) (s : Session) (h : History) : Prop where
  unhindered : h.hindered = false
  favoured : Favours h.stream reply
  late : s.phase.isEarly = false

/-- The session has been hindered, or the gateway has not been and will not be in its favour. -/
def Barred (h : History) : Prop :=
  h.hindered = true ∨
    ∀ more reply, (h.ended = true → more = []) → ¬ Favours (h.stream ++ more) reply

/-- How a session and its record agree, point by point. -/
inductive Tracks (c : Config) (shared : Shared) (s : Session) (h : History) : Prop
  | greeting {rest : Bytes} : s.point = .greeting rest →
      Early c shared .connected [] 0 none s h → Tracks c shared s h
  | greeted : s.point = .authorizing ∨ s.point = .awaitingAuthorization →
      Early c shared .greeted [] 0 none s h → Tracks c shared s h
  | registering {p : Bytes} : s.point = .registering → fits p → Admits p →
      Early c shared .authorized (encode 0 .authorizationResponse p) 1 none s h → Tracks c shared s h
  | registered {p : Bytes} {resources : List Resource} : s.point = .awaitingRegistration resources →
      fits p → Admits p → fits (Registrar.frame resources).payload →
      Early c shared .authorized (encode 0 .authorizationResponse p) 1
        (some (Registrar.frame resources)) s h → Tracks c shared s h
  | opening {reply : RegistrationResponse} {resources : List Resource} :
      s.point = .opening (healthConfig c.healthConfig reply.healthCheck) → s.phase = .registered →
      s.reachedDispatching = false → h.visited = Phase.registered.way → Won reply s h →
      h.registration? = some (Registrar.frame resources) →
      fits (Registrar.frame resources).payload → s.shared.access = .ofResources resources →
      Tracks c shared s h
  | dispatching {reply : RegistrationResponse} :
      s.point = .dispatching → s.phase = .dispatching → s.reachedDispatching = true →
      h.visited = Phase.dispatching.way → Won reply s h →
      s.monitor.config = healthConfig c.healthConfig reply.healthCheck → Tracks c shared s h
  | barred {phase : Phase} {result : Except SessionFault Unit} :
      s.point = .ended result → s.phase = .ending result → phase.isEarly = true →
      h.visited = phase.way ++ [.ending result] → s.reachedDispatching = false →
      s.shared.access = shared.access → Barred h → Tracks c shared s h
  | left {reply : RegistrationResponse} {result : Except SessionFault Unit} :
      s.point = .ended result → s.phase = .ending result → s.reachedDispatching = true →
      h.visited = Phase.dispatching.way ++ [.ending result] → Won reply s h →
      s.monitor.config = healthConfig c.healthConfig reply.healthCheck → Tracks c shared s h

variable {c : Config} {shared : Shared} {s s' : Session} {h : History} {action : Action}
  {phase : Phase} {taken : Bytes} {expected : UInt64} {own : Option Outbound}

/-! ## What goes on beside the main task -/

theorem Early.beside (hearly : Early c shared phase taken expected own s h)
    (hmain : action.isMain = false) (hstep : s.step action = some s') :
    Early c shared phase taken expected own s' (h.record action s s') := by
  have hbeside := beside_of_step hmain hstep
  have hnone := noneQueued_of_beside hmain hstep hearly.unpublished
  refine ⟨hbeside.settings.trans hearly.settings, hbeside.access.trans hearly.access,
    hbeside.reachedDispatching.trans hearly.unreached, hbeside.published.trans hearly.unpublished,
    hbeside.phase.trans hearly.inPhase, hearly.early, ?_, hbeside.decoder ▸ hearly.expected, ?_,
    fun hfinish => ?_, (registration?_of_none hnone).trans hearly.own, ?_⟩
  · rw [History.record, if_pos hbeside.phase]
    exact hearly.visited
  · rw [History.record, hearly.stream, hbeside.bytes, List.append_assoc]
  · cases hends : action.endsStream with
    | true => simp [History.record, hends]
    | false =>
      rw [hbeside.finish hends] at hfinish
      simp [History.record, hearly.ended hfinish]
  · rw [History.record, refuses_of_beside hmain, hearly.hindered, hbeside.phase, hearly.inPhase,
      hearly.early]
    cases hclosed : s.outgoing.closed with
    | true => rw [hbeside.closed hclosed]; rfl
    | false => simp

theorem Won.record {reply : RegistrationResponse} (hwon : Won reply s h)
    (hlate : s'.phase.isEarly = false) (hrefuses : refuses action s = false) :
    Won reply s' (h.record action s s') := by
  refine ⟨?_, hwon.favoured.append action.bytes, hlate⟩
  rw [History.record, hwon.unhindered, hlate, hrefuses]
  rfl

theorem Barred.record (hbarred : Barred h) (hend : h.ended = true → action.bytes = []) :
    Barred (h.record action s s') := by
  rcases hbarred with hhindered | hnever
  · left
    rw [History.record, hhindered]
    rfl
  · right
    intro more reply hmore hfavours
    refine hnever (action.bytes ++ more) reply (fun hended => ?_) ?_
    · rw [hend hended, hmore (by simp [History.record, hended])]
      rfl
    · rwa [← List.append_assoc]

theorem Tracks.beside (htracks : Tracks c shared s h) (hmain : action.isMain = false)
    (hstep : s.step action = some s') (hend : h.ended = true → action.bytes = []) :
    Tracks c shared s' (h.record action s s') := by
  have hbeside := beside_of_step hmain hstep
  have hrefuses := refuses_of_beside hmain s
  have hphase := hbeside.phase
  have hvisited : (h.record action s s').visited = h.visited := visited_of_same hphase
  cases htracks with
  | greeting hpoint hearly => exact .greeting (hbeside.point.trans hpoint) (hearly.beside hmain hstep)
  | greeted hpoint hearly => exact .greeted (hbeside.point ▸ hpoint) (hearly.beside hmain hstep)
  | registering hpoint hfits hadmits hearly =>
    exact .registering (hbeside.point.trans hpoint) hfits hadmits (hearly.beside hmain hstep)
  | registered hpoint hfits hadmits hown hearly =>
    exact .registered (hbeside.point.trans hpoint) hfits hadmits hown (hearly.beside hmain hstep)
  | opening hpoint hat hreached hway hwon hown hfits haccess =>
    exact .opening (hbeside.point.trans hpoint) (hphase.trans hat)
      (hbeside.reachedDispatching.trans hreached) (hvisited.trans hway)
      (hwon.record (hphase ▸ hwon.late) hrefuses) (registration?_of_some hown) hfits
      (hbeside.access.trans haccess)
  | dispatching hpoint hat hreached hway hwon hconfig =>
    exact .dispatching (hbeside.point.trans hpoint) (hphase.trans hat)
      (hbeside.reachedDispatching.trans hreached) (hvisited.trans hway)
      (hwon.record (hphase ▸ hwon.late) hrefuses) (hbeside.config.trans hconfig)
  | barred hpoint hat hearly hway hreached haccess hbarred =>
    exact .barred (hbeside.point.trans hpoint) (hphase.trans hat) hearly (hvisited.trans hway)
      (hbeside.reachedDispatching.trans hreached) (hbeside.access.trans haccess)
      (hbarred.record hend)
  | left hpoint hat hreached hway hwon hconfig =>
    exact .left (hbeside.point.trans hpoint) (hphase.trans hat)
      (hbeside.reachedDispatching.trans hreached) (hvisited.trans hway)
      (hwon.record (hphase ▸ hwon.late) hrefuses) (hbeside.config.trans hconfig)

/-! ## The main task -/

/-- A session that ends before the gate, once it is clear that it could not have come through. -/
theorem Early.conclude (hearly : Early c shared phase taken expected own s h) (reader : Reader)
    (fault : SessionFault) (hbarred : Barred (h.record action s ({ s with reader }.conclude fault))) :
    Tracks c shared ({ s with reader }.conclude fault)
      (h.record action s ({ s with reader }.conclude fault)) := by
  obtain ⟨result, hpoint, hphase⟩ := conclude_ending fault { s with reader }
  refine .barred hpoint hphase hearly.early ?_ hearly.unreached hearly.access hbarred
  rw [visited_of_ne, hphase, hearly.visited]
  rw [hphase, hearly.inPhase]
  exact ending_ne_of_early hearly.early result

theorem Early.own_of_queue (hearly : Early c shared phase taken expected own s h)
    (hqueue : s'.outgoing.queue = s.outgoing.queue) : (h.record action s s').registration? = own :=
  (registration?_of_none (noneQueued hqueue)).trans hearly.own

/-- A step of the main task before the gate. -/
theorem Early.advance (hearly : Early c shared phase taken expected own s h) {draws : List UInt64}
    {nonce : UInt64} {outgoing : Outgoing} {reader : Reader} {phase' next : Phase} {point : Point}
    {taken' : Bytes} {expected' : UInt64} {own' : Option Outbound}
    (hrefuses : refuses (.main draws nonce) s = false)
    (hclosed : outgoing.closed = s.outgoing.closed)
    (hfinish : reader.source.finish = s.reader.source.finish)
    (hnext : phase' = next) (hway : next.way = if next = phase then phase.way else phase.way ++ [next])
    (hlater : next.isEarly = true) (hexpected : reader.decoder.expected = expected')
    (hstream : taken ++ s.reader.source.bytes = taken' ++ reader.source.bytes)
    (hown : (h.record (.main draws nonce) s
      { s with outgoing, reader, phase := phase', point }).registration? = own') :
    Early c shared next taken' expected' own' { s with outgoing, reader, phase := phase', point }
      (h.record (.main draws nonce) s { s with outgoing, reader, phase := phase', point }) := by
  subst hnext
  refine ⟨hearly.settings, hearly.access, hearly.unreached, hearly.unpublished, rfl, hlater, ?_,
    hexpected, ?_, fun hnot => ?_, hown, ?_⟩
  · rw [hway, History.record, hearly.inPhase, hearly.visited]
  · rw [History.record, hearly.stream]
    exact (List.append_nil _).trans hstream
  · rw [History.record, hearly.ended (hfinish ▸ hnot)]
    rfl
  · rw [History.record, hrefuses, hlater, hearly.hindered, hclosed]
    cases s.outgoing.closed <;> rfl

variable {draws : List UInt64} {nonce : UInt64}

theorem tracks_greet {rest : Bytes} (hpoint : s.point = .greeting rest)
    (hearly : Early c shared .connected [] 0 none s h) (hstep : s.greet rest = some s') :
    Tracks c shared s' (h.record (.main draws nonce) s s') := by
  unfold greet at hstep
  by_cases hrest : rest = []
  · rw [if_pos hrest] at hstep
    cases hstep
    have hrefuses : refuses (.main draws nonce) s = false := by simp [refuses, hpoint, hrest]
    exact .greeted (.inl rfl)
      (hearly.advance hrefuses rfl rfl rfl rfl rfl hearly.expected rfl
        (hearly.own_of_queue rfl))
  rw [if_neg hrest] at hstep
  by_cases hgone : s.outgoing.pipe.readerGone = true
  · simp only [hgone, if_true] at hstep
    cases hstep
    refine hearly.conclude s.reader _ (.inl ?_)
    simp [History.record, refuses, hpoint, hrest, hgone]
  rw [Bool.not_eq_true] at hgone
  simp only [hgone, Bool.false_eq_true, if_false] at hstep
  by_cases hroom : s.outgoing.pipe.room = 0
  · rw [if_pos hroom] at hstep
    cases hstep
  rw [if_neg hroom] at hstep
  cases hstep
  have hrefuses : refuses (.main draws nonce) s = false := by simp [refuses, hpoint, hgone]
  exact .greeting rfl
    (hearly.advance hrefuses rfl rfl hearly.inPhase rfl rfl hearly.expected rfl
      (hearly.own_of_queue rfl))

theorem tracks_authorize (hpoint : s.point = .authorizing)
    (hearly : Early c shared .greeted [] 0 none s h) :
    Tracks c shared s.authorize (h.record (.main draws nonce) s s.authorize) := by
  rw [authorize]
  rcases request_cases (.ofMessage (.authorization s.settings.credentials)) .awaitingAuthorization s
    with ⟨hok, -, hqueued, hrequest⟩ | ⟨hrefused, fault, hrequest⟩
  · have hrefuses : refuses (.main draws nonce) s = false := by simp [refuses, hpoint, hok]
    have hnone : ∀ frame ∈ queued s (s.request (.ofMessage (.authorization s.settings.credentials))
        .awaitingAuthorization), frame.type ≠ .registration := by
      rw [hqueued]
      intro frame hframe
      rw [List.mem_singleton.mp hframe]
      intro htype
      cases htype
    have hown : (h.record (.main draws nonce) s (s.request
        (.ofMessage (.authorization s.settings.credentials)) .awaitingAuthorization)).registration? =
        none := (registration?_of_none hnone).trans hearly.own
    rw [hrequest] at hown ⊢
    exact .greeted (.inr rfl) (hearly.advance hrefuses (Outgoing.closed_of_enqueue _ _) rfl
      hearly.inPhase rfl rfl hearly.expected rfl hown)
  · rw [hrequest]
    refine hearly.conclude s.reader fault (.inl ?_)
    simp [History.record, refuses, hpoint, hrefused]

theorem tracks_register {p : Bytes} (hpoint : s.point = .registering) (hfits : fits p)
    (hadmits : Admits p)
    (hearly : Early c shared .authorized (encode 0 .authorizationResponse p) 1 none s h)
    (hstep : s.register draws = some s') : Tracks c shared s' (h.record (.main draws nonce) s s') := by
  unfold register at hstep
  cases hkeys : assignKeys s.shared.rules draws with
  | none =>
    rw [hkeys] at hstep
    cases hstep
  | some keyed =>
    obtain ⟨resources, rest⟩ := keyed
    rw [hkeys] at hstep
    cases hstep
    rcases request_cases (Registrar.frame resources) (.awaitingRegistration resources) s with
      ⟨hok, hframe, hqueued, hrequest⟩ | ⟨hrefused, fault, hrequest⟩
    · have hrefuses : refuses (.main draws nonce) s = false := by simp [refuses, hpoint, hkeys, hok]
      have hown : (h.record (.main draws nonce) s (s.request (Registrar.frame resources)
          (.awaitingRegistration resources))).registration? = some (Registrar.frame resources) := by
        have hnone := hearly.own
        rw [History.registration?] at hnone
        rw [History.registration?, History.record, List.find?_append, hnone, hqueued]
        rfl
      rw [hrequest] at hown ⊢
      exact .registered rfl hfits hadmits hframe (hearly.advance hrefuses
        (Outgoing.closed_of_enqueue _ _) rfl hearly.inPhase rfl rfl hearly.expected rfl hown)
    · rw [hrequest]
      refine hearly.conclude s.reader fault (.inl ?_)
      simp [History.record, refuses, hpoint, hkeys, hrefused]

/-- A stream in the agent's favour goes on with a good frame. -/
def Wants (good : FrameType → Bytes → Prop) (s : Session) (h : History) : Prop :=
  ∀ more reply, Favours (h.stream ++ more) reply → ∃ type payload rest,
    s.reader.source.bytes ++ more = encode s.reader.decoder.expected type payload ++ rest ∧
      fits payload ∧ good type payload

section

variable {good : FrameType → Bytes → Prop}

theorem Early.wants_authorization (hearly : Early c shared phase [] 0 own s h) :
    Wants (fun type payload => type = .authorizationResponse ∧ Admits payload) s h := by
  intro more reply hfavours
  obtain ⟨p, q, rest, hbytes, hfits, -, hadmits, -⟩ := favours_iff.mp hfavours
  refine ⟨.authorizationResponse, p, encode 1 .registrationResponse q ++ rest, ?_, hfits, rfl,
    hadmits⟩
  rw [hearly.stream] at hbytes
  rw [hearly.expected]
  exact hbytes

theorem Early.wants_registration {p : Bytes} (hfits : fits p)
    (hearly : Early c shared phase (encode 0 .authorizationResponse p) 1 own s h) :
    Wants (fun type payload => type = .registrationResponse ∧ ∃ reply, Accepts payload reply) s h := by
  intro more reply hfavours
  obtain ⟨p', q, rest, hbytes, hfits', hqfits, -, haccepts⟩ := favours_iff.mp hfavours
  rw [hearly.stream, List.append_assoc] at hbytes
  obtain ⟨-, -, hrest⟩ := encode_append_inj hfits hfits' hbytes
  refine ⟨.registrationResponse, q, rest, ?_, hqfits, rfl, reply, haccepts⟩
  rw [hearly.expected]
  exact hrest

/-- What cannot be read now has no good frame in it, whatever comes after. -/
theorem Early.never_of_fault (hearly : Early c shared phase taken expected own s h)
    (hwants : Wants good s h) {fault : FrameFault} {d : Decoder} {u : Source}
    (hread : s.reader.decoder.readFrame s.reader.source = (.fault fault, d, u)) :
    ∀ more reply, (h.ended = true → more = []) → ¬ Favours (h.stream ++ more) reply := by
  intro more reply hmore hfavours
  obtain ⟨type, payload, rest, hbytes, hfits, -⟩ := hwants more reply hfavours
  by_cases hfinish : s.reader.source.finish = .pending
  · exact Decoder.not_envelope_of_fault hread hfinish hfits hbytes
  · rw [hmore (hearly.ended hfinish), List.append_nil] at hbytes
    obtain ⟨u', hframe, -⟩ := Decoder.readFrame_of_envelope hbytes hfits
    rw [hread] at hframe
    cases hframe

/-- The frame that is there is the one that had to be good. -/
theorem never_of_frame (hwants : Wants good s h) {frame : Frame} {d : Decoder} {u : Source}
    (hread : s.reader.decoder.readFrame s.reader.source = (.frame frame, d, u))
    (hbad : ¬ good frame.type frame.payload) :
    ∀ more reply, (h.ended = true → more = []) → ¬ Favours (h.stream ++ more) reply := by
  intro more reply _ hfavours
  obtain ⟨type, payload, rest, hbytes, hfits, hgood⟩ := hwants more reply hfavours
  obtain ⟨hframe, -, -, -, hfront⟩ := Decoder.envelope_of_readFrame hread
  rw [hfront, List.append_assoc] at hbytes
  obtain ⟨htype, hpayload, -⟩ := encode_append_inj hframe hfits hbytes
  rw [htype, hpayload] at hbad
  exact hbad hgood

/-- Before the gate a wait ends the session, or takes the next frame of an open transport. -/
theorem Early.await (hearly : Early c shared phase taken expected own s h) (hwants : Wants good s h)
    {take : Frame → Session → Session}
    (hstep : s.await (fun e t => t.conclude (.ofTransport e)) take = some s') :
    Tracks c shared s' (h.record (.main draws nonce) s s') ∨
      ∃ frame reader, s.outgoing.closed = false ∧
        s.reader.decoder.readFrame s.reader.source = (.frame frame, reader.decoder, reader.source) ∧
        s' = take frame { s with reader } := by
  unfold Session.await at hstep
  rcases receive_cases s with ⟨hclosed, hreceive⟩ |
      ⟨hopen, ⟨d, u, hread, hreceive⟩ | ⟨fault, d, u, hread, hreceive⟩ | ⟨frame, d, u, hread, hreceive⟩⟩ <;>
    rw [hreceive] at hstep <;> cases hstep
  · left
    refine hearly.conclude s.reader _ (.inl ?_)
    rw [History.record, hearly.hindered, hclosed]
    rfl
  · left
    exact hearly.conclude _ _
      (Barred.record (.inr (hearly.never_of_fault hwants hread)) fun _ => rfl)
  · right
    exact ⟨frame, _, hopen, hread, rfl⟩

end

theorem tracks_awaitAuthorization (hpoint : s.point = .awaitingAuthorization)
    (hearly : Early c shared .greeted [] 0 none s h)
    (hstep : s.await (fun e t => t.conclude (.ofTransport e)) takeAuthorization = some s') :
    Tracks c shared s' (h.record (.main draws nonce) s s') := by
  have hwants := hearly.wants_authorization
  obtain hover | ⟨frame, reader, hopen, hread, rfl⟩ := hearly.await hwants hstep
  · exact hover
  obtain ⟨hfits, -, hdecoder, hfinish, hbytes⟩ := Decoder.envelope_of_readFrame hread
  rw [hearly.expected] at hdecoder hbytes
  unfold takeAuthorization
  cases hcheck : checkAuthorization frame with
  | error text =>
    refine hearly.conclude _ _ (Barred.record (.inr (never_of_frame hwants hread ?_)) fun _ => rfl)
    rw [← checkAuthorization_eq_ok_iff, hcheck]
    exact nofun
  | ok _ =>
    obtain ⟨htype, hadmits⟩ := checkAuthorization_eq_ok_iff.mp hcheck
    have hrefuses : refuses (.main draws nonce) s = false := by simp [refuses, hpoint]
    refine .registering rfl hfits hadmits (hearly.advance hrefuses rfl hfinish rfl rfl rfl
      (by rw [hdecoder]; rfl) ?_ (hearly.own_of_queue rfl))
    rw [List.nil_append, hbytes, htype]

theorem tracks_awaitRegistration {p : Bytes} {resources : List Resource}
    (hpoint : s.point = .awaitingRegistration resources) (hfits : fits p) (hadmits : Admits p)
    (hframe : fits (Registrar.frame resources).payload)
    (hearly : Early c shared .authorized (encode 0 .authorizationResponse p) 1
      (some (Registrar.frame resources)) s h)
    (hstep : s.await (fun e t => t.conclude (.ofTransport e)) (takeRegistration resources) = some s') :
    Tracks c shared s' (h.record (.main draws nonce) s s') := by
  have hwants := hearly.wants_registration hfits
  obtain hover | ⟨frame, reader, hopen, hread, rfl⟩ := hearly.await hwants hstep
  · exact hover
  obtain ⟨hqfits, -, hdecoder, hfinish, hbytes⟩ := Decoder.envelope_of_readFrame hread
  rw [hearly.expected] at hbytes
  unfold takeRegistration
  cases hcheck : checkRegistration frame with
  | error text =>
    refine hearly.conclude _ _ (Barred.record (.inr (never_of_frame hwants hread ?_)) fun _ => rfl)
    rintro ⟨htype, reply, haccepts⟩
    rw [checkRegistration_eq_ok_iff.mpr ⟨htype, reply, haccepts, rfl⟩] at hcheck
    cases hcheck
  | ok settings =>
    obtain ⟨htype, reply, haccepts, rfl⟩ := checkRegistration_eq_ok_iff.mp hcheck
    have hrefuses : refuses (.main draws nonce) s = false := by simp [refuses, hpoint]
    have hfavours : Favours h.stream reply := by
      refine favours_iff.mpr ⟨p, frame.payload, reader.source.bytes, ?_, hfits, hqfits, hadmits,
        haccepts⟩
      rw [hearly.stream, hbytes, htype]
    have hhealth : healthConfig s.settings.health reply.healthCheck =
        healthConfig c.healthConfig reply.healthCheck := by
      rw [hearly.settings]
      rfl
    refine .opening (congrArg Point.opening hhealth) rfl hearly.unreached ?_ ⟨?_, ?_, rfl⟩
      (registration?_of_some hearly.own) hframe rfl
    · rw [visited_of_ne (by simp [hearly.inPhase]), hearly.visited]
      rfl
    · rw [History.record, hearly.hindered, hopen, hrefuses]
      rfl
    · exact hfavours.append []

theorem tracks_leave {reply : RegistrationResponse} (hphase : s.phase = .dispatching)
    (hreached : s.reachedDispatching = true) (hway : h.visited = Phase.dispatching.way)
    (hwon : Won reply s h) (hconfig : s.monitor.config = healthConfig c.healthConfig reply.healthCheck)
    (hrefuses : refuses action s = false) {t : Session} (fault : TransportFault)
    (hkeptReached : t.reachedDispatching = s.reachedDispatching)
    (hkeptConfig : t.monitor.config = s.monitor.config) :
    Tracks c shared (t.leave fault) (h.record action s (t.leave fault)) := by
  obtain ⟨result, hpoint, hending⟩ := conclude_ending
    (if t.healthFailed then .healthCheck t.monitor.stop.config.deadline else .ofTransport fault)
    { t with monitor := t.monitor.stop, relay := t.relay.shutdown, published := false }
  have hlate : (Phase.ending result).isEarly = false := by cases result <;> rfl
  have hne : Phase.ending result ≠ .dispatching := by cases result <;> exact nofun
  refine .left hpoint hending (hkeptReached.trans hreached) ?_ (hwon.record ?_ hrefuses)
    (hkeptConfig.trans hconfig)
  · rw [visited_of_ne, hway]
    · exact congrArg (_ ++ [·]) hending
    · rw [hphase]
      exact hending ▸ hne
  · exact hending ▸ hlate

theorem tracks_dispatch {reply : RegistrationResponse} (hpoint : s.point = .dispatching)
    (hphase : s.phase = .dispatching) (hreached : s.reachedDispatching = true)
    (hway : h.visited = Phase.dispatching.way) (hwon : Won reply s h)
    (hconfig : s.monitor.config = healthConfig c.healthConfig reply.healthCheck)
    (hstep : s.await leave dispatch = some s') :
    Tracks c shared s' (h.record (.main draws nonce) s s') := by
  have hrefuses : refuses (.main draws nonce) s = false := by simp [refuses, hpoint]
  obtain ⟨reader, ⟨fault, -, rfl⟩ | ⟨frame, -, rfl⟩⟩ := await_cases hstep
  · exact tracks_leave hphase hreached hway hwon hconfig hrefuses fault rfl rfl
  have hhandled := handled_dispatch frame { s with reader }
  unfold dispatch
  split <;> rename_i t hdispatch <;> rw [hdispatch] at hhandled
  · refine .dispatching (hhandled.point.trans hpoint) (hhandled.phase.trans hphase)
      (hhandled.reachedDispatching.trans hreached) ((visited_of_same hhandled.phase).trans hway)
      (hwon.record ?_ hrefuses) (hhandled.config.trans hconfig)
    rw [hhandled.phase]
    exact hwon.late
  · exact tracks_leave hphase hreached hway hwon hconfig hrefuses _ hhandled.reachedDispatching
      hhandled.config

theorem Tracks.main (htracks : Tracks c shared s h) (hstep : s.main draws nonce = some s') :
    Tracks c shared s' (h.record (.main draws nonce) s s') := by
  cases htracks with
  | greeting hpoint hearly =>
    simp only [Session.main, hpoint] at hstep
    exact tracks_greet hpoint hearly hstep
  | greeted hpoint hearly =>
    rcases hpoint with hpoint | hpoint <;> simp only [Session.main, hpoint] at hstep
    · cases hstep
      exact tracks_authorize hpoint hearly
    · exact tracks_awaitAuthorization hpoint hearly hstep
  | registering hpoint hfits hadmits hearly =>
    simp only [Session.main, hpoint] at hstep
    exact tracks_register hpoint hfits hadmits hearly hstep
  | registered hpoint hfits hadmits hframe hearly =>
    simp only [Session.main, hpoint] at hstep
    exact tracks_awaitRegistration hpoint hfits hadmits hframe hearly hstep
  | opening hpoint hphase hreached hway hwon hown hfits haccess =>
    simp only [Session.main, hpoint] at hstep
    cases hstep
    have hrefuses : refuses (.main draws nonce) s = false := by simp [refuses, hpoint]
    refine .dispatching rfl rfl rfl ?_ (hwon.record rfl hrefuses) rfl
    have hne : Phase.dispatching ≠ s.phase := by
      rw [hphase]
      decide
    rw [visited_of_ne hne, hway]
    rfl
  | dispatching hpoint hphase hreached hway hwon hconfig =>
    simp only [Session.main, hpoint] at hstep
    exact tracks_dispatch hpoint hphase hreached hway hwon hconfig hstep
  | barred hpoint | left hpoint =>
    simp only [Session.main, hpoint] at hstep
    cases hstep

theorem Tracks.step (htracks : Tracks c shared s h) (hstep : s.step action = some s')
    (hend : h.ended = true → action.bytes = []) : Tracks c shared s' (h.record action s s') := by
  cases hmain : action.isMain with
  | false => exact htracks.beside hmain hstep hend
  | true =>
    cases action with
    | main draws nonce => exact htracks.main hstep
    | connect outcome =>
      simp only [Session.step, connect] at hstep
      cases htracks with
      | greeted hpoint =>
        rcases hpoint with hpoint | hpoint <;> rw [hpoint] at hstep <;> cases hstep
      | greeting hpoint | registering hpoint | registered hpoint | opening hpoint
        | dispatching hpoint | barred hpoint | left hpoint =>
        rw [hpoint] at hstep
        cases hstep
    | _ => cases hmain

theorem Tracks.run (htracks : Tracks c shared s h) {actions : List Action}
    (hrun : run actions s = some s')
    (hends : actions.Pairwise fun a b => a.endsStream = true → b.bytes = [])
    (hend : h.ended = true → ∀ a ∈ actions, a.bytes = []) :
    Tracks c shared s' (History.after actions s h) := by
  induction actions generalizing s h with
  | nil =>
    cases hrun
    exact htracks
  | cons action rest ih =>
    obtain ⟨t, hstep, hrest⟩ := Option.bind_eq_some_iff.mp hrun
    obtain ⟨hfirst, hlater⟩ := List.pairwise_cons.mp hends
    rw [History.after, hstep]
    refine ih (htracks.step hstep fun hended => hend hended action List.mem_cons_self) hrest hlater ?_
    intro hended a ha
    rcases Bool.or_eq_true _ _ ▸ hended with hbefore | hnow
    · exact hend hbefore a (List.mem_cons_of_mem _ ha)
    · exact hfirst a ha hnow

/-! ## The gate -/

theorem tracks_connected (c : Config) (shared : Shared) (now : Duration) (capacity : Nat)
    (hstep : (start (Agent.sessionSettings c) shared now capacity).step (.connect (.ok ())) = some s) :
    Tracks c shared s
      (({} : History).record (.connect (.ok ())) (start (Agent.sessionSettings c) shared now capacity) s) := by
  cases hstep
  exact .greeting rfl ⟨rfl, rfl, rfl, rfl, rfl, rfl, rfl, rfl, rfl, fun h => absurd rfl h, rfl, rfl⟩

/-- A session that rests before the gate has been hindered, or is still to be favoured. -/
theorem Tracks.reached_of_rests (htracks : Tracks c shared s h) (hrests : s.Rests)
    (hfree : h.hindered = false) {reply : RegistrationResponse} (hfavours : Favours h.stream reply) :
    s.reachedDispatching = true := by
  have hwaits : ∀ {phase taken expected own} {good : FrameType → Bytes → Prop},
      Early c shared phase taken expected own s h → Wants good s h → s.receive = none →
        s.reachedDispatching = true := by
    intro phase taken expected own good hearly hwants hnone
    obtain ⟨type, payload, rest, hbytes, hfits, -⟩ := hwants [] reply (by rwa [List.append_nil])
    rw [List.append_nil] at hbytes
    obtain ⟨u, hframe, -⟩ := Decoder.readFrame_of_envelope hbytes hfits
    rcases receive_cases s with ⟨hclosed, -⟩ | ⟨-, hopen⟩
    · rw [← hearly.hindered, hfree] at hclosed
      cases hclosed
    · rcases hopen with ⟨d, u, hread, -⟩ | ⟨fault, d, u, hread, -⟩ | ⟨frame, d, u, -, hsome⟩
      · rw [hframe] at hread
        cases hread
      · rw [hframe] at hread
        cases hread
      · rw [hnone] at hsome
        cases hsome
  cases htracks with
  | greeting hpoint | registering hpoint | opening hpoint =>
    simp only [Rests, hpoint] at hrests
  | greeted hpoint hearly =>
    rcases hpoint with hpoint | hpoint <;> simp only [Rests, hpoint] at hrests
    exact hwaits hearly hearly.wants_authorization hrests
  | registered hpoint hfits hadmits hframe hearly =>
    simp only [Rests, hpoint] at hrests
    exact hwaits hearly (hearly.wants_registration hfits) hrests
  | dispatching _ _ hreached => exact hreached
  | left _ _ hreached => exact hreached
  | barred _ _ _ _ _ _ hbarred =>
    rcases hbarred with hhindered | hnever
    · rw [hfree] at hhindered
      cases hhindered
    · exact absurd (by rwa [List.append_nil]) (hnever [] reply fun _ => rfl)

/-- A main task that does not rest goes on, if there are random words for its keys, and except that
the preamble may wait for room. -/
theorem Tracks.goes_on (htracks : Tracks c shared s h) (hbusy : ¬ s.Rests) (draws : List UInt64)
    (nonce : UInt64) (hkeys : assignKeys s.shared.rules draws ≠ none) :
    s.main draws nonce ≠ none ∨ ∃ rest, s.point = .greeting rest ∧ s.outgoing.pipe.room = 0 := by
  have hawait : ∀ {fail take}, s.receive ≠ none → s.await fail take ≠ none := by
    intro fail take hsome
    obtain ⟨out, hout⟩ := Option.ne_none_iff_exists'.mp hsome
    obtain ⟨result | frame, t⟩ := out <;> simp [Session.await, hout]
  cases hpoint : s.point with
  | connecting =>
    cases htracks with
    | greeted hat => rcases hat with hat | hat <;> rw [hpoint] at hat <;> cases hat
    | greeting hat | registering hat | registered hat | opening hat | dispatching hat | barred hat
      | left hat =>
      rw [hpoint] at hat
      cases hat
  | greeting rest =>
    by_cases hroom : s.outgoing.pipe.room = 0
    · exact .inr ⟨rest, rfl, hroom⟩
    · left
      simp only [Session.main, hpoint, greet, if_neg hroom]
      by_cases hrest : rest = []
      · simp [hrest]
      · cases hgone : s.outgoing.pipe.readerGone <;> simp [hrest]
  | authorizing => exact .inl (by simp [Session.main, hpoint])
  | awaitingAuthorization =>
    left
    simp only [Session.main, hpoint]
    exact hawait (by simpa only [Rests, hpoint] using hbusy)
  | registering =>
    left
    obtain ⟨keyed, hkeyed⟩ := Option.ne_none_iff_exists'.mp hkeys
    simp [Session.main, hpoint, register, hkeyed]
  | awaitingRegistration resources =>
    left
    simp only [Session.main, hpoint]
    exact hawait (by simpa only [Rests, hpoint] using hbusy)
  | opening health => exact .inl (by simp [Session.main, hpoint])
  | dispatching =>
    left
    simp only [Session.main, hpoint]
    exact hawait (by simpa only [Rests, hpoint] using hbusy)
  | ended result => exact absurd (by simp only [Rests, hpoint]) hbusy

/-- A session is before the gate, in it, or past it. -/
inductive Standing (c : Config) (shared : Shared) (s : Session) (h : History) : Prop
  | before {phase : Phase} : s.reachedDispatching = false → s.phase ≠ .registered →
      s.shared.access = shared.access → phase.isEarly = true →
      h.visited = phase.way ++ (s.result?.map Phase.ending).toList → Standing c shared s h
  | within {resources : List Resource} : s.reachedDispatching = false → s.phase = .registered →
      h.visited = Phase.registered.way ++ (s.result?.map Phase.ending).toList →
      h.registration? = some (Registrar.frame resources) →
      fits (Registrar.frame resources).payload → s.shared.access = .ofResources resources →
      Standing c shared s h
  | past {reply : RegistrationResponse} : s.reachedDispatching = true → s.phase ≠ .registered →
      h.visited = Phase.dispatching.way ++ (s.result?.map Phase.ending).toList → Won reply s h →
      s.monitor.config = healthConfig c.healthConfig reply.healthCheck → Standing c shared s h

theorem Early.standing (hearly : Early c shared phase taken expected own s h)
    (hgoing : s.result? = none) : Standing c shared s h := by
  refine .before hearly.unreached ?_ hearly.access hearly.early ?_
  · intro hregistered
    have hphase := hearly.early
    rw [← hearly.inPhase, hregistered] at hphase
    cases hphase
  · rw [hgoing, hearly.visited]
    exact (List.append_nil _).symm

theorem Tracks.standing (htracks : Tracks c shared s h) : Standing c shared s h := by
  have hending : ∀ result : Except SessionFault Unit, s.phase = .ending result →
      s.phase ≠ .registered := by
    intro result hphase hregistered
    rw [hregistered] at hphase
    cases result <;> cases hphase
  cases htracks with
  | greeting hpoint hearly => exact hearly.standing (by rw [result?, hpoint])
  | greeted hpoint hearly =>
    exact hearly.standing (by rcases hpoint with hpoint | hpoint <;> rw [result?, hpoint])
  | registering hpoint _ _ hearly => exact hearly.standing (by rw [result?, hpoint])
  | registered hpoint _ _ _ hearly => exact hearly.standing (by rw [result?, hpoint])
  | barred hpoint hphase hearly hway hreached haccess hbarred =>
    refine .before hreached (hending _ hphase) haccess hearly ?_
    rw [result?, hpoint]
    exact hway
  | opening hpoint hphase hreached hway hwon hown hfits haccess =>
    refine .within hreached hphase ?_ hown hfits haccess
    rw [result?, hpoint]
    exact hway
  | dispatching hpoint hphase hreached hway hwon hconfig =>
    have hother : s.phase ≠ .registered := by
      rw [hphase]
      decide
    refine .past hreached hother ?_ hwon hconfig
    rw [result?, hpoint]
    exact hway
  | left hpoint hphase hreached hway hwon hconfig =>
    refine .past hreached (hending _ hphase) ?_ hwon hconfig
    rw [result?, hpoint]
    exact hway

theorem Standing.favoured (hstanding : Standing c shared s h) (hreached : s.reachedDispatching = true) :
    h.hindered = false ∧ ∃ reply, Favours h.stream reply ∧
      s.monitor.config = healthConfig c.healthConfig reply.healthCheck := by
  cases hstanding with
  | before hnot | within hnot =>
    rw [hnot] at hreached
    cases hreached
  | past _ _ _ hwon hconfig => exact ⟨hwon.unhindered, _, hwon.favoured, hconfig⟩

theorem Standing.reached_iff (hstanding : Standing c shared s h) :
    s.reachedDispatching = true ↔ .dispatching ∈ h.visited := by
  have hlast : .dispatching ∉ (s.result?.map Phase.ending).toList := not_mem_ending _ rfl
  cases hstanding with
  | before hreached _ _ hearly hway =>
    rw [hreached, hway, List.mem_append]
    simp [(not_mem_way_of_early hearly).2, hlast]
  | within hreached _ hway =>
    have hnot : .dispatching ∉ Phase.registered.way := by decide
    rw [hreached, hway, List.mem_append]
    simp [hnot, hlast]
  | past hreached _ hway =>
    rw [hway]
    exact ⟨fun _ => List.mem_append_left _ (by decide), fun _ => hreached⟩

theorem Standing.way (hstanding : Standing c shared s h) :
    ∃ way, way <+: Phase.path ∧ way ≠ [] ∧
      h.visited = way ++ (s.result?.map Phase.ending).toList := by
  cases hstanding with
  | before _ _ _ _ hway | within _ _ hway | past _ _ hway =>
    exact ⟨_, (Phase.way_prefix _).1, (Phase.way_prefix _).2, hway⟩

theorem Standing.access_of_unregistered (hstanding : Standing c shared s h)
    (hnot : .registered ∉ h.visited) : s.shared.access = shared.access := by
  cases hstanding with
  | before _ _ haccess => exact haccess
  | within _ _ hway | past _ _ hway =>
    rw [hway] at hnot
    exact absurd (List.mem_append_left _ (by decide)) hnot

theorem Standing.access_of_registered (hstanding : Standing c shared s h)
    (hphase : s.phase = .registered) : ∃ frame message, h.registration? = some frame ∧
      RegistrationRequest.format.decode frame.payload = .ok message ∧
      s.shared.access = .ofResources message.resources := by
  cases hstanding with
  | before _ hnot | past _ hnot => exact absurd hphase hnot
  | @within resources _ _ _ hown hfits haccess =>
    exact ⟨_, ⟨resources⟩, hown, Registrar.decode_frame hfits, haccess⟩

/-- What the phases, the access table and the cadence of a session are, and when it comes to
dispatch, for whatever the gateway sends and whatever happens beside. Nothing follows the end of
the gateway's stream; the session starts over a stream that is there. -/
theorem dispatching_gated (c : Config) (shared : Shared) (now : Duration) (capacity : Nat)
    {actions : List Action} {s : Session}
    (hrun : run (.connect (.ok ()) :: actions)
      (start (Agent.sessionSettings c) shared now capacity) = some s)
    (hends : actions.Pairwise fun a b => a.endsStream = true → b.bytes = []) :
    let h := History.after (.connect (.ok ()) :: actions)
      (start (Agent.sessionSettings c) shared now capacity) {}
    (s.reachedDispatching = true ↔ .dispatching ∈ h.visited) ∧
    (s.reachedDispatching = true → h.hindered = false ∧ ∃ reply, Favours h.stream reply ∧
      s.monitor.config = match reply.healthCheck with
        | some settings => .ofParts settings.intervalSecs settings.maxMissed
        | none => .ofParts c.health.intervalSecs c.health.maxMissed) ∧
    (s.reachedDispatching = true → Duration.ofSeconds 1 ≤ s.monitor.config.interval ∧
      s.monitor.config.interval ≤ Duration.ofSeconds 86400 ∧ s.monitor.config.maxMissed ≠ 0) ∧
    (s.Rests →
      (s.reachedDispatching = true ↔ h.hindered = false ∧ ∃ reply, Favours h.stream reply)) ∧
    (¬ s.Rests → ∀ draws nonce, assignKeys s.shared.rules draws ≠ none →
      s.main draws nonce ≠ none ∨ ∃ rest, s.point = .greeting rest ∧ s.outgoing.pipe.room = 0) ∧
    (∃ way, way <+: Phase.path ∧ way ≠ [] ∧
      h.visited = way ++ (s.result?.map Phase.ending).toList) ∧
    (.registered ∉ h.visited → s.shared.access = shared.access) ∧
    (s.phase = .registered → ∃ frame message, h.registration? = some frame ∧
      RegistrationRequest.format.decode frame.payload = .ok message ∧
      s.shared.access = .ofResources message.resources) := by
  intro h
  have htracks : Tracks c shared s h := by
    obtain ⟨t, hstep, hrest⟩ := Option.bind_eq_some_iff.mp hrun
    have hafter : h = History.after actions t (({} : History).record (.connect (.ok ()))
        (start (Agent.sessionSettings c) shared now capacity) t) := by
      cases hstep
      rfl
    rw [hafter]
    exact (tracks_connected c shared now capacity hstep).run hrest hends nofun
  have hstanding := htracks.standing
  refine ⟨hstanding.reached_iff, fun hreached => ?_, fun hreached => ?_,
    fun hrests => ⟨fun hreached => ?_, ?_⟩, fun hbusy draws nonce hkeys => ?_, hstanding.way,
    hstanding.access_of_unregistered, hstanding.access_of_registered⟩
  · obtain ⟨hfree, reply, hfavours, hconfig⟩ := hstanding.favoured hreached
    refine ⟨hfree, reply, hfavours, hconfig.trans ?_⟩
    cases reply.healthCheck <;> rfl
  · obtain ⟨-, reply, -, hconfig⟩ := hstanding.favoured hreached
    rw [hconfig]
    cases reply.healthCheck with
    | none => exact HealthConfig.clamped _ _
    | some settings => exact HealthConfig.clamped _ _
  · obtain ⟨hfree, reply, hfavours, -⟩ := hstanding.favoured hreached
    exact ⟨hfree, reply, hfavours⟩
  · rintro ⟨hfree, reply, hfavours⟩
    exact htracks.reached_of_rests hrests hfree hfavours
  · exact htracks.goes_on hbusy draws nonce hkeys

def frugalConfig : Config where
  agentId := "a"
  gateway := { host := "h" }
  credentials := { username := "u" }
  resources := [{ name := "r", pattern := "p", host := "h", port := 1 }]
  health := { intervalSecs := 5, maxMissed := 2 }

/-- The gateway lets the session in, sets a cadence of its own, and ends its stream; the session
stops at that end. -/
def admitted : List Action :=
  [.main [] 0, .main [] 0, .main [] 0,
    .deliver (encode 0 .authorizationResponse (AuthorizationResponse.format.write ⟨.ok, none⟩)),
    .main [] 0, .main [7] 0,
    .deliver (encode 1 .registrationResponse
      (RegistrationResponse.format.write ⟨.ok, none, some ⟨0, 0⟩⟩)),
    .main [] 0, .main [] 9, .gatewayEnds .eof, .main [] 0]

theorem dispatching_gated_admitted :
    ∃ s, run (.connect (.ok ()) :: admitted)
        (start (Agent.sessionSettings frugalConfig) (Agent.shared frugalConfig) 0 64) = some s ∧
      s.Rests ∧ s.reachedDispatching = true ∧ s.monitor.config = .ofParts 0 0 ∧
      ∃ reply, Favours (History.after (.connect (.ok ()) :: admitted)
        (start (Agent.sessionSettings frugalConfig) (Agent.shared frugalConfig) 0 64) {}).stream
          reply := by
  have hrun : run (.connect (.ok ()) :: admitted)
      (start (Agent.sessionSettings frugalConfig) (Agent.shared frugalConfig) 0 64) = some _ := rfl
  obtain ⟨-, hfavoured, -⟩ := dispatching_gated frugalConfig _ _ _ hrun (by decide)
  obtain ⟨-, reply, hfavours, -⟩ := hfavoured rfl
  exact ⟨_, hrun, trivial, rfl, rfl, reply, hfavours⟩

end Session

end TunnelAgent
