import TunnelAgent.Proofs.Session.Exchange
import TunnelAgent.Proofs.Session.Favour
import TunnelAgent.Proofs.Session.Queue

/-! # Replies to the manifests of a session

The registrar holds the manifests without a reply, and the table in force is that of the last
manifest whose reply accepts it: the record of the exchange and the session agree after every step,
whoever takes it. -/

namespace TunnelAgent.Session

/-- Where a session stands in the exchange: before its first manifest, with that manifest sent, with
it answered, or where the registrar is in charge. -/
def Place (reached : Bool) (unanswered : List (List Resource)) : Point → Prop
  | .awaitingRegistration resources => reached = false ∧ unanswered = [resources]
  | .dispatching => reached = true
  | .ended _ => True
  | _ => reached = false ∧ unanswered = []

theorem Place.renew {unanswered unanswered' : List (List Resource)} {point : Point}
    (h : Place true unanswered point) : Place true unanswered' point := by
  cases point with
  | dispatching => rfl
  | ended result => trivial
  | _ => cases h.1

structure Matched (start : AccessTable) (s : Session) (e : Exchange) : Prop where
  bound : e.replies.length ≤ e.sent.length
  pending : s.registrar.pending = if s.reachedDispatching then e.unanswered else []
  table : s.shared.access = e.table start
  published : s.published = true → s.reachedDispatching = true
  place : Place s.reachedDispatching e.unanswered s.point

section step
variable {start : AccessTable} {s s' : Session} {e : Exchange} {event : Event}

/-- A step that has nothing to do with registering. -/
theorem Matched.keep (m : Matched start s e) (hreply : reply? event s = none)
    (hframes : ∀ frame ∈ queued s s', frame.type ≠ .registration)
    (hregistrar : s'.registrar = s.registrar)
    (hreached : s'.reachedDispatching = s.reachedDispatching)
    (haccess : s'.shared.access = s.shared.access)
    (hpublished : s'.published = true → s.published = true)
    (hplace : Place s.reachedDispatching e.unanswered s'.point) :
    Matched start s' (e.noted event s s') := by
  rw [Exchange.noted, hreply, manifests_of_quiet hframes, Exchange.answer_none, Exchange.send_nil]
  refine ⟨m.bound, ?_, ?_, ?_, ?_⟩
  · rw [hregistrar, hreached]
    exact m.pending
  · rw [haccess]
    exact m.table
  · rw [hreached]
    exact fun h => m.published (hpublished h)
  · rw [hreached]
    exact hplace

theorem registrar_of_beside {action : Action} (hmain : action.isMain = false)
    (hcall : ∀ rules draws, action ≠ .reregister rules draws) (h : s.step action = some s') :
    s'.registrar = s.registrar := by
  cases action with
  | connect outcome => cases hmain
  | main draws nonce => cases hmain
  | reregister rules draws => exact absurd rfl (hcall rules draws)
  | write =>
    simp only [step, write] at h
    split at h
    · obtain ⟨outgoing, -, rfl⟩ := Option.map_eq_some_iff.mp h
      rfl
    · cases h
  | watch =>
    simp only [step, watch] at h
    split at h <;> cases h
    rfl
  | tick =>
    simp only [step, tick] at h
    split at h
    · cases h
    split at h
    · cases h
    split at h <;> cases h <;> rfl
  | relay action =>
    simp only [step, relayStep] at h
    split at h
    · split at h <;> cases h
      rfl
    · cases h
  | advance now =>
    simp only [step] at h
    split at h <;> cases h
    rfl
  | _ => cases h; rfl

theorem reply?_of_beside {action : Action} (hmain : action.isMain = false) :
    reply? (.own action) s = none := by
  cases action with
  | main draws nonce => cases hmain
  | _ => rfl

theorem Matched.beside (m : Matched start s e) {action : Action} (hmain : action.isMain = false)
    (hcall : ∀ rules draws, action ≠ .reregister rules draws) (h : s.step action = some s') :
    Matched start s' (e.noted (.own action) s s') := by
  have hbeside := beside_of_step hmain h
  refine m.keep (reply?_of_beside hmain) (noneQueued_beside hmain hcall h)
    (registrar_of_beside hmain hcall h) hbeside.reachedDispatching hbeside.access ?_ ?_
  · rw [hbeside.published]
    exact id
  · rw [hbeside.point]
    exact m.place

theorem Matched.call (m : Matched start s e) {rules : List Rule} {draws : List UInt64}
    (h : s.next (.call rules draws) = some s') :
    Matched start s' (e.noted (.call rules draws) s s') := by
  obtain ⟨⟨result, t⟩, hcall, rfl⟩ := Option.map_eq_some_iff.mp h
  have hreply : reply? (.call rules draws) s = none := rfl
  obtain ⟨hreached, ⟨-, resources, -, hfits, hqueued, rfl⟩ | ⟨-, rfl⟩⟩ := call_cases hcall
  · have hpending := m.pending
    have hplace := m.place
    rw [hreached, if_pos rfl] at hpending
    rw [hreached] at hplace
    rw [Exchange.noted, hreply, Exchange.answer_none, manifests_of_registration hfits hqueued]
    refine ⟨?_, ?_, ?_, fun _ => hreached, ?_⟩
    · rw [Exchange.send, List.length_append]
      exact Nat.le_add_right_of_le m.bound
    · rw [hreached, if_pos rfl, hpending, Exchange.unanswered_send _ m.bound]
    · rw [m.table, Exchange.table_send _ _ m.bound]
    · rw [hreached]
      exact hplace.renew
  · exact m.keep hreply (noneQueued rfl) rfl rfl rfl id m.place

theorem Matched.reregister (m : Matched start s e) {rules : List Rule} {draws : List UInt64}
    (h : s.step (.reregister rules draws) = some s') :
    Matched start s' (e.noted (.own (.reregister rules draws)) s s') := by
  have hpublished : s.published = true := by
    cases hp : s.published with
    | true => rfl
    | false =>
      simp [Session.step, Session.reregister, hp] at h
  have hcall : s.next (.call rules draws) = some s' := by
    rw [next, call_of_published hpublished (m.published hpublished)]
    exact h
  exact m.call hcall

/-- A reply takes the oldest manifest; the table changes if it accepts it. -/
theorem Matched.answered (m : Matched start s e) {payload : Bytes}
    (hreply : reply? event s = some payload)
    (hframes : ∀ frame ∈ queued s s', frame.type ≠ .registration)
    (hregistrar : s'.registrar.pending = s.registrar.pending.tail)
    (hreached : s'.reachedDispatching = s.reachedDispatching)
    (hunsolicited : e.unanswered = [] → s'.shared.access = s.shared.access)
    (haccess : ∀ resources rest, e.unanswered = resources :: rest →
      s'.shared.access =
        if Registrar.accepts payload then .ofResources resources else s.shared.access)
    (hpublished : s'.published = true → s.published = true)
    (hplace : Place s.reachedDispatching e.unanswered.tail s'.point) :
    Matched start s' (e.noted event s s') := by
  rw [Exchange.noted, hreply, manifests_of_quiet hframes, Exchange.send_nil]
  refine ⟨Exchange.bound_answer _ m.bound, ?_, ?_, ?_, ?_⟩
  · rw [hregistrar, hreached, m.pending, Exchange.unanswered_answer]
    split <;> rfl
  · cases h : e.unanswered with
    | nil => rw [Exchange.answer_of_unsolicited _ h, hunsolicited h, m.table]
    | cons resources rest =>
      rw [haccess resources rest h, Exchange.table_answer payload start h, m.table]
  · rw [hreached]
    exact fun h => m.published (hpublished h)
  · rw [hreached, Exchange.unanswered_answer]
    exact hplace

theorem accepts_iff {payload : Bytes} :
    Registrar.accepts payload = true ↔ ∃ reply, Accepts payload reply := by
  unfold Registrar.accepts Accepts
  cases RegistrationResponse.format.decode payload with
  | ok response => simp
  | error fault => simp

theorem reply?_of_fault {draws : List UInt64} {nonce : UInt64} {fault : TransportFault}
    {u : Session} (h : s.receive = some (.error fault, u)) :
    reply? (.own (.main draws nonce)) s = none := by
  simp only [reply?, h, ite_self]

theorem reply?_of_frame {draws : List UInt64} {nonce : UInt64} {frame : Frame} {u : Session}
    (hpoint : s.point.awaitsReply = true) (h : s.receive = some (.ok frame, u)) :
    reply? (.own (.main draws nonce)) s =
      if frame.type = .registrationResponse then some frame.payload else none := by
  simp only [reply?, h, hpoint, if_true]

theorem reply?_of_point {draws : List UInt64} {nonce : UInt64}
    (hpoint : s.point.awaitsReply = false) : reply? (.own (.main draws nonce)) s = none := by
  simp [reply?, hpoint]

/-- A reply is taken, and nothing else about the session has changed. -/
theorem dispatch_reply {frame : Frame} (htype : frame.type = .registrationResponse) (s : Session) :
    dispatch frame s =
      { s with
        registrar := (s.registrar.answer frame.payload s.shared.access).1
        shared := { s.shared with
          access := (s.registrar.answer frame.payload s.shared.access).2 } } := by
  have hfind : handlers.find? frame.type = some handleRegistration := by
    rw [htype]
    rfl
  unfold dispatch Dispatch.Table.dispatch
  rw [hfind]
  rfl

theorem pending_answer (payload : Bytes) (r : Registrar) (table : AccessTable) :
    (r.answer payload table).1.pending = r.pending.tail := by
  unfold Registrar.answer
  split <;> rename_i h <;> rw [h] <;> rfl

/-- What a frame that is no reply leaves alone. -/
structure Apart (s s' : Session) : Prop where
  registrar : s'.registrar = s.registrar
  access : s'.shared.access = s.shared.access
  reached : s'.reachedDispatching = s.reachedDispatching
  published : s'.published = true → s.published = true
  point : s'.point = s.point ∨ ∃ result, s'.point = .ended result

theorem apart_dispatch {frame : Frame} (htype : frame.type ≠ .registrationResponse) (s : Session) :
    Apart s (dispatch frame s) := by
  have hregistrar : (handlers.dispatch frame s).2.registrar = s.registrar ∧
      (handlers.dispatch frame s).2.shared.access = s.shared.access := by
    refine state_of_dispatch (P := fun t => t.registrar = s.registrar ∧
      t.shared.access = s.shared.access) (fun _ => ⟨rfl, rfl⟩) ?_
    intro handler hfind
    cases hother : frame.type <;> rw [hother] at hfind <;> cases hfind
    · exact absurd hother htype
    · unfold handlePing
      split <;> exact ⟨rfl, rfl⟩
    · exact ⟨rfl, rfl⟩
    · unfold handleSocketData
      split <;> exact ⟨rfl, rfl⟩
  have hhandled := handled_dispatch frame s
  unfold dispatch
  split <;> rename_i heq <;> rw [heq] at hregistrar hhandled
  · refine ⟨hregistrar.1, hregistrar.2, hhandled.reachedDispatching, ?_, .inl hhandled.point⟩
    rw [hhandled.published]
    exact id
  · refine ⟨hregistrar.1, hregistrar.2, hhandled.reachedDispatching, ?_, .inr ⟨_, rfl⟩⟩
    intro hpublished
    cases hpublished

theorem Matched.dispatching (m : Matched start s e) {draws : List UInt64} {nonce : UInt64}
    (hpoint : s.point = .dispatching) (h : s.await leave dispatch = some s') :
    Matched start s' (e.noted (.own (.main draws nonce)) s s') := by
  have hplace := m.place
  have hreached : s.reachedDispatching = true := by rwa [hpoint] at hplace
  have hawaits : s.point.awaitsReply = true := by rw [hpoint]; rfl
  obtain ⟨reader, ⟨fault, hreceive, rfl⟩ | ⟨frame, hreceive, rfl⟩⟩ := await_cases h
  · refine m.keep (reply?_of_fault hreceive) (noneQueued rfl) rfl rfl rfl ?_ trivial
    intro hpublished
    cases hpublished
  have hreply : reply? (.own (.main draws nonce)) s =
      if frame.type = .registrationResponse then some frame.payload else none :=
    reply?_of_frame hawaits hreceive
  by_cases htype : frame.type = .registrationResponse
  · rw [if_pos htype] at hreply
    have hpending : s.registrar.pending = e.unanswered := by
      rw [m.pending, hreached, if_pos rfl]
    rw [dispatch_reply htype]
    refine m.answered hreply (noneQueued rfl) (pending_answer ..) rfl ?_ ?_ id ?_
    · intro hnone
      rw [hnone] at hpending
      simp only [Registrar.answer, hpending]
    · intro resources rest hsome
      rw [hsome] at hpending
      simp only [Registrar.answer, hpending]
    · rw [hreached] at hplace ⊢
      exact hplace.renew
  · rw [if_neg htype] at hreply
    have hapart := apart_dispatch htype { s with reader }
    refine m.keep hreply (quiet_dispatch rfl).frames hapart.registrar hapart.reached hapart.access
      hapart.published ?_
    rcases hapart.point with hsame | ⟨result, hended⟩
    · rw [hsame]
      exact hplace
    · rw [hended]
      trivial

/-- The first manifest is answered. -/
theorem Matched.registration (m : Matched start s e) {draws : List UInt64} {nonce : UInt64}
    {resources : List Resource} (hpoint : s.point = .awaitingRegistration resources)
    (h : s.await (fun fault t => t.conclude (.ofTransport fault)) (takeRegistration resources) =
      some s') :
    Matched start s' (e.noted (.own (.main draws nonce)) s s') := by
  have hplace := m.place
  rw [hpoint] at hplace
  obtain ⟨hreached, hunanswered⟩ := hplace
  have hawaits : s.point.awaitsReply = true := by rw [hpoint]; rfl
  obtain ⟨reader, ⟨fault, hreceive, rfl⟩ | ⟨frame, hreceive, rfl⟩⟩ := await_cases h
  · exact m.keep (reply?_of_fault hreceive) (noneQueued rfl) rfl rfl rfl id trivial
  have hreply : reply? (.own (.main draws nonce)) s =
      if frame.type = .registrationResponse then some frame.payload else none :=
    reply?_of_frame hawaits hreceive
  have hquiet : Quiet s (takeRegistration resources frame { s with reader }) :=
    quiet_takeRegistration hpoint rfl
  have hframes := hquiet.frames
  have hpending : s.registrar.pending = s.registrar.pending.tail := by
    rw [m.pending, hreached]
    rfl
  unfold takeRegistration at hframes ⊢
  cases hcheck : checkRegistration frame with
  | error text =>
    rw [hcheck] at hframes
    by_cases htype : frame.type = .registrationResponse
    · rw [if_pos htype] at hreply
      have hrefused : ¬ Registrar.accepts frame.payload = true := by
        intro haccepts
        obtain ⟨reply, hreply⟩ := accepts_iff.mp haccepts
        rw [checkRegistration_eq_ok_iff.mpr ⟨htype, reply, hreply, rfl⟩] at hcheck
        cases hcheck
      refine m.answered hreply hframes hpending rfl (fun _ => rfl) ?_ id trivial
      intro _ _ _
      rw [if_neg hrefused]
      rfl
    · rw [if_neg htype] at hreply
      exact m.keep hreply hframes rfl rfl rfl id trivial
  | ok settings =>
    rw [hcheck] at hframes
    obtain ⟨htype, reply, haccepts, -⟩ := checkRegistration_eq_ok_iff.mp hcheck
    rw [if_pos htype] at hreply
    refine m.answered hreply hframes hpending rfl ?_ ?_ id ?_
    · intro hnone
      rw [hunanswered] at hnone
      cases hnone
    · intro other rest hsome
      rw [hunanswered, List.cons.injEq] at hsome
      rw [if_pos (accepts_iff.mpr ⟨reply, haccepts⟩), ← hsome.1]
    · rw [hunanswered]
      exact ⟨hreached, rfl⟩

theorem Matched.register (m : Matched start s e) {draws : List UInt64} {nonce : UInt64}
    (hpoint : s.point = .registering) (h : s.register draws = some s') :
    Matched start s' (e.noted (.own (.main draws nonce)) s s') := by
  have hplace := m.place
  rw [hpoint] at hplace
  obtain ⟨hreached, hunanswered⟩ := hplace
  have hreply : reply? (.own (.main draws nonce)) s = none :=
    reply?_of_point (by rw [hpoint]; rfl)
  unfold Session.register at h
  split at h
  · cases h
  rename_i resources rest hkeys
  cases h
  rcases request_cases (Registrar.frame resources) (.awaitingRegistration resources) s with
      ⟨-, hfits, hqueued, hrequest⟩ | ⟨-, fault, hrequest⟩
  · rw [Exchange.noted, hreply, Exchange.answer_none, manifests_of_registration hfits hqueued,
      hrequest]
    refine ⟨?_, ?_, ?_, m.published, hreached, ?_⟩
    · rw [Exchange.send, List.length_append]
      exact Nat.le_add_right_of_le m.bound
    · rw [m.pending, hreached]
      rfl
    · rw [m.table, Exchange.table_send _ _ m.bound]
    · rw [Exchange.unanswered_send _ m.bound, hunanswered, List.nil_append]
  · rw [hrequest]
    exact m.keep hreply (noneQueued rfl) rfl rfl rfl id trivial

theorem Matched.main (m : Matched start s e) {draws : List UInt64} {nonce : UInt64}
    (h : s.main draws nonce = some s') :
    Matched start s' (e.noted (.own (.main draws nonce)) s s') := by
  have hplace := m.place
  cases hpoint : s.point with
  | connecting =>
    simp only [Session.main, hpoint] at h
    cases h
  | greeting rest =>
    simp only [Session.main, hpoint] at h
    rw [hpoint] at hplace
    have hreply : reply? (.own (.main draws nonce)) s = none :=
      reply?_of_point (by rw [hpoint]; rfl)
    have hframes := (quiet_greet (by simp [hpoint]) h).frames
    unfold greet at h
    split at h
    · cases h
      exact m.keep hreply hframes rfl rfl rfl id hplace
    simp only at h
    split at h
    · cases h
      exact m.keep hreply hframes rfl rfl rfl id trivial
    split at h <;> cases h
    exact m.keep hreply hframes rfl rfl rfl id hplace
  | authorizing =>
    simp only [Session.main, hpoint] at h
    cases h
    rw [hpoint] at hplace
    have hreply : reply? (.own (.main draws nonce)) s = none :=
      reply?_of_point (by rw [hpoint]; rfl)
    have hframes := (quiet_authorize (s := s) (by simp [hpoint])).frames
    unfold authorize at hframes ⊢
    rcases request_cases (.ofMessage (.authorization s.settings.credentials))
        .awaitingAuthorization s with ⟨-, -, -, hrequest⟩ | ⟨-, fault, hrequest⟩ <;>
      rw [hrequest] at hframes ⊢
    · exact m.keep hreply hframes rfl rfl rfl id hplace
    · exact m.keep hreply hframes rfl rfl rfl id trivial
  | awaitingAuthorization =>
    simp only [Session.main, hpoint] at h
    rw [hpoint] at hplace
    have hreply : reply? (.own (.main draws nonce)) s = none :=
      reply?_of_point (by rw [hpoint]; rfl)
    obtain ⟨reader, ⟨fault, -, rfl⟩ | ⟨frame, -, rfl⟩⟩ := await_cases h
    · exact m.keep hreply (noneQueued rfl) rfl rfl rfl id trivial
    · unfold takeAuthorization
      split
      · exact m.keep hreply (noneQueued rfl) rfl rfl rfl id trivial
      · exact m.keep hreply (noneQueued rfl) rfl rfl rfl id hplace
  | registering =>
    simp only [Session.main, hpoint] at h
    exact m.register hpoint h
  | awaitingRegistration resources =>
    simp only [Session.main, hpoint] at h
    exact m.registration hpoint h
  | opening health =>
    simp only [Session.main, hpoint] at h
    cases h
    rw [hpoint] at hplace
    obtain ⟨hreached, hunanswered⟩ := hplace
    have hreply : reply? (.own (.main draws nonce)) s = none :=
      reply?_of_point (by rw [hpoint]; rfl)
    have hframes := (quiet_openTunnel health nonce hpoint).frames
    rw [Exchange.noted, hreply, manifests_of_quiet hframes, Exchange.answer_none,
      Exchange.send_nil]
    refine ⟨m.bound, ?_, m.table, fun _ => rfl, rfl⟩
    show s.registrar.pending = e.unanswered
    rw [m.pending, hreached, hunanswered]
    rfl
  | dispatching =>
    simp only [Session.main, hpoint] at h
    exact m.dispatching hpoint h
  | ended result =>
    simp only [Session.main, hpoint] at h
    cases h

theorem Matched.connect (m : Matched start s e) {outcome : Except TransportFault Unit}
    (h : s.connect outcome = some s') :
    Matched start s' (e.noted (.own (.connect outcome)) s s') := by
  have hplace := m.place
  have hframes := (quiet_connect h).frames
  unfold Session.connect at h
  split at h
  · rename_i hpoint
    cases h
    rw [hpoint] at hplace
    exact m.keep rfl hframes rfl rfl rfl id hplace
  · cases h
    exact m.keep rfl hframes rfl rfl rfl id trivial
  · cases h

theorem Matched.step (m : Matched start s e) (h : s.next event = some s') :
    Matched start s' (e.record event s s') := by
  -- The record of the writer is no part of the agreement.
  have hnoted : Matched start s' (e.noted event s s') := by
    cases event with
    | call rules draws => exact m.call h
    | own action =>
      cases hmain : action.isMain with
      | true =>
        cases action with
        | connect outcome => exact m.connect h
        | main draws nonce => exact m.main h
        | _ => cases hmain
      | false =>
        by_cases hcall : ∃ rules draws, action = .reregister rules draws
        · obtain ⟨rules, draws, rfl⟩ := hcall
          exact m.reregister h
        · exact m.beside hmain (fun rules draws hown => hcall ⟨rules, draws, hown⟩) h
  exact ⟨hnoted.bound, hnoted.pending, hnoted.table, hnoted.published, hnoted.place⟩

end step

/-! ## The order of the frames -/

/-- The manifests sent are those whose frames the writer has begun and, behind them, those whose
frames are in the queue, until the writer ends. -/
structure Lined (s : Session) (e : Exchange) : Prop where
  begun : e.begun <+: e.sent
  waiting : s.outgoing.isOpen = true → e.sent = e.begun ++ s.outgoing.queue.filterMap manifest?
  fits : ∀ frame ∈ s.outgoing.queue, frame.type = .registration → Envelope.fits frame.payload

section line
variable {s s' : Session} {e : Exchange} {event : Event}

theorem Lined.queues (l : Lined s e) (h : Queues s s')
    (hfits : ∀ frame ∈ queued s s', frame.type = .registration → Envelope.fits frame.payload) :
    Lined s' (e.record event s s') := by
  refine ⟨?_, ?_, ?_⟩
  · rw [Exchange.begun_record, h.begun, Exchange.sent_record, List.filterMap_nil, List.append_nil]
    exact l.begun.trans (List.prefix_append _ _)
  · intro hopen
    rw [h.isOpen] at hopen
    rw [Exchange.begun_record, h.begun, Exchange.sent_record, h.queue, List.filterMap_append,
      List.filterMap_nil, List.append_nil, l.waiting hopen, List.append_assoc]
  · intro frame hframe htype
    rw [h.queue] at hframe
    rcases List.mem_append.mp hframe with hframe | hframe
    · exact l.fits frame hframe htype
    · exact hfits frame hframe htype

/-- The writer has taken what it has begun off the head of the queue. -/
theorem Lined.taken (l : Lined s e) (hopen : s.outgoing.isOpen = true) (hqueued : queued s s' = [])
    (htaken : s.outgoing.queue.filterMap manifest? =
      (Session.begun s s').filterMap manifest? ++ s'.outgoing.queue.filterMap manifest?)
    (hrest : s'.outgoing.queue <:+ s.outgoing.queue) : Lined s' (e.record event s s') := by
  have hline : (e.record event s s').sent =
      (e.record event s s').begun ++ s'.outgoing.queue.filterMap manifest? := by
    rw [Exchange.begun_record, Exchange.sent_record, hqueued, List.filterMap_nil, List.append_nil,
      List.append_assoc, ← htaken]
    exact l.waiting hopen
  refine ⟨?_, fun _ => hline, fun frame hframe => l.fits frame (hrest.subset hframe)⟩
  rw [hline]
  exact List.prefix_append _ _

theorem Lined.write (l : Lined s e) (h : s.write = some s') :
    Lined s' (e.record event s s') := by
  obtain ⟨hopen, hqueued, htakes⟩ := takes_of_write h
  cases htakes with
  | @began frame head begins =>
    refine l.taken hopen hqueued ?_ (by rw [head]; exact List.suffix_cons _ _)
    rw [head, begins, ← List.filterMap_append, List.singleton_append]
  | @passed frame head long begins =>
    -- A Registration in the queue can be framed, so what is passed over is none.
    have hnone : manifest? frame = none := by
      refine if_neg fun htype => long (l.fits frame ?_ htype)
      rw [head]
      exact List.mem_cons_self
    refine l.taken hopen hqueued ?_ (by rw [head]; exact List.suffix_cons _ _)
    rw [head, begins, List.filterMap_cons, hnone, List.filterMap_nil, List.nil_append]
  | went same begins =>
    refine l.taken hopen hqueued ?_ (same ▸ List.suffix_rfl)
    rw [same, begins, List.filterMap_nil, List.nil_append]
  | ended shut empty begins =>
    refine ⟨?_, fun hagain => ?_, by simp [empty]⟩
    · simpa [hqueued, begins] using l.begun
    · rw [shut] at hagain
      cases hagain

theorem Lined.step (l : Lined s e) (h : s.next event = some s') :
    Lined s' (e.record event s s') := by
  cases event with
  | call rules draws =>
    obtain ⟨⟨result, t⟩, hcall, rfl⟩ := Option.map_eq_some_iff.mp h
    obtain ⟨-, ⟨-, resources, -, hfits, hqueued, rfl⟩ | ⟨-, rfl⟩⟩ := call_cases hcall
    · refine l.queues (queues_of_enqueue rfl) ?_
      rw [hqueued]
      intro frame hframe _
      rwa [List.mem_singleton.mp hframe]
    · refine l.queues (queues_of_eq rfl rfl) fun frame hframe htype => ?_
      exact absurd htype (noneQueued rfl frame hframe)
  | own action =>
    by_cases hwrite : action = .write
    · subst hwrite
      exact l.write h
    · exact l.queues (queues_of_step hwrite h) fun frame => fits_of_step h

end line

/-- In every run the registrar of a session that has come to dispatch holds the manifests without a
reply, oldest first, in the order in which their frames are queued and begun by the writer; and the
table in force is that of the last manifest that a reply accepts. A reply takes the oldest manifest,
whatever it says, and the session goes on; without a manifest to take it does nothing. A call queues
the frame of one more manifest, or is refused and does nothing. -/
theorem replies_in_wire_order {settings : Settings} {shared : Shared} {now : Duration}
    {capacity : Nat} {events : List Event} {s : Session} {e : Exchange}
    (hrun : Exchange.run events (start settings shared now capacity) {} = some (s, e)) :
    s.registrar.pending = (if s.reachedDispatching then e.unanswered else []) ∧
    e.begun <+: e.sent ∧
    (s.outgoing.isOpen = true → e.sent = e.begun ++ s.outgoing.queue.filterMap manifest?) ∧
    s.shared.access = e.table shared.access ∧
    (∀ frame u draws nonce, s.point = .dispatching → s.receive = some (.ok frame, u) →
      frame.type = .registrationResponse →
      ∃ t, s.main draws nonce = some t ∧ t.point = .dispatching ∧ t.phase = s.phase ∧
        t.registrar.pending = s.registrar.pending.tail ∧ (s.registrar.pending = [] → t = u)) ∧
    (∀ rules draws result t, s.call rules draws = some (result, t) →
      (result = .ok () ∧ ∃ resources : List Resource, resources.map (·.rule) = rules ∧
        queued s t = [Registrar.frame resources] ∧
        t.registrar.pending = s.registrar.pending ++ [resources]) ∨
      (∃ fault, result = .error fault) ∧ t = s) ∧
    (s.published = true → ∀ rules draws, s.call rules draws = s.reregister rules draws) := by
  have hmatched : Matched shared.access (start settings shared now capacity) {} := by
    refine ⟨Nat.le_refl _, rfl, rfl, ?_, rfl, rfl⟩
    intro hpublished
    cases hpublished
  have hlined : Lined (start settings shared now capacity) {} := by
    refine ⟨List.prefix_rfl, fun _ => rfl, ?_⟩
    intro frame hframe
    cases hframe
  have m := Exchange.preserved_of_run Matched.step hmatched hrun
  have l := Exchange.preserved_of_run Lined.step hlined hrun
  refine ⟨m.pending, l.begun, l.waiting, m.table, ?_, ?_,
    fun hpublished => call_of_published hpublished (m.published hpublished)⟩
  · intro frame u draws nonce hpoint hreceive htype
    have hmain : s.main draws nonce = some (dispatch frame u) := by
      simp only [Session.main, hpoint, await, hreceive]
    have hu : ∃ reader, u = { s with reader } := by
      unfold receive at hreceive
      split at hreceive <;> cases hreceive
      exact ⟨_, rfl⟩
    obtain ⟨reader, rfl⟩ := hu
    refine ⟨_, hmain, ?_⟩
    rw [dispatch_reply htype]
    refine ⟨hpoint, rfl, pending_answer .., fun hnone => ?_⟩
    simp only [Registrar.answer, hnone]
  · intro rules draws result t hcall
    obtain ⟨-, ⟨hok, resources, hrules, -, hqueued, rfl⟩ | hrefused⟩ := call_cases hcall
    · exact .inl ⟨hok, resources, hrules, hqueued, rfl⟩
    · exact .inr hrefused

def renewedRule (port : UInt16) : Rule := { name := "r", pattern := "p", host := "h", port }

/-- A session without rules comes to dispatch and is called upon three times; of the replies the
first refuses, the second cannot be read and the third accepts, and a fourth is for nobody. -/
def renewals : List Event :=
  [.own (.connect (.ok ())), .own (.main [] 0), .own (.main [] 0), .own (.main [] 0),
    .own (.deliver (Envelope.encode 0 .authorizationResponse
      (AuthorizationResponse.format.write ⟨.ok, none⟩))),
    .own (.main [] 0), .own (.main [] 0),
    .own (.deliver (Envelope.encode 1 .registrationResponse
      (RegistrationResponse.format.write ⟨.ok, none, none⟩))),
    .own (.main [] 0), .own (.main [] 0), .call [renewedRule 1] [7], .own .write,
    .own (.reregister [renewedRule 2] [8]),
    .own (.deliver (Envelope.encode 2 .registrationResponse
      (RegistrationResponse.format.write ⟨.serverError, none, none⟩))),
    .own (.main [] 0), .call [renewedRule 3] [9],
    .own (.deliver (Envelope.encode 3 .registrationResponse [])), .own (.main [] 0),
    .own (.deliver (Envelope.encode 4 .registrationResponse
      (RegistrationResponse.format.write ⟨.ok, none, none⟩))),
    .own (.main [] 0),
    .own (.deliver (Envelope.encode 5 .registrationResponse
      (RegistrationResponse.format.write ⟨.ok, none, none⟩))),
    .own (.main [] 0)]

theorem replies_in_wire_order_of_renewals :
    ∃ s e, Exchange.run renewals
        (start
          { credentials := ⟨"a", "u", "", "v"⟩, health := .ofParts 1 1, bufferSize := 1024 }
          { rules := [], pool := { capacity := 8, retryAttempts := 0, retryInterval := 1 } } 0 4096)
        {} = some (s, e) ∧
      s.reachedDispatching = true ∧ s.registrar.pending = [] ∧
      s.shared.access = .ofResources [⟨renewedRule 3, 9⟩] := by
  have hrun : Exchange.run renewals
      (start
        { credentials := ⟨"a", "u", "", "v"⟩, health := .ofParts 1 1, bufferSize := 1024 }
        { rules := [], pool := { capacity := 8, retryAttempts := 0, retryInterval := 1 } } 0 4096)
      {} = some (_, _) := rfl
  obtain ⟨hpending, -, -, haccess, -⟩ := replies_in_wire_order hrun
  exact ⟨_, _, hrun, rfl, hpending, haccess⟩

end TunnelAgent.Session
