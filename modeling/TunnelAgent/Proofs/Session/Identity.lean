import TunnelAgent.Proofs.Certificate.CommonName
import TunnelAgent.Proofs.Session.Wire

/-! # Nothing is written to a stranger

A session writes only to a peer whose certificate has been accepted. While there is no connection,
nothing is on the wire, whatever else happens; and where there is to be none, the session has
failed for the reason the connection has, with the access table as it was. -/

namespace TunnelAgent

namespace Session
open Identity

variable {s s' : Session} {d d' : Diary} {access : AccessTable} {fault : TransportFault}

/-- There is no connection, and if the attempt has come to its end, it is for this fault. -/
structure Unconnected (fault : TransportFault) (access : AccessTable) (s : Session) (d : Diary) :
    Prop where
  bare : Bare [] s d
  access : s.shared.access = access
  unreached : s.reachedDispatching = false
  unpublished : s.published = false
  still : s.monitor.ticking = none
  point : s.point = .connecting ∨
    s.point = .ended (.error (.ofConnect fault)) ∧ s.phase = .failed

/-- Nothing has been written: no byte is on the wire, and no frame has been sent. -/
theorem Unconnected.silent (h : Unconnected fault access s d) :
    ¬ (d.received ++ s.outgoing.pipe.held ≠ [] ∨ d.sent ≠ []) := by
  rintro (hbytes | hframes)
  · exact hbytes h.bare.output
  · exact hframes h.bare.sent

theorem ofConnect_ne_closed (fault : TransportFault) : SessionFault.ofConnect fault ≠ .closed := by
  cases fault <;> exact nofun

/-- An attempt to connect that comes to nothing ends the session. -/
theorem unconnected_of_fault (h : Unconnected fault access s d) (hpoint : s.point = .connecting) :
    Unconnected fault access (s.conclude (.ofConnect fault))
      (d.enter (.own (.connect (.error fault))) none s (s.conclude (.ofConnect fault))) := by
  have hturn : Turn s (.own (.connect (.error fault))) none (s.conclude (.ofConnect fault)) :=
    .unconnected hpoint
  have hbare := h.bare.turn hturn (.grows (grows_of_close rfl) rfl) (queued_of_queue_eq rfl)
  have hresult : ¬ (SessionFault.ofConnect fault = .closed ∧ s.shared.shutdown = true) :=
    fun hclosed => ofConnect_ne_closed fault hclosed.1
  exact ⟨hbare, h.access, h.unreached, h.unpublished, h.still,
    .inr ⟨by simp only [conclude, if_neg hresult], by simp only [conclude, if_neg hresult]⟩⟩

theorem access_of_turn {event : Event} {met : Option (Except Setback Frame)}
    (h : Turn s event met s') (hmain : event.action.isMain = false) :
    s'.shared.access = s.shared.access := by
  cases h with
  | written | watched | pinged | unpinged | failed | relayed | advanced | delivered | finished
  | taken | deserted | stopped | ruled | renewed | unrenewed => rfl
  | _ => cases hmain

theorem Unconnected.beside {event : Event} {met : Option (Except Setback Frame)}
    (h : Unconnected fault access s d) (hturn : Turn s event met s')
    (hmain : event.action.isMain = false) :
    Unconnected fault access s' (d.enter event met s s') ∧ s'.point = s.point := by
  obtain ⟨rfl, haside⟩ := hturn.aside hmain
  have hbare := h.bare.turn hturn (hturn.stirs fun _ _ => hmain)
    (haside.silent h.unreached h.unpublished h.still)
  refine ⟨⟨hbare, (access_of_turn hturn hmain).trans h.access, haside.reached.trans h.unreached,
    haside.published.trans h.unpublished, haside.still h.still, ?_⟩, haside.point⟩
  rw [haside.point, haside.phase]
  exact h.point

theorem Unconnected.next {event : Event} (h : Unconnected fault access s d)
    (hconnect : ∀ outcome, event = .own (.connect outcome) → outcome = .error fault)
    (hnext : s.next event = some s') :
    Unconnected fault access s' (d.record event s s') ∧
      (s'.point = .connecting →
        s.point = .connecting ∧ ∀ outcome, event ≠ .own (.connect outcome)) := by
  cases hmain : event.action.isMain with
  | false =>
    obtain ⟨hkept, hpoint⟩ := h.beside (turn_of_next hnext) hmain
    refine ⟨hkept, fun hwaiting => ⟨hpoint.symm.trans hwaiting, ?_⟩⟩
    rintro outcome rfl
    cases hmain
  | true =>
    cases event with
    | call rules draws => cases hmain
    | own action =>
      cases action with
      | connect outcome =>
        obtain rfl := hconnect outcome rfl
        rcases h.point with hpoint | ⟨hpoint, -⟩
        · simp only [Session.next, step, connect, hpoint, Option.some.injEq] at hnext
          subst hnext
          exact ⟨unconnected_of_fault h hpoint, fun hwaiting => by cases hwaiting⟩
        · simp only [Session.next, step, connect, hpoint] at hnext
          cases hnext
      | main draws nonce =>
        rcases h.point with hpoint | ⟨hpoint, -⟩ <;>
          simp only [Session.next, step, main, hpoint] at hnext <;> cases hnext
      | _ => cases hmain

/-- A run in which every attempt to connect comes to nothing; if there is one, the session ends. -/
theorem Unconnected.run {events : List Event} (h : Unconnected fault access s d)
    (hconnects : ∀ outcome, .own (.connect outcome) ∈ events → outcome = .error fault)
    (hrun : Diary.run events s d = some (s', d')) :
    Unconnected fault access s' d' ∧
      (s'.point = .connecting →
        s.point = .connecting ∧ ∀ outcome, .own (.connect outcome) ∉ events) := by
  induction events generalizing s d with
  | nil =>
    cases hrun
    exact ⟨h, fun hpoint => ⟨hpoint, fun _ => List.not_mem_nil⟩⟩
  | cons event events ih =>
    rw [Diary.run] at hrun
    split at hrun
    · cases hrun
    · rename_i t hnext
      obtain ⟨hkept, hwaits⟩ := h.next
        (fun outcome houtcome => hconnects outcome (houtcome ▸ List.mem_cons_self)) hnext
      obtain ⟨hlater, hwaiting⟩ :=
        ih hkept (fun outcome hmem => hconnects outcome (List.mem_cons_of_mem _ hmem)) hrun
      refine ⟨hlater, fun hpoint => ?_⟩
      obtain ⟨hbefore, hnone⟩ := hwaiting hpoint
      obtain ⟨hstart, hother⟩ := hwaits hbefore
      refine ⟨hstart, fun outcome hmem => ?_⟩
      rcases List.mem_cons.mp hmem with hfirst | hrest
      · exact hother outcome hfirst.symm
      · exact hnone outcome hrest

theorem unconnected_start (fault : TransportFault) (settings : Settings) (shared : Shared)
    (now : Duration) (capacity : Nat) :
    Unconnected fault shared.access (start settings shared now capacity) {} where
  bare := ⟨rfl, .idle rfl rfl rfl rfl, rfl, nofun⟩
  access := rfl
  unreached := rfl
  unpublished := rfl
  still := rfl
  point := .inl rfl

/-- What a session with verification on writes, and to whom, whatever else happens in it: nothing,
unless the peer's certificate shows the host's name. Such a certificate is accepted, and any other
ends the session, which has then failed for the reason of the refusal and left the access table as
it was. -/
theorem writes_only_to_host {c : Config} (hsecure : c.tls.insecure = false)
    {readers : Readers} {files : String → Except FileFault Bytes} {dial : Except TransportFault Unit}
    {nameFault : Option String} {peer : Peer} {shared : Shared} {now : Duration} {capacity : Nat}
    {events : List Event}
    (hconnects : ∀ outcome, .own (.connect outcome) ∈ events →
      outcome = Agent.connect readers files dial nameFault peer c)
    (hrun : Diary.run events (start (Agent.sessionSettings c) shared now capacity) {} =
      some (s, d)) :
    let outcome := Agent.connect readers files dial nameFault peer c
    let wrote := d.received ++ s.outgoing.pipe.held ≠ [] ∨ d.sent ≠ []
    (wrote → ∃ chain, (chain = .valid ∨ chain = .nameMismatch) ∧
      peer = .presents chain (some c.gateway.host)) ∧
    ∀ (check : Certificate → ChainVerdict) (certificate : Certificate),
      peer = certificate.shown check →
      (wrote → certificate.Proves c.gateway.host (check certificate)) ∧
      (Agent.Reaches readers files dial nameFault c →
        certificate.Proves c.gateway.host (check certificate) →
          outcome = .ok () ∧ (s.point = .connecting → s.step (.connect outcome) =
            some { s with phase := .connected, point := .greeting (Utf8.encode preamble) })) ∧
      (Agent.Reaches readers files dial nameFault c →
        ¬ certificate.Proves c.gateway.host (check certificate) →
          ∃ text, (∀ reason, check certificate = .refused reason → text = reason) ∧
            outcome = .error (.tls text) ∧ ¬ wrote ∧ s.shared.access = shared.access ∧
            ((∃ outcome, .own (.connect outcome) ∈ events) →
              s.phase = .failed ∧ s.result? = some (.error (.tls text)) ∧
                (SessionFault.tls text).isCredentialFault = false)) := by
  intro outcome wrote
  have hidle : ∀ fault, outcome = .error fault →
      Unconnected fault shared.access s d ∧
        (s.point = .connecting → ∀ outcome, .own (.connect outcome) ∉ events) := by
    intro fault hfault
    obtain ⟨hkept, hwaiting⟩ :=
      (unconnected_start fault (Agent.sessionSettings c) shared now capacity).run
        (fun outcome hmem => (hconnects outcome hmem).trans hfault) hrun
    exact ⟨hkept, fun hpoint => (hwaiting hpoint).2⟩
  have hpeer : wrote → ∃ chain, (chain = .valid ∨ chain = .nameMismatch) ∧
      peer = .presents chain (some c.gateway.host) := by
    intro hwrote
    cases hconnect : outcome with
    | ok _ => exact Agent.peer_of_connect hsecure hconnect
    | error fault => exact absurd hwrote (hidle fault hconnect).1.silent
  refine ⟨hpeer, fun check certificate hshown => ⟨fun hwrote => ?_, ?_⟩⟩
  · obtain ⟨chain, hchain, hpresented⟩ := hpeer hwrote
    obtain ⟨rfl, hname⟩ := Peer.presents.inj (hshown.symm.trans hpresented)
    exact ⟨hchain, Certificate.commonName_eq_some_iff.mp hname⟩
  · have hconnect : Agent.Reaches readers files dial nameFault c →
        outcome = shakeHands c.gateway.host false (certificate.shown check) := by
      intro hreaches
      rw [← hshown, ← hsecure]
      exact Agent.connect_of_reaches hreaches peer
    rcases shakeHands_shown c.gateway.host check certificate with
      ⟨hproves, hshake⟩ | ⟨hnot, text, hshake, hreason⟩
    · refine ⟨fun hreaches _ => ?_, fun _ hnot => absurd hproves hnot⟩
      have haccepted := (hconnect hreaches).trans hshake
      refine ⟨haccepted, fun hpoint => ?_⟩
      rw [haccepted]
      simp only [step, Session.connect, hpoint]
    · refine ⟨fun _ hproves => absurd hproves hnot, fun hreaches _ => ?_⟩
      have hrefused := (hconnect hreaches).trans hshake
      obtain ⟨hkept, hwaiting⟩ := hidle _ hrefused
      refine ⟨text, hreason, hrefused, hkept.silent, hkept.access, ?_⟩
      rintro ⟨attempt, hmem⟩
      rcases hkept.point with hpoint | ⟨hpoint, hphase⟩
      · exact absurd hmem (hwaiting hpoint attempt)
      · exact ⟨hphase, by rw [result?, hpoint]; rfl, rfl⟩

/-- The host is the first of two common names, and none of the alternative names. -/
def namesake : Certificate :=
  { commonNames := some [some "h", some "g"], alternativeNames := ["g"] }

/-- Without certificates of its own a configuration needs no readers. -/
def noReaders : Readers where
  bundle _ := .error "no reader"
  anchor _ := .error "no reader"

/-- The outcome of connecting to a peer with this certificate, given what its chain comes to. -/
def meetNamesake (chain : ChainVerdict) : Except TransportFault Unit :=
  Agent.connect noReaders (fun _ => .ok []) (.ok ()) none (namesake.shown fun _ => chain) plainConfig

/-- A chain that is valid for another name does not keep the preamble back; one that has expired
does, and the session fails. -/
theorem writes_only_to_host_of_namesake :
    let first := start (Agent.sessionSettings plainConfig) (Agent.shared plainConfig) 0 64
    (∃ s d, Diary.run [.own (.connect (meetNamesake .nameMismatch)), .own (.main [] 0)] first {} =
        some (s, d) ∧
      s.outgoing.pipe.held = Utf8.encode preamble ∧ namesake.Proves "h" .nameMismatch) ∧
    ∃ s d, Diary.run [.own (.connect (meetNamesake (.refused "Expired")))] first {} = some (s, d) ∧
      d.received ++ s.outgoing.pipe.held = [] ∧ s.result? = some (.error (.tls "Expired")) := by
  intro first
  have hreaches : Agent.Reaches noReaders (fun _ => .ok []) (.ok ()) none plainConfig :=
    ⟨⟨_, rfl, rfl⟩, rfl, rfl⟩
  constructor
  · have hrun : Diary.run [.own (.connect (meetNamesake .nameMismatch)), .own (.main [] 0)] first {} =
        some (_, _) := rfl
    have hconnects : ∀ outcome, Event.own (.connect outcome) ∈
        [.own (.connect (meetNamesake .nameMismatch)), .own (.main [] 0)] →
        outcome = meetNamesake .nameMismatch := by
      intro outcome hmem
      simpa using hmem
    obtain ⟨-, hcertificate⟩ := writes_only_to_host rfl hconnects hrun
    have hwrote := (hcertificate (fun _ => .nameMismatch) namesake rfl).1
    exact ⟨_, _, hrun, rfl, hwrote (.inl (by decide))⟩
  · have hrun : Diary.run [.own (.connect (meetNamesake (.refused "Expired")))] first {} =
        some (_, _) := rfl
    have hconnects : ∀ outcome, Event.own (.connect outcome) ∈
        [.own (.connect (meetNamesake (.refused "Expired")))] →
        outcome = meetNamesake (.refused "Expired") := by
      intro outcome hmem
      simpa using hmem
    obtain ⟨-, hcertificate⟩ := writes_only_to_host rfl hconnects hrun
    obtain ⟨-, -, hrefused⟩ := hcertificate (fun _ => .refused "Expired") namesake rfl
    have hstranger : ¬ namesake.Proves "h" (.refused "Expired") := by
      rintro ⟨hchain | hchain, -⟩ <;> cases hchain
    obtain ⟨text, htext, -, -, -, hended⟩ := hrefused hreaches hstranger
    obtain rfl := htext "Expired" rfl
    exact ⟨_, _, hrun, rfl, (hended ⟨_, List.mem_singleton.mpr rfl⟩).2.1⟩

end Session

end TunnelAgent
