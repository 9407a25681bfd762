import TunnelAgent.Proofs.Session.Progress
import TunnelAgent.Proofs.Session.Reading

/-! # A session's end and its cause

The result of a session names what its main task has met: a refusal, a failed health check, a stream
that violates the envelope format, a transport closed on this side, or a network that fails. -/

namespace TunnelAgent

/-- Bytes that are no envelopes, or an end inside of one. -/
def FrameFault.IsViolation (fault : FrameFault) : Prop :=
  fault ≠ .connectionClosed ∧ ∀ failure, fault ≠ .io failure

namespace SessionFault

/-- A fault of the transport is a framing fault of the session if it is one of the stream, and never
one of the credentials. -/
theorem isFramingFault_ofTransport (fault : TransportFault) :
    (ofTransport fault).isFramingFault = fault.isFramingFault ∧
      (ofTransport fault).isCredentialFault = false := by
  cases fault with
  | frame fault => cases fault <;> exact ⟨rfl, rfl⟩
  | _ => exact ⟨rfl, rfl⟩

theorem ofTransport_violation {fault : FrameFault} (h : fault.IsViolation) :
    ∃ text, ofTransport (.frame fault) = framing text := by
  obtain ⟨hclean, hio⟩ := h
  cases fault with
  | connectionClosed => exact absurd rfl hclean
  | io failure => exact absurd rfl (hio failure)
  | _ => exact ⟨_, rfl⟩

theorem ofTransport_of_not_violation {fault : FrameFault} (h : ¬ fault.IsViolation) :
    ∃ text, ofTransport (.frame fault) = transport text := by
  cases fault with
  | connectionClosed | io => exact ⟨_, rfl⟩
  | _ => exact absurd ⟨nofun, nofun⟩ h

end SessionFault

namespace Session

inductive Cause where
  | authentication
  | registration
  | healthCheck
  | framing
  /-- the transport has been closed on this side -/
  | closed
  /-- the network, or a frame that its handler cannot read -/
  | transport
  deriving DecidableEq, Repr

/-- The cause that a result names. -/
def cause? : Except SessionFault Unit → Option Cause
  | .ok () => some .closed
  | .error (.authentication _) => some .authentication
  | .error (.registration _) => some .registration
  | .error (.healthCheck _) => some .healthCheck
  | .error (.framing _) => some .framing
  | .error .closed => some .closed
  | .error (.transport _) => some .transport
  | .error (.tls _) => none
  | .error (.connect _) => none
  | .error (.invalidTransition ..) => none

namespace Diary

/-- The first frame is no authorization reply that says Ok. -/
def Refused (d : Diary) : Prop := ∃ first, d.frames[0]? = some first ∧ ¬ Admitted first

/-- The second frame, after such a reply, is no registration reply that says Ok. -/
def Declined (d : Diary) : Prop :=
  ∃ first second, d.frames[0]? = some first ∧ Admitted first ∧ d.frames[1]? = some second ∧
    ¬ Accepted second

/-- A frame behind these cannot be read by its handler. -/
def Spoiled (d : Diary) : Prop := ∃ frame ∈ d.frames.drop 2, Garbled frame

/-- What must have happened for a session to end for this cause. -/
def Calls (d : Diary) : Cause → Prop
  | .authentication => d.Refused
  | .registration => d.Declined
  | .healthCheck => d.unwell = true
  | .framing =>
    d.setback = some .oversized ∨ ∃ fault, d.setback = some (.unread fault) ∧ fault.IsViolation
  | .closed => d.setback = some .closed ∧ d.unwell = false
  | .transport =>
    d.setback = some .unwritten ∨ d.setback = some .stranded ∨
      (∃ fault, d.setback = some (.unread fault) ∧ ¬ fault.IsViolation) ∨ d.Spoiled

end Diary

variable {settings : Settings} {s : Session} {d : Diary} {result : Except SessionFault Unit}

theorem Favourable.fine (h : Favourable d.frames) : ¬ d.Refused ∧ ¬ d.Declined ∧ ¬ d.Spoiled := by
  refine ⟨?_, ?_, ?_⟩
  · rintro ⟨first, hfirst, hrefused⟩
    exact hrefused (h.first first hfirst)
  · rintro ⟨first, second, -, -, hsecond, hdeclined⟩
    exact hdeclined (h.second second hsecond)
  · rintro ⟨frame, hframe, hgarbled⟩
    exact h.later frame hframe hgarbled

theorem Leads.cause {setback : Setback} {fault : SessionFault} (h : Leads setback fault)
    (hset : d.setback = some setback) (hwell : d.unwell = false) (hfav : Favourable d.frames) :
    ∃ cause, cause? (outcome fault d.stopping) = some cause ∧
      ∀ other, d.Calls other ↔ other = cause := by
  obtain ⟨hrefused, hdeclined, hspoiled⟩ := hfav.fine
  cases h with
  | unwritten | stranded =>
    refine ⟨.transport, rfl, ?_⟩
    intro other
    cases other <;> simp [Diary.Calls, hset, hwell, hrefused, hdeclined]
  | oversized =>
    refine ⟨.framing, rfl, ?_⟩
    intro other
    cases other <;> simp [Diary.Calls, hset, hwell, hrefused, hdeclined, hspoiled]
  | @unread fault =>
    by_cases hviolation : fault.IsViolation
    · obtain ⟨text, hfault⟩ := SessionFault.ofTransport_violation hviolation
      rw [hfault]
      refine ⟨.framing, rfl, ?_⟩
      intro other
      cases other <;> simp [Diary.Calls, hset, hwell, hrefused, hdeclined, hspoiled, hviolation]
    · obtain ⟨text, hfault⟩ := SessionFault.ofTransport_of_not_violation hviolation
      rw [hfault]
      refine ⟨.transport, rfl, ?_⟩
      intro other
      cases other <;> simp [Diary.Calls, hset, hwell, hrefused, hdeclined, hviolation]
  | closed =>
    refine ⟨.closed, ?_, ?_⟩
    · unfold outcome
      split <;> rfl
    · intro other
      cases other <;> simp [Diary.Calls, hset, hwell, hrefused, hdeclined, hspoiled]

/-- A session that has ended has ended for one cause, which its result names. -/
theorem Ends.cause (h : Ends d result) :
    ∃ cause, cause? result = some cause ∧ ∀ other, d.Calls other ↔ other = cause := by
  cases h with
  | hindered hset hleads hwell hfav => exact hleads.cause hset hwell hfav
  | unwell hset hunwell hfav =>
    obtain ⟨hrefused, hdeclined, hspoiled⟩ := hfav.fine
    refine ⟨.healthCheck, rfl, ?_⟩
    intro other
    cases other <;> simp [Diary.Calls, hset, hunwell, hrefused, hdeclined, hspoiled]
  | @refused frame text hset hwell hread hbad =>
    have hrefused : d.Refused := ⟨frame, by rw [hread]; rfl, hbad⟩
    have hdeclined : ¬ d.Declined := by
      rintro ⟨first, second, -, -, hsecond, -⟩
      rw [hread] at hsecond
      cases hsecond
    have hspoiled : ¬ d.Spoiled := by
      rintro ⟨later, hlater, -⟩
      rw [hread] at hlater
      cases hlater
    refine ⟨.authentication, rfl, ?_⟩
    intro other
    cases other <;> simp [Diary.Calls, hset, hwell, hrefused, hdeclined, hspoiled]
  | @declined first second text hset hwell hread hadmitted hbad =>
    have hrefused : ¬ d.Refused := by
      rintro ⟨frame, hframe, hrefused⟩
      rw [hread] at hframe
      cases hframe
      exact hrefused hadmitted
    have hdeclined : d.Declined :=
      ⟨first, second, by rw [hread]; rfl, hadmitted, by rw [hread]; rfl, hbad⟩
    have hspoiled : ¬ d.Spoiled := by
      rintro ⟨later, hlater, -⟩
      rw [hread] at hlater
      cases hlater
    refine ⟨.registration, rfl, ?_⟩
    intro other
    cases other <;> simp [Diary.Calls, hset, hwell, hrefused, hdeclined, hspoiled]
  | @spoiled frames frame text hset hwell hread hlength hfav hgarbled =>
    have hrefused : ¬ d.Refused := by
      rintro ⟨first, hfirst, hrefused⟩
      rw [hread, List.getElem?_append_left (by omega)] at hfirst
      exact hrefused (hfav.first first hfirst)
    have hdeclined : ¬ d.Declined := by
      rintro ⟨first, second, -, -, hsecond, hdeclined⟩
      rw [hread, List.getElem?_append_left (by omega)] at hsecond
      exact hdeclined (hfav.second second hsecond)
    have hspoiled : d.Spoiled := by
      refine ⟨frame, ?_, hgarbled⟩
      rw [hread, List.drop_append_of_le_length hlength]
      exact List.mem_append_right _ List.mem_cons_self
    refine ⟨.transport, rfl, ?_⟩
    intro other
    cases other <;> simp [Diary.Calls, hset, hwell, hrefused, hdeclined, hspoiled]

/-- As long as a session has not ended, nothing has called for its end but a failed monitor. -/
theorem Course.uncalled (h : Course settings s d) (hgoing : s.result? = none) {cause : Cause}
    (hcalls : d.Calls cause) : cause = .healthCheck := by
  have hquiet : d.setback = none → Favourable d.frames → cause = .healthCheck := by
    intro hnone hfav
    obtain ⟨hrefused, hdeclined, hspoiled⟩ := hfav.fine
    revert hcalls
    cases cause <;> simp [Diary.Calls, hnone, hrefused, hdeclined, hspoiled]
  cases h with
  | outset hshake houtset hnone => exact hquiet hnone (houtset.frames ▸ hshake.favourable)
  | dispatching hdisp => exact hquiet hdisp.unhindered hdisp.favourable
  | barred hsettled | left hsettled => cases hgoing.symm.trans hsettled.result?

theorem Ends.ok_iff (h : Ends d result) :
    result = .ok () ↔ d.Calls .closed ∧ d.stopping = true := by
  obtain ⟨cause, hcause, hcalls⟩ := h.cause
  have hclosed : d.Calls .closed → result = outcome .closed d.stopping := by
    rintro ⟨hset, hwell⟩
    cases h with
    | hindered hset' hleads =>
      cases hset'.symm.trans hset
      cases hleads
      rfl
    | unwell _ hunwell => cases hwell.symm.trans hunwell
    | refused hnone | declined hnone | spoiled hnone => cases hnone.symm.trans hset
  constructor
  · rintro rfl
    cases hcause
    have hcalled := (hcalls .closed).mpr rfl
    refine ⟨hcalled, Bool.of_not_eq_false fun hgoing => ?_⟩
    have hresult := hclosed hcalled
    rw [hgoing] at hresult
    cases hresult
  · rintro ⟨hcalled, hstopping⟩
    rw [hclosed hcalled, hstopping]
    rfl

/-- The credentials are at fault if the gateway has refused them, and then nothing else is. -/
theorem Ends.isCredentialFault_iff {fault : SessionFault} (h : Ends d (.error fault)) :
    (fault.isCredentialFault = true ↔ d.Refused) ∧
      (d.setback ≠ none → fault.isCredentialFault = false) := by
  have hiff : fault.isCredentialFault = true ↔ d.Refused := by
    obtain ⟨cause, hcause, hcalls⟩ := h.cause
    have hnames : fault.isCredentialFault = true ↔ cause = .authentication := by
      cases fault <;> cases hcause <;> simp [SessionFault.isCredentialFault]
    exact hnames.trans (eq_comm.trans (hcalls .authentication).symm)
  refine ⟨hiff, ?_⟩
  intro hset
  refine Bool.eq_false_iff.mpr fun hcredential => ?_
  generalize (.error fault : Except SessionFault Unit) = result at h
  cases h with
  | hindered _ _ _ hfav | unwell _ _ hfav => exact hfav.fine.1 (hiff.mp hcredential)
  | refused hnone | declined hnone | spoiled hnone => exact hset hnone

/-- The handler of SocketData takes whatever can be read. -/
theorem main_of_socketData {frame : Frame} {u : Session} (draws : List UInt64) (nonce : UInt64)
    (hpoint : s.point = .dispatching) (hreceive : s.receive = some (.ok frame, u))
    (htype : frame.type = .socketData) {data : SocketData}
    (hdecode : SocketData.format.decode frame.payload = .ok data) :
    ∃ t, s.main draws nonce = some t ∧ t.point = .dispatching := by
  have hu : u.point = s.point := by
    unfold receive at hreceive
    split at hreceive <;> cases hreceive
    rfl
  have hfind : handlers.find? .socketData = some handleSocketData := rfl
  have hdispatch : handlers.dispatch frame u = (.ok (), { u with relay := u.relay.take u.now data }) := by
    simp only [Dispatch.Table.dispatch, htype, hfind, handleSocketData, Relay.handle, hdecode]
  refine ⟨{ u with relay := u.relay.take u.now data }, ?_, hu.trans hpoint⟩
  simp only [main, hpoint, await, hreceive, dispatch, hdispatch]

/-- A session's result names the cause of its end, whatever the gateway sends, in whatever order
things happen beside. The frames and the fault in the diary are those that a decoder finds in the
gateway's stream. A writer that stops early shows as `stranded`, or as a transport found closed. -/
theorem ends_for_cause {settings : Settings} {shared : Shared} {now : Duration} {capacity : Nat}
    {events : List Event}
    (hrun : Diary.run (.own (.connect (.ok ())) :: events) (start settings shared now capacity) {} =
      some (s, d)) :
    (∀ result, s.result? = some result →
      (∃ cause, cause? result = some cause) ∧
      (∀ cause, cause? result = some cause ↔ d.Calls cause) ∧
      (result = .ok () ↔ d.Calls .closed ∧ d.stopping = true)) ∧
    (s.result? = none → ∀ cause, d.Calls cause → cause = .healthCheck) ∧
    (Decoder.readings false d.decoded.length {} { bytes := d.stream, finish := d.finish }).map
      (·.decoded) = d.decoded ∧
    (∀ fault, (SessionFault.ofTransport fault).isFramingFault = fault.isFramingFault ∧
      (SessionFault.ofTransport fault).isCredentialFault = false) ∧
    (∀ fault, s.result? = some (.error fault) →
      (fault.isCredentialFault = true ↔ d.Refused) ∧
      (d.setback ≠ none → fault.isCredentialFault = false)) ∧
    (∀ frame u data draws nonce, s.point = .dispatching → s.receive = some (.ok frame, u) →
      frame.type = .socketData → SocketData.format.decode frame.payload = .ok data →
      ∃ t, s.main draws nonce = some t ∧ t.point = .dispatching) := by
  obtain ⟨-, hcourse⟩ := course_of_run hrun
  refine ⟨?_, ?_, (reads_of_run hrun).readings, SessionFault.isFramingFault_ofTransport, ?_, ?_⟩
  · intro result hresult
    obtain ⟨-, hends⟩ := hcourse.settled hresult
    obtain ⟨cause, hcause, hcalls⟩ := hends.cause
    refine ⟨⟨cause, hcause⟩, fun other => ?_, hends.ok_iff⟩
    rw [hcause, Option.some.injEq, hcalls]
    exact eq_comm
  · intro hgoing cause hcalls
    exact hcourse.uncalled hgoing hcalls
  · intro fault hresult
    obtain ⟨-, hends⟩ := hcourse.settled hresult
    exact hends.isCredentialFault_iff
  · intro frame u data draws nonce hpoint hreceive htype hdecode
    exact main_of_socketData draws nonce hpoint hreceive htype hdecode

/-- The gateway leaves in the middle of an envelope. -/
def abandoned : List Event :=
  letIn ++ [.own (.deliver ((Envelope.encode 2 .healthCheck []).take 9)),
    .own (.gatewayEnds .eof), .own (.main [] 0)]

theorem ends_for_cause_abandoned :
    ∃ s d, Diary.run (.own (.connect (.ok ())) :: abandoned)
        (start plainSettings plainShared 0 4096) {} = some (s, d) ∧
      s.result? = some (.error (.framing "stream ended in the middle of an envelope")) ∧
      d.Calls .framing ∧ ¬ d.Refused := by
  have hrun : Diary.run (.own (.connect (.ok ())) :: abandoned)
      (start plainSettings plainShared 0 4096) {} = some (_, _) := rfl
  obtain ⟨hcause, -, -, -, hcredential, -⟩ := ends_for_cause hrun
  obtain ⟨-, hcalls, -⟩ := hcause _ rfl
  refine ⟨_, _, hrun, rfl, (hcalls .framing).mp rfl, ?_⟩
  intro hrefused
  cases (hcredential _ rfl).1.mpr hrefused

end Session

end TunnelAgent
