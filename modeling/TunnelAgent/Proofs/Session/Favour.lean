import TunnelAgent.Proofs.Frame.Ending
import TunnelAgent.Proofs.Frame.RoundTrip
import TunnelAgent.Session.Handshake

/-! # A gateway in the agent's favour

Two replies decide whether a session comes to dispatch: the first two frames of the gateway's
stream must be an authorization and a registration reply, and both must say Ok. -/

namespace TunnelAgent

theorem Decoder.frame_of_readings {d : Decoder} {s : Source} {n : Nat} {frame : Frame}
    {rest : List Decoded}
    (h : (readings false (n + 1) d s).map (·.decoded) = .frame frame :: rest) :
    ∃ d' u, d.readFrame s = (.frame frame, d', u) ∧ (readings false n d' u).map (·.decoded) = rest := by
  rcases hread : d.readFrame s with ⟨decoded, d', u⟩
  rw [readings, hread, List.map_cons, List.cons.injEq] at h
  obtain ⟨rfl, hrest⟩ := h
  exact ⟨d', u, rfl, hrest⟩

/-- What begins with an envelope begins with one only. -/
theorem Envelope.encode_append_inj {sequence : UInt64} {type type' : FrameType}
    {payload payload' rest rest' : Bytes} (hfits : fits payload) (hfits' : fits payload')
    (h : encode sequence type payload ++ rest = encode sequence type' payload' ++ rest') :
    type = type' ∧ payload = payload' ∧ rest = rest' := by
  obtain ⟨u, hread, -⟩ := Decoder.readFrame_of_envelope (d := ⟨sequence⟩)
    (s := { bytes := encode sequence type payload ++ rest, finish := .pending }) rfl hfits
  obtain ⟨u', hread', -⟩ := Decoder.readFrame_of_envelope (d := ⟨sequence⟩)
    (s := { bytes := _, finish := .pending }) h hfits'
  rw [hread] at hread'
  cases hread'
  exact ⟨rfl, rfl, List.append_cancel_left h⟩

namespace Session
open Envelope

/-- The payload of a reply that admits the agent. -/
def Admits (payload : Bytes) : Prop :=
  ∃ response, AuthorizationResponse.format.decode payload = .ok response ∧ response.result = .ok

/-- The payload of a reply that accepts the manifest. -/
def Accepts (payload : Bytes) (reply : RegistrationResponse) : Prop :=
  RegistrationResponse.format.decode payload = .ok reply ∧ reply.result = .ok

/-- The first two frames that a decoder finds in the stream are in the agent's favour. -/
def Favours (stream : Bytes) (reply : RegistrationResponse) : Prop :=
  ∃ p q, (Decoder.readings false 2 {} { bytes := stream, finish := .pending }).map (·.decoded) =
      [.frame ⟨.authorizationResponse, 0, p⟩, .frame ⟨.registrationResponse, 1, q⟩] ∧
    Admits p ∧ Accepts q reply

theorem checkAuthorization_eq_ok_iff {frame : Frame} :
    checkAuthorization frame = .ok () ↔
      frame.type = .authorizationResponse ∧ Admits frame.payload := by
  unfold checkAuthorization expectReply Admits
  by_cases htype : frame.type = .authorizationResponse
  · rw [if_pos htype]
    cases AuthorizationResponse.format.decode frame.payload with
    | error e => simp
    | ok response =>
      by_cases hresult : response.result = .ok
      · simp [htype, hresult]
      · simp [hresult]
  · simp [htype]

theorem checkRegistration_eq_ok_iff {frame : Frame} {settings : Option HealthSettings} :
    checkRegistration frame = .ok settings ↔ frame.type = .registrationResponse ∧
      ∃ reply, Accepts frame.payload reply ∧ reply.healthCheck = settings := by
  unfold checkRegistration expectReply Accepts
  by_cases htype : frame.type = .registrationResponse
  · rw [if_pos htype]
    cases RegistrationResponse.format.decode frame.payload with
    | error e => simp
    | ok reply =>
      by_cases hresult : reply.result = .ok
      · simp only [if_pos hresult]
        constructor
        · rintro ⟨rfl⟩
          exact ⟨htype, reply, ⟨rfl, hresult⟩, rfl⟩
        · rintro ⟨-, _, ⟨⟨rfl⟩, -⟩, rfl⟩
          rfl
      · simp [hresult]
  · simp [htype]

/-- The two replies stand at the front of the stream, as whole envelopes. -/
theorem favours_iff {stream : Bytes} {reply : RegistrationResponse} :
    Favours stream reply ↔ ∃ p q rest,
      stream = encode 0 .authorizationResponse p ++ (encode 1 .registrationResponse q ++ rest) ∧
        fits p ∧ fits q ∧ Admits p ∧ Accepts q reply := by
  constructor
  · rintro ⟨p, q, hreads, hp, hq⟩
    obtain ⟨d, u, hfirst, hreads⟩ := Decoder.frame_of_readings hreads
    obtain ⟨d', u', hsecond, -⟩ := Decoder.frame_of_readings hreads
    obtain ⟨hpfits, -, rfl, -, hbytes⟩ := Decoder.envelope_of_readFrame hfirst
    obtain ⟨hqfits, -, -, -, hrest⟩ := Decoder.envelope_of_readFrame hsecond
    exact ⟨p, q, u'.bytes, hbytes.trans (congrArg _ hrest), hpfits, hqfits, hp, hq⟩
  · rintro ⟨p, q, rest, hb, hpfits, hqfits, hp, hq⟩
    refine ⟨p, q, ?_, hp, hq⟩
    obtain ⟨u, hfirst, hbytes, -⟩ := Decoder.readFrame_of_envelope (d := {})
      (s := { bytes := stream, finish := .pending }) hb hpfits
    have hu : u.bytes = encode 1 .registrationResponse q ++ rest := by
      rw [hbytes, hb, List.drop_left]
    obtain ⟨u', hsecond, -⟩ := Decoder.readFrame_of_envelope (d := ⟨1⟩) hu hqfits
    rw [Decoder.readings_of_frame 1 hfirst]
    exact congrArg (_ :: ·) (Decoder.readings_of_frame 0 hsecond)

theorem Favours.append {stream : Bytes} {reply : RegistrationResponse} (h : Favours stream reply)
    (more : Bytes) : Favours (stream ++ more) reply := by
  obtain ⟨p, q, rest, hb, hrest⟩ := favours_iff.mp h
  refine favours_iff.mpr ⟨p, q, rest ++ more, ?_, hrest⟩
  rw [hb, List.append_assoc, List.append_assoc]

end Session

end TunnelAgent
