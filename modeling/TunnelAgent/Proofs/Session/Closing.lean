import TunnelAgent.Proofs.Session.Registering

/-! # A closed transport

No step of a session opens its transport again, and nothing is ever received on a closed one: not a
frame that is there already, nor a fault of the stream. -/

namespace TunnelAgent.Session

variable {s s' : Session}

/-- What the main task gets when it asks for a frame. -/
theorem receive_cases (s : Session) :
    (s.outgoing.closed = true ∧ s.receive = some (.error .aborted, s)) ∨
      s.outgoing.closed = false ∧
        ((∃ d u, s.reader.decoder.readFrame s.reader.source = (.pending, d, u) ∧ s.receive = none) ∨
          (∃ fault d u, s.reader.decoder.readFrame s.reader.source = (.fault fault, d, u) ∧
            s.receive = some (.error (.frame fault),
              { s with reader := { s.reader with decoder := d, source := u } })) ∨
          ∃ frame d u, s.reader.decoder.readFrame s.reader.source = (.frame frame, d, u) ∧
            s.receive = some (.ok frame, { s with reader :=
              ⟨d, u, s.reader.bytesReceived + Envelope.size frame.payload⟩ })) := by
  cases hclosed : s.outgoing.closed with
  | true => exact .inl ⟨rfl, by simp only [receive, Reader.readOne, hclosed, if_true]⟩
  | false =>
    refine .inr ⟨rfl, ?_⟩
    rcases hread : s.reader.decoder.readFrame s.reader.source with ⟨decoded, d, u⟩
    cases decoded with
    | pending =>
      exact .inl ⟨d, u, rfl, by simp only [receive, Reader.readOne, hclosed, hread]; rfl⟩
    | fault fault =>
      exact .inr (.inl ⟨fault, d, u, rfl, by simp only [receive, Reader.readOne, hclosed, hread]; rfl⟩)
    | frame frame =>
      exact .inr (.inr ⟨frame, d, u, rfl, by simp only [receive, Reader.readOne, hclosed, hread]; rfl⟩)

theorem closed_of_request (frame : Outbound) (next : Point) (h : s.outgoing.closed = true) :
    (s.request frame next).outgoing.closed = true := by
  rcases request_cases frame next s with ⟨-, -, -, hrequest⟩ | ⟨-, fault, hrequest⟩
  · rw [hrequest]
    exact (Outgoing.closed_of_enqueue _ _).trans h
  · rw [hrequest]
    rfl

/-- On a closed transport the main task fails where it would wait for a frame. -/
theorem await_of_closed {fail : TransportFault → Session → Session}
    {take : Frame → Session → Session} (h : s.outgoing.closed = true) :
    s.await fail take = some (fail .aborted s) := by
  rcases receive_cases s with ⟨-, hreceive⟩ | ⟨hopen, -⟩
  · rw [await, hreceive]
  · rw [h] at hopen
    cases hopen

theorem closed_of_main {draws : List UInt64} {nonce : UInt64} (h : s.main draws nonce = some s')
    (hclosed : s.outgoing.closed = true) : s'.outgoing.closed = true := by
  cases hpoint : s.point with
  | connecting =>
    simp only [main, hpoint] at h
    cases h
  | greeting rest =>
    simp only [main, hpoint, greet] at h
    split at h
    · cases h
      exact hclosed
    split at h
    · cases h
      rfl
    split at h <;> cases h
    exact hclosed
  | authorizing =>
    simp only [main, hpoint] at h
    cases h
    exact closed_of_request _ _ hclosed
  | awaitingAuthorization =>
    simp only [main, hpoint, await_of_closed hclosed] at h
    cases h
    rfl
  | registering =>
    simp only [main, hpoint, register] at h
    split at h <;> cases h
    exact closed_of_request _ _ hclosed
  | awaitingRegistration resources =>
    simp only [main, hpoint, await_of_closed hclosed] at h
    cases h
    rfl
  | opening health =>
    simp only [main, hpoint] at h
    cases h
    exact hclosed
  | dispatching =>
    simp only [main, hpoint, await_of_closed hclosed] at h
    cases h
    rfl
  | ended result =>
    simp only [main, hpoint] at h
    cases h

theorem closed_of_step {action : Action} (h : s.step action = some s')
    (hclosed : s.outgoing.closed = true) : s'.outgoing.closed = true := by
  cases hmain : action.isMain with
  | false => exact (beside_of_step hmain h).closed hclosed
  | true =>
    cases action with
    | main draws nonce => exact closed_of_main h hclosed
    | connect outcome =>
      simp only [step, connect] at h
      split at h <;> cases h
      · exact hclosed
      · rfl
    | _ => cases hmain

theorem closed_of_run {actions : List Action} (h : run actions s = some s')
    (hclosed : s.outgoing.closed = true) : s'.outgoing.closed = true := by
  induction actions generalizing s with
  | nil =>
    cases h
    exact hclosed
  | cons action rest ih =>
    obtain ⟨t, hstep, hrest⟩ := Option.bind_eq_some_iff.mp h
    exact ih hrest (closed_of_step hstep hclosed)

end TunnelAgent.Session
