import TunnelAgent.Proofs.Session.Registering

/-! # The queue of a session

Only the writer takes frames off the queue, from its head, and only the writer's steps move the
writer; every other step leaves the frames in their places and puts its own behind them. The writer
begins each frame that can be framed, and a Registration can be, since it was queued only after
that had been checked. -/

namespace TunnelAgent.Session

variable {s s' : Session} {action : Action} {frames : List Outbound}

/-- The frame that the writer begins in a step. -/
def begun (before after : Session) : List Outbound :=
  match before.outgoing.stage, after.outgoing.stage with
  | .idle, .writing .. => before.outgoing.queue.take 1
  | _, _ => []

/-- Frames may have been put behind those in the queue; the writer has not moved. -/
structure Queues (s s' : Session) : Prop where
  behind : s.outgoing.queue <+: s'.outgoing.queue
  stage : s'.outgoing.stage = s.outgoing.stage

theorem Queues.queue (h : Queues s s') : s'.outgoing.queue = s.outgoing.queue ++ queued s s' :=
  (List.prefix_iff_eq_append.mp h.behind).symm

theorem Queues.isOpen (h : Queues s s') : s'.outgoing.isOpen = s.outgoing.isOpen := by
  rw [Outgoing.isOpen, h.stage, Outgoing.isOpen]

theorem Queues.begun (h : Queues s s') : begun s s' = [] := by
  unfold Session.begun
  rw [h.stage]
  cases s.outgoing.stage <;> rfl

theorem queues_of_eq (hqueue : s'.outgoing.queue = s.outgoing.queue)
    (hstage : s'.outgoing.stage = s.outgoing.stage) : Queues s s' :=
  ⟨hqueue ▸ List.prefix_rfl, hstage⟩

theorem queues_of_enqueue (h : s'.outgoing = s.outgoing.enqueue frames) : Queues s s' := by
  unfold Outgoing.enqueue at h
  split at h
  · exact ⟨by rw [h]; exact List.prefix_append _ _, by rw [h]⟩
  · exact queues_of_eq (by rw [h]) (by rw [h])

theorem queues_of_request (frame : Outbound) (next : Point) (s : Session) :
    Queues s (s.request frame next) := by
  rcases request_cases frame next s with ⟨-, -, -, hrequest⟩ | ⟨-, fault, hrequest⟩ <;>
    rw [hrequest]
  · exact queues_of_enqueue rfl
  · exact queues_of_eq rfl rfl

theorem queues_of_greet {rest : Bytes} (h : s.greet rest = some s') : Queues s s' := by
  unfold greet at h
  split at h
  · cases h
    exact queues_of_eq rfl rfl
  simp only at h
  split at h
  · cases h
    exact queues_of_eq rfl rfl
  split at h <;> cases h
  exact queues_of_eq rfl rfl

theorem queues_of_dispatch (frame : Frame) (s : Session) : Queues s (dispatch frame s) := by
  have hhandled : Queues s (handlers.dispatch frame s).2 := by
    refine state_of_dispatch (fun _ => queues_of_eq rfl rfl) ?_
    intro handler hfind
    cases htype : frame.type <;> rw [htype] at hfind <;> cases hfind
    · exact queues_of_eq rfl rfl
    · unfold handlePing
      split
      · exact queues_of_enqueue rfl
      · exact queues_of_eq rfl rfl
    · exact queues_of_eq rfl rfl
    · unfold handleSocketData
      split <;> exact queues_of_eq rfl rfl
  unfold dispatch
  split <;> rename_i heq <;> rw [heq] at hhandled
  · exact hhandled
  · exact ⟨hhandled.behind, hhandled.stage⟩

theorem queues_of_main {draws : List UInt64} {nonce : UInt64} (h : s.main draws nonce = some s') :
    Queues s s' := by
  cases hpoint : s.point with
  | connecting =>
    simp only [main, hpoint] at h
    cases h
  | greeting rest =>
    simp only [main, hpoint] at h
    exact queues_of_greet h
  | authorizing =>
    simp only [main, hpoint] at h
    cases h
    exact queues_of_request ..
  | awaitingAuthorization =>
    simp only [main, hpoint] at h
    obtain ⟨reader, ⟨fault, -, rfl⟩ | ⟨frame, -, rfl⟩⟩ := await_cases h
    · exact queues_of_eq rfl rfl
    · unfold takeAuthorization
      split <;> exact queues_of_eq rfl rfl
  | registering =>
    simp only [main, hpoint, register] at h
    split at h <;> cases h
    exact queues_of_request ..
  | awaitingRegistration resources =>
    simp only [main, hpoint] at h
    obtain ⟨reader, ⟨fault, -, rfl⟩ | ⟨frame, -, rfl⟩⟩ := await_cases h
    · exact queues_of_eq rfl rfl
    · unfold takeRegistration
      split <;> exact queues_of_eq rfl rfl
  | opening health =>
    simp only [main, hpoint] at h
    cases h
    exact queues_of_eq rfl rfl
  | dispatching =>
    simp only [main, hpoint] at h
    obtain ⟨reader, ⟨fault, -, rfl⟩ | ⟨frame, -, rfl⟩⟩ := await_cases h
    · exact queues_of_eq rfl rfl
    · have hdispatch := queues_of_dispatch frame { s with reader }
      exact ⟨hdispatch.behind, hdispatch.stage⟩
  | ended result =>
    simp only [main, hpoint] at h
    cases h

theorem queues_of_tick (h : s.tick = some s') : Queues s s' := by
  obtain ⟨t, -, -, ⟨frame, monitor, -, rfl⟩ | ⟨monitor, -, rfl⟩ | ⟨monitor, -, rfl⟩⟩ := tick_cases h
  · exact queues_of_enqueue rfl
  · exact queues_of_eq rfl rfl
  · exact queues_of_eq rfl rfl

/-- Every step but the writer's own. -/
theorem queues_of_step (hwrite : action ≠ .write) (h : s.step action = some s') : Queues s s' := by
  cases action with
  | connect outcome =>
    simp only [step, connect] at h
    split at h <;> cases h <;> exact queues_of_eq rfl rfl
  | main draws nonce => exact queues_of_main h
  | write => exact absurd rfl hwrite
  | watch =>
    simp only [step, watch] at h
    split at h <;> cases h
    exact queues_of_eq rfl rfl
  | tick => exact queues_of_tick h
  | relay action =>
    simp only [step, relayStep] at h
    split at h
    · split at h <;> cases h
      exact queues_of_enqueue rfl
    · cases h
  | advance now =>
    simp only [step] at h
    split at h <;> cases h
    exact queues_of_eq rfl rfl
  | reregister rules draws =>
    obtain ⟨⟨result, t⟩, hcall, rfl⟩ := Option.map_eq_some_iff.mp h
    rcases reregister_cases hcall with ⟨-, resources, -, -, -, rfl⟩ | ⟨-, rfl⟩
    · exact queues_of_enqueue rfl
    · exact queues_of_eq rfl rfl
  | _ => cases h; exact queues_of_eq rfl rfl

/-- A Registration is queued only if it can be framed. -/
theorem fits_of_step (h : s.step action = some s') {frame : Outbound} (hframe : frame ∈ queued s s')
    (htype : frame.type = .registration) : Envelope.fits frame.payload := by
  have hone : ∀ {resources : List Resource}, Envelope.fits (Registrar.frame resources).payload →
      queued s s' = [Registrar.frame resources] → Envelope.fits frame.payload := by
    intro resources hfits hqueued
    rw [hqueued] at hframe
    rwa [List.mem_singleton.mp hframe]
  by_cases hcall : ∃ rules draws, action = .reregister rules draws
  · obtain ⟨rules, draws, rfl⟩ := hcall
    obtain ⟨⟨result, t⟩, hcall, rfl⟩ := Option.map_eq_some_iff.mp h
    rcases reregister_cases hcall with ⟨-, resources, -, hfits, hqueued, -⟩ | ⟨-, rfl⟩
    · exact hone hfits hqueued
    · exact absurd htype (noneQueued rfl frame hframe)
  · rcases registers_or_none (fun rules draws hown => hcall ⟨rules, draws, hown⟩) h with
        hregisters | hnone
    · obtain ⟨resources, -, hfits, hqueued⟩ := hregisters.frames
      exact hone hfits hqueued
    · exact absurd htype (hnone frame hframe)

/-- The head of the queue is begun, or passed over if it cannot be framed; or the writer goes on
with the frame it has begun; or it ends. -/
inductive Takes (s s' : Session) : Prop where
  | began {frame : Outbound} (head : s.outgoing.queue = frame :: s'.outgoing.queue)
      (begins : begun s s' = [frame])
  | passed {frame : Outbound} (head : s.outgoing.queue = frame :: s'.outgoing.queue)
      (long : ¬ Envelope.fits frame.payload) (begins : begun s s' = [])
  | went (same : s'.outgoing.queue = s.outgoing.queue) (begins : begun s s' = [])
  | ended (shut : s'.outgoing.isOpen = false) (empty : s'.outgoing.queue = [])
      (begins : begun s s' = [])

theorem takes_of_write (h : s.write = some s') :
    s.outgoing.isOpen = true ∧ queued s s' = [] ∧ Takes s s' := by
  unfold write at h
  split at h
  case isFalse => cases h
  obtain ⟨outgoing, hstep, rfl⟩ := Option.map_eq_some_iff.mp h
  have hopen : s.outgoing.isOpen = true := by
    refine bne_iff_ne.mpr fun hended => ?_
    simp only [Outgoing.step, hended] at hstep
    cases hstep
  refine ⟨hopen, queued_of_write hstep, ?_⟩
  cases Outgoing.writes_of_step hstep with
  | shut hstage _ => exact .ended rfl rfl (by rw [begun, hstage]; rfl)
  | start hstage _ hqueue _ => exact .began hqueue (by rw [begun, hstage, hqueue]; rfl)
  | skip hstage hqueue hlong => exact .passed hqueue hlong (by rw [begun, hstage])
  | count hstage => exact .went rfl (by rw [begun, hstage])
  | lose hstage _ _ => exact .ended rfl rfl (by rw [begun, hstage])
  | put hstage _ _ => exact .went rfl (by rw [begun, hstage])

end TunnelAgent.Session
