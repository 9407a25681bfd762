import TunnelAgent.Proofs.Config.Validity
import TunnelAgent.Proofs.Relay.Reporting

/-! # What becomes of the bytes a local socket has sent

An uplink reads at most a buffer of bytes, wraps them in one CONTINUE and queues it. The buffer is a
setting with no upper bound, the frame is bounded, and the wrapping takes its share of it: a read
above `largestRead` is refused, its bytes are gone and the uplink is over, as if the socket had
ended. So what a gateway gets of a connection is its reads, one CONTINUE each, up to the first that
is too large; and a configuration loses nothing exactly if its buffer leaves room for the wrapping. -/

namespace TunnelAgent.Relay

/-- What a frame has room for behind its type, the message's number, the id, the event's number and
the count of the bytes. -/
def largestRead : Nat := 1048559

theorem length_data (id : UInt32) (bytes : Bytes) :
    (Message.socketData ⟨id, .data bytes⟩).encode.length = 16 + bytes.length := by
  simp [Message.encode, SocketData.format, SocketEvent.format, Serial.Format.via,
    Serial.Format.pair, Serial.Format.u32, Serial.Format.word, Serial.Format.blob]
  omega

theorem sendable_data_iff {w : Bool} {id : UInt32} {bytes : Bytes} :
    Sendable w ⟨id, .data bytes⟩ ↔ w = true ∧ bytes.length ≤ largestRead := by
  rw [Sendable, Envelope.fits, length_data, Envelope.maxBody, largestRead]
  refine and_congr_right fun _ => ?_
  omega

/-- The reads of connection `g`, in order. -/
def readBy (g : Nat) (steps : List (Bool × Action)) : List Bytes :=
  steps.filterMap fun step => match step.2 with
    | .readLocal k bytes => if k = g then some bytes else none
    | _ => none

/-- The data of the CONTINUE frames queued on behalf of connection `g`, in order. -/
def continued (g : Nat) (effects : List Effect) : List Bytes :=
  (frames g effects).filterMap fun data => match data.event with
    | .data bytes => some bytes
    | _ => none

@[simp] theorem readBy_append (g : Nat) (steps more : List (Bool × Action)) :
    readBy g (steps ++ more) = readBy g steps ++ readBy g more :=
  List.filterMap_append

@[simp] theorem continued_append (g : Nat) (effects more : List Effect) :
    continued g (effects ++ more) = continued g effects ++ continued g more := by
  rw [continued, frames_append, List.filterMap_append]
  rfl

theorem readBy_of_mover {g : Nat} {w : Bool} {action : Action} (h : action.mover? ≠ some g) :
    readBy g [(w, action)] = [] := by
  cases action with
  | readLocal k bytes =>
    have hk : k ≠ g := fun hk => h (congrArg some hk)
    simp [readBy, hk]
  | _ => rfl

/-- The uplink has read its last. -/
def Stage.hungUp : Stage → Bool
  | forwarding .reading _ => false
  | forwarding .. => true
  | _ => false

theorem Stage.hungUp_forwarding (up : Uplink) (down : Downlink) :
    (forwarding up down).hungUp = decide (up ≠ .reading) := by
  cases up <;> rfl

/-- What a move is to the uplink of its connection: a read that is sent, a read that is lost, the end
by the socket or the downlink, or nothing. -/
inductive Hauls (g : Nat) (c : Connection) (bufferSize : Nat) :
    Action → Stage → List Effect → Prop where
  | sent {bytes : Bytes} (going : c.stage.hungUp = false) :
      Hauls g c bufferSize (.readLocal g bytes) c.stage [.queued g ⟨c.id, .data bytes⟩]
  | lost {bytes : Bytes} {stage : Stage} (large : largestRead < bytes.length)
      (bound : bytes.length ≤ bufferSize) (going : c.stage.hungUp = false)
      (done : stage.hungUp = true) : Hauls g c bufferSize (.readLocal g bytes) stage []
  | ended {action : Action} {stage : Stage} (own : action = .localEnded g ∨ action = .cancelled g)
      (going : c.stage.hungUp = false) (done : stage.hungUp = true) :
      Hauls g c bufferSize action stage []
  | other {action : Action} {stage : Stage} {more : List Effect}
      (unread : readBy g [(true, action)] = []) (unsent : continued g more = [])
      (same : stage.hungUp = c.stage.hungUp) : Hauls g c bufferSize action stage more

theorem Move.hauls {action : Action} {r base : Relay} {g : Nat} {c : Connection} {stage : Stage}
    {more : List Effect} (h : Move true r g c action base stage more) :
    Hauls g c r.bufferSize action stage more := by
  have hclose : continued g (attempt true g ⟨c.id, .close⟩) = [] := by
    rw [continued, frames_attempt_close]
    rfl
  have hstart : continued g [.queued g ⟨c.id, .start⟩] = [] := by
    rw [continued, frames_queued]
    rfl
  cases h with
  | forwarded bytes down hstage => exact .sent (by rw [hstage]; rfl)
  | refused bytes down hstage _ hbound hrefused =>
    refine .lost (Nat.lt_of_not_le fun hle => ?_) hbound (by rw [hstage]; rfl) rfl
    exact hrefused (sendable_data_iff.mpr ⟨rfl, hle⟩)
  | localEnded down hstage => exact .ended (.inl rfl) (by rw [hstage]; rfl) rfl
  | cancelled hstage => exact .ended (.inr rfl) (by rw [hstage]; rfl) rfl
  | polled a due now lasts hstage =>
    refine .other rfl rfl ?_
    rw [hstage]
    rcases poll_cases r.pool a with ⟨hpoll, -⟩ | ⟨e, hpoll⟩ | hpoll <;> rw [hpoll] <;> rfl
  | announced hstage => exact .other rfl hstart (by rw [hstage]; rfl)
  | reportedSetup holding hstage => exact .other rfl hclose (by rw [hstage]; rfl)
  | reported down hstage => exact .other rfl hclose (by rw [hstage]; rfl)
  | took | tookClose | wrote | writeFailed | shut =>
    exact .other rfl rfl (by simp only [*, Stage.hungUp_forwarding])
  | _ => exact .other rfl rfl (by simp [*, Stage.hungUp])

/-- All that connection `g` has read has been sent on, one CONTINUE a read, and its uplink is over
only by its socket or its downlink. -/
def Whole (g : Nat) (c : Connection) (steps : List (Bool × Action)) (effects : List Effect) : Prop :=
  continued g effects = readBy g steps ∧
    (c.stage.hungUp = true →
      ∃ step ∈ steps, step.2 = .localEnded g ∨ step.2 = .cancelled g)

/-- The last read of connection `g` did not fit a frame: all before it has been sent on, it has not,
and the uplink is over. -/
def Cut (bufferSize g : Nat) (c : Connection) (steps : List (Bool × Action))
    (effects : List Effect) : Prop :=
  ∃ bytes, largestRead < bytes.length ∧ bytes.length ≤ bufferSize ∧
    readBy g steps = continued g effects ++ [bytes] ∧ c.stage.hungUp = true

section step
variable {bufferSize g : Nat} {c d : Connection} {steps : List (Bool × Action)} {w : Bool}
  {action : Action} {effects more : List Effect}

theorem Whole.other (h : Whole g c steps effects) (unread : readBy g [(w, action)] = [])
    (unsent : continued g more = []) (same : d.stage.hungUp = c.stage.hungUp) :
    Whole g d (steps ++ [(w, action)]) (effects ++ more) := by
  obtain ⟨hall, hown⟩ := h
  refine ⟨by rw [continued_append, readBy_append, hall, unread, unsent], fun hover => ?_⟩
  obtain ⟨step, hmem, hstep⟩ := hown (same.symm.trans hover)
  exact ⟨step, List.mem_append_left _ hmem, hstep⟩

theorem Cut.other (h : Cut bufferSize g c steps effects) (unread : readBy g [(w, action)] = [])
    (unsent : continued g more = []) (same : d.stage.hungUp = c.stage.hungUp) :
    Cut bufferSize g d (steps ++ [(w, action)]) (effects ++ more) := by
  obtain ⟨bytes, hlarge, hbound, hall, hover⟩ := h
  refine ⟨bytes, hlarge, hbound, ?_, same.trans hover⟩
  rw [readBy_append, continued_append, unread, unsent, List.append_nil, List.append_nil, hall]

/-- While the uplink reads on, nothing has been lost. -/
theorem whole_of_going (h : Whole g c steps effects ∨ Cut bufferSize g c steps effects)
    (going : c.stage.hungUp = false) : Whole g c steps effects := by
  refine h.resolve_right fun hcut => ?_
  obtain ⟨-, -, -, -, hover⟩ := hcut
  rw [going] at hover
  cases hover

theorem whole_or_cut_of_hauls {stage : Stage}
    (h : Whole g c steps effects ∨ Cut bufferSize g c steps effects)
    (hauls : Hauls g c bufferSize action stage more) (hd : d.stage = stage) :
    Whole g d (steps ++ [(true, action)]) (effects ++ more) ∨
      Cut bufferSize g d (steps ++ [(true, action)]) (effects ++ more) := by
  have hread : ∀ bytes, readBy g [(true, .readLocal g bytes)] = [bytes] := by simp [readBy]
  cases hauls with
  | other unread unsent same =>
    rw [← hd] at same
    exact h.imp (fun h => h.other unread unsent same) fun h => h.other unread unsent same
  | @sent bytes going =>
    obtain ⟨hall, -⟩ := whole_of_going h going
    refine .inl ⟨?_, fun hover => ?_⟩
    · rw [continued_append, readBy_append, hall, hread]
      simp [continued]
    · rw [hd, going] at hover
      cases hover
  | @lost bytes _ large bound going done =>
    obtain ⟨hall, -⟩ := whole_of_going h going
    refine .inr ⟨bytes, large, bound, ?_, hd ▸ done⟩
    rw [List.append_nil, readBy_append, hall, hread]
  | ended own going done =>
    obtain ⟨hall, -⟩ := whole_of_going h going
    have hunread : readBy g [(true, action)] = [] := by
      obtain rfl | rfl := own <;> rfl
    refine .inl ⟨?_, fun _ => ⟨_, List.mem_append_right _ (List.mem_singleton_self _), own⟩⟩
    rw [List.append_nil, readBy_append, hall, hunread, List.append_nil]

end step

theorem bufferSize_of_step {w : Bool} {action : Action} {r r' : Relay} {effects : List Effect}
    (h : r.step w action = some (r', effects)) : r'.bufferSize = r.bufferSize := by
  rcases step_cases h with ⟨harrival, -⟩ | ⟨g, c, base, stage, -, hmove, rfl⟩
  · cases harrival with
    | requested opening now lasts a due _ _ =>
      rcases poll_cases r.pool a with ⟨hpoll, -⟩ | ⟨e, hpoll⟩ | hpoll <;> rw [hpoll] <;> rfl
    | shutdown => rw [shutdown_eq, closeAll_bufferSize]
    | _ => simp [closePool, openLocal]
  · rw [enter_bufferSize, (hmove.base.1 g).bufferSize]

/-- A step that is not the connection's own queues nothing for it. -/
theorem frames_of_mover {w : Bool} {action : Action} {r r' : Relay} {g : Nat} {effects : List Effect}
    (hmover : action.mover? ≠ some g) (h : r.step w action = some (r', effects)) :
    frames g effects = [] := by
  cases hother : action.mover? with
  | none =>
    rw [(arrival_of_step hother h).2]
    rfl
  | some k =>
    obtain ⟨d, base, stage, -, hmove, -⟩ := moves_of_step hother h
    refine frames_of_others fun effect hmem => ?_
    rw [hmove.about effect hmem]
    exact fun hk => hmover (hk ▸ hother)

/-- It leaves the connection where it is. -/
theorem stays_of_step {w : Bool} {action : Action} {r r' : Relay} {g : Nat} {c : Connection}
    {effects : List Effect} (hmover : action.mover? ≠ some g) (hc : r.connections[g]? = some c)
    (h : r.step w action = some (r', effects)) :
    ∃ d, r'.connections[g]? = some d ∧ d.id = c.id ∧ d.stage = c.stage := by
  cases hother : action.mover? with
  | none => exact (arrival_of_step hother h).1.extends.connection hc
  | some k =>
    have hk : k ≠ g := fun hk => hmover (hk ▸ hother)
    exact ((moves_of_step hother h).spares hk).connection hc

theorem mem_frames {g : Nat} {data : SocketData} {effects : List Effect} :
    data ∈ frames g effects ↔ .queued g data ∈ effects := by
  unfold frames
  rw [List.mem_filterMap]
  constructor
  · intro h
    obtain ⟨effect, hmem, heffect⟩ := h
    split at heffect
    · split at heffect
      · cases heffect
        rename_i hk
        exact hk ▸ hmem
      · cases heffect
    · cases heffect
  · intro h
    exact ⟨_, h, if_pos rfl⟩

theorem Move.sendable {w : Bool} {action : Action} {r base : Relay} {g k : Nat} {c : Connection}
    {stage : Stage} {effects : List Effect} {data : SocketData}
    (h : Move w r g c action base stage effects) (hmem : .queued k data ∈ effects) :
    Sendable w data := by
  cases h with
  | announced _ sent =>
    cases List.mem_singleton.mp hmem
    exact sent
  | forwarded bytes down _ _ _ sent =>
    cases List.mem_singleton.mp hmem
    exact sent
  | reportedSetup =>
    obtain ⟨hsent, heffect⟩ := mem_attempt.mp hmem
    cases heffect
    exact hsent
  | reported =>
    obtain ⟨hsent, heffect⟩ := mem_attempt.mp hmem
    cases heffect
    exact hsent
  | wrote => cases List.mem_singleton.mp hmem
  | shut => cases List.mem_singleton.mp hmem
  | _ => cases hmem

/-- The frames of connection `g` are its own and fit. -/
def Framed (g : Nat) (c : Connection) (effects : List Effect) : Prop :=
  ∀ data ∈ frames g effects, data.connectionId = c.id ∧
    Envelope.fits (Message.socketData data).encode

/-- What a run has done for connection `g`, if it has made it. -/
def Hauled (bufferSize g : Nat) (steps : List (Bool × Action)) (effects : List Effect) :
    Option Connection → Prop
  | none => readBy g steps = [] ∧ frames g effects = []
  | some c => Framed g c effects ∧ (Whole g c steps effects ∨ Cut bufferSize g c steps effects)

theorem Hauled.born {bufferSize g : Nat} {steps : List (Bool × Action)} {effects : List Effect}
    {r' : Relay} {c : Connection} (h : Hauled bufferSize g steps effects none) (hborn : Born g r' c) :
    Hauled bufferSize g steps effects (some c) := by
  obtain ⟨hunread, hunsent⟩ := h
  refine ⟨fun data hmem => ?_, .inl ⟨?_, fun hover => ?_⟩⟩
  · rw [hunsent] at hmem
    cases hmem
  · rw [continued, hunsent, hunread]
    rfl
  · obtain ⟨a, due, hstage⟩ | hstage := hborn.stage <;> rw [hstage] at hover <;> cases hover

theorem Hauled.stays {bufferSize g : Nat} {steps : List (Bool × Action)} {w : Bool}
    {action : Action} {effects more : List Effect} {c d : Connection}
    (h : Hauled bufferSize g steps effects (some c)) (hid : d.id = c.id) (hstage : d.stage = c.stage)
    (hread : readBy g [(w, action)] = []) (hsent : frames g more = []) :
    Hauled bufferSize g (steps ++ [(w, action)]) (effects ++ more) (some d) := by
  obtain ⟨hframed, haccount⟩ := h
  have hnone : continued g more = [] := by
    rw [continued, hsent]
    rfl
  refine ⟨fun data hmem => ?_, ?_⟩
  · rw [frames_append, hsent, List.append_nil] at hmem
    rw [hid]
    exact hframed data hmem
  · exact haccount.imp (fun h => h.other hread hnone (congrArg _ hstage))
      fun h => h.other hread hnone (congrArg _ hstage)

theorem Hauled.moved {g : Nat} {steps : List (Bool × Action)} {action : Action}
    {effects more : List Effect} {r base : Relay} {c d : Connection} {stage : Stage}
    (h : Hauled r.bufferSize g steps effects (some c)) (hmove : Move true r g c action base stage more)
    (hid : d.id = c.id) (hstage : d.stage = stage) :
    Hauled r.bufferSize g (steps ++ [(true, action)]) (effects ++ more) (some d) := by
  obtain ⟨hframed, haccount⟩ := h
  refine ⟨fun data hmem => ?_, whole_or_cut_of_hauls haccount hmove.hauls hstage⟩
  rw [frames_append, List.mem_append] at hmem
  rw [hid]
  rcases hmem with hmem | hmem
  · exact hframed data hmem
  · exact ⟨(hmove.speaker (mem_frames.mp hmem)).2, (hmove.sendable (mem_frames.mp hmem)).2⟩

theorem hauled_of_step {g : Nat} {steps : List (Bool × Action)} {action : Action}
    {effects more : List Effect} {r r' : Relay}
    (h : Hauled r.bufferSize g steps effects r.connections[g]?)
    (hstep : r.step true action = some (r', more)) :
    Hauled r.bufferSize g (steps ++ [(true, action)]) (effects ++ more) r'.connections[g]? := by
  cases hold : r.connections[g]? with
  | none =>
    rw [hold] at h
    have hmover : action.mover? ≠ some g := by
      intro hmover
      obtain ⟨c, base, stage, hc, -⟩ := moves_of_step hmover hstep
      rw [hold] at hc
      cases hc
    have hread : readBy g (steps ++ [(true, action)]) = [] := by
      rw [readBy_append, h.1, readBy_of_mover hmover]
      rfl
    cases hnew : r'.connections[g]? with
    | none =>
      refine ⟨hread, ?_⟩
      rw [frames_append, h.2, frames_of_mover hmover hstep]
      rfl
    | some c =>
      obtain ⟨rfl, hborn⟩ := born_of_step hstep hold hnew
      rw [List.append_nil]
      have h' : Hauled r.bufferSize g (steps ++ [(true, action)]) effects none := ⟨hread, h.2⟩
      exact h'.born hborn
  | some c =>
    rw [hold] at h
    by_cases hmover : action.mover? = some g
    · obtain ⟨c', base, stage, hc, hmove, rfl⟩ := moves_of_step hmover hstep
      rw [hold, Option.some.injEq] at hc
      subst hc
      obtain ⟨d, hnext, hid⟩ := hmove.next hold
      rw [getElem?_enter_self stage hnext]
      exact h.moved hmove hid rfl
    · obtain ⟨d, hd, hid, hstage⟩ := stays_of_step hmover hold hstep
      rw [hd]
      exact h.stays hid hstage (readBy_of_mover hmover) (frames_of_mover hmover hstep)

theorem hauled_of_run {start r : Relay} {steps : List (Bool × Action)} {effects : List Effect}
    (hstart : start.connections = []) (g : Nat) (hrun : start.run steps = some (r, effects))
    (halive : ∀ step ∈ steps, step.1 = true) :
    r.bufferSize = start.bufferSize ∧ Hauled start.bufferSize g steps effects r.connections[g]? := by
  refine run_induction (P := fun steps r effects => (∀ step ∈ steps, step.1 = true) →
    r.bufferSize = start.bufferSize ∧ Hauled start.bufferSize g steps effects r.connections[g]?)
    ?_ ?_ hrun halive
  · intro _
    rw [hstart]
    exact ⟨rfl, rfl, rfl⟩
  · intro steps r effects w action r' more hrun ih hstep halive
    obtain ⟨hsize, h⟩ := ih fun step hmem => halive step (List.mem_append_left _ hmem)
    obtain rfl : w = true := halive (w, action) (List.mem_append_right _ (List.mem_singleton_self _))
    refine ⟨(bufferSize_of_step hstep).trans hsize, ?_⟩
    rw [← hsize] at h ⊢
    exact hauled_of_step h hstep

/-! ## Reads too large for a frame -/

/-- What the tasks of a connection can do, a step does, and the connection stands there afterwards. -/
theorem enters_of_move {w : Bool} {action : Action} {r base : Relay} {g : Nat} {c : Connection}
    {stage : Stage} {effects : List Effect} (hc : r.connections[g]? = some c)
    (h : Move w r g c action base stage effects) :
    ∃ r' d, r.step w action = some (r', effects) ∧ r'.bufferSize = r.bufferSize ∧
      r'.connections[g]? = some d ∧ d.id = c.id ∧ d.stage = stage := by
  obtain ⟨d, hd, hid⟩ := h.next hc
  have hstep := step_of_move hc h
  exact ⟨_, _, hstep, bufferSize_of_step hstep, getElem?_enter_self stage hd, hid, rfl⟩

/-- START, the slots, the dial. -/
def opening : List (Bool × Action) :=
  [(true, .handle 0 (SocketData.format.write ⟨5, .start⟩)), (true, .poll 0 0 1), (true, .dialed 0 true)]

theorem opening_reads (pool : Pool) (bufferSize : Nat) (hclosed : pool.closed = false)
    (hretries : pool.retryAttempts + 1 ≠ 0) (hroom : 2 ≤ pool.available) :
    ∃ r c, Relay.run opening { pool, bufferSize } = some (r, []) ∧ r.bufferSize = bufferSize ∧
      r.connections[0]? = some c ∧ c.stage = .forwarding .reading .receiving := by
  have hpoll : pool.poll (pool.request slotsPerConnection) =
      (.granted, { pool with available := pool.available - 2 }) := by
    refine poll_granted hclosed (Nat.pos_of_ne_zero fun hzero => hretries ?_) hroom
    exact UInt32.toNat_inj.mp hzero
  let asking : Relay := { pool, bufferSize
                          table := [(5, 0)]
                          connections := [⟨5, [], .acquiring (pool.request slotsPerConnection) 0⟩] }
  obtain ⟨dialing, d, hasked, hsize, hd, -, hdialing⟩ := enters_of_move (w := true) (r := asking)
    (g := 0) rfl (.polled (pool.request slotsPerConnection) 0 0 1 rfl (Nat.le_refl 0))
  rw [show asking.pool = pool from rfl, hpoll] at hdialing
  obtain ⟨reading, c, hdialed, hsize', hc, -, hreading⟩ := enters_of_move (w := true) hd
    (.dialed hdialing)
  refine ⟨reading, c, ?_, hsize'.trans hsize, hc, hreading⟩
  exact run_cons.mpr ⟨asking, [], [], rfl,
    run_cons.mpr ⟨dialing, [], [], hasked, run_one hdialed, rfl⟩, rfl⟩

/-- A read that does not fit is lost. -/
theorem large_read_lost {r : Relay} {g : Nat} {c : Connection} {down : Downlink} {bytes : Bytes}
    (hc : r.connections[g]? = some c) (hstage : c.stage = .forwarding .reading down)
    (hlarge : largestRead < bytes.length) (hbound : bytes.length ≤ r.bufferSize) :
    ∃ r' d, r.step true (.readLocal g bytes) = some (r', []) ∧ r'.connections[g]? = some d ∧
      d.stage = .forwarding .detaching down := by
  have hsome : bytes ≠ [] := by
    rintro rfl
    exact Nat.not_lt_zero _ hlarge
  have hrefused : ¬ Sendable true ⟨c.id, .data bytes⟩ := fun hsent =>
    absurd (sendable_data_iff.mp hsent).2 (Nat.not_le.mpr hlarge)
  obtain ⟨r', d, hstep, -, hd, -, hdstage⟩ :=
    enters_of_move hc (.refused bytes down hstage hsome hbound hrefused)
  exact ⟨r', d, hstep, hd, hdstage⟩

/-! ## Which configurations lose nothing -/

/-- Connection `g`, now `connection`, in a run of the relay of a session of an agent with that
configuration, the writer alive in every step. -/
structure Uplinked (c : Config) (steps : List (Bool × Action)) (effects : List Effect) (g : Nat)
    (connection : Connection) : Prop where
  run : ∃ shared now capacity r,
    (Session.start (Agent.sessionSettings c) shared now capacity).relay.run steps = some (r, effects) ∧
      r.connections[g]? = some connection
  alive : ∀ step ∈ steps, step.1 = true

theorem Uplinked.hauled {c : Config} {steps : List (Bool × Action)} {effects : List Effect} {g : Nat}
    {connection : Connection} (h : Uplinked c steps effects g connection) :
    Framed g connection effects ∧ (Whole g connection steps effects ∨
      Cut c.relay.bufferSize g connection steps effects) := by
  obtain ⟨⟨shared, now, capacity, r, hrun, hc⟩, halive⟩ := h
  obtain ⟨-, hhauled⟩ := hauled_of_run rfl g hrun halive
  rw [hc] at hhauled
  exact hhauled

/-- A buffer that is full once. -/
theorem uplinked_full_buffer {c : Config} (hvalid : c.Valid)
    (hretries : c.relay.retryAttempts + 1 ≠ 0) (hlarge : largestRead < c.relay.bufferSize) :
    ∃ connection, Uplinked c
        (opening ++ [(true, .readLocal 0 (List.replicate c.relay.bufferSize 0))]) [] 0 connection ∧
      connection.stage = .forwarding .detaching .receiving := by
  obtain ⟨r, d, hrun, hsize, hd, hreading⟩ :=
    opening_reads c.pool c.relay.bufferSize rfl hretries hvalid.pool
  have hlength : (List.replicate c.relay.bufferSize (0 : UInt8)).length = c.relay.bufferSize :=
    List.length_replicate
  obtain ⟨r', d', hlost, hd', hdetaching⟩ := large_read_lost hd hreading
    (Nat.lt_of_lt_of_eq hlarge hlength.symm) (Nat.le_of_eq (hlength.trans hsize.symm))
  refine ⟨d', ⟨⟨Agent.shared c, 0, Agent.streamCapacity, r', run_snoc hrun hlost, hd'⟩, ?_⟩,
    hdetaching⟩
  intro step hmem
  rcases List.mem_append.mp hmem with hmem | hmem
  · simp only [opening, List.mem_cons, List.not_mem_nil, or_false] at hmem
    rcases hmem with rfl | rfl | rfl <;> rfl
  · rw [List.mem_singleton.mp hmem]

theorem readBy_opening (bytes : Bytes) : readBy 0 (opening ++ [(true, .readLocal 0 bytes)]) = [bytes] := by
  rw [readBy_append]
  rfl

/-- The frames of a connection are its own and fit, and hold its reads, one each, in order, up to the
first that is larger than `largestRead`, if there is one: that read is lost and ends the uplink. So
an agent loses nothing that its local sockets have sent, and ends no uplink on its own account,
exactly if its buffer is no larger. Buffers on both sides of that limit can be had. -/
theorem uplinks_whole_iff {c : Config} (hvalid : c.validate = .ok ()) :
    (∀ steps effects g connection, Uplinked c steps effects g connection →
      Framed g connection effects ∧ (Whole g connection steps effects ∨
        Cut c.relay.bufferSize g connection steps effects)) ∧
    (c.relay.retryAttempts + 1 ≠ 0 →
      ((∀ steps effects g connection, Uplinked c steps effects g connection →
        Whole g connection steps effects) ↔ c.relay.bufferSize ≤ largestRead)) ∧
    largestRead < largestBuffer := by
  refine ⟨fun _ _ _ _ h => h.hauled, fun hretries => ⟨fun hwhole => ?_, ?_⟩, by decide⟩
  · refine Nat.le_of_not_lt fun hlarge => ?_
    obtain ⟨connection, huplinked, -⟩ :=
      uplinked_full_buffer (Config.validate_eq_ok_iff.mp hvalid) hretries hlarge
    have hall := (hwhole _ _ _ _ huplinked).1
    rw [readBy_opening] at hall
    cases hall
  · intro hsmall steps effects g connection huplinked
    refine huplinked.hauled.2.resolve_right fun hcut => ?_
    obtain ⟨bytes, hlarge, hbound, -⟩ := hcut
    exact absurd (Nat.lt_of_lt_of_le hlarge (Nat.le_trans hbound hsmall)) (Nat.lt_irrefl _)

theorem uplinks_whole_of_default :
    Agent.bareConfig.validate = .ok () ∧
      ∃ effects connection, Uplinked Agent.bareConfig
          (opening ++ [(true, .readLocal 0 [5]), (true, .readLocal 0 [6]), (true, .localEnded 0)])
          effects 0 connection ∧ continued 0 effects = [[5], [6]] := by
  have hrun : ((Session.start (Agent.sessionSettings Agent.bareConfig)
      (Agent.shared Agent.bareConfig) 0 Agent.streamCapacity).relay.run
        (opening ++ [(true, .readLocal 0 [5]), (true, .readLocal 0 [6]), (true, .localEnded 0)])) =
      some (_, _) := rfl
  have huplinked : Uplinked Agent.bareConfig _ _ 0 ⟨5, [], .forwarding .detaching .receiving⟩ :=
    ⟨⟨_, _, _, _, hrun, rfl⟩, by decide⟩
  obtain ⟨-, hiff, -⟩ := uplinks_whole_iff (c := Agent.bareConfig) rfl
  exact ⟨rfl, _, _, huplinked, ((hiff (by decide)).mpr (by decide) _ _ _ _ huplinked).1⟩

/-- One byte more than a frame has room for. -/
theorem read_lost_in_large_buffer :
    let c : Config := { Agent.bareConfig with relay := { bufferSize := 1048560 } }
    let steps := opening ++ [(true, .readLocal 0 (List.replicate 1048560 0))]
    c.validate = .ok () ∧ ∃ connection, Uplinked c steps [] 0 connection ∧
      readBy 0 steps = [List.replicate 1048560 0] ∧ continued 0 [] = [] ∧
      connection.stage = .forwarding .detaching .receiving := by
  intro c steps
  have hvalid : c.validate = .ok () := rfl
  obtain ⟨connection, huplinked, hstage⟩ := uplinked_full_buffer
    (Config.validate_eq_ok_iff.mp hvalid) (by decide) (show largestRead < 1048560 by decide)
  exact ⟨hvalid, connection, huplinked, readBy_opening _, rfl, hstage⟩

end TunnelAgent.Relay
