import TunnelAgent.Proofs.Relay.Release
import TunnelAgent.Proofs.Relay.Silence

/-! # What an earlier connection under the same id can still send

Taking an id out of the table protects the table, not the wire: a connection that has lost its id
goes on sending until its uplink sees that its downlink has ended. So a START for an id is followed,
in some order of steps, by frames of an earlier connection of that id exactly if one of those can
speak when the START arrives. -/

namespace TunnelAgent.Relay

/-- In some run, connection `g` queues a CONTINUE or a CLOSE under `id`. -/
def Speaks (id : UInt32) (g : Nat) (r : Relay) : Prop :=
  ∃ steps r' effects event, r.run steps = some (r', effects) ∧ event ≠ .start ∧
    .queued g ⟨id, event⟩ ∈ effects

theorem Speaks.after {id : UInt32} {g : Nat} {steps : List (Bool × Action)} {r s : Relay}
    {effects : List Effect} (hrun : r.run steps = some (s, effects)) (h : Speaks id g s) :
    Speaks id g r := by
  obtain ⟨later, t, more, event, hlater, hevent, hmem⟩ := h
  exact ⟨steps ++ later, t, effects ++ more, event, run_append hrun hlater, hevent,
    List.mem_append_right _ hmem⟩

/-- It does so after steps of its own tasks alone. -/
def SpeaksAlone (id : UInt32) (g : Nat) (r : Relay) : Prop :=
  ∃ steps r' effects event, r.run steps = some (r', effects) ∧
    (∀ step ∈ steps, step.2.mover? = some g) ∧ event ≠ .start ∧ .queued g ⟨id, event⟩ ∈ effects

theorem SpeaksAlone.speaks {id : UInt32} {g : Nat} {r : Relay} (h : SpeaksAlone id g r) :
    Speaks id g r := by
  obtain ⟨steps, r', effects, event, hrun, -, hevent, hmem⟩ := h
  exact ⟨steps, r', effects, event, hrun, hevent, hmem⟩

theorem Move.mover {w : Bool} {action : Action} {r base : Relay} {g : Nat} {c : Connection}
    {stage : Stage} {effects : List Effect} (h : Move w r g c action base stage effects) :
    action.mover? = some g := by
  cases h <;> rfl

theorem speaks_of_move {w : Bool} {action : Action} {r base : Relay} {g : Nat} {c : Connection}
    {stage : Stage} {effects : List Effect} {event : SocketEvent} (hc : r.connections[g]? = some c)
    (h : Move w r g c action base stage effects) (hevent : event ≠ .start)
    (hmem : .queued g ⟨c.id, event⟩ ∈ effects) : SpeaksAlone c.id g r := by
  have hstep := step_of_move hc h
  refine ⟨[(w, action)], _, effects, event, run_one hstep, fun step hstep => ?_, hevent, hmem⟩
  rw [List.mem_singleton.mp hstep]
  exact h.mover

theorem SpeaksAlone.after_move {id : UInt32} {w : Bool} {action : Action} {r base : Relay} {g : Nat}
    {c : Connection} {stage : Stage} {effects : List Effect} (hc : r.connections[g]? = some c)
    (hmove : Move w r g c action base stage effects) (h : SpeaksAlone id g (base.enter g stage)) :
    SpeaksAlone id g r := by
  obtain ⟨later, t, more, event, hlater, hown, hevent, hmem⟩ := h
  refine ⟨(w, action) :: later, t, effects ++ more, event,
    run_append (run_one (step_of_move hc hmove)) hlater, fun step hstep => ?_, hevent,
    List.mem_append_right _ hmem⟩
  rcases List.mem_cons.mp hstep with rfl | hstep
  · exact hmove.mover
  · exact hown step hstep

theorem sendable_small (id : UInt32) {event : SocketEvent}
    (h : (SocketEvent.format.write event).length ≤ 1024) : Sendable true ⟨id, event⟩ := by
  refine ⟨rfl, ?_⟩
  have hlength : (Message.socketData ⟨id, event⟩).encode.length =
      4 + (SocketEvent.format.write event).length := by
    simp [Message.encode, SocketData.format, Serial.Format.via, Serial.Format.pair,
      Serial.Format.u32, Serial.Format.word]
  rw [Envelope.fits, hlength, Envelope.maxBody]
  omega

theorem speaks_of_reading {r : Relay} {g : Nat} {c : Connection} {down : Downlink}
    (hc : r.connections[g]? = some c) (hstage : c.stage = .forwarding .reading down)
    (hsize : 0 < r.bufferSize) : SpeaksAlone c.id g r := by
  have hsendable : Sendable true ⟨c.id, .data [0]⟩ := sendable_small c.id (by decide)
  exact speaks_of_move hc (.forwarded [0] down hstage (by simp) hsize hsendable) (by simp)
    (List.mem_singleton_self _)

/-- A move into reading. -/
theorem speaks_of_started {w : Bool} {action : Action} {r : Relay} {g : Nat} {c : Connection}
    {effects : List Effect} (hc : r.connections[g]? = some c) (hsize : 0 < r.bufferSize)
    (h : Move w r g c action r (.forwarding .reading .receiving) effects) :
    SpeaksAlone c.id g r := by
  have hafter := getElem?_enter_self (.forwarding .reading .receiving) hc
  refine .after_move hc h (speaks_of_reading (c := { c with
    stage := .forwarding .reading .receiving }) hafter rfl ?_)
  rw [enter_bufferSize]
  exact hsize

theorem speaks_of_dialing {r : Relay} {g : Nat} {c : Connection} (hc : r.connections[g]? = some c)
    (hstage : c.stage = .dialing) (hsize : 0 < r.bufferSize) : SpeaksAlone c.id g r :=
  speaks_of_started (w := true) hc hsize (.dialed hstage)

/-- Who can speak and need not wait for slots does so by itself. -/
theorem speaksAlone_of_canSpeak {r : Relay} {g : Nat} {c : Connection}
    (hc : r.connections[g]? = some c) (h : r.CanSpeak c.stage)
    (hslots : ∀ a due, c.stage ≠ .acquiring a due) : SpeaksAlone c.id g r := by
  have hclose : Sendable true ⟨c.id, .close⟩ := sendable_small c.id (by decide)
  cases hstage : c.stage with
  | acquiring a due => exact absurd hstage (hslots a due)
  | dialing =>
    rw [hstage] at h
    exact speaks_of_dialing hc hstage h
  | failing holding =>
    rw [hstage] at h
    exact h.elim
  | withdrawing holding =>
    exact speaks_of_move (w := true) hc (.reportedSetup holding hstage) (by simp)
      (mem_attempt.mpr ⟨hclose, rfl⟩)
  | announcing =>
    rw [hstage] at h
    exact speaks_of_started hc h (.announced hstage (sendable_small c.id (by decide)))
  | forwarding up down =>
    rw [hstage] at h
    cases up with
    | reading => exact speaks_of_reading hc hstage h
    | detaching => exact h.elim
    | reporting =>
      exact speaks_of_move (w := true) hc (.reported down hstage) (by simp)
        (mem_attempt.mpr ⟨hclose, rfl⟩)
    | ended => exact h.elim
  | abandoned =>
    rw [hstage] at h
    exact h.elim

/-- A connection that waits for its slots gets them once others have let go of theirs. -/
theorem speaks_of_acquiring {r : Relay} (inv : Inv 0 r) {g : Nat} {c : Connection}
    {a : Acquisition} {due : Nat} (hc : r.connections[g]? = some c)
    (hstage : c.stage = .acquiring a due) (h : r.CanSpeak c.stage) : Speaks c.id g r := by
  have hslots := inv.asks hc hstage
  rw [hstage] at h
  obtain ⟨hsize, hclosed, hmade, hcapacity⟩ := h
  have hplain : c.stage.holds = false := by
    rw [hstage]
    rfl
  obtain ⟨steps, s, effects, hrun, hspares, hroom⟩ := canMakeRoom inv hc hplain hcapacity
  obtain ⟨d, hd, hdid, hdstage⟩ := hspares.connection hc
  have hpoll : s.pool.poll a =
      (.granted, { s.pool with available := s.pool.available - a.slots.toNat }) := by
    refine poll_granted (hspares.closed.trans hclosed) hmade ?_
    rw [hslots]
    exact hroom
  have hmove : Move true s g d _ _ _ _ := .polled a due due 0 (hdstage.trans hstage) (Nat.le_refl due)
  have hafter := getElem?_enter_self (polledStage (due + 0) (s.pool.poll a))
    (r := { s with pool := (s.pool.poll a).2 }) hd
  rw [← hdid]
  refine Speaks.after hrun (SpeaksAlone.after_move hd hmove
    (speaks_of_dialing (c := { d with stage := polledStage (due + 0) (s.pool.poll a) }) hafter ?_ ?_)).speaks
  · rw [hpoll]
    rfl
  · rw [enter_bufferSize]
    exact Nat.lt_of_lt_of_eq hsize hspares.bufferSize.symm

/-- Who can speak does, in some run. -/
theorem speaks_of_canSpeak {r : Relay} (inv : Inv 0 r) {g : Nat} {c : Connection}
    (hc : r.connections[g]? = some c) (h : r.CanSpeak c.stage) : Speaks c.id g r := by
  by_cases hacquiring : ∃ a due, c.stage = .acquiring a due
  · obtain ⟨a, due, hstage⟩ := hacquiring
    exact speaks_of_acquiring inv hc hstage h
  · simp only [not_exists] at hacquiring
    exact (speaksAlone_of_canSpeak hc h hacquiring).speaks

/-- After a START for a free id, earlier connections of that id are silent in every run unless one
of them can speak, and then it does in some run. -/
theorem speaks_after_start_iff {pool : Pool} {bufferSize : Nat} {steps : List (Bool × Action)}
    {r : Relay} {effects : List Effect} (now : Nat) {payload : Bytes} {id : UInt32}
    (hpool : pool.available = pool.capacity)
    (hrun : run steps { pool, bufferSize } = some (r, effects))
    (hstart : SocketData.format.decode payload = .ok ⟨id, .start⟩) (hfree : r.isOpen id = false) :
    ∃ r', r.handle now payload = .ok r' ∧ r'.table.lookup id = some r.nextGeneration ∧
      ((∃ g, g < r.nextGeneration ∧ Speaks id g r') ↔
        ∃ (g : Nat) (c : Connection), r.connections[g]? = some c ∧ c.id = id ∧
          r.CanSpeak c.stage) := by
  let s : Relay := { r with
    table := (id, r.nextGeneration) :: r.table
    connections := r.connections ++
      [{ id, stage := .acquiring (r.pool.request slotsPerConnection) now }] }
  have inv : Inv 0 r := (Inv.empty hpool).run hrun
  have harrival : Arrival r s := .accepted id now hfree
  have hhandle : r.handle now payload = .ok s := by
    simp only [handle, hstart, take, accept, insert, hfree]
    rfl
  have hlookup : s.table.lookup id = some r.nextGeneration := List.lookup_cons_self
  refine ⟨s, hhandle, hlookup, ?_, ?_⟩
  · intro h
    obtain ⟨g, hg, later, t, more, event, hlater, hevent, hmem⟩ := h
    refine Classical.byContradiction fun hnone => hevent ?_
    refine Silent.run (n := r.nextGeneration) (inv.arrival harrival) ⟨?_, ?_, ?_⟩ hlater g event hg hmem
    · exact harrival.extends.bound
    · intro k hk howner
      rw [hlookup, Option.some.injEq] at howner
      exact absurd howner (Nat.ne_of_gt hk)
    · intro k c hk hc hid hcan
      refine hnone ⟨k, c, ?_, hid, harrival.extends.speak hcan⟩
      rw [← hc]
      exact (List.getElem?_append_left hk).symm
  · intro h
    obtain ⟨g, c, hc, rfl, hcan⟩ := h
    obtain ⟨hlt, -⟩ := List.getElem?_eq_some_iff.mp hc
    have hkept : s.connections[g]? = some c := (List.getElem?_append_left hlt).trans hc
    exact ⟨g, hlt, speaks_of_canSpeak (inv.arrival harrival) hkept (hcan.mono rfl rfl id)⟩

theorem speaks_after_start_of_failing :
    ∃ r effects r',
      run [(true, .handle 0 (SocketData.format.write ⟨5, .start⟩)), (true, .poll 0 0 1),
          (true, .dialed 0 false), (true, .detach 0)]
        { pool := { capacity := 8, retryAttempts := 0, retryInterval := 1 }, bufferSize := 1024 } =
          some (r, effects) ∧
      r.isOpen 5 = false ∧ r.handle 0 (SocketData.format.write ⟨5, .start⟩) = .ok r' ∧
      ∃ g, g < 1 ∧ Speaks 5 g r' := by
  have hrun : run [(true, .handle 0 (SocketData.format.write ⟨5, .start⟩)), (true, .poll 0 0 1),
      (true, .dialed 0 false), (true, .detach 0)]
    { pool := { capacity := 8, retryAttempts := 0, retryInterval := 1 }, bufferSize := 1024 } =
      some (_, _) := rfl
  have hstart : SocketData.format.decode (SocketData.format.write ⟨5, .start⟩) =
    .ok ⟨5, .start⟩ := rfl
  obtain ⟨r', hhandle, -, hiff⟩ := speaks_after_start_iff 0 rfl hrun hstart rfl
  exact ⟨_, _, r', hrun, rfl, hhandle, hiff.mpr ⟨0, _, rfl, rfl, trivial⟩⟩

/-- START, slots, dial; then CLOSE and START for the same id, and the first connection's socket has
bytes before its downlink has come to the `close`. -/
theorem stale_bytes_after_start :
    ∃ r r' r'' effects,
      run [(true, .handle 0 (SocketData.format.write ⟨5, .start⟩)), (true, .poll 0 0 1),
          (true, .dialed 0 true), (true, .handle 0 (SocketData.format.write ⟨5, .close⟩))]
        { pool := { capacity := 8, retryAttempts := 0, retryInterval := 1 }, bufferSize := 1024 } =
          some (r, effects) ∧
      r.step true (.handle 0 (SocketData.format.write ⟨5, .start⟩)) = some (r', []) ∧
      r'.table.lookup 5 = some 1 ∧
      r'.step true (.readLocal 0 [0x6f, 0x6c, 0x64]) =
        some (r'', [.queued 0 ⟨5, .data [0x6f, 0x6c, 0x64]⟩]) :=
  ⟨_, _, _, _, rfl, rfl, rfl, rfl⟩

end TunnelAgent.Relay
