import TunnelAgent.Proofs.Relay.Locality

/-! # Slots that are held can come back

Whoever holds slots can be brought to let them go by steps of its own: its dial fails, its socket
ends, its writes fail. A connection that has lost its id has a `close` in its queue, so its downlink
never waits for ever. -/

namespace TunnelAgent.Relay

def Uplink.rank : Uplink → Nat
  | reading => 3
  | detaching => 2
  | reporting => 1
  | ended => 0

def Downlink.rank : Downlink → Nat
  | receiving => 3
  | writing _ => 2
  | shutting => 1
  | ended => 0

/-- How far a connection is from letting go of its slots. -/
def Stage.rank : Stage → Nat
  | acquiring .. => 0
  | dialing => 3
  | failing _ => 2
  | withdrawing _ => 1
  | announcing => 1
  | forwarding up down => up.rank + down.rank
  | abandoned => 0

/-- A holder has a move that lets go of its slots or brings it nearer to that. -/
theorem exists_move_of_holds {r : Relay} (inv : Inv 0 r) {g : Nat} {c : Connection}
    (hc : r.connections[g]? = some c) (hholds : c.stage.holds = true) :
    ∃ w action base stage effects, Move w r g c action base stage effects ∧
      (stage.holds = true → stage.rank < c.stage.rank) := by
  have hclosed : ∀ data, ¬ Sendable false data := fun data h => Bool.false_ne_true h.1
  cases hstage : c.stage with
  | acquiring a due =>
    rw [hstage] at hholds
    cases hholds
  | dialing => exact ⟨true, _, _, _, _, .undialed hstage, fun _ => by decide⟩
  | failing holding =>
    by_cases howner : r.table.lookup c.id = some g
    · exact ⟨true, _, _, _, _, .withdrew holding hstage howner, fun _ => Nat.le_refl 2⟩
    · exact ⟨true, _, _, _, _, .gaveUp holding hstage howner, by simp [Stage.holds]⟩
  | withdrawing holding =>
    exact ⟨true, _, _, _, _, .reportedSetup holding hstage, by simp [Stage.holds]⟩
  | announcing => exact ⟨false, _, _, _, _, .unannounced hstage (hclosed _), by simp [Stage.holds]⟩
  | forwarding up down =>
    cases up with
    | reading =>
      exact ⟨true, _, _, _, _, .localEnded down hstage,
        fun _ => by simp [Stage.rank, Uplink.rank]⟩
    | detaching =>
      by_cases howner : r.table.lookup c.id = some g
      · exact ⟨true, _, _, _, _, .detached down hstage howner,
          fun _ => by simp [Stage.rank, Uplink.rank]⟩
      · exact ⟨true, _, _, _, _, .wasDetached down hstage howner,
          fun _ => by simp [Stage.rank, Uplink.rank]⟩
    | reporting =>
      exact ⟨true, _, _, _, _, .reported down hstage,
        fun _ => by simp [Stage.rank, Uplink.rank]⟩
    | ended =>
      cases down with
      | receiving =>
        have hother : r.table.lookup c.id ≠ some g := by
          intro howner
          have howns := inv.owns_of_owner hc howner
          rw [hstage] at howns
          cases howns
        have hmem := inv.closing hc hother (by rw [hstage]; rfl)
        obtain ⟨chunk, queue, hfront⟩ := List.exists_cons_of_ne_nil (List.ne_nil_of_mem hmem)
        cases chunk with
        | data bytes =>
          exact ⟨true, _, _, _, _, .took bytes queue .ended hstage hfront,
            fun _ => by simp [Stage.rank, Downlink.rank]⟩
        | close =>
          exact ⟨true, _, _, _, _, .tookClose queue .ended hstage hfront,
            fun _ => by simp [Stage.rank, Downlink.rank]⟩
      | writing rest =>
        exact ⟨true, _, _, _, _, .writeFailed rest .ended hstage,
          fun _ => by simp [Stage.rank, Downlink.rank]⟩
      | shutting => exact ⟨true, _, _, _, _, .shut .ended hstage, by simp [Stage.holds]⟩
      | ended =>
        rw [hstage] at hholds
        cases hholds
  | abandoned =>
    rw [hstage] at hholds
    cases hholds

/-- Steps that leave connection `k` alone lead to a relay with room for a connection. -/
def CanMakeRoom (k : Nat) (r : Relay) : Prop :=
  ∃ steps r' effects, r.run steps = some (r', effects) ∧ Spares k r r' ∧ 2 ≤ r'.pool.available

theorem CanMakeRoom.step {k : Nat} {w : Bool} {action : Action} {r s : Relay}
    {effects : List Effect} (hstep : r.step w action = some (s, effects)) (hspares : Spares k r s)
    (h : CanMakeRoom k s) : CanMakeRoom k r := by
  obtain ⟨steps, t, later, hrun, hspares', hroom⟩ := h
  exact ⟨(w, action) :: steps, t, effects ++ later,
    run_cons.mpr ⟨s, effects, later, hstep, hrun, rfl⟩, hspares.trans hspares', hroom⟩

theorem canMakeRoom_of_connection {k g : Nat} (hk : g ≠ k) (n : Nat) {r : Relay} (inv : Inv 0 r)
    {c : Connection} (hc : r.connections[g]? = some c) (hholds : c.stage.holds = true)
    (hn : c.stage.rank = n) : CanMakeRoom k r := by
  induction n using Nat.strongRecOn generalizing r c with
  | ind n ih =>
    obtain ⟨w, action, base, stage, effects, hmove, hrank⟩ := exists_move_of_holds inv hc hholds
    have hstep := step_of_move hc hmove
    have hspares : Spares k r (base.enter g stage) :=
      Moves.spares ⟨c, base, stage, hc, hmove, rfl⟩ hk
    obtain ⟨d, hd, -, hdstage⟩ := (hmove.base.1 g).connection hc
    refine CanMakeRoom.step hstep hspares ?_
    cases hnew : stage.holds with
    | true =>
      refine ih stage.rank ?_ (inv.move hc hmove) (getElem?_enter_self stage hd) hnew rfl
      rw [← hn]
      exact hrank hnew
    | false =>
      refine ⟨[], _, [], rfl, Spares.refl k _, ?_⟩
      rw [enter_pool stage hd, hdstage, hholds, hnew]
      exact Nat.le_add_left 2 _

/-- An opening that holds slots can become a connection and let go of them. -/
theorem canMakeRoom_of_opening {k opening : Nat} {r : Relay} (hk : k < r.nextGeneration)
    (inv : Inv 0 r) (ho : r.openings[opening]? = some .granted) : CanMakeRoom k r := by
  let id := localId r.localCounter
  let s : Relay := (r.remove id).2
  have hfree : s.isOpen id = false := by
    rw [isOpen, lookup_remove, if_pos rfl]
    rfl
  have hid : s.freeLocalId (s.table.length + 1) s.localCounter =
      some (id, s.localCounter + 1) := by
    have hcounter : localId s.localCounter = id := by
      show localId (r.remove id).2.localCounter = id
      unfold remove
      split <;> rfl
    rw [freeLocalId, hcounter, hfree]
    rfl
  have hopening : s.openings[opening]? = some .granted := by
    rw [show s.openings = r.openings from remove_openings r id]
    exact ho
  let t : Relay := { s with
    localCounter := s.localCounter + 1
    openings := s.openings.set opening (.opened s.nextGeneration)
    table := (id, s.nextGeneration) :: s.table
    connections := s.connections ++ [{ id, stage := .announcing }] }
  have hadopt : s.step true (.adopt opening) = some (t, []) := by
    have hinsert : s.adopt opening = some t := by
      simp only [adopt, hopening, hid, insert]
      refine (if_neg ?_).trans rfl
      rw [Bool.not_eq_true]
      exact hfree
    simp only [step, hinsert, quiet, Option.map_some]
  have hspares : Spares k s t := by
    refine ⟨fun {c} hc => ⟨c, ?_, rfl, rfl⟩, rfl, rfl, rfl⟩
    obtain ⟨hlt, -⟩ := List.getElem?_eq_some_iff.mp hc
    show (s.connections ++ [_])[k]? = some c
    rw [List.getElem?_append_left hlt]
    exact hc
  have hlast : t.connections[s.nextGeneration]? = some { id, stage := .announcing } := by
    show (s.connections ++ [_])[s.connections.length]? = _
    simp
  have hne : s.nextGeneration ≠ k := by
    rw [show s.nextGeneration = r.nextGeneration from remove_nextGeneration r id]
    exact Nat.ne_of_gt hk
  have hremove : r.step true (.remove id) = some (s, []) := rfl
  refine CanMakeRoom.step hremove (spares_remove k r id) (CanMakeRoom.step hadopt hspares ?_)
  exact canMakeRoom_of_connection hne _ ((inv.step hremove).step hadopt) hlast rfl rfl

/-- While connection `k` waits for its slots, room for it can be made. -/
theorem canMakeRoom {k : Nat} {r : Relay} (inv : Inv 0 r) {c : Connection}
    (hc : r.connections[k]? = some c) (hplain : c.stage.holds = false)
    (hcapacity : 2 ≤ r.pool.capacity) : CanMakeRoom k r := by
  by_cases hroom : 2 ≤ r.pool.available
  · exact ⟨[], r, [], rfl, Spares.refl k r, hroom⟩
  have hheld : 0 < r.connections.countP (·.stage.holds) + r.openings.countP (·.holds) := by
    have hbalance := inv.balance
    rw [held] at hbalance
    omega
  obtain ⟨hk, -⟩ := List.getElem?_eq_some_iff.mp hc
  rcases Nat.add_pos_iff_pos_or_pos.mp hheld with hpos | hpos
  · obtain ⟨d, hd, hholds⟩ := List.countP_pos_iff.mp hpos
    obtain ⟨g, hg⟩ := List.mem_iff_getElem?.mp hd
    have hne : g ≠ k := by
      intro hgk
      subst hgk
      rw [hc, Option.some.injEq] at hg
      subst hg
      rw [hplain] at hholds
      cases hholds
    exact canMakeRoom_of_connection hne _ inv hg hholds rfl
  · obtain ⟨o, ho, hholds⟩ := List.countP_pos_iff.mp hpos
    obtain ⟨opening, hopening⟩ := List.mem_iff_getElem?.mp ho
    cases o with
    | granted => exact canMakeRoom_of_opening hk inv hopening
    | waiting a due => cases hholds
    | refused fault => cases hholds
    | opened g => cases hholds

end TunnelAgent.Relay
