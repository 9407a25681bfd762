import TunnelAgent.Proofs.Relay.Invariant

/-! # A move is local

What one connection does leaves the ids and stages of all others alone, and sends under its own id
only. -/

namespace TunnelAgent.Relay

/-- The step that led from `r` to `r'` was not one of connection `k`, and left the pool open. -/
structure Spares (k : Nat) (r r' : Relay) : Prop where
  connection : ∀ {c : Connection}, r.connections[k]? = some c →
    ∃ c', r'.connections[k]? = some c' ∧ c'.id = c.id ∧ c'.stage = c.stage
  bufferSize : r'.bufferSize = r.bufferSize
  capacity : r'.pool.capacity = r.pool.capacity
  closed : r'.pool.closed = r.pool.closed

theorem Spares.refl (k : Nat) (r : Relay) : Spares k r r :=
  ⟨fun hc => ⟨_, hc, rfl, rfl⟩, rfl, rfl, rfl⟩

theorem Spares.trans {k : Nat} {r s t : Relay} (h : Spares k r s) (h' : Spares k s t) :
    Spares k r t := by
  refine ⟨fun hc => ?_, h'.bufferSize.trans h.bufferSize, h'.capacity.trans h.capacity,
    h'.closed.trans h.closed⟩
  obtain ⟨d, hd, hdid, hdstage⟩ := h.connection hc
  obtain ⟨e, he, heid, hestage⟩ := h'.connection hd
  exact ⟨e, he, heid.trans hdid, hestage.trans hdstage⟩

theorem spares_remove (k : Nat) (r : Relay) (id : UInt32) : Spares k r (r.remove id).2 := by
  refine ⟨fun {c} hc => ?_, by simp, by simp, by simp⟩
  rw [getElem?_remove]
  split
  · exact ⟨c.feed [.close], by rw [hc]; rfl, by simp, by simp⟩
  · exact ⟨c, hc, rfl, rfl⟩

theorem spares_enter {k : Nat} (r : Relay) {g : Nat} (stage : Stage) (h : g ≠ k) :
    Spares k r (r.enter g stage) :=
  ⟨fun hc => ⟨_, by rw [getElem?_enter_ne _ _ h, hc], rfl, rfl⟩, by simp, by simp, by simp⟩

theorem poll_pool (p : Pool) (a : Acquisition) :
    (p.poll a).2.capacity = p.capacity ∧ (p.poll a).2.closed = p.closed := by
  rcases poll_cases p a with ⟨hpoll, -⟩ | ⟨e, hpoll⟩ | hpoll <;> rw [hpoll] <;> exact ⟨rfl, rfl⟩

/-- On its way a move touches no other connection, and not its own id and stage. -/
theorem Move.base {w : Bool} {action : Action} {r base : Relay} {g : Nat} {c : Connection}
    {stage : Stage} {effects : List Effect} (h : Move w r g c action base stage effects) :
    (∀ k, Spares k r base) ∧ base.nextGeneration = r.nextGeneration ∧
      ∀ id k, base.table.lookup id = some k → r.table.lookup id = some k := by
  have hsame : (∀ k, Spares k r r) ∧ r.nextGeneration = r.nextGeneration ∧
      ∀ id k, r.table.lookup id = some k → r.table.lookup id = some k :=
    ⟨fun k => Spares.refl k r, rfl, fun _ _ h => h⟩
  have hremove : (∀ k, Spares k r (r.remove c.id).2) ∧
      (r.remove c.id).2.nextGeneration = r.nextGeneration ∧
      ∀ id k, (r.remove c.id).2.table.lookup id = some k → r.table.lookup id = some k := by
    refine ⟨fun k => spares_remove k r c.id, remove_nextGeneration r c.id, fun id k h => ?_⟩
    rw [lookup_remove] at h
    split at h
    · cases h
    · exact h
  have hupdate : ∀ queue : List Chunk,
      (∀ k, Spares k r (r.update g fun c => { c with queue })) ∧
      (r.update g fun c => { c with queue }).nextGeneration = r.nextGeneration ∧
      ∀ id k, (r.update g fun c => { c with queue }).table.lookup id = some k →
        r.table.lookup id = some k := by
    intro queue
    refine ⟨fun k => ⟨fun {c} hc => ?_, rfl, rfl, rfl⟩, update_nextGeneration r g _, fun _ _ h => h⟩
    rw [getElem?_update]
    split
    · exact ⟨{ c with queue }, by rw [hc]; rfl, rfl, rfl⟩
    · exact ⟨c, hc, rfl, rfl⟩
  cases h with
  | polled a due now lasts _ _ =>
    obtain ⟨hcapacity, hclosed⟩ := poll_pool r.pool a
    exact ⟨fun k => ⟨fun hc => ⟨_, hc, rfl, rfl⟩, rfl, hcapacity, hclosed⟩, rfl, fun _ _ h => h⟩
  | unannounced _ _ =>
    rw [removeOwn_eq]
    by_cases howner : r.table.lookup c.id = some g
    · rw [if_pos howner]
      exact hremove
    · rw [if_neg howner]
      exact hsame
  | withdrew => exact hremove
  | detached => exact hremove
  | took bytes queue => exact hupdate queue
  | tookClose queue => exact hupdate queue
  | _ => exact hsame

/-- A move leaves the other connections whole, and the ids with them. -/
theorem Move.apart {w : Bool} {action : Action} {r base : Relay} {g k : Nat} {c : Connection}
    {stage : Stage} {effects : List Effect} (h : Move w r g c action base stage effects) (hk : g ≠ k) :
    base.connections[k]? = r.connections[k]? ∧
      ∀ id, base.table.lookup id = some k ↔ r.table.lookup id = some k := by
  have hremove : r.table.lookup c.id = some g →
      (r.remove c.id).2.connections[k]? = r.connections[k]? ∧
        ∀ id, (r.remove c.id).2.table.lookup id = some k ↔ r.table.lookup id = some k := by
    intro howner
    refine ⟨by rw [getElem?_remove, howner, if_neg (by simpa using hk)], fun id => ?_⟩
    rw [lookup_remove]
    by_cases hid : id = c.id
    · subst hid
      simp [howner, hk]
    · rw [if_neg hid]
  have hupdate : ∀ queue : List Chunk,
      (r.update g fun c => { c with queue }).connections[k]? = r.connections[k]? ∧
        ∀ id, (r.update g fun c => { c with queue }).table.lookup id = some k ↔
          r.table.lookup id = some k :=
    fun queue => ⟨by rw [getElem?_update, if_neg hk], fun id => Iff.rfl⟩
  cases h with
  | unannounced _ _ =>
    rw [removeOwn_eq]
    by_cases howner : r.table.lookup c.id = some g
    · rw [if_pos howner]
      exact hremove howner
    · rw [if_neg howner]
      exact ⟨rfl, fun id => Iff.rfl⟩
  | withdrew holding _ howner => exact hremove howner
  | detached down _ howner => exact hremove howner
  | took bytes queue => exact hupdate queue
  | tookClose queue => exact hupdate queue
  | _ => exact ⟨rfl, fun id => Iff.rfl⟩

theorem Moves.spares {w : Bool} {action : Action} {g k : Nat} {r r' : Relay} {effects : List Effect}
    (h : Moves w g action r r' effects) (hk : g ≠ k) : Spares k r r' := by
  obtain ⟨c, base, stage, -, hmove, rfl⟩ := h
  exact (hmove.base.1 k).trans (spares_enter base stage hk)

/-- A connection sends under its own id only. -/
theorem Move.speaker {w : Bool} {action : Action} {r base : Relay} {g k : Nat} {c : Connection}
    {stage : Stage} {effects : List Effect} {data : SocketData}
    (h : Move w r g c action base stage effects) (hmem : .queued k data ∈ effects) : k = g ∧ data.connectionId = c.id := by
  have hone : ∀ {event}, (Effect.queued k data) = .queued g ⟨c.id, event⟩ →
      k = g ∧ data.connectionId = c.id := by
    intro event heq
    cases heq
    exact ⟨rfl, rfl⟩
  cases h with
  | announced => exact hone (List.mem_singleton.mp hmem)
  | reportedSetup => exact hone (mem_attempt.mp hmem).2
  | reported => exact hone (mem_attempt.mp hmem).2
  | forwarded => exact hone (List.mem_singleton.mp hmem)
  | wrote => cases List.mem_singleton.mp hmem
  | shut => cases List.mem_singleton.mp hmem
  | _ => cases hmem

end TunnelAgent.Relay
