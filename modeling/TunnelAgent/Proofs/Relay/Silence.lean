import TunnelAgent.Proofs.Relay.Locality

/-! # Connections that have lost their id and stay silent

`CanSpeak` says from which stages a connection that has lost its id can still come to send CONTINUE
or CLOSE under it. From the other stages it cannot, in any run: losing the id and not being able to
speak are both kept by every step. -/

namespace TunnelAgent.Relay

/-- A connection in that stage that has lost its id can still come to send under it. -/
def CanSpeak (r : Relay) : Stage → Prop
  | .acquiring a _ =>
    0 < r.bufferSize ∧ r.pool.closed = false ∧ a.made < a.attempts.toNat ∧ 2 ≤ r.pool.capacity
  | .dialing => 0 < r.bufferSize
  | .failing _ => False
  | .withdrawing _ => True
  | .announcing => 0 < r.bufferSize
  | .forwarding .reading _ => 0 < r.bufferSize
  | .forwarding .detaching _ => False
  | .forwarding .reporting _ => True
  | .forwarding .ended _ => False
  | .abandoned => False

theorem CanSpeak.mono {r r' : Relay} {stage : Stage} (h : r'.CanSpeak stage)
    (hbuffer : r'.bufferSize = r.bufferSize) (hcapacity : r'.pool.capacity = r.pool.capacity)
    (hclosed : r'.pool.closed = false → r.pool.closed = false) : r.CanSpeak stage := by
  cases stage with
  | acquiring a due =>
    obtain ⟨hsize, hopen, hmade, hroom⟩ := h
    exact ⟨hbuffer ▸ hsize, hclosed hopen, hmade, hcapacity ▸ hroom⟩
  | dialing => exact Nat.lt_of_lt_of_eq h hbuffer
  | failing holding => exact h
  | withdrawing holding => exact h
  | announcing => exact Nat.lt_of_lt_of_eq h hbuffer
  | forwarding up down =>
    cases up with
    | reading => exact Nat.lt_of_lt_of_eq h hbuffer
    | detaching => exact h
    | reporting => exact h
    | ended => exact h
  | abandoned => exact h

/-- A step that adds connections, or feeds those there are, but gives no id to one of them. -/
structure Extends (r r' : Relay) : Prop where
  bound : r.nextGeneration ≤ r'.nextGeneration
  speak : ∀ {stage : Stage}, r'.CanSpeak stage → r.CanSpeak stage
  owner : ∀ {id : UInt32} {k : Nat}, k < r.nextGeneration → r'.table.lookup id = some k →
    r.table.lookup id = some k
  connection : ∀ {k : Nat} {c : Connection}, r.connections[k]? = some c →
    ∃ c', r'.connections[k]? = some c' ∧ c'.id = c.id ∧ c'.stage = c.stage

theorem extends_insert (r : Relay) (id : UInt32) (stage : Stage) (openings : List Opening)
    (localCounter : UInt32) :
    Extends r { r with
      localCounter, openings
      table := (id, r.nextGeneration) :: r.table
      connections := r.connections ++ [{ id, stage }] } := by
  refine ⟨?_, fun h => h.mono rfl rfl fun h => h, ?_, ?_⟩
  · simp [nextGeneration]
  · intro id' k hk h
    rw [List.lookup_cons] at h
    split at h
    · cases h
      exact absurd hk (Nat.lt_irrefl _)
    · exact h
  · intro k c hc
    obtain ⟨hlt, -⟩ := List.getElem?_eq_some_iff.mp hc
    exact ⟨c, by rw [List.getElem?_append_left hlt]; exact hc, rfl, rfl⟩

theorem Arrival.extends {r r' : Relay} (h : Arrival r r') : Extends r r' := by
  have hsame : ∀ {k : Nat} {c : Connection}, r.connections[k]? = some c →
      ∃ c' : Connection, r.connections[k]? = some c' ∧ c'.id = c.id ∧ c'.stage = c.stage :=
    fun hc => ⟨_, hc, rfl, rfl⟩
  cases h with
  | ignored => exact ⟨Nat.le_refl _, id, fun _ h => h, hsame⟩
  | accepted id now _ => exact extends_insert r id _ r.openings r.localCounter
  | received id g bytes _ =>
    refine ⟨by simp, fun h => h.mono rfl rfl (by simp), fun _ h => h, fun {k c} hc => ?_⟩
    rw [getElem?_post]
    split
    · exact ⟨c.feed [.data bytes], by rw [hc]; rfl, by simp, by simp⟩
    · exact hsame hc
  | removed id =>
    have hspares := fun k => spares_remove k r id
    refine ⟨by simp, fun h => h.mono (by simp) (by simp) (by simp), fun _ h => ?_,
      fun {k c} hc => (hspares k).connection hc⟩
    rw [lookup_remove] at h
    split at h
    · cases h
    · exact h
  | shutdown =>
    rw [shutdown_eq]
    refine ⟨by rw [closeAll_nextGeneration]; exact Nat.le_refl _,
      fun h => h.mono (by simp) (by simp) (by simp), fun _ h => ?_,
      fun {k c} hc => ?_⟩
    · simp at h
    · have hclose := getElem?_closeAll r.table { r with table := [] } k
      rw [show ({ r with table := [] } : Relay).connections[k]? = some c from hc] at hclose
      exact ⟨_, hclose, by simp, by simp⟩
  | poolClosed =>
    refine ⟨Nat.le_refl _, fun h => h.mono rfl rfl ?_, fun _ h => h, hsame⟩
    intro h
    cases h
  | opened now => exact ⟨Nat.le_refl _, fun h => h.mono rfl rfl id, fun _ h => h, hsame⟩
  | requested opening now lasts a due _ _ =>
    rcases poll_cases r.pool a with ⟨hpoll, -⟩ | ⟨e, hpoll⟩ | hpoll <;> rw [hpoll] <;>
      exact ⟨Nat.le_refl _, fun h => h.mono rfl rfl id, fun _ h => h, hsame⟩
  | adopted opening id localCounter _ _ => exact extends_insert r id _ _ localCounter

/-- None of the first `n` connections has `id`, and none that had it can speak. -/
structure Silent (id : UInt32) (n : Nat) (r : Relay) : Prop where
  bound : n ≤ r.nextGeneration
  other : ∀ {g : Nat}, g < n → r.table.lookup id ≠ some g
  mute : ∀ {g : Nat} {c : Connection}, g < n → r.connections[g]? = some c → c.id = id →
    ¬ r.CanSpeak c.stage

theorem Silent.arrival {id : UInt32} {n : Nat} {r r' : Relay} (s : Silent id n r)
    (h : Arrival r r') : Silent id n r' := by
  refine ⟨Nat.le_trans s.bound h.extends.bound, ?_, ?_⟩
  · intro g hg howner
    exact s.other hg (h.extends.owner (Nat.lt_of_lt_of_le hg s.bound) howner)
  · intro g c' hg hc' hid hcan
    obtain ⟨c, hc⟩ : ∃ c, r.connections[g]? = some c :=
      ⟨_, List.getElem?_eq_getElem (Nat.lt_of_lt_of_le hg s.bound)⟩
    obtain ⟨d, hd, hdid, hdstage⟩ := h.extends.connection hc
    rw [hc', Option.some.injEq] at hd
    subst hd
    exact s.mute hg hc (hdid.symm.trans hid) (h.extends.speak (hdstage ▸ hcan))

/-- A connection that has lost its id and cannot speak sends nothing but a START, and still cannot
speak after its move. -/
theorem Move.mute {owed : Nat} {w : Bool} {action : Action} {r base : Relay} {g : Nat}
    {c : Connection} {stage : Stage} {effects : List Effect} (inv : Inv owed r) (hc : r.connections[g]? = some c)
    (h : Move w r g c action base stage effects) (hother : r.table.lookup c.id ≠ some g)
    (hmute : ¬ r.CanSpeak c.stage) :
    ¬ r.CanSpeak stage ∧ ∀ k data, .queued k data ∈ effects → data.event = .start := by
  cases h with
  | polled a due now lasts hstage _ =>
    rw [hstage] at hmute
    refine ⟨?_, by simp⟩
    rcases poll_cases r.pool a with ⟨hpoll, hclosed, hmade, hroom⟩ | ⟨e, hpoll⟩ | hpoll
    · rw [hpoll]
      rw [inv.asks hc hstage] at hroom
      intro hsize
      refine hmute ⟨hsize, hclosed, hmade, ?_⟩
      rw [← inv.balance, Nat.add_assoc]
      exact Nat.le_trans hroom (Nat.le_add_right _ _)
    · rw [hpoll]
      exact id
    · rw [hpoll]
      intro h
      obtain ⟨hsize, hclosed, hmade, hroom⟩ := h
      exact hmute ⟨hsize, hclosed, Nat.lt_of_succ_lt hmade, hroom⟩
  | dialed hstage =>
    rw [hstage] at hmute
    exact ⟨hmute, by simp⟩
  | undialed _ => exact ⟨id, by simp⟩
  | announced hstage _ =>
    rw [hstage] at hmute
    refine ⟨hmute, fun k data hmem => ?_⟩
    cases List.mem_singleton.mp hmem
    rfl
  | unannounced _ _ => exact ⟨id, by simp⟩
  | withdrew holding _ howner => exact absurd howner hother
  | gaveUp => exact ⟨id, by simp⟩
  | detached down _ howner => exact absurd howner hother
  | wasDetached => exact ⟨id, by simp⟩
  | reportedSetup holding hstage =>
    rw [hstage] at hmute
    exact absurd trivial hmute
  | reported down hstage =>
    rw [hstage] at hmute
    exact absurd trivial hmute
  | forwarded bytes down hstage hsome hbound _ =>
    rw [hstage] at hmute
    exact absurd (Nat.lt_of_lt_of_le (List.length_pos_iff.mpr hsome) hbound) hmute
  | refused => exact ⟨id, by simp⟩
  | localEnded => exact ⟨id, by simp⟩
  | cancelled => exact ⟨id, by simp⟩
  | took bytes queue up hstage _ =>
    rw [hstage] at hmute
    exact ⟨by cases up <;> exact hmute, by simp⟩
  | tookClose queue up hstage _ =>
    rw [hstage] at hmute
    exact ⟨by cases up <;> exact hmute, by simp⟩
  | wrote count rest up hstage =>
    rw [hstage] at hmute
    exact ⟨by cases up <;> exact hmute, by simp⟩
  | writeFailed rest up hstage =>
    rw [hstage] at hmute
    exact ⟨by cases up <;> exact hmute, by simp⟩
  | shut up hstage =>
    rw [hstage] at hmute
    exact ⟨by cases up <;> exact hmute, by simp⟩

theorem Move.canSpeak {w : Bool} {action : Action} {r base : Relay} {g : Nat} {c : Connection}
    {stage stage' : Stage} {effects : List Effect} (h : Move w r g c action base stage effects)
    (hcan : (base.enter g stage).CanSpeak stage') : r.CanSpeak stage' := by
  obtain ⟨hspares, -⟩ := h.base
  refine hcan.mono ?_ ?_ ?_
  · rw [enter_bufferSize, (hspares g).bufferSize]
  · rw [enter_capacity, (hspares g).capacity]
  · rw [enter_closed, (hspares g).closed]
    exact id

theorem Silent.move {owed : Nat} {w : Bool} {action : Action} {id : UInt32} {n g : Nat}
    {r r' : Relay} {effects : List Effect} (inv : Inv owed r) (s : Silent id n r) (h : Moves w g action r r' effects) :
    Silent id n r' ∧
      ∀ k event, k < n → .queued k ⟨id, event⟩ ∈ effects → event = .start := by
  have hspares := fun k (hk : g ≠ k) => h.spares hk
  obtain ⟨c, base, stage, hc, hmove, rfl⟩ := h
  obtain ⟨hbase, hnext, hlookup⟩ := hmove.base
  have hown : ∀ {d}, (base.enter g stage).connections[g]? = some d →
      d.id = c.id ∧ d.stage = stage := by
    intro d hd
    obtain ⟨c', hc', hid, -⟩ := (hbase g).connection hc
    rw [getElem?_enter_self stage hc', Option.some.injEq] at hd
    subst hd
    exact ⟨hid, rfl⟩
  refine ⟨⟨by rw [enter_nextGeneration, hnext]; exact s.bound, ?_, ?_⟩, ?_⟩
  · intro k hk howner
    rw [enter_table] at howner
    exact s.other hk (hlookup id k howner)
  · intro k d hk hd hid hcan
    have hcan' := hmove.canSpeak hcan
    by_cases hgk : g = k
    · subst hgk
      obtain ⟨hdid, hdstage⟩ := hown hd
      have hcid : c.id = id := hdid.symm.trans hid
      have hother : r.table.lookup c.id ≠ some g := by
        rw [hcid]
        exact s.other hk
      rw [hdstage] at hcan'
      exact (hmove.mute inv hc hother (s.mute hk hc hcid)).1 hcan'
    · obtain ⟨e, he⟩ : ∃ e, r.connections[k]? = some e :=
        ⟨_, List.getElem?_eq_getElem (Nat.lt_of_lt_of_le hk s.bound)⟩
      obtain ⟨d', hd', hdid, hdstage⟩ := (hspares k hgk).connection he
      rw [hd, Option.some.injEq] at hd'
      subst hd'
      rw [hdstage] at hcan'
      exact s.mute hk he (hdid.symm.trans hid) hcan'
  · intro k event hk hmem
    obtain ⟨rfl, hcid⟩ := hmove.speaker hmem
    have hother : r.table.lookup c.id ≠ some k := by
      rw [← hcid]
      exact s.other hk
    exact (hmove.mute inv hc hother (s.mute hk hc hcid.symm)).2 _ _ hmem

theorem Silent.run {owed : Nat} {id : UInt32} {n : Nat} {r r' : Relay}
    {steps : List (Bool × Action)} {effects : List Effect} (inv : Inv owed r) (s : Silent id n r)
    (h : r.run steps = some (r', effects)) :
    ∀ k event, k < n → .queued k ⟨id, event⟩ ∈ effects → event = .start := by
  have hrun := run_preserves (P := fun r => Inv owed r ∧ Silent id n r)
    (Q := fun effect => ∀ k event, k < n → effect = .queued k ⟨id, event⟩ → event = .start)
    ?_ ⟨inv, s⟩ h
  · intro k event hk hmem
    exact hrun.2 _ hmem k event hk rfl
  · intro w action r r' effects hr hstep
    obtain ⟨inv, s⟩ := hr
    rcases step_cases hstep with ⟨harrival, rfl⟩ | ⟨g, hmoves⟩
    · exact ⟨⟨inv.step hstep, s.arrival harrival⟩, by simp⟩
    · obtain ⟨s', hsends⟩ := s.move inv hmoves
      refine ⟨⟨inv.step hstep, s'⟩, ?_⟩
      intro effect hmem k event hk heffect
      subst heffect
      exact hsends k event hk hmem

end TunnelAgent.Relay
