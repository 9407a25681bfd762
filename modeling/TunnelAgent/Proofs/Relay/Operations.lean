import TunnelAgent.Relay.Step

/-! # What each operation does to each part of the relay

A relay is read through its table (`lookup`), its connections (`[k]?`), its pool and its openings.
For every operation on relays there is one lemma for each of these; nothing later unfolds an
operation. -/

namespace TunnelAgent.Relay

theorem lookup_filter_ne (table : List (UInt32 × Nat)) (id k : UInt32) :
    (table.filter (·.1 != id)).lookup k = if k = id then none else table.lookup k := by
  induction table with
  | nil => simp
  | cons entry table ih =>
    obtain ⟨id', g⟩ := entry
    by_cases hid : id' = id
    · subst hid
      rw [List.filter_cons_of_neg (by simp), ih, List.lookup_cons]
      by_cases hk : k = id'
      · simp [hk]
      · rw [if_neg hk, if_neg hk, beq_false_of_ne hk]
    · rw [List.filter_cons_of_pos (by simpa using hid), List.lookup_cons, List.lookup_cons, ih]
      by_cases hk : k = id'
      · subst hk
        simp [hid]
      · rw [beq_false_of_ne hk]

/-- Chunks at the end of the queue, if somebody is left to take them out. -/
def Connection.feed (chunks : List Chunk) (c : Connection) : Connection :=
  if c.stage.listens then { c with queue := c.queue ++ chunks } else c

@[simp] theorem Connection.feed_id (chunks : List Chunk) (c : Connection) :
    (c.feed chunks).id = c.id := by
  unfold feed
  split <;> rfl

@[simp] theorem Connection.feed_stage (chunks : List Chunk) (c : Connection) :
    (c.feed chunks).stage = c.stage := by
  unfold feed
  split <;> rfl

theorem Connection.feed_queue (chunks : List Chunk) {c : Connection} (h : c.stage.listens = true) :
    (c.feed chunks).queue = c.queue ++ chunks := by
  rw [feed, if_pos h]

@[simp] theorem Connection.feed_nil (c : Connection) : c.feed [] = c := by
  unfold feed
  split
  · rw [List.append_nil]
  · rfl

theorem Connection.feed_feed (chunks more : List Chunk) (c : Connection) :
    (c.feed chunks).feed more = c.feed (chunks ++ more) := by
  by_cases h : c.stage.listens = true
  · have hstage : (c.feed chunks).stage.listens = true := by rwa [feed_stage]
    rw [feed, if_pos hstage, feed, feed, if_pos h, if_pos h, List.append_assoc]
  · have hstage : ¬ (c.feed chunks).stage.listens = true := by rwa [feed_stage]
    rw [feed, if_neg hstage, feed, feed, if_neg h, if_neg h]

section update
variable (r : Relay) (g : Nat) (f : Connection → Connection)

@[simp] theorem update_table : (r.update g f).table = r.table := rfl
@[simp] theorem update_pool : (r.update g f).pool = r.pool := rfl
@[simp] theorem update_openings : (r.update g f).openings = r.openings := rfl
@[simp] theorem update_bufferSize : (r.update g f).bufferSize = r.bufferSize := rfl

@[simp] theorem update_nextGeneration : (r.update g f).nextGeneration = r.nextGeneration :=
  List.length_modify f r.connections g

theorem getElem?_update (k : Nat) :
    (r.update g f).connections[k]? =
      if g = k then r.connections[k]?.map f else r.connections[k]? := by
  rw [update, List.getElem?_modify]
  by_cases h : g = k
  · simp [h]
  · simp [h]

end update

section post
variable (r : Relay) (g : Nat) (chunk : Chunk)

@[simp] theorem post_table : (r.post g chunk).table = r.table := rfl
@[simp] theorem post_pool : (r.post g chunk).pool = r.pool := rfl
@[simp] theorem post_openings : (r.post g chunk).openings = r.openings := rfl
@[simp] theorem post_bufferSize : (r.post g chunk).bufferSize = r.bufferSize := rfl

@[simp] theorem post_nextGeneration : (r.post g chunk).nextGeneration = r.nextGeneration :=
  update_nextGeneration r g _

theorem getElem?_post (k : Nat) :
    (r.post g chunk).connections[k]? =
      if g = k then r.connections[k]?.map (Connection.feed [chunk]) else r.connections[k]? :=
  getElem?_update r g _ k

end post

section enter
variable {r : Relay} {g : Nat} {c : Connection} (stage : Stage)

theorem enter_eq (h : r.connections[g]? = some c) :
    r.enter g stage =
      if c.stage.holds && !stage.holds then (r.update g fun c => { c with stage }).giveBack
      else r.update g fun c => { c with stage } := by
  simp only [enter, h]

@[simp] theorem enter_table (r : Relay) (g : Nat) : (r.enter g stage).table = r.table := by
  unfold enter
  split
  · rfl
  · simp only
    split <;> rfl

@[simp] theorem enter_openings (r : Relay) (g : Nat) : (r.enter g stage).openings = r.openings := by
  unfold enter
  split
  · rfl
  · simp only
    split <;> rfl

@[simp] theorem enter_bufferSize (r : Relay) (g : Nat) :
    (r.enter g stage).bufferSize = r.bufferSize := by
  unfold enter
  split
  · rfl
  · simp only
    split <;> rfl

theorem enter_connections (h : r.connections[g]? = some c) :
    (r.enter g stage).connections = r.connections.modify g fun c => { c with stage } := by
  rw [enter_eq stage h]
  split <;> rfl

theorem enter_pool (h : r.connections[g]? = some c) :
    (r.enter g stage).pool =
      if c.stage.holds && !stage.holds then r.pool.release slotsPerConnection else r.pool := by
  rw [enter_eq stage h]
  split <;> rfl

@[simp] theorem enter_capacity (r : Relay) (g : Nat) :
    (r.enter g stage).pool.capacity = r.pool.capacity := by
  cases h : r.connections[g]? with
  | none => simp only [enter, h]
  | some c =>
    rw [enter_pool stage h]
    split <;> rfl

@[simp] theorem enter_closed (r : Relay) (g : Nat) :
    (r.enter g stage).pool.closed = r.pool.closed := by
  cases h : r.connections[g]? with
  | none => simp only [enter, h]
  | some c =>
    rw [enter_pool stage h]
    split <;> rfl

@[simp] theorem enter_nextGeneration (r : Relay) (g : Nat) :
    (r.enter g stage).nextGeneration = r.nextGeneration := by
  cases h : r.connections[g]? with
  | none => simp only [enter, h]
  | some c =>
    rw [nextGeneration, enter_connections stage h]
    exact List.length_modify _ _ _

theorem getElem?_enter_self (h : r.connections[g]? = some c) :
    (r.enter g stage).connections[g]? = some { c with stage } := by
  rw [enter_connections stage h, List.getElem?_modify_eq, h]
  rfl

theorem getElem?_enter_ne (r : Relay) {k : Nat} (h : g ≠ k) :
    (r.enter g stage).connections[k]? = r.connections[k]? := by
  cases hc : r.connections[g]? with
  | none => simp only [enter, hc]
  | some c => rw [enter_connections stage hc, List.getElem?_modify_ne _ _ h]

end enter

section remove
variable {r : Relay} {id : UInt32} {g : Nat}

theorem remove_of_none (h : r.table.lookup id = none) : r.remove id = (false, r) := by
  simp only [remove, h]

theorem remove_of_some (h : r.table.lookup id = some g) :
    r.remove id = (true, { r with table := r.table.filter (·.1 != id) }.post g .close) := by
  simp only [remove, h]

theorem remove_table (r : Relay) (id : UInt32) :
    (r.remove id).2.table = r.table.filter (·.1 != id) := by
  cases h : r.table.lookup id with
  | some g => rw [remove_of_some h, post_table]
  | none =>
    rw [remove_of_none h]
    refine (List.filter_eq_self.mpr fun entry hentry => ?_).symm
    have hne := List.lookup_eq_none_iff.mp h entry hentry
    simpa [bne, Bool.beq_comm] using hne

theorem lookup_remove (r : Relay) (id k : UInt32) :
    (r.remove id).2.table.lookup k = if k = id then none else r.table.lookup k := by
  rw [remove_table, lookup_filter_ne]

theorem getElem?_remove (r : Relay) (id : UInt32) (k : Nat) :
    (r.remove id).2.connections[k]? =
      if r.table.lookup id = some k then r.connections[k]?.map (Connection.feed [.close])
      else r.connections[k]? := by
  cases h : r.table.lookup id with
  | none => simp [remove_of_none h]
  | some g =>
    rw [remove_of_some h, getElem?_post]
    simp

@[simp] theorem remove_pool (r : Relay) (id : UInt32) : (r.remove id).2.pool = r.pool := by
  unfold remove
  split <;> rfl

@[simp] theorem remove_openings (r : Relay) (id : UInt32) :
    (r.remove id).2.openings = r.openings := by
  unfold remove
  split <;> rfl

@[simp] theorem remove_bufferSize (r : Relay) (id : UInt32) :
    (r.remove id).2.bufferSize = r.bufferSize := by
  unfold remove
  split <;> rfl

@[simp] theorem remove_nextGeneration (r : Relay) (id : UInt32) :
    (r.remove id).2.nextGeneration = r.nextGeneration := by
  cases h : r.table.lookup id with
  | none => rw [remove_of_none h]
  | some g =>
    rw [remove_of_some h, post_nextGeneration]
    rfl

/-- Taken out by its own connection or not at all. -/
theorem removeOwn_eq (r : Relay) (g : Nat) (id : UInt32) :
    r.removeOwn g id = (decide (r.table.lookup id = some g),
      if r.table.lookup id = some g then (r.remove id).2 else r) := by
  unfold removeOwn
  by_cases h : r.table.lookup id = some g
  · simp [h, remove_of_some h]
  · simp [h]

end remove

section shutdown

/-- Everybody named in the list gets a `close`. -/
def closeAll (entries : List (UInt32 × Nat)) (r : Relay) : Relay :=
  entries.foldl (fun r entry => r.post entry.2 .close) r

theorem shutdown_eq (r : Relay) : r.shutdown = closeAll r.table { r with table := [] } := rfl

variable (entries : List (UInt32 × Nat)) (r : Relay)

@[simp] theorem closeAll_table : (closeAll entries r).table = r.table := by
  induction entries generalizing r with
  | nil => rfl
  | cons entry entries ih => exact ih _

@[simp] theorem closeAll_pool : (closeAll entries r).pool = r.pool := by
  induction entries generalizing r with
  | nil => rfl
  | cons entry entries ih => exact ih _

@[simp] theorem closeAll_openings : (closeAll entries r).openings = r.openings := by
  induction entries generalizing r with
  | nil => rfl
  | cons entry entries ih => exact ih _

@[simp] theorem closeAll_bufferSize : (closeAll entries r).bufferSize = r.bufferSize := by
  induction entries generalizing r with
  | nil => rfl
  | cons entry entries ih => exact ih _

@[simp] theorem closeAll_nextGeneration : (closeAll entries r).nextGeneration = r.nextGeneration := by
  induction entries generalizing r with
  | nil => rfl
  | cons entry entries ih => exact (ih _).trans (post_nextGeneration r entry.2 .close)

/-- As many times as the list names it. -/
theorem getElem?_closeAll (k : Nat) :
    (closeAll entries r).connections[k]? =
      r.connections[k]?.map (Connection.feed (List.replicate (entries.countP (·.2 = k)) .close)) := by
  induction entries generalizing r with
  | nil =>
    show r.connections[k]? = r.connections[k]?.map (Connection.feed [])
    cases r.connections[k]? <;> simp
  | cons entry entries ih =>
    have hstep : closeAll (entry :: entries) r = closeAll entries (r.post entry.2 .close) := rfl
    rw [hstep, ih, getElem?_post]
    by_cases h : entry.2 = k
    · rw [if_pos h, List.countP_cons_of_pos (by simpa using h), Option.map_map]
      congr 1
      funext c
      exact Connection.feed_feed _ _ c
    · rw [if_neg h, List.countP_cons_of_neg (by simpa using h)]

end shutdown

end TunnelAgent.Relay
