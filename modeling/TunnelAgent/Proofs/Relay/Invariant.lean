import TunnelAgent.Proofs.Relay.Moves

/-! # The invariant of the relay

What holds after every step of every run from an empty relay: an id in the table belongs to a
connection of that id whose own task is still to take it out; a connection that has lost its id and
still listens has a `close` in its queue; the slots of the pool are accounted for. `owed` counts
slots that have been taken from the pool and are not held by anybody here: those on their way to a
holder, and those of others who share the pool. -/

namespace TunnelAgent.Relay

/-- One of the connection's tasks is still to take its id out of the table. -/
def Stage.owns : Stage → Bool
  | acquiring .. => true
  | dialing => true
  | failing _ => true
  | withdrawing _ => false
  | announcing => true
  | forwarding .reading _ => true
  | forwarding .detaching _ => true
  | forwarding .reporting _ => false
  | forwarding .ended _ => false
  | abandoned => false

/-- The downlink has no part in it. -/
theorem Stage.owns_forwarding (up : Uplink) (down down' : Downlink) :
    (forwarding up down).owns = (forwarding up down').owns := by
  cases up <;> rfl

/-- How many connections, made or on their way, hold slots. -/
def held (r : Relay) : Nat :=
  r.connections.countP (·.stage.holds) + r.openings.countP (·.holds)

structure Inv (owed : Nat) (r : Relay) : Prop where
  nodup : (r.table.map (·.1)).Nodup
  owner : ∀ {id : UInt32} {g : Nat}, r.table.lookup id = some g →
    ∃ c, r.connections[g]? = some c ∧ c.id = id ∧ c.stage.owns = true
  closing : ∀ {g : Nat} {c : Connection}, r.connections[g]? = some c → r.table.lookup c.id ≠ some g →
    c.stage.listens = true → .close ∈ c.queue
  asks : ∀ {g : Nat} {c : Connection} {a : Acquisition} {due : Nat},
    r.connections[g]? = some c → c.stage = .acquiring a due → a.slots = slotsPerConnection
  asksOpening : ∀ {opening : Nat} {a : Acquisition} {due : Nat},
    r.openings[opening]? = some (.waiting a due) → a.slots = slotsPerConnection
  balance : r.pool.available + 2 * r.held + owed = r.pool.capacity

theorem countP_set {α : Type} {p : α → Bool} {l : List α} {i : Nat} {a : α} (b : α)
    (h : l[i]? = some a) : (l.set i b).countP p + (p a).toNat = l.countP p + (p b).toNat := by
  induction l generalizing i with
  | nil => cases h
  | cons x l ih =>
    cases i with
    | zero =>
      simp only [List.getElem?_cons_zero, Option.some.injEq] at h
      subst h
      rw [List.set_cons_zero, List.countP_cons, List.countP_cons]
      cases p x <;> cases p b <;> simp
    | succ i =>
      rw [List.getElem?_cons_succ] at h
      rw [List.set_cons_succ, List.countP_cons, List.countP_cons]
      have hrest := ih h
      omega

theorem countP_feed (chunks : List Chunk) (g : Nat) (l : List Connection) :
    (l.modify g (Connection.feed chunks)).countP (·.stage.holds) = l.countP (·.stage.holds) := by
  induction l generalizing g with
  | nil => cases g <;> rfl
  | cons c l ih =>
    cases g with
    | zero => simp [List.countP_cons]
    | succ g => rw [List.modify_succ_cons, List.countP_cons, List.countP_cons, ih]

@[simp] theorem post_held (r : Relay) (g : Nat) (chunk : Chunk) : (r.post g chunk).held = r.held := by
  rw [held, held, post_openings]
  exact congrArg (· + _) (countP_feed [chunk] g r.connections)

@[simp] theorem closeAll_held (entries : List (UInt32 × Nat)) (r : Relay) :
    (closeAll entries r).held = r.held := by
  induction entries generalizing r with
  | nil => rfl
  | cons entry entries ih => exact (ih _).trans (post_held r entry.2 .close)

@[simp] theorem remove_held (r : Relay) (id : UInt32) : (r.remove id).2.held = r.held := by
  cases h : r.table.lookup id with
  | none => rw [remove_of_none h]
  | some g => rw [remove_of_some h, post_held]; rfl

theorem mem_feed {chunks : List Chunk} {c : Connection} {chunk : Chunk}
    (h : c.stage.listens = true) (hmem : chunk ∈ c.queue ∨ chunk ∈ chunks) :
    chunk ∈ (c.feed chunks).queue := by
  rw [Connection.feed_queue chunks h, List.mem_append]
  exact hmem

theorem Inv.owns_of_owner {owed : Nat} {r : Relay} (inv : Inv owed r) {g : Nat} {c : Connection}
    (hc : r.connections[g]? = some c) (h : r.table.lookup c.id = some g) : c.stage.owns = true := by
  obtain ⟨d, hd, -, howns⟩ := inv.owner h
  rw [hc, Option.some.injEq] at hd
  rwa [hd]

theorem Inv.id_of_owner {owed : Nat} {r : Relay} (inv : Inv owed r) {id : UInt32} {g : Nat}
    {c : Connection} (hc : r.connections[g]? = some c) (howner : r.table.lookup id = some g) :
    c.id = id := by
  obtain ⟨d, hd, hid, -⟩ := inv.owner howner
  rw [hc, Option.some.injEq] at hd
  rw [hd, hid]

theorem mem_iff_lookup {table : List (UInt32 × Nat)} (h : (table.map (·.1)).Nodup) (id : UInt32)
    (g : Nat) : (id, g) ∈ table ↔ table.lookup id = some g := by
  induction table with
  | nil => simp
  | cons entry table ih =>
    obtain ⟨k, n⟩ := entry
    rw [List.map_cons, List.nodup_cons] at h
    obtain ⟨hnew, hnodup⟩ := h
    rw [List.mem_cons, List.lookup_cons, ih hnodup]
    by_cases hid : id = k
    · subst hid
      have hnone : table.lookup id ≠ some g := by
        intro hg
        exact hnew (List.mem_map.mpr ⟨(id, g), (ih hnodup).mpr hg, rfl⟩)
      simp [hnone, eq_comm]
    · rw [beq_false_of_ne hid]
      simp [hid]

/-- No generation has two ids. -/
theorem Inv.generations {owed : Nat} {r : Relay} (inv : Inv owed r) :
    (r.table.map (·.2)).Nodup := by
  have hkeys := List.pairwise_map.mp inv.nodup
  refine List.pairwise_map.mpr (hkeys.imp_of_mem fun {a b} ha hb hne heq => hne ?_)
  obtain ⟨k, g⟩ := a
  obtain ⟨k', g'⟩ := b
  obtain rfl : g = g' := heq
  obtain ⟨c, hc, hid, -⟩ := inv.owner ((mem_iff_lookup inv.nodup k g).mp ha)
  rw [← inv.id_of_owner hc ((mem_iff_lookup inv.nodup k' g).mp hb), hid]

/-- An invariant carried over to a relay whose connections have only been fed. -/
theorem Inv.feed {owed : Nat} {r r' : Relay} (inv : Inv owed r) (chunks : Nat → List Chunk)
    (hnodup : (r'.table.map (·.1)).Nodup)
    (htable : ∀ {id g}, r'.table.lookup id = some g → r.table.lookup id = some g)
    (hget : ∀ k, r'.connections[k]? = r.connections[k]?.map (Connection.feed (chunks k)))
    (hclose : ∀ {id g}, r.table.lookup id = some g → r'.table.lookup id ≠ some g →
      .close ∈ chunks g)
    (hopenings : r'.openings = r.openings) (hpool : r'.pool = r.pool) (hheld : r'.held = r.held) :
    Inv owed r' := by
  have hback : ∀ {g : Nat} {c' : Connection}, r'.connections[g]? = some c' →
      ∃ c, r.connections[g]? = some c ∧ c' = c.feed (chunks g) := by
    intro g c' h
    rw [hget] at h
    obtain ⟨c, hc, rfl⟩ := Option.map_eq_some_iff.mp h
    exact ⟨c, hc, rfl⟩
  refine ⟨hnodup, ?_, ?_, ?_, ?_, ?_⟩
  · intro id g h
    obtain ⟨c, hc, hid, howns⟩ := inv.owner (htable h)
    exact ⟨c.feed (chunks g), by rw [hget, hc]; rfl, by simpa using hid, by simpa using howns⟩
  · intro g c' hc' hother hlistens
    obtain ⟨c, hc, rfl⟩ := hback hc'
    simp only [Connection.feed_id, Connection.feed_stage] at hother hlistens
    refine mem_feed hlistens ?_
    by_cases h : r.table.lookup c.id = some g
    · exact .inr (hclose h hother)
    · exact .inl (inv.closing hc h hlistens)
  · intro g c' a due hc' hstage
    obtain ⟨c, hc, rfl⟩ := hback hc'
    exact inv.asks hc (by simpa using hstage)
  · rw [hopenings]
    exact inv.asksOpening
  · rw [hpool, hheld]
    exact inv.balance

theorem Inv.post {owed : Nat} {r : Relay} (inv : Inv owed r) (g : Nat) (chunk : Chunk) :
    Inv owed (r.post g chunk) := by
  refine inv.feed (fun k => if g = k then [chunk] else []) inv.nodup id ?_ ?_ rfl rfl
    (post_held r g chunk)
  · intro k
    rw [getElem?_post]
    by_cases h : g = k
    · simp [h]
    · cases r.connections[k]? <;> simp [h]
  · intro id g h hother
    exact absurd h hother

theorem Inv.remove {owed : Nat} {r : Relay} (inv : Inv owed r) (id : UInt32) :
    Inv owed (r.remove id).2 := by
  refine inv.feed (fun k => if r.table.lookup id = some k then [.close] else []) ?_ ?_ ?_ ?_
    (remove_openings r id) (remove_pool r id) (remove_held r id)
  · rw [remove_table]
    exact inv.nodup.sublist (List.filter_sublist.map _)
  · intro k g h
    rw [lookup_remove] at h
    split at h
    · cases h
    · exact h
  · intro k
    rw [getElem?_remove]
    by_cases h : r.table.lookup id = some k
    · simp [h]
    · cases r.connections[k]? <;> simp [h]
  · intro k g h hother
    rw [lookup_remove] at hother
    by_cases hk : k = id
    · subst hk
      simp [h]
    · rw [if_neg hk] at hother
      exact absurd h hother

theorem Inv.shutdown {owed : Nat} {r : Relay} (inv : Inv owed r) : Inv owed r.shutdown := by
  rw [shutdown_eq]
  refine inv.feed (fun k => List.replicate (r.table.countP (·.2 = k)) .close) ?_ ?_ ?_ ?_ ?_ ?_ ?_
  · simp
  · intro id g h
    simp at h
  · intro k
    exact getElem?_closeAll r.table _ k
  · intro id g h _
    have hmem : (id, g) ∈ r.table := by
      obtain ⟨before, after, htable, -⟩ := List.lookup_eq_some_iff.mp h
      rw [htable]
      simp
    have hpos : 0 < r.table.countP (·.2 = g) := List.countP_pos_iff.mpr ⟨(id, g), hmem, by simp⟩
    exact List.mem_replicate.mpr ⟨Nat.ne_of_gt hpos, rfl⟩
  · simp
  · simp
  · exact closeAll_held _ _

/-- One connection replaced by another form of itself. -/
def replace (g : Nat) (c : Connection) (pool : Pool) (r : Relay) : Relay :=
  { r with connections := r.connections.set g c, pool }

theorem getElem?_set_of_some {α : Type} {l : List α} {g : Nat} {a : α} (b : α) (h : l[g]? = some a)
    (k : Nat) : (l.set g b)[k]? = if g = k then some b else l[k]? := by
  obtain ⟨hlt, -⟩ := List.getElem?_eq_some_iff.mp h
  by_cases hk : g = k
  · subst hk
    simp [hlt]
  · simp [hk]

theorem Inv.replace {owed owed' : Nat} {r : Relay} (inv : Inv owed r) {g : Nat} {c c' : Connection}
    {pool : Pool} (hc : r.connections[g]? = some c) (hid : c'.id = c.id)
    (howns : r.table.lookup c.id = some g → c'.stage.owns = true)
    (hclosing : r.table.lookup c.id ≠ some g → c'.stage.listens = true → .close ∈ c'.queue)
    (hasks : ∀ {a due}, c'.stage = .acquiring a due → a.slots = slotsPerConnection)
    (hcapacity : pool.capacity = r.pool.capacity)
    (hbalance : pool.available + 2 * c'.stage.holds.toNat + owed' =
      r.pool.available + 2 * c.stage.holds.toNat + owed) :
    Inv owed' (r.replace g c' pool) := by
  have hget := getElem?_set_of_some c' hc
  refine ⟨inv.nodup, ?_, ?_, ?_, inv.asksOpening, ?_⟩
  · intro id k h
    obtain ⟨d, hd, hdid, hdowns⟩ := inv.owner h
    by_cases hk : g = k
    · subst hk
      rw [hc, Option.some.injEq] at hd
      subst hd
      subst hdid
      exact ⟨c', by rw [Relay.replace, hget, if_pos rfl], hid, howns h⟩
    · exact ⟨d, by rw [Relay.replace, hget, if_neg hk]; exact hd, hdid, hdowns⟩
  · intro k d hd hother hlistens
    rw [Relay.replace, hget] at hd
    split at hd
    · rename_i hk
      subst hk
      cases hd
      rw [hid] at hother
      exact hclosing hother hlistens
    · exact inv.closing hd hother hlistens
  · intro k d a due hd hstage
    rw [Relay.replace, hget] at hd
    split at hd
    · cases hd
      exact hasks hstage
    · exact inv.asks hd hstage
  · have hcount := countP_set (p := fun c : Connection => c.stage.holds) c' hc
    have hold := inv.balance
    show pool.available + 2 * ((r.connections.set g c').countP (·.stage.holds) +
      r.openings.countP (·.holds)) + owed' = pool.capacity
    rw [held] at hold
    rw [hcapacity]
    omega

/-- Entering a stage replaces the connection, and gives slots back where it lets go of them. -/
theorem enter_eq_replace {r : Relay} {g : Nat} {c : Connection} (stage : Stage)
    (hc : r.connections[g]? = some c) :
    r.enter g stage = r.replace g { c with stage }
      (if c.stage.holds && !stage.holds then r.pool.release slotsPerConnection else r.pool) := by
  have hset : (r.connections.modify g fun c => { c with stage }) =
      r.connections.set g { c with stage } := by
    refine List.ext_getElem? fun k => ?_
    rw [getElem?_set_of_some _ hc, List.getElem?_modify]
    by_cases hk : g = k
    · subst hk
      simp [hc]
    · simp [hk]
  rw [enter_eq stage hc, replace]
  split
  · simp only [giveBack, update, hset]
  · simp only [update, hset]

/-- A stage entered without new slots. -/
theorem Inv.enter {owed : Nat} {r : Relay} (inv : Inv owed r) {g : Nat} {c : Connection}
    {stage : Stage} (hc : r.connections[g]? = some c)
    (howns : r.table.lookup c.id = some g → c.stage.owns = true → stage.owns = true)
    (hlistens : stage.listens = true → c.stage.listens = true)
    (hasks : ∀ {a due}, stage = .acquiring a due → a.slots = slotsPerConnection)
    (hholds : stage.holds = true → c.stage.holds = true) : Inv owed (r.enter g stage) := by
  rw [enter_eq_replace stage hc]
  refine inv.replace hc rfl (fun h => howns h (inv.owns_of_owner hc h)) ?_ hasks ?_ ?_
  · intro hother h
    exact inv.closing (c := c) hc hother (hlistens h)
  · split <;> rfl
  · cases hold : c.stage.holds with
    | false =>
      have hnew : stage.holds = false := by
        cases h : stage.holds with
        | false => rfl
        | true => rw [hholds h] at hold; cases hold
      simp [hnew]
    | true =>
      cases hnew : stage.holds with
      | false => simp [Pool.release, slotsPerConnection]
      | true => simp

theorem Inv.granted {owed : Nat} {r : Relay} (inv : Inv owed r) {g due : Nat} {c : Connection} {a : Acquisition}
    {pool : Pool} (hc : r.connections[g]? = some c) (hstage : c.stage = .acquiring a due)
    (hcapacity : pool.capacity = r.pool.capacity) (hpool : pool.available + 2 = r.pool.available) :
    Inv owed ({ r with pool }.enter g .dialing) := by
  have hplain : c.stage.holds = false := by
    rw [hstage]
    rfl
  have hreplace := enter_eq_replace (r := { r with pool }) .dialing hc
  rw [hreplace, hplain]
  refine inv.replace hc rfl (fun _ => rfl) ?_ (by simp) hcapacity ?_
  · intro hother _
    have hmem := inv.closing hc hother (by rw [hstage]; rfl)
    exact hmem
  · rw [hplain]
    exact congrArg (· + owed) hpool

theorem Inv.polled {owed : Nat} {r : Relay} (inv : Inv owed r) {g next due : Nat} {c : Connection}
    {a : Acquisition} (hc : r.connections[g]? = some c) (hstage : c.stage = .acquiring a due) :
    Inv owed ({ r with pool := (r.pool.poll a).2 }.enter g (polledStage next (r.pool.poll a))) := by
  have hslots := inv.asks hc hstage
  have hlistens : c.stage.listens = true := by
    rw [hstage]
    rfl
  rcases poll_cases r.pool a with ⟨hpoll, -, -, hroom⟩ | ⟨e, hpoll⟩ | hpoll
  · rw [hpoll]
    rw [hslots] at hroom ⊢
    exact inv.granted hc hstage rfl (Nat.sub_add_cancel hroom)
  · rw [hpoll]
    refine inv.enter hc (fun _ _ => rfl) (fun _ => hlistens) ?_ (by simp [polledStage, Stage.holds])
    intro a' due' hstage'
    cases hstage'
  · rw [hpoll]
    refine inv.enter hc (fun _ _ => rfl) (fun _ => hlistens) ?_ (by simp [polledStage, Stage.holds])
    intro a' due' hstage'
    cases hstage'
    exact hslots

theorem update_replace (r : Relay) (g : Nat) (f : Connection → Connection) (c : Connection)
    (pool : Pool) : (r.update g f).replace g c pool = r.replace g c pool := by
  have hset : (r.connections.modify g f).set g c = r.connections.set g c := by
    refine List.ext_getElem? fun k => ?_
    rw [List.getElem?_set, List.getElem?_set, List.length_modify]
    split
    · rfl
    · rename_i hk
      exact List.getElem?_modify_ne _ _ hk
  simp only [replace, update, hset]

/-- The front of the queue is taken out. -/
theorem Inv.took {owed : Nat} {r : Relay} (inv : Inv owed r) {g : Nat} {c : Connection}
    {chunk : Chunk} {queue : List Chunk} {up : Uplink} {down : Downlink} (hc : r.connections[g]? = some c)
    (hstage : c.stage = .forwarding up .receiving) (hfront : c.queue = chunk :: queue)
    (hdown : down ≠ .ended)
    (hlistens : (Stage.forwarding up down).listens = true → chunk ≠ .close) :
    Inv owed ((r.update g fun c => { c with queue }).enter g (.forwarding up down)) := by
  have hbase : (r.update g fun c => { c with queue }).connections[g]? = some { c with queue } := by
    rw [getElem?_update, if_pos rfl, hc]
    rfl
  have hholds : ∀ down, down ≠ Downlink.ended → (Stage.forwarding up down).holds = true := by
    intro down hdown
    simp [Stage.holds, hdown]
  rw [enter_eq_replace _ hbase, update_replace]
  refine inv.replace hc rfl ?_ ?_ (by simp) (by split <;> rfl) ?_
  · intro h
    have howns := inv.owns_of_owner hc h
    rw [hstage] at howns
    rwa [Stage.owns_forwarding up down .receiving]
  · intro hother h
    have hmem := inv.closing hc hother (by rw [hstage]; rfl)
    rw [hfront, List.mem_cons] at hmem
    exact hmem.resolve_left (hlistens h).symm
  · simp [hstage, hholds _ hdown, hholds .receiving (by simp)]

/-- Every move of a connection keeps the invariant. -/
theorem Inv.move {owed : Nat} {w : Bool} {action : Action} {r base : Relay} {g : Nat}
    {c : Connection} {stage : Stage} {effects : List Effect} (inv : Inv owed r) (hc : r.connections[g]? = some c)
    (h : Move w r g c action base stage effects) : Inv owed (base.enter g stage) := by
  have hlost : c.stage.owns = false → r.table.lookup c.id ≠ some g := by
    intro hstage howner
    rw [inv.owns_of_owner hc howner] at hstage
    cases hstage
  have hremoved : r.table.lookup c.id = some g →
      (r.remove c.id).2.connections[g]? = some (c.feed [.close]) ∧
        (r.remove c.id).2.table.lookup c.id ≠ some g := by
    intro howner
    rw [getElem?_remove, if_pos howner, hc, lookup_remove, if_pos rfl]
    exact ⟨rfl, by simp⟩
  cases h with
  | polled a due now lasts hstage _ => exact inv.polled hc hstage
  | dialed hstage =>
    exact inv.enter hc (fun _ _ => rfl) (by simp [hstage, Stage.listens]) (by simp)
      (by simp [hstage, Stage.holds])
  | undialed hstage =>
    exact inv.enter hc (fun _ _ => rfl) (by simp [hstage, Stage.listens]) (by simp)
      (by simp [hstage, Stage.holds])
  | announced hstage _ =>
    exact inv.enter hc (fun _ _ => rfl) (by simp [hstage, Stage.listens]) (by simp)
      (by simp [hstage, Stage.holds])
  | unannounced hstage _ =>
    rw [removeOwn_eq]
    by_cases howner : r.table.lookup c.id = some g
    · obtain ⟨hfed, hother⟩ := hremoved howner
      rw [if_pos howner]
      exact (inv.remove c.id).enter hfed (fun h => absurd h (by simpa using hother))
        (by simp [Stage.listens]) (by simp) (by simp [Stage.holds])
    · rw [if_neg howner]
      exact inv.enter hc (fun h => absurd h howner) (by simp [Stage.listens]) (by simp)
        (by simp [Stage.holds])
  | withdrew holding hstage howner =>
    obtain ⟨hfed, hother⟩ := hremoved howner
    exact (inv.remove c.id).enter hfed (fun h => absurd h (by simpa using hother))
      (by simp [hstage, Stage.listens]) (by simp) (by simp [hstage, Stage.holds])
  | gaveUp holding hstage hother =>
    exact inv.enter hc (fun h => absurd h hother) (by simp [Stage.listens]) (by simp)
      (by simp [Stage.holds])
  | detached down hstage howner =>
    obtain ⟨hfed, hother⟩ := hremoved howner
    exact (inv.remove c.id).enter hfed (fun h => absurd h (by simpa using hother))
      (by cases down <;> simp [hstage, Stage.listens]) (by simp)
      (by simp [hstage, Stage.holds])
  | wasDetached down hstage hother =>
    exact inv.enter hc (fun h => absurd h hother) (by cases down <;> simp [hstage, Stage.listens])
      (by simp) (by simp [hstage, Stage.holds])
  | reportedSetup holding hstage =>
    exact inv.enter hc (fun h => absurd h (hlost (by rw [hstage]; rfl)))
      (by simp [Stage.listens]) (by simp) (by simp [Stage.holds])
  | reported down hstage =>
    exact inv.enter hc (fun h => absurd h (hlost (by rw [hstage]; rfl)))
      (by cases down <;> simp [hstage, Stage.listens]) (by simp)
      (by simp [hstage, Stage.holds])
  | forwarded bytes down hstage _ _ _ =>
    rw [enter_self hc]
    exact inv
  | refused bytes down hstage _ _ _ =>
    exact inv.enter hc (fun _ _ => rfl) (by cases down <;> simp [hstage, Stage.listens])
      (by simp) (by simp [hstage, Stage.holds])
  | localEnded down hstage =>
    exact inv.enter hc (fun _ _ => rfl) (by cases down <;> simp [hstage, Stage.listens])
      (by simp) (by simp [hstage, Stage.holds])
  | cancelled hstage =>
    exact inv.enter hc (fun _ _ => rfl) (by simp [Stage.listens]) (by simp)
      (by simp [hstage, Stage.holds])
  | took bytes queue up hstage hfront =>
    exact inv.took hc hstage hfront (by simp) (by simp)
  | tookClose queue up hstage hfront =>
    exact inv.took hc hstage hfront (by simp) (by simp [Stage.listens])
  | wrote count rest up hstage =>
    refine inv.enter hc (fun _ howns => ?_) (by simp [hstage, Stage.listens]) (by simp)
      (by simp [hstage, Stage.holds])
    rwa [Stage.owns_forwarding up _ (.writing rest), ← hstage]
  | writeFailed rest up hstage =>
    refine inv.enter hc (fun _ howns => ?_) (by simp [Stage.listens]) (by simp)
      (by simp [hstage, Stage.holds])
    rwa [Stage.owns_forwarding up _ (.writing rest), ← hstage]
  | shut up hstage =>
    refine inv.enter hc (fun _ howns => ?_) (by simp [Stage.listens]) (by simp)
      (by simp [hstage, Stage.holds])
    rwa [Stage.owns_forwarding up _ .shutting, ← hstage]

/-- A new generation under a free id. -/
theorem Inv.insert {owed : Nat} {r : Relay} {id : UInt32} {stage : Stage}
    (inv : Inv (owed + 2 * stage.holds.toNat) r) (free : r.isOpen id = false)
    (howns : stage.owns = true)
    (hasks : ∀ {a due}, stage = .acquiring a due → a.slots = slotsPerConnection) :
    Inv owed { r with
      table := (id, r.nextGeneration) :: r.table
      connections := r.connections ++ [{ id, stage }] } := by
  have hnone : r.table.lookup id = none := by simpa [isOpen] using free
  have hget : ∀ {k : Nat} {d : Connection}, (r.connections ++ [{ id, stage : Connection }])[k]? = some d →
      r.connections[k]? = some d ∨ k = r.nextGeneration ∧ d = { id, stage : Connection } := by
    intro k d h
    rcases Nat.lt_trichotomy k r.nextGeneration with hk | hk | hk
    · rw [List.getElem?_append_left hk] at h
      exact .inl h
    · rw [hk, nextGeneration, List.getElem?_append_right (Nat.le_refl _)] at h
      simp at h
      exact .inr ⟨hk, h.symm⟩
    · rw [List.getElem?_eq_none (by simp [nextGeneration] at hk ⊢; omega)] at h
      cases h
  refine ⟨?_, ?_, ?_, ?_, inv.asksOpening, ?_⟩
  · rw [List.map_cons, List.nodup_cons]
    refine ⟨?_, inv.nodup⟩
    intro hmem
    obtain ⟨entry, hentry, hid⟩ := List.mem_map.mp hmem
    have hne := List.lookup_eq_none_iff.mp hnone entry hentry
    simp [hid] at hne
  · intro k g h
    rw [List.lookup_cons] at h
    split at h
    · rename_i heq
      cases h
      have hid : k = id := by simpa using heq
      exact ⟨{ id, stage }, by simp [nextGeneration], hid.symm, howns⟩
    · obtain ⟨d, hd, hdid, hdowns⟩ := inv.owner h
      obtain ⟨hlt, -⟩ := List.getElem?_eq_some_iff.mp hd
      exact ⟨d, by rw [List.getElem?_append_left hlt]; exact hd, hdid, hdowns⟩
  · intro k d hd hother hlistens
    rw [List.lookup_cons] at hother
    rcases hget hd with hd | ⟨rfl, rfl⟩
    · refine inv.closing hd ?_ hlistens
      split at hother
      · rename_i heq
        rw [show d.id = id by simpa using heq, hnone]
        simp
      · exact hother
    · simp at hother
  · intro k d a due hd hstage
    rcases hget hd with hd | ⟨rfl, rfl⟩
    · exact inv.asks hd hstage
    · exact hasks hstage
  · have hold := inv.balance
    rw [held] at hold ⊢
    simp only [List.countP_append, List.countP_singleton]
    cases hholds : stage.holds <;> simp [hholds] at hold ⊢ <;> omega

theorem Inv.setOpening {owed owed' : Nat} {r : Relay} (inv : Inv owed r) {opening : Nat}
    {o o' : Opening} {pool : Pool} (localCounter : UInt32) (ho : r.openings[opening]? = some o)
    (hasks : ∀ {a due}, o' = .waiting a due → a.slots = slotsPerConnection)
    (hcapacity : pool.capacity = r.pool.capacity)
    (hbalance : pool.available + 2 * o'.holds.toNat + owed' =
      r.pool.available + 2 * o.holds.toNat + owed) :
    Inv owed' { r with pool, localCounter, openings := r.openings.set opening o' } := by
  refine ⟨inv.nodup, inv.owner, inv.closing, inv.asks, ?_, ?_⟩
  · intro k a due h
    rw [getElem?_set_of_some o' ho] at h
    split at h
    · exact hasks (Option.some.inj h)
    · exact inv.asksOpening h
  · have hcount := countP_set (p := fun o : Opening => o.holds) o' ho
    have hold := inv.balance
    show pool.available + 2 * (r.connections.countP (·.stage.holds) +
      (r.openings.set opening o').countP (·.holds)) + owed' = pool.capacity
    rw [held] at hold
    rw [hcapacity]
    omega

theorem Inv.arrival {owed : Nat} {r r' : Relay} (inv : Inv owed r) (h : Arrival r r') :
    Inv owed r' := by
  cases h with
  | ignored => exact inv
  | accepted id now free => exact Inv.insert inv free rfl (by intro a due h; cases h; rfl)
  | received id g bytes owner => exact inv.post g (.data bytes)
  | removed id => exact inv.remove id
  | shutdown => exact inv.shutdown
  | poolClosed => exact ⟨inv.nodup, inv.owner, inv.closing, inv.asks, inv.asksOpening, inv.balance⟩
  | opened now =>
    refine ⟨inv.nodup, inv.owner, inv.closing, inv.asks, ?_, ?_⟩
    · intro k a due hk
      rw [openLocal, List.getElem?_append] at hk
      split at hk
      · exact inv.asksOpening hk
      · rw [List.getElem?_singleton] at hk
        split at hk
        · cases hk
          rfl
        · cases hk
    · have hold := inv.balance
      rw [held] at hold ⊢
      simp only [openLocal, List.countP_append, List.countP_singleton]
      simpa [Opening.holds] using hold
  | requested opening now lasts a due waiting _ =>
    have hslots := inv.asksOpening waiting
    rcases poll_cases r.pool a with ⟨hpoll, -, -, hroom⟩ | ⟨e, hpoll⟩ | hpoll
    · rw [hpoll]
      rw [hslots] at hroom ⊢
      exact inv.setOpening r.localCounter waiting (by simp) rfl
        (congrArg (· + owed) (Nat.sub_add_cancel hroom))
    · rw [hpoll]
      exact inv.setOpening r.localCounter waiting (by simp) rfl rfl
    · rw [hpoll]
      exact inv.setOpening r.localCounter waiting (by intro a due h; cases h; exact hslots)
        rfl rfl
  | adopted opening id localCounter granted free =>
    have inv' : Inv (owed + 2 * Stage.announcing.holds.toNat) { r with
        localCounter, openings := r.openings.set opening (.opened r.nextGeneration) } :=
      inv.setOpening localCounter granted (by simp) rfl (Nat.add_right_comm _ owed 2)
    exact Inv.insert inv' free rfl (by simp)

theorem Inv.step {owed : Nat} {w : Bool} {action : Action} {r r' : Relay} {effects : List Effect}
    (inv : Inv owed r) (h : r.step w action = some (r', effects)) : Inv owed r' := by
  rcases step_cases h with ⟨harrival, -⟩ | ⟨g, c, base, stage, hc, hmove, rfl⟩
  · exact inv.arrival harrival
  · exact inv.move hc hmove

/-- What is missing from the pool of an empty relay is owed to it. -/
theorem Inv.fresh {owed : Nat} {pool : Pool} {bufferSize : Nat}
    (h : pool.available + owed = pool.capacity) : Inv owed { pool, bufferSize } := by
  refine ⟨List.nodup_nil, ?_, ?_, ?_, ?_, h⟩ <;> intros <;> contradiction

theorem Inv.empty {pool : Pool} {bufferSize : Nat} (h : pool.available = pool.capacity) :
    Inv 0 { pool, bufferSize } :=
  Inv.fresh h

theorem Inv.run {owed : Nat} {steps : List (Bool × Action)} {r r' : Relay} {effects : List Effect}
    (inv : Inv owed r) (h : r.run steps = some (r', effects)) : Inv owed r' :=
  (run_preserves (P := Inv owed) (Q := fun _ => True)
    (fun inv hstep => ⟨Inv.step inv hstep, fun _ _ => trivial⟩) inv h).1

end TunnelAgent.Relay
