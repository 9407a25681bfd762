import TunnelAgent.Proofs.Relay.Operations

/-! # The steps of the relay, one by one

Every step is either an arrival, something from outside or an opening that gets on, or the move of
one connection. A move is the whole of what the tasks of a connection can do: from which stage,
under which condition, to which stage, with what effects. Properties of all steps are proved by
cases on these two relations. -/

namespace TunnelAgent.Relay

/-- The frame fits, and the writer has not ended. -/
def Sendable (writerOpen : Bool) (data : SocketData) : Prop :=
  writerOpen = true ∧ Envelope.fits (Message.socketData data).encode

theorem send_eq_ok_iff {w : Bool} {g : Nat} {data : SocketData} {effect : Effect} :
    send w g data = .ok effect ↔ Sendable w data ∧ effect = .queued g data := by
  unfold send Outbound.offer Sendable
  by_cases hfits : Envelope.fits (Message.socketData data).encode
  · cases w <;> simp [Outbound.ofMessage, hfits, eq_comm]
  · simp [Outbound.ofMessage, hfits]

theorem not_sendable_of_error {w : Bool} {g : Nat} {data : SocketData} {fault : TransportFault}
    (h : send w g data = .error fault) : ¬ Sendable w data := by
  intro hsendable
  rw [send_eq_ok_iff.mpr ⟨hsendable, rfl⟩] at h
  cases h

theorem send_eq_error {w : Bool} (g : Nat) {data : SocketData} (h : ¬ Sendable w data) :
    ∃ fault, send w g data = .error fault := by
  cases hsend : send w g data with
  | ok effect => exact absurd (send_eq_ok_iff.mp hsend).1 h
  | error fault => exact ⟨fault, rfl⟩

theorem mem_attempt {w : Bool} {g : Nat} {data : SocketData} {effect : Effect} :
    effect ∈ attempt w g data ↔ Sendable w data ∧ effect = .queued g data := by
  rw [← send_eq_ok_iff]
  unfold attempt
  cases send w g data with
  | ok e => simp [eq_comm]
  | error e => simp

/-- The relay after the pool has been polled for an opening, which would poll again at `due`. -/
def polledOpening (r : Relay) (opening due : Nat) : Poll × Pool → Relay
  | (.granted, pool) => { r with pool, openings := r.openings.set opening .granted }
  | (.refused e, pool) => { r with pool, openings := r.openings.set opening (.refused e) }
  | (.retry next, pool) =>
    { r with pool, openings := r.openings.set opening (.waiting next due) }

/-- The stage of a connection after the pool has been polled for it; it would poll again at `due`. -/
def polledStage (due : Nat) : Poll × Pool → Stage
  | (.granted, _) => .dialing
  | (.refused _, _) => .failing false
  | (.retry next, _) => .acquiring next due

/-- What comes from outside, and what an opening does. -/
inductive Arrival (r : Relay) : Relay → Prop where
  | ignored : Arrival r r
  | accepted (id : UInt32) (now : Nat) (free : r.isOpen id = false) :
      Arrival r { r with
        table := (id, r.nextGeneration) :: r.table
        connections := r.connections ++
          [{ id, stage := .acquiring (r.pool.request slotsPerConnection) now }] }
  | received (id : UInt32) (g : Nat) (bytes : Bytes) (owner : r.table.lookup id = some g) :
      Arrival r (r.post g (.data bytes))
  | removed (id : UInt32) : Arrival r (r.remove id).2
  | shutdown : Arrival r r.shutdown
  | poolClosed : Arrival r r.closePool
  | opened (now : Nat) : Arrival r (r.openLocal now)
  | requested (opening now lasts : Nat) (a : Acquisition) (due : Nat)
      (waiting : r.openings[opening]? = some (.waiting a due)) (ripe : due ≤ now) :
      Arrival r (r.polledOpening opening (now + lasts) (r.pool.poll a))
  | adopted (opening : Nat) (id localCounter : UInt32)
      (granted : r.openings[opening]? = some .granted) (free : r.isOpen id = false) :
      Arrival r { r with
        localCounter
        openings := r.openings.set opening (.opened r.nextGeneration)
        table := (id, r.nextGeneration) :: r.table
        connections := r.connections ++ [{ id, stage := .announcing }] }

/-- What the tasks of connection `g`, now `c`, can do: the action, the relay on the way, the stage
entered, the effects. -/
inductive Move (writerOpen : Bool) (r : Relay) (g : Nat) (c : Connection) :
    Action → Relay → Stage → List Effect → Prop where
  | polled (a : Acquisition) (due now lasts : Nat) (stage : c.stage = .acquiring a due)
      (ripe : due ≤ now) :
      Move writerOpen r g c (.poll g now lasts) { r with pool := (r.pool.poll a).2 }
        (polledStage (now + lasts) (r.pool.poll a)) []
  | dialed (stage : c.stage = .dialing) :
      Move writerOpen r g c (.dialed g true) r (.forwarding .reading .receiving) []
  | undialed (stage : c.stage = .dialing) :
      Move writerOpen r g c (.dialed g false) r (.failing true) []
  | announced (stage : c.stage = .announcing) (sent : Sendable writerOpen ⟨c.id, .start⟩) :
      Move writerOpen r g c (.announce g) r (.forwarding .reading .receiving)
        [.queued g ⟨c.id, .start⟩]
  | unannounced (stage : c.stage = .announcing) (refused : ¬ Sendable writerOpen ⟨c.id, .start⟩) :
      Move writerOpen r g c (.announce g) (r.removeOwn g c.id).2 .abandoned []
  | withdrew (holding : Bool) (stage : c.stage = .failing holding)
      (owner : r.table.lookup c.id = some g) :
      Move writerOpen r g c (.detach g) (r.remove c.id).2 (.withdrawing holding) []
  | gaveUp (holding : Bool) (stage : c.stage = .failing holding)
      (other : r.table.lookup c.id ≠ some g) : Move writerOpen r g c (.detach g) r .abandoned []
  | detached (down : Downlink) (stage : c.stage = .forwarding .detaching down)
      (owner : r.table.lookup c.id = some g) :
      Move writerOpen r g c (.detach g) (r.remove c.id).2 (.forwarding .reporting down) []
  | wasDetached (down : Downlink) (stage : c.stage = .forwarding .detaching down)
      (other : r.table.lookup c.id ≠ some g) :
      Move writerOpen r g c (.detach g) r (.forwarding .ended down) []
  | reportedSetup (holding : Bool) (stage : c.stage = .withdrawing holding) :
      Move writerOpen r g c (.report g) r .abandoned (attempt writerOpen g ⟨c.id, .close⟩)
  | reported (down : Downlink) (stage : c.stage = .forwarding .reporting down) :
      Move writerOpen r g c (.report g) r (.forwarding .ended down)
        (attempt writerOpen g ⟨c.id, .close⟩)
  | forwarded (bytes : Bytes) (down : Downlink) (stage : c.stage = .forwarding .reading down)
      (some : bytes ≠ []) (bound : bytes.length ≤ r.bufferSize)
      (sent : Sendable writerOpen ⟨c.id, .data bytes⟩) :
      Move writerOpen r g c (.readLocal g bytes) r c.stage [.queued g ⟨c.id, .data bytes⟩]
  | refused (bytes : Bytes) (down : Downlink) (stage : c.stage = .forwarding .reading down)
      (some : bytes ≠ []) (bound : bytes.length ≤ r.bufferSize)
      (refused : ¬ Sendable writerOpen ⟨c.id, .data bytes⟩) :
      Move writerOpen r g c (.readLocal g bytes) r (.forwarding .detaching down) []
  | localEnded (down : Downlink) (stage : c.stage = .forwarding .reading down) :
      Move writerOpen r g c (.localEnded g) r (.forwarding .detaching down) []
  | cancelled (stage : c.stage = .forwarding .reading .ended) :
      Move writerOpen r g c (.cancelled g) r (.forwarding .detaching .ended) []
  | took (bytes : Bytes) (queue : List Chunk) (up : Uplink)
      (stage : c.stage = .forwarding up .receiving) (front : c.queue = .data bytes :: queue) :
      Move writerOpen r g c (.next g) (r.update g fun c => { c with queue })
        (.forwarding up (.writing bytes)) []
  | tookClose (queue : List Chunk) (up : Uplink) (stage : c.stage = .forwarding up .receiving)
      (front : c.queue = .close :: queue) :
      Move writerOpen r g c (.next g) (r.update g fun c => { c with queue })
        (.forwarding up .shutting) []
  | wrote (count : Nat) (rest : Bytes) (up : Uplink)
      (stage : c.stage = .forwarding up (.writing rest)) :
      Move writerOpen r g c (.writeLocal g count) r
        (.forwarding up (if rest.drop count = [] then .receiving else .writing (rest.drop count)))
        [.wrote g (rest.take count)]
  | writeFailed (rest : Bytes) (up : Uplink) (stage : c.stage = .forwarding up (.writing rest)) :
      Move writerOpen r g c (.writeFailed g) r (.forwarding up .shutting) []
  | shut (up : Uplink) (stage : c.stage = .forwarding up .shutting) :
      Move writerOpen r g c (.shutLocal g) r (.forwarding up .ended) [.shut g]

theorem enter_self {r : Relay} {g : Nat} {c : Connection} (h : r.connections[g]? = some c) :
    r.enter g c.stage = r := by
  have hconnections : (r.enter g c.stage).connections = r.connections := by
    refine List.ext_getElem? fun k => ?_
    by_cases hk : g = k
    · subst hk
      rw [getElem?_enter_self _ h, h]
    · rw [getElem?_enter_ne _ _ hk]
  have hpool : (r.enter g c.stage).pool = r.pool := by
    rw [enter_pool _ h, if_neg (by simp)]
  rw [enter_eq _ h] at hconnections hpool ⊢
  rw [if_neg (by simp)] at hconnections ⊢
  rw [update] at hconnections ⊢
  simp only at hconnections
  rw [hconnections]

theorem poll_granted {p : Pool} {a : Acquisition} (hclosed : p.closed = false)
    (hmade : a.made < a.attempts.toNat) (hroom : a.slots.toNat ≤ p.available) :
    p.poll a = (.granted, { p with available := p.available - a.slots.toNat }) := by
  rw [Pool.poll, if_neg (Nat.not_le.mpr hmade), if_neg (by simp [hclosed]), if_pos hroom]

theorem poll_cases (p : Pool) (a : Acquisition) :
    (p.poll a = (.granted, { p with available := p.available - a.slots.toNat }) ∧
        p.closed = false ∧ a.made < a.attempts.toNat ∧ a.slots.toNat ≤ p.available) ∨
      (∃ e, p.poll a = (.refused e, p)) ∨ p.poll a = (.retry { a with made := a.made + 1 }, p) := by
  by_cases hmade : a.attempts.toNat ≤ a.made
  · exact .inr (.inl ⟨_, by rw [Pool.poll, if_pos hmade]⟩)
  by_cases hclosed : p.closed = true
  · exact .inr (.inl ⟨_, by rw [Pool.poll, if_neg hmade, if_pos hclosed]⟩)
  rw [Bool.not_eq_true] at hclosed
  by_cases hroom : a.slots.toNat ≤ p.available
  · exact .inl ⟨poll_granted hclosed (Nat.not_le.mp hmade) hroom, hclosed, Nat.not_le.mp hmade, hroom⟩
  rw [Pool.poll, if_neg hmade, if_neg (by simp [hclosed]), if_neg hroom]
  split
  · exact .inr (.inr rfl)
  · exact .inr (.inl ⟨_, rfl⟩)

theorem arrival_take (r : Relay) (now : Nat) (data : SocketData) : Arrival r (r.take now data) := by
  obtain ⟨id, event⟩ := data
  cases event with
  | start =>
    simp only [take, accept, insert]
    by_cases h : r.isOpen id = true
    · rw [if_pos h]
      exact .ignored
    · rw [if_neg h]
      exact .accepted id now (by simpa using h)
  | data bytes =>
    simp only [take, receive]
    split
    · exact .ignored
    · exact .received id _ bytes ‹_›
  | close => exact .removed id

theorem arrival_handle {r r' : Relay} {now : Nat} {payload : Bytes}
    (h : r.handle now payload = .ok r') : Arrival r r' := by
  unfold handle at h
  split at h
  · cases h
    exact arrival_take r now _
  · cases h

theorem request_eq {r r' : Relay} {opening now lasts : Nat}
    (h : r.request opening now lasts = some r') :
    ∃ a due, r.openings[opening]? = some (.waiting a due) ∧ due ≤ now ∧
      r' = r.polledOpening opening (now + lasts) (r.pool.poll a) := by
  unfold request at h
  split at h
  case h_2 => cases h
  rename_i a due hwaiting
  split at h
  · cases h
  refine ⟨a, due, hwaiting, Nat.not_lt.mp ‹_›, ?_⟩
  split at h <;> rename_i hpoll <;> cases h <;> rw [hpoll] <;> rfl

theorem arrival_request {r r' : Relay} {opening now lasts : Nat}
    (h : r.request opening now lasts = some r') :
    Arrival r r' := by
  obtain ⟨a, due, hwaiting, hripe, rfl⟩ := request_eq h
  exact .requested opening now lasts a due hwaiting hripe

@[simp] theorem polledOpening_table (r : Relay) (opening due : Nat) (polled : Poll × Pool) :
    (r.polledOpening opening due polled).table = r.table := by
  obtain ⟨outcome, pool⟩ := polled
  cases outcome <;> rfl

@[simp] theorem polledOpening_connections (r : Relay) (opening due : Nat) (polled : Poll × Pool) :
    (r.polledOpening opening due polled).connections = r.connections := by
  obtain ⟨outcome, pool⟩ := polled
  cases outcome <;> rfl

theorem free_of_freeLocalId {r : Relay} {tries : Nat} {counter id next : UInt32}
    (h : r.freeLocalId tries counter = some (id, next)) : r.isOpen id = false := by
  induction tries generalizing counter with
  | zero => cases h
  | succ tries ih =>
    rw [freeLocalId] at h
    split at h
    · exact ih h
    · rename_i hclosed
      cases h
      simpa using hclosed

theorem adopt_eq {r r' : Relay} {opening : Nat} (h : r.adopt opening = some r') :
    ∃ id localCounter, r.openings[opening]? = some .granted ∧ r.isOpen id = false ∧
      r' = { r with
        localCounter
        openings := r.openings.set opening (.opened r.nextGeneration)
        table := (id, r.nextGeneration) :: r.table
        connections := r.connections ++ [{ id, stage := .announcing }] } := by
  unfold adopt at h
  split at h
  case h_2 => cases h
  rename_i hgranted
  split at h
  · cases h
  rename_i id localCounter hfree
  have hid := free_of_freeLocalId hfree
  rw [insert, isOpen, show List.lookup id r.table = _ from rfl, ← isOpen, hid] at h
  cases h
  exact ⟨id, localCounter, hgranted, hid, rfl⟩

theorem arrival_adopt {r r' : Relay} {opening : Nat} (h : r.adopt opening = some r') :
    Arrival r r' := by
  obtain ⟨id, localCounter, hgranted, hfree, rfl⟩ := adopt_eq h
  exact .adopted opening id localCounter hgranted hfree

/-- Connection `g` has moved. -/
def Moves (writerOpen : Bool) (g : Nat) (action : Action) (r r' : Relay) (effects : List Effect) :
    Prop :=
  ∃ c base stage, r.connections[g]? = some c ∧ Move writerOpen r g c action base stage effects ∧
    r' = base.enter g stage

theorem moves_announce {w : Bool} {r r' : Relay} {g : Nat} {effects : List Effect}
    (h : r.announce w g = some (r', effects)) : Moves w g (.announce g) r r' effects := by
  unfold announce at h
  split at h
  case h_2 => cases h
  rename_i id queue hc
  split at h
  · rename_i effect he
    obtain ⟨hsendable, rfl⟩ := send_eq_ok_iff.mp he
    cases h
    exact ⟨_, _, _, hc, .announced rfl hsendable, rfl⟩
  · rename_i fault he
    cases h
    exact ⟨_, _, _, hc, .unannounced rfl (not_sendable_of_error he), rfl⟩

theorem moves_poll {w : Bool} {r r' : Relay} {g now lasts : Nat} (h : r.poll g now lasts = some r') :
    Moves w g (.poll g now lasts) r r' [] := by
  have hform : ∃ id queue a due, r.connections[g]? = some ⟨id, queue, .acquiring a due⟩ ∧
      due ≤ now ∧ r' = { r with pool := (r.pool.poll a).2 }.enter g
        (polledStage (now + lasts) (r.pool.poll a)) := by
    unfold poll at h
    split at h
    case h_2 => cases h
    rename_i id queue a due hc
    split at h
    · cases h
    refine ⟨id, queue, a, due, hc, Nat.not_lt.mp ‹_›, ?_⟩
    split at h <;> rename_i hpoll <;> cases h <;> rw [hpoll] <;> rfl
  obtain ⟨id, queue, a, due, hc, hripe, rfl⟩ := hform
  exact ⟨_, _, _, hc, .polled a due now lasts rfl hripe, rfl⟩

theorem moves_dialed {w : Bool} {r r' : Relay} {g : Nat} {succeeded : Bool}
    (h : r.dialed g succeeded = some r') : Moves w g (.dialed g succeeded) r r' [] := by
  unfold dialed at h
  split at h
  case h_2 => cases h
  rename_i hc
  cases h
  cases succeeded with
  | true => exact ⟨_, _, _, hc, .dialed rfl, rfl⟩
  | false => exact ⟨_, _, _, hc, .undialed rfl, rfl⟩

theorem moves_detach {w : Bool} {r r' : Relay} {g : Nat} (h : r.detach g = some r') :
    Moves w g (.detach g) r r' [] := by
  unfold detach at h
  split at h
  · rename_i id queue holding hc
    simp only [removeOwn_eq] at h
    cases h
    by_cases howner : r.table.lookup id = some g
    · exact ⟨_, _, _, hc, .withdrew holding rfl howner, by simp [howner]⟩
    · exact ⟨_, _, _, hc, .gaveUp holding rfl howner, by simp [howner]⟩
  · rename_i id queue down hc
    simp only [removeOwn_eq] at h
    cases h
    by_cases howner : r.table.lookup id = some g
    · exact ⟨_, _, _, hc, .detached down rfl howner, by simp [howner]⟩
    · exact ⟨_, _, _, hc, .wasDetached down rfl howner, by simp [howner]⟩
  · cases h

theorem moves_report {w : Bool} {r r' : Relay} {g : Nat} {effects : List Effect}
    (h : r.report w g = some (r', effects)) : Moves w g (.report g) r r' effects := by
  unfold report at h
  split at h
  · rename_i id queue holding hc
    cases h
    exact ⟨_, _, _, hc, .reportedSetup holding rfl, rfl⟩
  · rename_i id queue down hc
    cases h
    exact ⟨_, _, _, hc, .reported down rfl, rfl⟩
  · cases h

theorem moves_readLocal {w : Bool} {r r' : Relay} {g : Nat} {bytes : Bytes} {effects : List Effect}
    (h : r.readLocal w g bytes = some (r', effects)) : Moves w g (.readLocal g bytes) r r' effects := by
  unfold readLocal at h
  split at h
  case h_2 => cases h
  rename_i id queue down hc
  split at h
  · cases h
  rename_i hbytes
  obtain ⟨hsome, hbound⟩ := not_or.mp hbytes
  split at h
  · rename_i effect he
    obtain ⟨hsendable, rfl⟩ := send_eq_ok_iff.mp he
    cases h
    exact ⟨_, _, _, hc, .forwarded bytes down rfl hsome (Nat.not_lt.mp hbound) hsendable,
      (enter_self hc).symm⟩
  · rename_i fault he
    cases h
    exact ⟨_, _, _, hc, .refused bytes down rfl hsome (Nat.not_lt.mp hbound)
      (not_sendable_of_error he), rfl⟩

theorem moves_localEnded {w : Bool} {r r' : Relay} {g : Nat} (h : r.localEnded g = some r') :
    Moves w g (.localEnded g) r r' [] := by
  unfold localEnded at h
  split at h
  case h_2 => cases h
  rename_i hc
  cases h
  exact ⟨_, _, _, hc, .localEnded _ rfl, rfl⟩

theorem moves_cancelled {w : Bool} {r r' : Relay} {g : Nat} (h : r.cancelled g = some r') :
    Moves w g (.cancelled g) r r' [] := by
  unfold cancelled at h
  split at h
  case h_2 => cases h
  rename_i hc
  cases h
  exact ⟨_, _, _, hc, .cancelled rfl, rfl⟩

theorem moves_next {w : Bool} {r r' : Relay} {g : Nat} (h : r.next g = some r') :
    Moves w g (.next g) r r' [] := by
  unfold next at h
  split at h
  case h_2 => cases h
  rename_i id chunk queue up hc
  cases h
  cases chunk with
  | data bytes => exact ⟨_, _, _, hc, .took bytes queue up rfl rfl, rfl⟩
  | close => exact ⟨_, _, _, hc, .tookClose queue up rfl rfl, rfl⟩

theorem moves_writeLocal {w : Bool} {r r' : Relay} {g count : Nat} {effects : List Effect}
    (h : r.writeLocal g count = some (r', effects)) : Moves w g (.writeLocal g count) r r' effects := by
  unfold writeLocal at h
  split at h
  case h_2 => cases h
  rename_i hc
  cases h
  exact ⟨_, _, _, hc, .wrote count _ _ rfl, rfl⟩

theorem moves_writeFailed {w : Bool} {r r' : Relay} {g : Nat} (h : r.writeFailed g = some r') :
    Moves w g (.writeFailed g) r r' [] := by
  unfold writeFailed at h
  split at h
  case h_2 => cases h
  rename_i hc
  cases h
  exact ⟨_, _, _, hc, .writeFailed _ _ rfl, rfl⟩

theorem moves_shutLocal {w : Bool} {r r' : Relay} {g : Nat} {effects : List Effect}
    (h : r.shutLocal g = some (r', effects)) : Moves w g (.shutLocal g) r r' effects := by
  unfold shutLocal at h
  split at h
  case h_2 => cases h
  rename_i hc
  cases h
  exact ⟨_, _, _, hc, .shut _ rfl, rfl⟩

theorem quiet_eq_some {o : Option Relay} {r' : Relay} {effects : List Effect}
    (h : quiet o = some (r', effects)) : o = some r' ∧ effects = [] := by
  cases o with
  | none => cases h
  | some r =>
    cases h
    exact ⟨rfl, rfl⟩

/-- The connection whose tasks take the step. -/
def Action.mover? : Action → Option Nat
  | announce g => some g
  | poll g _ _ => some g
  | dialed g _ => some g
  | detach g => some g
  | report g => some g
  | readLocal g _ => some g
  | localEnded g => some g
  | cancelled g => some g
  | next g => some g
  | writeLocal g _ => some g
  | writeFailed g => some g
  | shutLocal g => some g
  | _ => none

theorem arrival_of_step {w : Bool} {action : Action} {r r' : Relay} {effects : List Effect}
    (hmover : action.mover? = none) (h : r.step w action = some (r', effects)) :
    Arrival r r' ∧ effects = [] := by
  cases action with
  | handle now payload =>
    simp only [step] at h
    split at h <;> cases h
    · exact ⟨arrival_handle ‹_›, rfl⟩
    · exact ⟨.ignored, rfl⟩
  | remove id => cases h; exact ⟨.removed id, rfl⟩
  | shutdown => cases h; exact ⟨.shutdown, rfl⟩
  | closePool => cases h; exact ⟨.poolClosed, rfl⟩
  | openLocal now => cases h; exact ⟨.opened now, rfl⟩
  | request opening now lasts =>
    obtain ⟨hstep, rfl⟩ := quiet_eq_some h
    exact ⟨arrival_request hstep, rfl⟩
  | adopt opening =>
    obtain ⟨hstep, rfl⟩ := quiet_eq_some h
    exact ⟨arrival_adopt hstep, rfl⟩
  | _ => cases hmover

theorem moves_of_step {w : Bool} {action : Action} {r r' : Relay} {effects : List Effect} {g : Nat}
    (hmover : action.mover? = some g) (h : r.step w action = some (r', effects)) :
    Moves w g action r r' effects := by
  cases action with
  | announce g => cases hmover; exact moves_announce h
  | poll g now lasts =>
    cases hmover
    obtain ⟨hstep, rfl⟩ := quiet_eq_some h
    exact moves_poll hstep
  | dialed g succeeded =>
    cases hmover
    obtain ⟨hstep, rfl⟩ := quiet_eq_some h
    exact moves_dialed hstep
  | detach g =>
    cases hmover
    obtain ⟨hstep, rfl⟩ := quiet_eq_some h
    exact moves_detach hstep
  | report g => cases hmover; exact moves_report h
  | readLocal g bytes => cases hmover; exact moves_readLocal h
  | localEnded g =>
    cases hmover
    obtain ⟨hstep, rfl⟩ := quiet_eq_some h
    exact moves_localEnded hstep
  | cancelled g =>
    cases hmover
    obtain ⟨hstep, rfl⟩ := quiet_eq_some h
    exact moves_cancelled hstep
  | next g =>
    cases hmover
    obtain ⟨hstep, rfl⟩ := quiet_eq_some h
    exact moves_next hstep
  | writeLocal g count => cases hmover; exact moves_writeLocal h
  | writeFailed g =>
    cases hmover
    obtain ⟨hstep, rfl⟩ := quiet_eq_some h
    exact moves_writeFailed hstep
  | shutLocal g => cases hmover; exact moves_shutLocal h
  | _ => cases hmover

/-- A step is an arrival, which sends nothing, or the move of one connection. -/
theorem step_cases {w : Bool} {action : Action} {r r' : Relay} {effects : List Effect}
    (h : r.step w action = some (r', effects)) :
    Arrival r r' ∧ effects = [] ∨ ∃ g, Moves w g action r r' effects := by
  cases hmover : action.mover? with
  | none => exact .inl (arrival_of_step hmover h)
  | some g => exact .inr ⟨g, moves_of_step hmover h⟩

/-- Whatever the tasks of a connection can do, a step does. -/
theorem step_of_move {w : Bool} {action : Action} {r base : Relay} {g : Nat} {c : Connection}
    {stage : Stage} {effects : List Effect} (hc : r.connections[g]? = some c)
    (h : Move w r g c action base stage effects) :
    r.step w action = some (base.enter g stage, effects) := by
  obtain ⟨id, queue, stage⟩ := c
  cases h with
  | polled a due now lasts hstage ripe =>
    subst hstage
    simp only [step, poll, hc, if_neg (Nat.not_lt.mpr ripe)]
    rcases poll_cases r.pool a with ⟨hpoll, -⟩ | ⟨e, hpoll⟩ | hpoll <;> rw [hpoll] <;> rfl
  | dialed hstage =>
    subst hstage
    simp [step, dialed, hc, quiet]
  | undialed hstage =>
    subst hstage
    simp [step, dialed, hc, quiet]
  | announced hstage sent =>
    subst hstage
    simp only [step, announce, hc, send_eq_ok_iff.mpr ⟨sent, rfl⟩]
  | unannounced hstage refused =>
    subst hstage
    obtain ⟨fault, hsend⟩ := send_eq_error g refused
    simp only [step, announce, hc, hsend]
  | withdrew holding hstage owner =>
    subst hstage
    simp_all [step, detach, quiet, removeOwn_eq]
  | gaveUp holding hstage other =>
    subst hstage
    simp_all [step, detach, quiet, removeOwn_eq]
  | detached down hstage owner =>
    subst hstage
    simp_all [step, detach, quiet, removeOwn_eq]
  | wasDetached down hstage other =>
    subst hstage
    simp_all [step, detach, quiet, removeOwn_eq]
  | reportedSetup holding hstage =>
    subst hstage
    simp only [step, report, hc]
  | reported down hstage =>
    subst hstage
    simp only [step, report, hc]
  | forwarded bytes down hstage some bound sent =>
    subst hstage
    rw [enter_self hc]
    simp only [step, readLocal, hc, send_eq_ok_iff.mpr ⟨sent, rfl⟩]
    exact if_neg (not_or.mpr ⟨some, Nat.not_lt.mpr bound⟩)
  | refused bytes down hstage some bound refused =>
    subst hstage
    obtain ⟨fault, hsend⟩ := send_eq_error g refused
    simp only [step, readLocal, hc, hsend]
    exact if_neg (not_or.mpr ⟨some, Nat.not_lt.mpr bound⟩)
  | localEnded down hstage =>
    subst hstage
    simp [step, localEnded, hc, quiet]
  | cancelled hstage =>
    subst hstage
    simp [step, cancelled, hc, quiet]
  | took bytes queue up hstage hfront =>
    subst hstage hfront
    simp [step, next, hc, quiet]
  | tookClose queue up hstage hfront =>
    subst hstage hfront
    simp [step, next, hc, quiet]
  | wrote count rest up hstage =>
    subst hstage
    simp only [step, writeLocal, hc]
  | writeFailed rest up hstage =>
    subst hstage
    simp [step, writeFailed, hc, quiet]
  | shut up hstage =>
    subst hstage
    simp only [step, shutLocal, hc]

theorem run_cons {w : Bool} {action : Action} {rest : List (Bool × Action)} {r r' : Relay}
    {effects : List Effect} :
    r.run ((w, action) :: rest) = some (r', effects) ↔
      ∃ s now later, r.step w action = some (s, now) ∧ s.run rest = some (r', later) ∧
        effects = now ++ later := by
  rw [run]
  constructor
  · intro h
    split at h
    · cases h
    rename_i s now hstep
    split at h
    · cases h
    rename_i t later hrun
    cases h
    exact ⟨s, now, later, hstep, hrun, rfl⟩
  · intro h
    obtain ⟨s, now, later, hstep, hrun, rfl⟩ := h
    simp only [hstep, hrun]

/-- A run, and another from where it ends. -/
theorem run_append {first rest : List (Bool × Action)} {r s t : Relay} {now later : List Effect}
    (h : r.run first = some (s, now)) (h' : s.run rest = some (t, later)) :
    r.run (first ++ rest) = some (t, now ++ later) := by
  induction first generalizing r now with
  | nil =>
    cases h
    exact h'
  | cons step first ih =>
    obtain ⟨w, action⟩ := step
    obtain ⟨u, now', later', hstep, hrun, rfl⟩ := run_cons.mp h
    rw [List.append_assoc]
    exact run_cons.mpr ⟨u, now', later' ++ later, hstep, ih hrun, rfl⟩

theorem run_one {w : Bool} {action : Action} {r r' : Relay} {effects : List Effect}
    (h : r.step w action = some (r', effects)) : r.run [(w, action)] = some (r', effects) :=
  run_cons.mpr ⟨r', effects, [], h, rfl, (List.append_nil _).symm⟩

/-- What every step keeps and says of its effects, a run keeps and says of all of its own. -/
theorem run_preserves {P : Relay → Prop} {Q : Effect → Prop}
    (hstep : ∀ {w : Bool} {action : Action} {r r' : Relay} {effects : List Effect},
      P r → r.step w action = some (r', effects) → P r' ∧ ∀ effect ∈ effects, Q effect)
    {steps : List (Bool × Action)} {r r' : Relay} {effects : List Effect} (hr : P r)
    (h : r.run steps = some (r', effects)) : P r' ∧ ∀ effect ∈ effects, Q effect := by
  induction steps generalizing r effects with
  | nil =>
    cases h
    exact ⟨hr, by simp⟩
  | cons step steps ih =>
    obtain ⟨w, action⟩ := step
    obtain ⟨s, now, later, hs, hrun, rfl⟩ := run_cons.mp h
    obtain ⟨hP, hnow⟩ := hstep hr hs
    obtain ⟨hP', hlater⟩ := ih hP hrun
    refine ⟨hP', fun effect heffect => ?_⟩
    rcases List.mem_append.mp heffect with hmem | hmem
    · exact hnow effect hmem
    · exact hlater effect hmem

end TunnelAgent.Relay
