import TunnelAgent.Proofs.Pool.History
import TunnelAgent.Proofs.Relay.Course

/-! # Relays that share one pool

Sessions come and go, each with a relay of its own; the tasks of the old ones go on, and all of them
take their slots from one pool. Every id in a table has one task that is still to take it out, and
every slot missing from the pool is held by a connection that has a task left. -/

namespace TunnelAgent.Relay

/-- What runs on behalf of a connection. -/
inductive Task where
  /-- of a connection that the gateway opened, until it forwards -/
  | setup
  /-- of a connection that the agent opens, until it forwards -/
  | opener
  | uplink
  | downlink
  deriving DecidableEq, Repr

def Stage.tasks : Stage → List Task
  | acquiring .. => [.setup]
  | dialing => [.setup]
  | failing _ => [.setup]
  | withdrawing _ => [.setup]
  | announcing => [.opener]
  | forwarding up down =>
    (if up = .ended then [] else [.uplink]) ++ if down = .ended then [] else [.downlink]
  | abandoned => []

/-- A local socket is still on its way. -/
def Opening.runs : Opening → Bool
  | waiting .. => true
  | granted => true
  | _ => false

/-- No task is left. -/
structure Idle (r : Relay) : Prop where
  connections : ∀ c ∈ r.connections, c.stage.tasks = []
  openings : ∀ o ∈ r.openings, o.runs = false

instance (r : Relay) : Decidable r.Idle :=
  decidable_of_iff ((∀ c ∈ r.connections, c.stage.tasks = []) ∧ ∀ o ∈ r.openings, o.runs = false)
    ⟨fun ⟨hconnections, hopenings⟩ => ⟨hconnections, hopenings⟩,
      fun h => ⟨h.connections, h.openings⟩⟩

/-- Of the tasks of a connection that has its id, one can take it out of the table. -/
theorem Stage.task_of_owns {stage : Stage} (h : stage.owns = true) :
    ∃ task, stage.tasks.filter (· ≠ .downlink) = [task] := by
  cases stage with
  | withdrawing holding => cases h
  | abandoned => cases h
  | announcing => exact ⟨.opener, rfl⟩
  | forwarding up down =>
    cases up with
    | reading => exact ⟨.uplink, by cases down <;> rfl⟩
    | detaching => exact ⟨.uplink, by cases down <;> rfl⟩
    | _ => cases h
  | _ => exact ⟨.setup, rfl⟩

theorem Stage.tasks_of_holds {stage : Stage} (h : stage.holds = true) : stage.tasks ≠ [] := by
  cases stage with
  | acquiring a due => cases h
  | abandoned => cases h
  | forwarding up down =>
    intro hnone
    rw [tasks, List.append_eq_nil_iff] at hnone
    obtain ⟨hup, hdown⟩ := hnone
    simp only [ite_eq_left_iff, reduceCtorEq, imp_false, Decidable.not_not] at hup hdown
    rw [hup, hdown] at h
    cases h
  | _ => simp [tasks]

theorem Idle.held {r : Relay} (h : r.Idle) : r.held = 0 := by
  have hconnections : r.connections.countP (·.stage.holds) = 0 := by
    refine List.countP_eq_zero.mpr fun c hc hholds => ?_
    exact Stage.tasks_of_holds hholds (h.connections c hc)
  have hopenings : r.openings.countP (·.holds) = 0 := by
    refine List.countP_eq_zero.mpr fun o ho hholds => ?_
    have hover := h.openings o ho
    cases o with
    | granted => cases hover
    | _ => cases hholds
  rw [Relay.held, hconnections, hopenings]

theorem Idle.table {owed : Nat} {r : Relay} (inv : Inv owed r) (h : r.Idle) : r.table = [] := by
  cases htable : r.table with
  | nil => rfl
  | cons entry table =>
    obtain ⟨id, g⟩ := entry
    have howner : r.table.lookup id = some g := by rw [htable, List.lookup_cons_self]
    obtain ⟨c, hc, -, howns⟩ := inv.owner howner
    obtain ⟨task, htask⟩ := Stage.task_of_owns howns
    rw [h.connections c (List.mem_of_getElem? hc)] at htask
    cases htask

/-- Whoever moves has a task. -/
theorem Move.task {w : Bool} {action : Action} {r base : Relay} {g : Nat} {c : Connection}
    {stage : Stage} {effects : List Effect} (h : Move w r g c action base stage effects) :
    c.stage.tasks ≠ [] := by
  cases h <;> simp [*, Stage.tasks]

theorem Idle.step {r : Relay} (h : r.Idle) {w : Bool} {action : Action} {g : Nat}
    (hmover : action.mover? = some g) : r.step w action = none := by
  cases hstep : r.step w action with
  | none => rfl
  | some outcome =>
    obtain ⟨c, base, stage, hc, hmove, -⟩ := moves_of_step hmover hstep
    exact absurd (h.connections c (List.mem_of_getElem? hc)) hmove.task

/-- How slots change hands in a step. A connection that the gateway opened gets them when the pool
grants its poll; one that the agent opens has them from its opening, which gets them likewise. A
connection gives them back with its last task. -/
structure Handover (action : Action) (r r' : Relay) : Prop where
  acquired : ∀ {g : Nat} {c c' : Connection}, r.connections[g]? = some c →
    r'.connections[g]? = some c' → c.stage.holds = false →
    (c'.stage.holds = true ↔ ∃ a due now lasts, action = .poll g now lasts ∧ c.stage = .acquiring a due ∧
      (r.pool.poll a).1 = .granted)
  released : ∀ {g : Nat} {c c' : Connection}, r.connections[g]? = some c →
    r'.connections[g]? = some c' → c.stage.holds = true →
    (c'.stage.holds = false ↔ c'.stage.tasks = [])
  born : ∀ {g : Nat} {c' : Connection}, r.connections[g]? = none →
    r'.connections[g]? = some c' → c'.stage.holds = true →
    ∃ opening, action = .adopt opening ∧ r.openings[opening]? = some .granted
  granted : ∀ {opening : Nat} {o o' : Opening}, r.openings[opening]? = some o →
    r'.openings[opening]? = some o' → o.holds = false →
    (o'.holds = true ↔ ∃ a due now lasts, action = .request opening now lasts ∧ o = .waiting a due ∧
      (r.pool.poll a).1 = .granted)
  adopted : ∀ {opening : Nat} {o o' : Opening}, r.openings[opening]? = some o →
    r'.openings[opening]? = some o' → o.holds = true → o'.holds = false →
    action = .adopt opening ∧
      ∃ c', r'.connections[r.nextGeneration]? = some c' ∧ c'.stage = .announcing

theorem Move.acquired {w : Bool} {action : Action} {r base : Relay} {g : Nat} {c : Connection}
    {stage : Stage} {effects : List Effect} (h : Move w r g c action base stage effects)
    (hplain : c.stage.holds = false) :
    stage.holds = true ↔ ∃ a due now lasts, action = .poll g now lasts ∧ c.stage = .acquiring a due ∧
      (r.pool.poll a).1 = .granted := by
  cases h with
  | polled a due now lasts hstage _ =>
    rcases poll_cases r.pool a with ⟨hpoll, -⟩ | ⟨e, hpoll⟩ | hpoll <;>
      simp [hpoll, hstage, polledStage, Stage.holds]
  | _ => simp_all [Stage.holds]

theorem Move.released {w : Bool} {action : Action} {r base : Relay} {g : Nat} {c : Connection}
    {stage : Stage} {effects : List Effect} (h : Move w r g c action base stage effects)
    (hholds : c.stage.holds = true) : stage.holds = false ↔ stage.tasks = [] := by
  have hforwarding : ∀ {up : Uplink} {down : Downlink},
      (Stage.forwarding up down).holds = false ↔ (Stage.forwarding up down).tasks = [] := by
    intro up down
    cases up <;> cases down <;> simp [Stage.holds, Stage.tasks]
  cases h with
  | polled a due now lasts hstage _ =>
    rw [hstage] at hholds
    cases hholds
  | forwarded bytes down hstage _ _ _ =>
    rw [hstage]
    exact hforwarding
  | undialed hstage => simp [Stage.holds, Stage.tasks]
  | withdrew holding hstage _ =>
    rw [hstage] at hholds
    simp [Stage.tasks, show holding = true from hholds, Stage.holds]
  | unannounced => exact ⟨fun _ => rfl, fun _ => rfl⟩
  | gaveUp => exact ⟨fun _ => rfl, fun _ => rfl⟩
  | reportedSetup => exact ⟨fun _ => rfl, fun _ => rfl⟩
  | _ => exact hforwarding

theorem Move.openings {w : Bool} {action : Action} {r base : Relay} {g : Nat} {c : Connection}
    {stage : Stage} {effects : List Effect} (h : Move w r g c action base stage effects) :
    base.openings = r.openings := by
  cases h with
  | unannounced =>
    rw [removeOwn_eq]
    split
    · exact remove_openings r c.id
    · rfl
  | withdrew => exact remove_openings r c.id
  | detached => exact remove_openings r c.id
  | _ => rfl

@[simp] theorem take_openings (r : Relay) (now : Nat) (data : SocketData) :
    (r.take now data).openings = r.openings := by
  obtain ⟨id, event⟩ := data
  cases event with
  | start =>
    simp only [take, accept, insert]
    split <;> rfl
  | data bytes =>
    simp only [take, receive]
    split <;> rfl
  | close => exact remove_openings r id

/-- What a step does to the openings, and to the connections that come of them. -/
inductive Opens (action : Action) (r : Relay) : Relay → Prop where
  | none {r' : Relay} (same : r'.openings = r.openings)
      (asking : ∀ {g : Nat} {c : Connection}, r.connections[g]? = none →
        r'.connections[g]? = some c → ∃ a due, c.stage = .acquiring a due)
      (request : ∀ opening now lasts, action ≠ .request opening now lasts)
      (adopt : ∀ opening, action ≠ .adopt opening) : Opens action r r'
  | opened (now : Nat) (own : action = .openLocal now) : Opens action r (r.openLocal now)
  | requested (opening now lasts : Nat) (a : Acquisition) (due : Nat)
      (own : action = .request opening now lasts)
      (waiting : r.openings[opening]? = some (.waiting a due)) :
      Opens action r (r.polledOpening opening (now + lasts) (r.pool.poll a))
  | adopted (opening : Nat) (id localCounter : UInt32) (own : action = .adopt opening)
      (granted : r.openings[opening]? = some .granted) :
      Opens action r { r with
        localCounter
        openings := r.openings.set opening (.opened r.nextGeneration)
        table := (id, r.nextGeneration) :: r.table
        connections := r.connections ++ [{ id, stage := .announcing }] }

theorem opens_of_bound {action : Action} {r r' : Relay} (hsame : r'.openings = r.openings)
    (hbound : r'.nextGeneration = r.nextGeneration)
    (hrequest : ∀ opening now lasts, action ≠ .request opening now lasts)
    (hadopt : ∀ opening, action ≠ .adopt opening) : Opens action r r' := by
  refine .none hsame (fun {g c} hnone hc => ?_) hrequest hadopt
  obtain ⟨hlt, -⟩ := List.getElem?_eq_some_iff.mp hc
  rw [List.getElem?_eq_none_iff] at hnone
  exact absurd (Nat.lt_of_lt_of_eq hlt hbound) (Nat.not_lt.mpr hnone)

theorem asking_of_take {r : Relay} {now g : Nat} {data : SocketData} {c : Connection}
    (hnone : r.connections[g]? = none) (hc : (r.take now data).connections[g]? = some c) :
    ∃ a due, c.stage = .acquiring a due := by
  obtain ⟨id, event⟩ := data
  rw [List.getElem?_eq_none_iff] at hnone
  cases event with
  | start =>
    simp only [take, accept, insert] at hc
    split at hc
    · rw [Option.getD_none, List.getElem?_eq_none hnone] at hc
      cases hc
    · rw [Option.getD_some, List.getElem?_append_right hnone, List.getElem?_singleton] at hc
      split at hc
      · cases hc
        exact ⟨_, _, rfl⟩
      · cases hc
  | data bytes =>
    simp only [take, receive] at hc
    split at hc
    · rw [List.getElem?_eq_none hnone] at hc
      cases hc
    · rw [getElem?_post, List.getElem?_eq_none hnone] at hc
      split at hc <;> cases hc
  | close =>
    simp only [take] at hc
    rw [getElem?_remove, List.getElem?_eq_none hnone] at hc
    split at hc <;> cases hc

theorem opens_of_step {w : Bool} {action : Action} {r r' : Relay} {effects : List Effect}
    (h : r.step w action = some (r', effects)) : Opens action r r' := by
  cases hmover : action.mover? with
  | some g =>
    obtain ⟨c, base, stage, -, hmove, rfl⟩ := moves_of_step hmover h
    refine opens_of_bound ((enter_openings ..).trans hmove.openings)
      ((enter_nextGeneration ..).trans hmove.base.2.1) ?_ ?_
    · rintro opening now lasts rfl
      cases hmover
    · rintro opening rfl
      cases hmover
  | none =>
    cases action with
    | handle now payload =>
      simp only [step, handle] at h
      cases hdata : SocketData.format.decode payload with
      | ok data =>
        rw [hdata] at h
        cases h
        exact .none (take_openings r now data) asking_of_take (by simp) (by simp)
      | error fault =>
        rw [hdata] at h
        cases h
        exact opens_of_bound rfl rfl (by simp) (by simp)
    | remove id =>
      cases h
      exact opens_of_bound (remove_openings r id) (remove_nextGeneration r id) (by simp) (by simp)
    | shutdown =>
      cases h
      exact opens_of_bound (closeAll_openings ..) (closeAll_nextGeneration ..) (by simp) (by simp)
    | closePool => cases h; exact opens_of_bound rfl rfl (by simp) (by simp)
    | openLocal now => cases h; exact .opened now rfl
    | request opening now lasts =>
      obtain ⟨a, due, hwaiting, -, rfl⟩ := request_eq (quiet_eq_some h).1
      exact .requested opening now lasts a due rfl hwaiting
    | adopt opening =>
      obtain ⟨id, localCounter, hgranted, -, rfl⟩ := adopt_eq (quiet_eq_some h).1
      exact .adopted opening id localCounter rfl hgranted
    | _ => cases hmover

/-- A step is the connection's own move, or leaves its stage as it was. -/
theorem stage_of_step {owed g : Nat} {w : Bool} {action : Action} {r r' : Relay}
    {c c' : Connection} {effects : List Effect} (inv : Inv owed r)
    (h : r.step w action = some (r', effects)) (hc : r.connections[g]? = some c)
    (hc' : r'.connections[g]? = some c') :
    (∃ base more, Move w r g c action base c'.stage more) ∨
      action.mover? ≠ some g ∧ c'.stage = c.stage := by
  by_cases hmover : action.mover? = some g
  · obtain ⟨d, base, stage, hd, hmove, rfl⟩ := moves_of_step hmover h
    rw [hc, Option.some.injEq] at hd
    subst hd
    obtain ⟨d, hnext, -⟩ := hmove.next hc
    rw [getElem?_enter_self stage hnext, Option.some.injEq] at hc'
    rw [← hc']
    exact .inl ⟨base, effects, hmove⟩
  · obtain ⟨-, chunks, hfed, -⟩ := fed_of_step inv hc hmover h
    rw [hfed, Option.some.injEq] at hc'
    rw [← hc', Connection.feed_stage]
    exact .inr ⟨hmover, rfl⟩

theorem openings_polledOpening {r : Relay} {opening next due k : Nat} {a : Acquisition}
    (hwaiting : r.openings[opening]? = some (.waiting a due)) :
    ∃ o, (o.holds = true ↔ (r.pool.poll a).1 = .granted) ∧
      (r.polledOpening opening next (r.pool.poll a)).openings[k]? =
        if opening = k then some o else r.openings[k]? := by
  rcases poll_cases r.pool a with ⟨hpoll, -⟩ | ⟨e, hpoll⟩ | hpoll <;> rw [hpoll]
  · exact ⟨.granted, by simp [Opening.holds], getElem?_set_of_some _ hwaiting k⟩
  · exact ⟨.refused e, by simp [Opening.holds], getElem?_set_of_some _ hwaiting k⟩
  · exact ⟨.waiting _ _, by simp [Opening.holds], getElem?_set_of_some _ hwaiting k⟩

theorem Opens.granted {action : Action} {r r' : Relay} {opening : Nat} {o o' : Opening}
    (h : Opens action r r') (ho : r.openings[opening]? = some o)
    (ho' : r'.openings[opening]? = some o') (hplain : o.holds = false) :
    o'.holds = true ↔ ∃ a due now lasts, action = .request opening now lasts ∧ o = .waiting a due ∧
      (r.pool.poll a).1 = .granted := by
  have hkept : o' = o → (∀ now lasts, action ≠ .request opening now lasts) →
      (o'.holds = true ↔ ∃ a due now lasts, action = .request opening now lasts ∧ o = .waiting a due ∧
        (r.pool.poll a).1 = .granted) := by
    intro hsame hother
    rw [hsame, hplain]
    refine iff_of_false (by simp) ?_
    rintro ⟨a, due, now, lasts, hown, -⟩
    exact hother now lasts hown
  cases h with
  | none same _ request _ =>
    rw [same, ho, Option.some.injEq] at ho'
    exact hkept ho'.symm (request opening)
  | opened now own =>
    obtain ⟨hlt, -⟩ := List.getElem?_eq_some_iff.mp ho
    rw [openLocal, List.getElem?_append_left hlt, ho, Option.some.injEq] at ho'
    exact hkept ho'.symm (by simp [own])
  | requested k now lasts a due own waiting =>
    obtain ⟨polled, hpolled, hget⟩ := openings_polledOpening (k := opening) waiting
    rw [hget] at ho'
    by_cases hk : k = opening
    · subst hk
      rw [if_pos rfl, Option.some.injEq] at ho'
      rw [waiting, Option.some.injEq] at ho
      rw [← ho', ← ho, hpolled, own]
      constructor
      · intro hgranted
        exact ⟨a, due, now, lasts, rfl, rfl, hgranted⟩
      · rintro ⟨a', due', now', lasts', -, hwaiting, hgranted⟩
        cases hwaiting
        exact hgranted
    · rw [if_neg hk, ho, Option.some.injEq] at ho'
      exact hkept ho'.symm (by simp [own, hk])
  | adopted k id localCounter own granted =>
    rw [getElem?_set_of_some _ granted] at ho'
    by_cases hk : k = opening
    · subst hk
      rw [granted, Option.some.injEq] at ho
      rw [← ho] at hplain
      cases hplain
    · rw [if_neg hk, ho, Option.some.injEq] at ho'
      exact hkept ho'.symm (by simp [own])

theorem Opens.adopted_of_holds {action : Action} {r r' : Relay} {opening : Nat} {o o' : Opening}
    (h : Opens action r r') (ho : r.openings[opening]? = some o)
    (ho' : r'.openings[opening]? = some o') (hholds : o.holds = true) (hplain : o'.holds = false) :
    action = .adopt opening ∧
      ∃ c, r'.connections[r.nextGeneration]? = some c ∧ c.stage = .announcing := by
  have hkept : o' ≠ o := by
    intro hsame
    rw [hsame, hholds] at hplain
    cases hplain
  cases h with
  | none same _ _ _ =>
    rw [same, ho, Option.some.injEq] at ho'
    exact absurd ho'.symm hkept
  | opened now own =>
    obtain ⟨hlt, -⟩ := List.getElem?_eq_some_iff.mp ho
    rw [openLocal, List.getElem?_append_left hlt, ho, Option.some.injEq] at ho'
    exact absurd ho'.symm hkept
  | requested k now lasts a due own waiting =>
    obtain ⟨polled, -, hget⟩ := openings_polledOpening (k := opening) waiting
    rw [hget] at ho'
    by_cases hk : k = opening
    · subst hk
      rw [waiting, Option.some.injEq] at ho
      rw [← ho] at hholds
      cases hholds
    · rw [if_neg hk, ho, Option.some.injEq] at ho'
      exact absurd ho'.symm hkept
  | adopted k id localCounter own granted =>
    rw [getElem?_set_of_some _ granted] at ho'
    by_cases hk : k = opening
    · subst hk
      exact ⟨own, { id, stage := .announcing }, by simp [nextGeneration], rfl⟩
    · rw [if_neg hk, ho, Option.some.injEq] at ho'
      exact absurd ho'.symm hkept

theorem handover_of_step {owed : Nat} {w : Bool} {action : Action} {r r' : Relay}
    {effects : List Effect} (inv : Inv owed r) (h : r.step w action = some (r', effects)) :
    Handover action r r' := by
  have hopens := opens_of_step h
  refine ⟨?_, ?_, ?_, hopens.granted, hopens.adopted_of_holds⟩
  · intro g c c' hc hc' hplain
    rcases stage_of_step inv h hc hc' with ⟨base, more, hmove⟩ | ⟨hmover, hstage⟩
    · exact hmove.acquired hplain
    · rw [hstage, hplain]
      refine iff_of_false (by simp) ?_
      rintro ⟨a, due, now, lasts, rfl, -⟩
      exact hmover rfl
  · intro g c c' hc hc' hholds
    rcases stage_of_step inv h hc hc' with ⟨base, more, hmove⟩ | ⟨hmover, hstage⟩
    · exact hmove.released hholds
    · rw [hstage, hholds]
      exact iff_of_false (by simp) (Stage.tasks_of_holds hholds)
  · intro g c' hnone hc' hholds
    cases hopens with
    | none _ asking _ _ =>
      obtain ⟨a, due, hstage⟩ := asking hnone hc'
      rw [hstage] at hholds
      cases hholds
    | opened now own =>
      rw [show (r.openLocal now).connections[g]? = none from hnone] at hc'
      cases hc'
    | requested opening now lasts a due own waiting =>
      rw [polledOpening_connections, hnone] at hc'
      cases hc'
    | adopted opening id localCounter own granted => exact ⟨opening, own, granted⟩

theorem step_capacity {w : Bool} {action : Action} {r r' : Relay} {effects : List Effect}
    (h : r.step w action = some (r', effects)) : r'.pool.capacity = r.pool.capacity := by
  rcases step_cases h with ⟨harrival, -⟩ | ⟨g, c, base, stage, -, hmove, rfl⟩
  · cases harrival with
    | removed id => rw [remove_pool]
    | shutdown => rw [shutdown_eq, closeAll_pool]
    | requested opening now lasts a due _ _ =>
      rcases poll_cases r.pool a with ⟨hpoll, -⟩ | ⟨e, hpoll⟩ | hpoll <;> rw [hpoll] <;> rfl
    | _ => rfl
  · rw [enter_capacity, (hmove.base.1 g).capacity]

/-- The relays of all sessions so far. The pool of a relay is up to date while it takes a step; the
pool that they share is kept apart. -/
structure Shared where
  pool : Pool
  relays : List Relay := []
  deriving DecidableEq, Repr

namespace Shared

inductive Event where
  /-- a session begins -/
  | session (bufferSize : Nat)
  /-- one of the relays takes a step -/
  | act (relay : Nat) (writerOpen : Bool) (action : Action)
  deriving DecidableEq, Repr

def step : Event → Shared → Option Shared
  | .session bufferSize, s => some { s with relays := s.relays ++ [{ pool := s.pool, bufferSize }] }
  | .act i writerOpen action, s =>
    match s.relays[i]? with
    | none => none
    | some r =>
      match ({ r with pool := s.pool } : Relay).step writerOpen action with
      | none => none
      | some (r, _) => some { pool := r.pool, relays := s.relays.set i r }

def run : List Event → Shared → Option Shared
  | [], s => some s
  | event :: events, s =>
    match s.step event with
    | none => none
    | some s => run events s

/-- How many connections of all relays, made or on their way, hold slots. -/
def held (s : Shared) : Nat := (s.relays.map Relay.held).sum

structure Inv (s : Shared) : Prop where
  relays : ∀ r ∈ s.relays, ∃ owed, Relay.Inv owed r
  balance : s.pool.available + 2 * s.held = s.pool.capacity

/-- What the other relays hold is owed to a relay that takes a step. -/
theorem Inv.relay {s : Shared} (inv : s.Inv) {i : Nat} {r : Relay} (hr : s.relays[i]? = some r) :
    ∃ others, Relay.Inv (2 * others) { r with pool := s.pool } ∧
      ∀ r', ((s.relays.set i r').map Relay.held).sum = others + r'.held := by
  -- The pool it has kept since its last step is out of date; nothing else about it is.
  obtain ⟨owed, h⟩ := inv.relays r (List.mem_of_getElem? hr)
  obtain ⟨others, hsum, hset⟩ := sum_set (f := Relay.held) hr
  refine ⟨others, ⟨h.nodup, h.owner, h.closing, h.asks, h.asksOpening, ?_⟩, hset⟩
  have hbalance := inv.balance
  rw [held, hsum] at hbalance
  show s.pool.available + 2 * r.held + 2 * others = s.pool.capacity
  omega

theorem step_act {s s' : Shared} {i : Nat} {w : Bool} {action : Action}
    (h : s.step (.act i w action) = some s') :
    ∃ r r' effects, s.relays[i]? = some r ∧
      ({ r with pool := s.pool } : Relay).step w action = some (r', effects) ∧
      s' = { pool := r'.pool, relays := s.relays.set i r' } := by
  simp only [step] at h
  split at h
  · cases h
  · rename_i r hr
    split at h
    · cases h
    · rename_i r' effects hstep
      cases h
      exact ⟨r, r', effects, hr, hstep, rfl⟩

theorem Inv.step {s s' : Shared} {event : Event} (inv : s.Inv) (h : s.step event = some s') :
    s'.Inv ∧ s'.pool.capacity = s.pool.capacity := by
  cases event with
  | session bufferSize =>
    cases h
    refine ⟨⟨?_, ?_⟩, rfl⟩
    · intro r hr
      rcases List.mem_append.mp hr with hr | hr
      · exact inv.relays r hr
      · rw [List.mem_singleton.mp hr]
        exact ⟨2 * s.held, .fresh inv.balance⟩
    · have hnew : s.held = (s.relays.map Relay.held).sum := rfl
      show s.pool.available + 2 * ((s.relays ++ [_]).map Relay.held).sum = s.pool.capacity
      rw [List.map_append, List.sum_append, ← hnew]
      exact inv.balance
  | act i w action =>
    obtain ⟨r, r', effects, hr, hstep, rfl⟩ := step_act h
    obtain ⟨others, hrelay, hset⟩ := inv.relay hr
    have hinv := hrelay.step hstep
    refine ⟨⟨?_, ?_⟩, step_capacity hstep⟩
    · intro q hq
      rcases List.mem_or_eq_of_mem_set hq with hq | rfl
      · exact inv.relays q hq
      · exact ⟨_, hinv⟩
    · have hbalance := hinv.balance
      show r'.pool.available + 2 * ((s.relays.set i r').map Relay.held).sum = r'.pool.capacity
      rw [hset]
      omega

theorem Inv.run {s s' : Shared} {events : List Event} (inv : s.Inv) (h : s.run events = some s') :
    s'.Inv ∧ s'.pool.capacity = s.pool.capacity := by
  induction events generalizing s with
  | nil =>
    cases h
    exact ⟨inv, rfl⟩
  | cons event events ih =>
    rw [Shared.run] at h
    split at h
    · cases h
    · rename_i t hstep
      obtain ⟨hinv, hcapacity⟩ := inv.step hstep
      obtain ⟨hlast, hrest⟩ := ih hinv h
      exact ⟨hlast, hrest.trans hcapacity⟩

/-- In every state of relays that share a pool, an id in a table has a connection with one task that
is still to take it out; no two ids share a connection; the slots missing from the pool are those of
the connections that hold them, from the poll that is granted until no task is left. So when no task
is left anywhere, no id is either, and the pool is whole. -/
theorem no_orphans_no_leaks {pool : Pool} {events : List Event} {s : Shared}
    (hpool : pool.available = pool.capacity) (hrun : Shared.run events { pool } = some s) :
    (∀ r ∈ s.relays,
      (∀ entry ∈ r.table, ∃ c task, r.connections[entry.2]? = some c ∧ c.id = entry.1 ∧
        c.stage.owns = true ∧ c.stage.tasks.filter (· ≠ .downlink) = [task]) ∧
      (r.table.map (·.1)).Nodup ∧ (r.table.map (·.2)).Nodup ∧
      ∀ entry ∈ r.table, entry.2 < r.nextGeneration) ∧
    s.pool.available + 2 * s.held = s.pool.capacity ∧ s.pool.capacity = pool.capacity ∧
    (∀ (i : Nat) (r : Relay) (w : Bool) (action : Action) (r' : Relay) (effects : List Effect),
      s.relays[i]? = some r →
      ({ r with pool := s.pool } : Relay).step w action = some (r', effects) →
      Handover action { r with pool := s.pool } r') ∧
    ((∀ r ∈ s.relays, r.Idle) →
      (∀ r ∈ s.relays, r.table = [] ∧ ∀ w action g, action.mover? = some g →
        ({ r with pool := s.pool } : Relay).step w action = none) ∧
      s.pool.available = s.pool.capacity) := by
  have hstart : Inv { pool } := ⟨by simp, by simpa [held] using hpool⟩
  obtain ⟨inv, hcapacity⟩ := hstart.run hrun
  refine ⟨?_, inv.balance, hcapacity, ?_, ?_⟩
  · intro r hr
    obtain ⟨owed, hinv⟩ := inv.relays r hr
    have howned : ∀ entry ∈ r.table, ∃ c, r.connections[entry.2]? = some c ∧ c.id = entry.1 ∧
        c.stage.owns = true := by
      intro entry hentry
      exact hinv.owner ((mem_iff_lookup hinv.nodup entry.1 entry.2).mp hentry)
    refine ⟨?_, hinv.nodup, hinv.generations, ?_⟩
    · intro entry hentry
      obtain ⟨c, hc, hid, howns⟩ := howned entry hentry
      obtain ⟨task, htask⟩ := Stage.task_of_owns howns
      exact ⟨c, task, hc, hid, howns, htask⟩
    · intro entry hentry
      obtain ⟨c, hc, -⟩ := howned entry hentry
      obtain ⟨hlt, -⟩ := List.getElem?_eq_some_iff.mp hc
      exact hlt
  · intro i r w action r' effects hr hstep
    obtain ⟨others, hrelay, -⟩ := inv.relay hr
    exact handover_of_step hrelay hstep
  · intro hidle
    have hnone : s.held = 0 := by
      refine List.sum_eq_zero_iff_forall_eq_nat.mpr fun n hn => ?_
      obtain ⟨r, hr, rfl⟩ := List.mem_map.mp hn
      exact (hidle r hr).held
    refine ⟨fun r hr => ?_, ?_⟩
    · obtain ⟨owed, hinv⟩ := inv.relays r hr
      have hquiet : Idle { r with pool := s.pool } :=
        ⟨(hidle r hr).connections, (hidle r hr).openings⟩
      exact ⟨(hidle r hr).table hinv, fun w action g hmover => hquiet.step hmover⟩
    · have hbalance := inv.balance
      rwa [hnone] at hbalance

theorem no_orphans_no_leaks_of_two_sessions :
    ∃ s, Shared.run
      [.session 1024, .act 0 true (.handle 0 (SocketData.format.write ⟨5, .start⟩)),
        .act 0 true (.poll 0 0 1), .act 0 true (.dialed 0 true), .session 1024,
        .act 1 true (.openLocal 0), .act 1 true (.request 0 0 1), .act 1 true (.adopt 0),
        .act 1 false (.announce 0), .act 0 true .shutdown, .act 0 true (.next 0),
        .act 0 true (.shutLocal 0), .act 0 true (.cancelled 0), .act 0 true (.detach 0)]
      { pool := { capacity := 4, retryAttempts := 0, retryInterval := 1 } } = some s ∧
    s.relays.length = 2 ∧ (∀ r ∈ s.relays, r.table = []) ∧ s.pool.available = s.pool.capacity := by
  have hrun : Shared.run
      [.session 1024, .act 0 true (.handle 0 (SocketData.format.write ⟨5, .start⟩)),
        .act 0 true (.poll 0 0 1), .act 0 true (.dialed 0 true), .session 1024,
        .act 1 true (.openLocal 0), .act 1 true (.request 0 0 1), .act 1 true (.adopt 0),
        .act 1 false (.announce 0), .act 0 true .shutdown, .act 0 true (.next 0),
        .act 0 true (.shutLocal 0), .act 0 true (.cancelled 0), .act 0 true (.detach 0)]
      { pool := { capacity := 4, retryAttempts := 0, retryInterval := 1 } } = some _ := rfl
  obtain ⟨-, -, -, -, hidle⟩ := no_orphans_no_leaks rfl hrun
  obtain ⟨hempty, hwhole⟩ := hidle (by decide +kernel)
  exact ⟨_, hrun, rfl, fun r hr => (hempty r hr).1, hwhole⟩

end Shared

end TunnelAgent.Relay
