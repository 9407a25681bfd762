import TunnelAgent.Relay.Step

/-!
One order for the relay's own steps, on a host where dials end at once and local sockets take all
that is written to them: the oldest connection that can go on goes on. `settle` lets everything
happen that can happen at one time. Whoever has ended over a request to the pool never goes on.
-/

namespace TunnelAgent.Relay

section
variable (rt : Pool.Runtime) (dials : Bool) (now nap : Nat)

/-- The next step of a connection's own tasks. -/
def Connection.next? (generation : Nat) (c : Connection) : Option Action :=
  match c.stage with
  | .acquiring a due => if due ≤ now ∧ !rt.loses a then some (.poll generation now nap) else none
  | .dialing => some (.dialed generation dials)
  | .failing _ => some (.detach generation)
  | .withdrawing _ => some (.report generation)
  | .announcing => some (.announce generation)
  | .forwarding .detaching _ => some (.detach generation)
  | .forwarding .reporting _ => some (.report generation)
  | .forwarding .reading .ended => some (.cancelled generation)
  | .forwarding _ .receiving => if c.queue.isEmpty then none else some (.next generation)
  | .forwarding _ (.writing rest) => some (.writeLocal generation rest.length)
  | .forwarding _ .shutting => some (.shutLocal generation)
  | .forwarding .ended .ended => none
  | .abandoned => none

def Opening.next? (opening : Nat) : Opening → Option Action
  | .waiting a due => if due ≤ now ∧ !rt.loses a then some (.request opening now nap) else none
  | .granted => some (.adopt opening)
  | _ => none

end

section
variable (rt : Pool.Runtime) (dials : Bool) (now : Nat)

def next? (r : Relay) : Option Action :=
  let nap := rt.lasts r.pool.retryInterval
  match r.connections.zipIdx.findSome? fun (c, i) => c.next? rt dials now nap i with
  | some action => some action
  | none => r.openings.zipIdx.findSome? fun (o, i) => o.next? rt now nap i

/-- When the next acquisition polls the pool. -/
def due? (r : Relay) : Option Nat :=
  let dues := r.connections.filterMap (fun c => match c.stage with
      | .acquiring a due => if rt.loses a then none else some due
      | _ => none) ++
    r.openings.filterMap (fun o => match o with
      | .waiting a due => if rt.loses a then none else some due
      | _ => none)
  dues.min?

/-- At one time a connection takes at most two steps for each chunk, one for each poll that is not
slept before, and ten more. -/
def work (r : Relay) : Nat :=
  r.connections.foldl (fun n c => n + 2 * c.queue.length + 10) 0 + 10 * r.openings.length +
    (r.connections.length + r.openings.length) *
      (if rt.lasts r.pool.retryInterval = 0 then (r.pool.retryAttempts + 1).toNat else 1)

def settleFor (writerOpen : Bool) : Nat → List Effect → Relay → Outcome
  | 0, effects, r => (r, effects.reverse)
  | n + 1, effects, r =>
    match r.next? rt dials now with
    | none => (r, effects.reverse)
    | some action =>
      match r.step writerOpen action with
      | none => (r, effects.reverse)
      | some (r, more) => settleFor writerOpen n (more.reverse ++ effects) r

/-- Lets the relay go on until it waits for the clock, a socket or the gateway. -/
def settle (writerOpen : Bool) (r : Relay) : Outcome :=
  settleFor rt dials now writerOpen (r.work rt) [] r

end

end TunnelAgent.Relay
