/-!
A bounded pool of slots. An acquisition polls the pool a bounded number of times, at a fixed
interval: each poll takes all its slots or none. The number of polls is one more than the
configured retries, in 32-bit arithmetic. At the largest setting that sum overflows: a release
wraps it to none, and a build that checks its arithmetic ends the task that asks.
-/

namespace TunnelAgent

/-- What arithmetic does with a sum that its type cannot hold. -/
inductive Overflow where
  | wraps
  /-- the task that adds ends without a result -/
  | panics
  deriving DecidableEq, Repr

/-- `n + 1`, if the task that asks for it goes on. -/
def Overflow.succ? : Overflow → UInt32 → Option UInt32
  | wraps, n => some (n + 1)
  | panics, n => if n = 4294967295 then none else some (n + 1)

inductive PoolFault where
  | exhausted (requested attempts : UInt32)
  | closed
  deriving DecidableEq, Repr

def PoolFault.message : PoolFault → String
  | .exhausted n k => s!"Worker pool exhausted: {n} slots unavailable after {k} attempts"
  | .closed => "Worker pool closed"

structure Pool where
  capacity : Nat
  retryAttempts : UInt32
  /-- what is slept between two polls -/
  retryInterval : Nat
  available : Nat := capacity
  closed : Bool := false
  deriving DecidableEq, Repr

/-- An acquisition that has polled `made` times out of `attempts`. -/
structure Acquisition where
  slots : UInt32
  attempts : UInt32
  made : Nat := 0
  deriving DecidableEq, Repr

inductive Poll where
  | granted
  | refused (fault : PoolFault)
  /-- poll again after the interval -/
  | retry (next : Acquisition)
  deriving DecidableEq, Repr

namespace Pool

def close (p : Pool) : Pool := { p with closed := true }

/-- A request in wrapping arithmetic, which is never lost. -/
def request (p : Pool) (slots : UInt32) : Acquisition :=
  { slots, attempts := p.retryAttempts + 1 }

/-- `none` if the task that makes the request ends over it. -/
def request? (overflow : Overflow) (p : Pool) (slots : UInt32) : Option Acquisition :=
  (overflow.succ? p.retryAttempts).map fun attempts => { slots, attempts }

/-- One poll. Slots are taken exactly when it is granted. -/
def poll (p : Pool) (a : Acquisition) : Poll × Pool :=
  if a.attempts.toNat ≤ a.made then (.refused (.exhausted a.slots a.attempts), p)
  else if p.closed then (.refused .closed, p)
  else if a.slots.toNat ≤ p.available then
    (.granted, { p with available := p.available - a.slots.toNat })
  else if a.made + 1 < a.attempts.toNat then (.retry { a with made := a.made + 1 }, p)
  else (.refused (.exhausted a.slots a.attempts), p)

def release (p : Pool) (slots : UInt32) : Pool := { p with available := p.available + slots.toNat }

/-- What the users of a pool run on. -/
structure Runtime where
  overflow : Overflow := .wraps
  /-- how long a sleep takes -/
  lasts : Nat → Nat

/-- Whoever has made this request has ended over it. -/
def Runtime.loses (rt : Runtime) (a : Acquisition) : Bool :=
  rt.overflow == .panics && a.attempts == 0

end Pool

end TunnelAgent
