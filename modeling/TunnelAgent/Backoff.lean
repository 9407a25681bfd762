import TunnelAgent.Duration

/-!
Pacing between sessions. The pause grows by a factor with each failed session, up to a cap, and
starts afresh once a session has worked. A factor that is not finite, or at most one, keeps the
pause flat. The limit on attempts is checked before anything else about a pause.
-/

namespace TunnelAgent

structure BackoffPolicy where
  initial : Duration := Duration.ofSeconds 1
  longest : Duration := Duration.ofSeconds 60
  multiplier : Binary64 := Binary64.ofNat 2
  /-- failed sessions in a row before giving up -/
  limit : Option Nat := none
  deriving DecidableEq, Repr

inductive BackoffFault where
  | maxAttemptsReached (limit : Nat)
  | cancelled
  deriving DecidableEq, Repr

def BackoffFault.message : BackoffFault → String
  | .maxAttemptsReached n => s!"Gateway unreachable after {n} sessions in a row"
  | .cancelled => "Agent shut down while waiting for the gateway"

namespace BackoffPolicy

def firstPause (p : BackoffPolicy) : Duration := min p.initial p.longest

def grows (p : BackoffPolicy) : Bool := p.multiplier.isFinite && !p.multiplier.le Binary64.one

/-- The pause that follows `pause`. -/
def grown (p : BackoffPolicy) (pause : Duration) : Duration :=
  if p.grows then
    let seconds := (Duration.toSeconds pause).mul p.multiplier
    if (Duration.toSeconds p.longest).le seconds then p.longest else Duration.ofSeconds64 seconds
  else pause

end BackoffPolicy

structure Backoff where
  policy : BackoffPolicy
  pause : Duration := policy.firstPause
  attempt : Nat := 0
  deriving DecidableEq, Repr

namespace Backoff

/-- Counts another attempt; fails when there have been too many. -/
def begin (b : Backoff) : Except BackoffFault Duration × Backoff :=
  let b := { b with attempt := b.attempt + 1 }
  match b.policy.limit with
  | some limit => if b.attempt > limit then (.error (.maxAttemptsReached limit), b) else (.ok b.pause, b)
  | none => (.ok b.pause, b)

/-- The pause has passed. -/
def passed (b : Backoff) : Backoff := { b with pause := b.policy.grown b.pause }

/-- One whole wait; `cancelled` says that it is cut short by a shutdown. -/
def wait (cancelled : Bool) (b : Backoff) : Except BackoffFault Unit × Backoff :=
  match b.begin with
  | (.error e, b) => (.error e, b)
  | (.ok _, b) => if cancelled then (.error .cancelled, b) else (.ok (), b.passed)

/-- A session worked. -/
def reset (b : Backoff) : Backoff := { b with pause := b.policy.firstPause, attempt := 0 }

end Backoff

end TunnelAgent
