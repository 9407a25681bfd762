import TunnelAgent.Pool

/-!
Holders of slots on a clock. Each holder asks for slots at its time, polls until it gets them or
is refused, keeps them for a while and gives them back; one may close the pool instead. The next
thing to happen is the earliest that is due, the lower number first. How long a sleep takes is the
clock's affair, what an overflow does the compiler's: both are given with the `Runtime`. Times are
in milliseconds.
-/

namespace TunnelAgent.Pool

inductive Intent where
  | acquire (slots : UInt32) (hold : Nat)
  | close
  deriving DecidableEq, Repr

/-- What a holder does next, and when. -/
inductive Holder where
  | start (due : Nat) (intent : Intent)
  | polling (due : Nat) (acquisition : Acquisition) (hold : Nat)
  | holding (due : Nat) (slots : UInt32)
  | done
  deriving DecidableEq, Repr

def Holder.due? : Holder → Option Nat
  | start due _ => some due
  | polling due _ _ => some due
  | holding due _ => some due
  | done => none

inductive Happening where
  | acquired (slots : UInt32)
  | released
  | refused (fault : PoolFault)
  | closed
  /-- it has ended over an overflow -/
  | panicked
  deriving DecidableEq, Repr

/-- Something that happened to a holder, with the slots that were free after it. -/
structure Event where
  time : Nat
  holder : Nat
  happening : Happening
  available : Nat
  deriving DecidableEq, Repr

section
variable (rt : Runtime)

/-- A poll at time `now`; slots are kept for a sleep of `hold` milliseconds. -/
def pollAt (now : Nat) (p : Pool) (a : Acquisition) (hold : Nat) : Option Happening × Holder × Pool :=
  match p.poll a with
  | (.granted, p) => (some (.acquired a.slots), .holding (now + rt.lasts hold) a.slots, p)
  | (.refused e, p) => (some (.refused e), .done, p)
  | (.retry a, p) => (none, .polling (now + rt.lasts p.retryInterval) a hold, p)

/-- Lets a holder do what is due at `now`. -/
def act (now : Nat) (p : Pool) : Holder → Option Happening × Holder × Pool
  | .start _ (.acquire slots hold) =>
    match p.request? rt.overflow slots with
    | some a => p.pollAt rt now a hold
    | none => (some .panicked, .done, p)
  | .start _ .close => (some .closed, .done, p.close)
  | .polling _ a hold => p.pollAt rt now a hold
  | .holding _ slots => (some .released, .done, p.release slots)
  | .done => (none, .done, p)

end

structure Timeline where
  pool : Pool
  holders : List Holder
  deriving DecidableEq, Repr

namespace Timeline

/-- The earliest due time, with the lowest number of a holder due then. -/
def next? (holders : List Holder) : Option (Nat × Nat) :=
  holders.zipIdx.foldl
    (fun best (h, i) =>
      match h.due?, best with
      | none, _ => best
      | some due, none => some (due, i)
      | some due, some (b, j) => if due < b then some (due, i) else some (b, j))
    none

def step (rt : Runtime) (t : Timeline) : Option (Option Event × Timeline) :=
  match next? t.holders with
  | none => none
  | some (now, i) =>
    match t.holders[i]? with
    | none => none
    | some h =>
      let (happening, h, pool) := t.pool.act rt now h
      some (happening.map fun what => ⟨now, i, what, pool.available⟩, { pool, holders := t.holders.set i h })

/-- Every holder ends after at most one action for each poll, and two more. -/
def work (t : Timeline) : Nat := t.holders.length * ((t.pool.retryAttempts + 1).toNat + 3)

def runFor (rt : Runtime) : Nat → List Event → Timeline → List Event × Timeline
  | 0, events, t => (events.reverse, t)
  | n + 1, events, t =>
    match t.step rt with
    | none => (events.reverse, t)
    | some (none, t) => runFor rt n events t
    | some (some e, t) => runFor rt n (e :: events) t

/-- All that happens, in order. -/
def run (rt : Runtime) (t : Timeline) : List Event × Timeline := runFor rt t.work [] t

end Timeline

end TunnelAgent.Pool
