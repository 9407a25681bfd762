import TunnelAgent.Access
import TunnelAgent.Transport.Outgoing

/-!
Keys for a manifest, and registering it again on a live session. Keys are drawn from a stream of
random words, skipping words the manifest already uses. Manifests sent but not yet answered wait
in the order of their frames; each reply, readable or not, takes the oldest one, and only an
accepting reply puts its keys into force.
-/

namespace TunnelAgent

/-- The first drawn word not yet used, and the draws after it. -/
def freshKey (used : List UInt64) : List UInt64 → Option (UInt64 × List UInt64)
  | [] => none
  | word :: draws => if word ∈ used then freshKey used draws else some (word, draws)

/-- Gives every rule, in order, a key that no other has; `none` if the draws run out first. -/
def assignKeysFrom (used : List UInt64) : List Rule → List UInt64 → Option (List Resource × List UInt64)
  | [], draws => some ([], draws)
  | rule :: rules, draws =>
    match freshKey used draws with
    | none => none
    | some (key, draws) =>
      match assignKeysFrom (key :: used) rules draws with
      | none => none
      | some (resources, draws) => some (⟨rule, key⟩ :: resources, draws)

def assignKeys (rules : List Rule) (draws : List UInt64) : Option (List Resource × List UInt64) :=
  assignKeysFrom [] rules draws

/-- A generator of words: a counter stepped by an odd constant and mixed by invertible steps, so
that no word comes twice before all have come. -/
structure WordStream where
  counter : UInt64
  deriving DecidableEq, Repr

namespace WordStream

def mix (z : UInt64) : UInt64 :=
  let z := (z ^^^ (z >>> 30)) * 0xBF58476D1CE4E5B9
  let z := (z ^^^ (z >>> 27)) * 0x94D049BB133111EB
  z ^^^ (z >>> 31)

def next (s : WordStream) : UInt64 × WordStream :=
  let counter := s.counter + 0x9E3779B97F4A7C15
  (mix counter, ⟨counter⟩)

def take : Nat → WordStream → List UInt64 × WordStream
  | 0, s => ([], s)
  | n + 1, s =>
    let (word, s) := s.next
    let (words, s) := take n s
    (word :: words, s)

end WordStream

/-- Manifests sent on a session and not yet answered, oldest first. -/
structure Registrar where
  pending : List (List Resource) := []
  deriving DecidableEq, Repr

namespace Registrar

/-- The registration frame of a keyed manifest. -/
def frame (resources : List Resource) : Outbound := .ofMessage (.registration ⟨resources⟩)

/-- Sends a keyed manifest; it waits for its reply only if its frame was queued. -/
def register (writerOpen : Bool) (resources : List Resource) (r : Registrar) :
    Except TransportFault Outbound × Registrar :=
  match (frame resources).offer writerOpen with
  | .ok out => (.ok out, { r with pending := r.pending ++ [resources] })
  | .error e => (.error e, r)

/-- The payload says that the gateway accepted a registration. -/
def accepts (payload : Bytes) : Bool :=
  match RegistrationResponse.format.decode payload with
  | .ok response => response.result == .ok
  | .error _ => false

/-- Takes one reply to the oldest manifest; without a pending manifest it says nothing. -/
def answer (payload : Bytes) (r : Registrar) (table : AccessTable) : Registrar × AccessTable :=
  match r.pending with
  | [] => (r, table)
  | resources :: pending =>
    ({ r with pending }, if accepts payload then .ofResources resources else table)

end Registrar

end TunnelAgent
