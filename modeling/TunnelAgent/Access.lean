import TunnelAgent.Message

/-!
Which destinations a secret key opens. The grants of a manifest collect, under each key, the
destinations of its resources; a table holds the grants of one manifest and is replaced whole.
A destination is granted byte for byte: no host is a pattern, and case counts.
-/

namespace TunnelAgent

structure Destination where
  host : String
  port : UInt16
  deriving DecidableEq, Repr

def Destination.text (d : Destination) : String := s!"{d.host}:{d.port}"

def Resource.destination (r : Resource) : Destination := ⟨r.rule.host, r.rule.port⟩

inductive AccessFault where
  | unknownKey
  | destinationNotAllowed (destination : Destination)
  deriving DecidableEq, Repr

def AccessFault.message : AccessFault → String
  | .unknownKey => "Unknown resource key"
  | .destinationNotAllowed d => s!"Destination {d.text} is not allowed for this key"

/-- Keys with their destinations; no key and, under one key, no destination occurs twice. -/
abbrev Grants := List (UInt64 × List Destination)

namespace Grants

def insert (key : UInt64) (d : Destination) : Grants → Grants
  | [] => [(key, [d])]
  | (k, ds) :: rest =>
    if k = key then (k, if d ∈ ds then ds else d :: ds) :: rest else (k, ds) :: insert key d rest

def ofResources (resources : List Resource) : Grants :=
  resources.foldl (fun grants r => insert r.key r.destination grants) []

end Grants

structure AccessTable where
  grants : Grants := []
  deriving DecidableEq, Repr

namespace AccessTable

/-- The table of a manifest; nothing of an earlier table is left in it. -/
def ofResources (resources : List Resource) : AccessTable := ⟨Grants.ofResources resources⟩

def containsKey (t : AccessTable) (key : UInt64) : Bool := (t.grants.lookup key).isSome

def check (t : AccessTable) (key : UInt64) (d : Destination) : Except AccessFault Unit :=
  match t.grants.lookup key with
  | none => .error .unknownKey
  | some ds => if d ∈ ds then .ok () else .error (.destinationNotAllowed d)

/-- The number of keys that open something. -/
def size (t : AccessTable) : Nat := t.grants.length

/-- The key of a resource opens its own destination. -/
def opens (t : AccessTable) (r : Resource) : Bool := (t.check r.key r.destination).isOk

end AccessTable

end TunnelAgent
