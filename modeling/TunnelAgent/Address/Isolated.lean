import TunnelAgent.Address.Lookup

/-!
Listening and dialling on a host without a network. All addresses of the older family can be
listened at, and of the newer one those that stand for them or for no address in particular; no
address can be dialled.
-/

namespace TunnelAgent

namespace ZonedAddress

def invalidArgument : IoFault := ⟨.invalidInput, "Invalid argument (os error 22)"⟩
def noDevice : IoFault := ⟨.other, "No such device (os error 19)"⟩
def notAssignable : IoFault := ⟨.other, "Cannot assign requested address (os error 99)"⟩
def unreachable : IoFault := ⟨.unreachable, "Network is unreachable (os error 101)"⟩

def isMulticast (groups : Vector UInt16 8) : Bool := Address.firstGroup groups &&& 0xFF00 == 0xFF00

def isEmbedded (groups : Vector UInt16 8) : Bool := (Address.embedded? groups.toList).isSome

def listenFault? (a : ZonedAddress) : Option IoFault :=
  match a.address with
  | .v4 .. => none
  | .v6 groups =>
    if a.address.isUnspecified || isEmbedded groups then none
    else if isMulticast groups then some invalidArgument
    else if a.address.isLinkLocal then
      if a.zone = 0 then some invalidArgument
      else if a.zone = Address.loopbackZone.2 then some notAssignable
      else some noDevice
    else some notAssignable

def dialFault (a : ZonedAddress) : IoFault :=
  match a.address with
  | .v4 .. => unreachable
  | .v6 groups =>
    if isEmbedded groups || isMulticast groups then unreachable
    else if a.address.isLinkLocal && a.zone == 0 then invalidArgument
    else notAssignable

end ZonedAddress

/-- Listens at the first of these addresses that can be listened at. -/
def ListenAddress.firstOf (port : UInt16) (addresses : List ZonedAddress) : Except IoFault Endpoint :=
  addresses.foldl
    (fun result a =>
      match result with
      | .ok e => .ok e
      | .error _ =>
        match a.listenFault? with
        | none => .ok ⟨a.address, port⟩
        | some f => .error f)
    (.error ⟨.invalidInput, "could not resolve to any address"⟩)

/-- The outcome of listening. -/
def ListenAddress.isolated : ListenAddress → Except IoFault Endpoint
  | .at e zone => firstOf e.port [⟨e.address, zone⟩]
  | .named host port =>
    match Address.lookup host with
    | .error f => .error f.io
    | .ok addresses => firstOf port addresses

/-- What dialling a host meets: the fault of the last of its addresses. -/
def Address.isolatedDial (host : String) : IoFault :=
  match lookup host with
  | .error f => f.io
  | .ok addresses =>
    match addresses.getLast? with
    | some a => a.dialFault
    | none => ⟨.invalidInput, "could not resolve to any address"⟩

end TunnelAgent
