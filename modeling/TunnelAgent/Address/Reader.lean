import TunnelAgent.Address
import TunnelAgent.Document.Reader
import TunnelAgent.Frame.Fault
import TunnelAgent.Text.Numeral
import TunnelAgent.Text.Parts

/-!
Reading addresses. `Address.read?` takes the usual texts of both families. A listening address is
an address and a port, or a name and a port after the last colon; what is neither is refused
before any name is looked up.
-/

namespace TunnelAgent

namespace Address

/-- A decimal byte without leading zeros. -/
def readByte? (cs : List Char) : Option UInt8 :=
  let plain := cs.all Document.isDigit && (cs.length == 1 || cs.head? != some '0')
  match plain, Numeral.read 255 cs with
  | true, .ok n => some (UInt8.ofNat n)
  | _, _ => none

def read4? (cs : List Char) : Option Address :=
  match (Text.parts '.' cs).mapM readByte? with
  | some [a, b, c, d] => some (.v4 a b c d)
  | _ => none

def readGroup? (cs : List Char) : Option UInt16 :=
  if cs.isEmpty || 4 < cs.length then none
  else
    (cs.foldl (fun acc c => match acc, Document.hexValue? c with
      | some n, some d => some (n * 16 + d)
      | _, _ => none) (some 0)).map UInt16.ofNat

/-- Groups between colons, the last two perhaps as four decimal bytes. -/
def readGroups? (cs : List Char) : Option (List UInt16) :=
  if cs.isEmpty then some []
  else
    let parts := Text.parts ':' cs
    match parts.getLast? with
    | none => some []
    | some last =>
      match read4? last with
      | some (.v4 a b c d) =>
        (parts.dropLast.mapM readGroup?).map fun groups =>
          groups ++ [UInt16.ofNat (a.toNat * 256 + b.toNat), UInt16.ofNat (c.toNat * 256 + d.toNat)]
      | _ => parts.mapM readGroup?

def ofGroups? (groups : List UInt16) : Option Address :=
  if h : groups.toArray.size = 8 then some (.v6 ⟨groups.toArray, h⟩) else none

/-- The text before the first double colon and the text after it. -/
def splitDouble (before : List Char) : List Char → Option (List Char × List Char)
  | [] => none
  | ':' :: ':' :: rest => some (before.reverse, rest)
  | c :: rest => splitDouble (c :: before) rest

def read6? (cs : List Char) : Option Address :=
  match splitDouble [] cs with
  | none => (readGroups? cs).bind ofGroups?
  | some (before, after) =>
    match readGroups? before, readGroups? after with
    | some front, some back =>
      if 7 < front.length + back.length || before.contains '.' then none
      else ofGroups? (front ++ List.replicate (8 - front.length - back.length) 0 ++ back)
    | _, _ => none

def read? (cs : List Char) : Option Address := read4? cs <|> read6? cs

end Address

/-- A place to listen at, as it is configured. -/
inductive ListenAddress where
  /-- an address, a zone (none is zero) and a port -/
  | at (endpoint : Endpoint) (zone : Nat)
  /-- a name that has to be looked up -/
  | named (host : String) (port : UInt16)
  deriving DecidableEq, Repr

namespace ListenAddress

def readPort? (cs : List Char) : Option UInt16 :=
  if cs.all Document.isDigit then
    match Numeral.read Numeral.maxU16 cs with
    | .ok n => some (UInt16.ofNat n)
    | .error _ => none
  else none

/-- An address of eight groups, perhaps with a zone behind a percent sign. -/
def readZoned? (cs : List Char) : Option (Address × Nat) :=
  match Text.cutFirst '%' cs with
  | none => (Address.read6? cs).map fun address => (address, 0)
  | some (front, zone) =>
    if zone.all Document.isDigit then
      match Address.read6? front, Numeral.read Numeral.maxU32 zone with
      | some address, .ok zone => some (address, zone)
      | _, _ => none
    else none

def endpoint? (host port : List Char) : Option (Endpoint × Nat) :=
  let address := match host with
    | '[' :: rest => if rest.getLast? = some ']' then readZoned? rest.dropLast else none
    | host => (Address.read4? host).map fun address => (address, 0)
  match address, readPort? port with
  | some (address, zone), some port => some (⟨address, port⟩, zone)
  | _, _ => none

def read (s : String) : Except IoFault ListenAddress :=
  match Text.cutLast ':' s.toList with
  | none => .error ⟨.invalidInput, "invalid socket address"⟩
  | some (host, port) =>
    match endpoint? host port with
    | some (e, zone) => .ok (.at e zone)
    | none =>
      match Numeral.read Numeral.maxU16 port with
      | .ok n => .ok (.named (String.ofList host) (UInt16.ofNat n))
      | .error _ => .error ⟨.invalidInput, "invalid port value"⟩

end ListenAddress

end TunnelAgent
