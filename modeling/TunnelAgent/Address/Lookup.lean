import TunnelAgent.Address.Reader

/-!
Host names without a service to ask for them. Addresses of both families are their own names, the
older one also in its classic spelling of one to four numbers; the host knows its own name, and
every other name stays without an answer.
-/

namespace TunnelAgent

/-- An address, with the zone in which a link-local one holds. -/
structure ZonedAddress where
  address : Address
  zone : Nat := 0
  deriving DecidableEq, Repr

inductive LookupFault where
  /-- nothing that could be a name -/
  | unknown
  /-- a name, but there is nobody to ask -/
  | unanswered
  | nulInName
  deriving DecidableEq, Repr

namespace LookupFault

def text : LookupFault → String
  | unknown => "failed to lookup address information: Name or service not known"
  | unanswered => "failed to lookup address information: Temporary failure in name resolution"
  | nulInName => "file name contained an unexpected NUL byte"

def io (f : LookupFault) : IoFault := ⟨.other, f.text⟩

end LookupFault

namespace Address

def digits? (base : Nat) (cs : List Char) : Option Nat :=
  cs.foldl (fun acc c => match acc, Document.hexValue? c with
    | some n, some d => if d < base ∧ n ≤ Numeral.maxU32 then some (n * base + d) else none
    | _, _ => none) (some 0)

/-- A number in hexadecimal behind `0x`, in octal behind `0`, else in decimal. -/
def classicNumber? : List Char → Option Nat
  | [] => none
  | '0' :: x :: rest =>
    if x = 'x' ∨ x = 'X' then if rest.isEmpty then none else digits? 16 rest
    else digits? 8 (x :: rest)
  | cs => digits? 10 cs

/-- Numbers between points: all but the last are one byte each, the last is all the other bytes. -/
def readClassic? (cs : List Char) : Option Address :=
  match (Text.parts '.' cs).mapM classicNumber? with
  | none => none
  | some numbers =>
    let front := numbers.dropLast
    let last := numbers.getLastD 0
    let width := 4 - front.length
    if 3 < front.length ∨ front.any (255 < ·) ∨ (List.replicate width 256).foldl (· * ·) 1 ≤ last then none
    else some (.ofBytes4 (front.map UInt8.ofNat ++ Bytes.big width last))

def firstGroup (groups : Vector UInt16 8) : UInt16 := groups.toList.headD 0

def isLinkLocal : Address → Bool
  | v4 .. => false
  | v6 groups => firstGroup groups &&& 0xFFC0 == 0xFE80

/-- Multicast within the link counts too. -/
def isLinkMulticast : Address → Bool
  | v4 .. => false
  | v6 groups => firstGroup groups &&& 0xFF0F == 0xFF02

/-- The interface every host has, by its name and its number. -/
def loopbackZone : String × Nat := ("lo", 1)

def readZone? (address : Address) (cs : List Char) : Option Nat :=
  if (address.isLinkLocal || address.isLinkMulticast) && String.ofList cs == loopbackZone.1 then
    some loopbackZone.2
  else if (cs.head?.map Document.isDigit).getD false then
    match Numeral.read Numeral.maxU32 cs with
    | .ok n => some n
    | .error _ => none
  else none

/-- A character of a label. -/
def isNameChar (c : Char) : Bool := c.isAlphanum || c == '-' || c == '_'

/-- Whether a text has the form of a host name: labels between points, perhaps one more point. -/
def isHostName (cs : List Char) : Bool :=
  let labels := Text.parts '.' cs
  let labels := if labels.getLast? = some [] then labels.dropLast else labels
  (cs == ['.']) ||
    (!labels.isEmpty && cs.head? != some '-' &&
      labels.all (fun label => !label.isEmpty && label.length ≤ 63 && label.all isNameChar) &&
      (labels.map fun label => label.length + 1).foldl (· + ·) 1 ≤ 255)

def loopback4 : Address := (v4 0 0 0 0).loopback
def loopback6 : Address := (v6 (.replicate 8 0)).loopback

/-- The addresses of a host, in the order in which they are to be tried. -/
def lookup (name : String) : Except LookupFault (List ZonedAddress) :=
  let cs := name.toList
  if cs.contains '\x00' then .error .nulInName
  else if name = "*" then .ok [⟨loopback6, 0⟩, ⟨loopback4, 0⟩]
  else
    match readClassic? cs with
    | some address => .ok [⟨address, 0⟩]
    | none =>
      let (front, zone) := match Text.cutFirst '%' cs with
        | none => (cs, none)
        | some (front, zone) => (front, some zone)
      match read6? front, zone with
      | some address, none => .ok [⟨address, 0⟩]
      | some address, some zone =>
        match readZone? address zone with
        | some zone => .ok [⟨address, zone⟩]
        | none => .error .unknown
      | none, _ =>
        if cs.map Char.toLower = "localhost".toList then .ok [⟨loopback4, 0⟩]
        else if isHostName cs then .error .unanswered
        else .error .unknown

end Address

end TunnelAgent
