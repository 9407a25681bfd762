import TunnelAgent.Access
import TunnelAgent.Address
import TunnelAgent.Frame.Fault
import TunnelAgent.Socks.Metadata
import TunnelAgent.Text.Classes
import TunnelAgent.Text.Numeral
import TunnelAgent.Text.Utf8

/-!
A client at the gate, byte by byte. It offers its methods, gives a user name and a password, and
asks for a destination. The password is a key in decimal and must be known when it has been read;
the destination must be granted to that key when the request has been read. The first check that
fails decides the answer and ends the conversation; a granted destination is dialled, and what
follows the request goes to it unread.
-/

namespace TunnelAgent.Socks

inductive Reply where
  | succeeded
  | notAllowed
  | hostUnreachable
  | connectionRefused
  | commandNotSupported
  | addressTypeNotSupported
  deriving DecidableEq, Repr

def Reply.code : Reply → UInt8
  | succeeded => 0x00
  | notAllowed => 0x02
  | hostUnreachable => 0x04
  | connectionRefused => 0x05
  | commandNotSupported => 0x07
  | addressTypeNotSupported => 0x08

def version : UInt8 := 0x05
def authVersion : UInt8 := 0x01
def passwordMethod : UInt8 := 0x02
def connectCommand : UInt8 := 0x01

/-- A reply with the address the onward connection is bound to, zeros if there is none. -/
def Reply.bytes (r : Reply) (bound : Option Endpoint) : Bytes :=
  let e := bound.getD ⟨.v4 0 0 0 0, 0⟩
  let kind : UInt8 := match e.address with
    | .v4 .. => 0x01
    | .v6 _ => 0x04
  [version, r.code, 0x00, kind] ++ e.address.bytes ++ Bytes.big 2 e.port.toNat

/-- The forms in which a request names its host. -/
inductive HostForm where
  | v4
  | name
  | v6
  deriving DecidableEq, Repr

def HostForm.ofByte? : UInt8 → Option HostForm
  | 0x01 => some v4
  | 0x03 => some name
  | 0x04 => some v6
  | _ => none

/-- What is being read. What earlier fields have settled goes along. -/
inductive Field where
  /-- version and number of methods -/
  | header
  | methods
  | authHeader
  | usernameSize
  | username
  | passwordSize
  | password
  | request (key : UInt64)
  | nameSize (key : UInt64) (command : UInt8)
  | host (key : UInt64) (command : UInt8) (form : HostForm)
  | port (key : UInt64) (command : UInt8) (host : String)
  deriving DecidableEq, Repr

def lossyText (bytes : Bytes) : String := String.ofList (Utf8.lossy bytes)

/-- The key a password stands for. -/
def keyOf? (password : Bytes) : Option UInt64 :=
  match Numeral.read Numeral.maxU64 (Text.trim (Utf8.lossy password)) with
  | .ok n => some (UInt64.ofNat n)
  | .error _ => none

def hostText (form : HostForm) (bytes : Bytes) : String :=
  match form with
  | .v4 => (Address.ofBytes4 bytes).text
  | .name => lossyText bytes
  | .v6 => (Address.ofBytes16 bytes).text

/-- What comes after a field that has been read whole. -/
inductive Next where
  | read (field : Field) (size : Nat)
  | dial (destination : Destination)
  | close
  deriving DecidableEq, Repr

def sizeOf : Bytes → Nat
  | [b] => b.toNat
  | _ => 0

/-- Takes a whole field: what is written to the client, and what comes next. -/
def Field.take (table : AccessTable) (bytes : Bytes) : Field → Bytes × Next
  | header =>
    match bytes with
    | [v, count] => if v = version then ([], .read methods count.toNat) else ([], .close)
    | _ => ([], .close)
  | methods =>
    if passwordMethod ∈ bytes then ([version, passwordMethod], .read authHeader 1)
    else ([version, 0xFF], .close)
  | authHeader => if bytes = [authVersion] then ([], .read usernameSize 1) else ([], .close)
  | usernameSize => ([], .read username (sizeOf bytes))
  | username => ([], .read passwordSize 1)
  | passwordSize => ([], .read password (sizeOf bytes))
  | password =>
    match keyOf? bytes with
    | some key =>
      if table.containsKey key then ([authVersion, 0x00], .read (request key) 4)
      else ([authVersion, 0x01], .close)
    | none => ([authVersion, 0x01], .close)
  | request key =>
    match bytes with
    | [v, command, _, form] =>
      if v = version then
        match HostForm.ofByte? form with
        | some .v4 => ([], .read (host key command .v4) 4)
        | some .name => ([], .read (nameSize key command) 1)
        | some .v6 => ([], .read (host key command .v6) 16)
        | none => (Reply.addressTypeNotSupported.bytes none, .close)
      else ([], .close)
    | _ => ([], .close)
  | nameSize key command => ([], .read (host key command .name) (sizeOf bytes))
  | host key command form => ([], .read (port key command (hostText form bytes)) 2)
  | port key command name =>
    if command = connectCommand then
      let destination : Destination := ⟨name, UInt16.ofNat (Bytes.ofBig bytes)⟩
      match table.check key destination with
      | .ok () => ([], .dial destination)
      | .error _ => (Reply.notAllowed.bytes none, .close)
    else (Reply.commandNotSupported.bytes none, .close)

/-- How a client and its destination stand. -/
inductive Client where
  /-- `got` is read so far, last first, and `need` more bytes belong to the field -/
  | reading (field : Field) (need : Nat) (got : Bytes)
  /-- `early` came after the request -/
  | dialing (destination : Destination) (early : Bytes)
  | relaying (destination : Destination)
  | closed
  deriving DecidableEq, Repr

namespace Client

def start : Client := .reading .header 2 []

/-- What leaves the gate. -/
inductive Effect where
  | reply (bytes : Bytes)
  | dial (destination : Destination)
  | forward (bytes : Bytes)
  deriving DecidableEq, Repr

def replies (bytes : Bytes) : List Effect := if bytes.isEmpty then [] else [.reply bytes]

/-- Goes on after a whole field. A field of no bytes is whole at once; no two of them follow each
other without a size or a fixed field between. -/
def proceed (table : AccessTable) : Nat → Bytes × Next → List Effect × Client
  | _, (out, .close) => (replies out, .closed)
  | _, (out, .dial destination) => (replies out ++ [.dial destination], .dialing destination [])
  | n + 1, (out, .read field 0) =>
    let (effects, c) := proceed table n (field.take table [])
    (replies out ++ effects, c)
  | _, (out, .read field size) => (replies out, .reading field size [])

/-- One byte from the client, with the table in force. -/
def feed (table : AccessTable) (b : UInt8) : Client → List Effect × Client
  | .reading field need got =>
    if need ≤ 1 then proceed table 2 (field.take table (b :: got).reverse)
    else ([], .reading field (need - 1) (b :: got))
  | .dialing destination early => ([], .dialing destination (early ++ [b]))
  | .relaying destination => ([.forward [b]], .relaying destination)
  | .closed => ([], .closed)

/-- The outcome of a dial: where the connection is bound, or why there is none. -/
def dialed (outcome : Except IoFault (Option Endpoint)) : Client → List Effect × Client
  | .dialing destination early =>
    match outcome with
    | .ok bound =>
      (.reply (Reply.succeeded.bytes bound) :: (if early.isEmpty then [] else [.forward early]),
        .relaying destination)
    | .error e =>
      let reply := if e.kind = .connectionRefused then Reply.connectionRefused else Reply.hostUnreachable
      ([.reply (reply.bytes none)], .closed)
  | c => ([], c)

/-- The client ends its stream, or the time for the handshake is over. -/
def giveUp : Client → Client
  | .reading .. => .closed
  | c => c

/-- Something that happens to a client; a byte comes with the table in force. -/
inductive Event where
  | byte (table : AccessTable) (b : UInt8)
  | dialed (outcome : Except IoFault (Option Endpoint))
  | ended

def step : Event → Client → List Effect × Client
  | .byte table b, c => c.feed table b
  | .dialed outcome, c => c.dialed outcome
  | .ended, c => ([], c.giveUp)

def run : List Event → Client → List Effect × Client
  | [], c => ([], c)
  | event :: rest, c =>
    let (effects, c) := c.step event
    let (more, c) := run rest c
    (effects ++ more, c)

end Client

end TunnelAgent.Socks
