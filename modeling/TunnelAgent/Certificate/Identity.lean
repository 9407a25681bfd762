import TunnelAgent.Certificate.Bundle

/-!
Who the gateway is. Its certificate must come from a trusted chain, and the first common name of
its subject must be the configured host, byte for byte; alternative names play no part. Here a
chain check that failed for the name alone is left to the common name, and any other failure
stands. `connect` puts the stages of a connection in order: trust, dial, name, handshake. What
reads certificates, and what checks a chain, is not looked into: the one is given by its `Readers`,
the other by its verdict.
-/

namespace TunnelAgent.Identity

/-- What the check of a certificate's chain says. -/
inductive ChainVerdict where
  | valid
  /-- the chain is valid, but none of the alternative names is the host -/
  | nameMismatch
  | refused (text : String)
  deriving DecidableEq, Repr

/-- `commonName` is the first common name of the certificate's subject, if it is readable. -/
def verify (host : String) (chain : ChainVerdict) (commonName : Option String) : Except String Unit :=
  match chain with
  | .refused text => .error text
  | _ =>
    match commonName with
    | none => .error "unexpected error: gateway certificate has no subject common name"
    | some name =>
      if name = host then .ok ()
      else .error s!"unexpected error: gateway certificate common name '{name}' does not match '{host}'"

structure Trust where
  certificates : List Bytes := []
  /-- no certificate is checked -/
  insecure : Bool := false
  deriving DecidableEq, Repr

/-- How the peer's side of a handshake goes. -/
inductive Peer where
  | presents (chain : ChainVerdict) (commonName : Option String)
  | fails (text : String)
  | silent
  deriving DecidableEq, Repr

/-- What is made of the bytes of a trusted certificate; an error is the reason why nothing is. -/
structure Readers where
  bundle : Bytes → Except String (List Bytes)
  /-- whether a certificate can be the end of a chain -/
  anchor : Bytes → Except String Unit

/-- The fault of building a verifier on these anchors, that of the first which is none. -/
def trustFault? (anchor : Bytes → Except String Unit) (t : Trust) : Option TransportFault :=
  if t.insecure then none
  else t.certificates.findSome? fun certificate =>
    match anchor certificate with
    | .ok () => none
    | .error e => some (.tls s!"Invalid CA cert: {e}")

def shakeHands (host : String) (insecure : Bool) : Peer → Except TransportFault Unit
  | .silent => .error .timeout
  | .fails text => .error (.tls text)
  | .presents chain commonName =>
    if insecure then .ok ()
    else
      match verify host chain commonName with
      | .ok () => .ok ()
      | .error text => .error (.tls text)

/-- The outcome of a connection attempt. `dial` is that of the stream below, `nameFault` says why
the host is no name for a handshake, if it is none. -/
def connect (anchor : Bytes → Except String Unit) (host : String) (trust : Trust)
    (dial : Except TransportFault Unit) (nameFault : Option String) (peer : Peer) :
    Except TransportFault Unit :=
  match trustFault? anchor trust with
  | some fault => .error fault
  | none =>
    match dial with
    | .error fault => .error fault
    | .ok () =>
      match nameFault with
      | some text => .error (.invalidServerName s!"{host}: {text}")
      | none => shakeHands host trust.insecure peer

end TunnelAgent.Identity
