import TunnelAgent.Certificate.Bundle
import TunnelAgent.Certificate.Identity
import TunnelAgent.Config.Reader
import TunnelAgent.Document.Folding

/-!
What a host has to offer that brings nothing of its own: readers of configurations and of
certificates, and a clock. The rest of the library takes any others.
-/

namespace TunnelAgent.CommandLine.Standard

/-- Characters that may stand in a configuration file. -/
def isPrintable (c : Char) : Bool :=
  let n := c.toNat
  n == 0x9 || n == 0xA || n == 0xD || (0x20 ≤ n && n ≤ 0x7E) || n == 0x85 || (0xA0 ≤ n && n ≤ 0xD7FF) ||
    (0xE000 ≤ n && n ≤ 0xFFFD) || 0x10000 ≤ n

/-- The configuration in a file; an empty file holds the defaults. -/
def readConfig? (contents : String) : Option Config :=
  let cs := contents.toList
  if !cs.all isPrintable then none
  else if (Document.skipBlanks cs).isEmpty then some {}
  else ((Document.Folding.joinLines? cs).bind Document.readChars).bind (Config.ofDocument? .filed)

/-- The length field at the front, and what follows it. -/
def derLength? : Bytes → Option (Nat × Bytes)
  | [] => none
  | b :: rest =>
    if b < 128 then some (b.toNat, rest)
    else
      let n := b.toNat - 128
      if n = 0 ∨ 4 < n ∨ rest.length < n then none else some (Bytes.ofBig (rest.take n), rest.drop n)

/-- Only the outermost element of a certificate is looked at: one whole sequence. -/
def readAnchor (certificate : Bytes) : Except String Unit :=
  let whole : Bool := match certificate with
    | tag :: rest => tag == 0x30 && (derLength? rest).any fun (n, content) => content.length == n
    | [] => false
  if whole then .ok () else .error "invalid peer certificate: BadEncoding"

def readBundle (text : Bytes) : Except String (List Bytes) :=
  match Bundle.read text with
  | .ok certificates => .ok certificates
  | .error e => .error e.message

def readers : Identity.Readers := { bundle := readBundle, anchor := readAnchor }

/-- How long a sleep takes on a clock that counts nanoseconds in 64 bits. Where it cannot count to the
end of the sleep, the sleep is over after thirty years. -/
def sleep (length : Duration) : Duration :=
  if length < 0x10000000000000000 then length else Duration.ofSeconds (30 * 365 * 86400)

end TunnelAgent.CommandLine.Standard
