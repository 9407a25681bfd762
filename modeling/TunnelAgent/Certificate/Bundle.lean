import TunnelAgent.Certificate.Base64
import TunnelAgent.FileTree
import TunnelAgent.Text.Quoted
import TunnelAgent.Text.Utf8
import TunnelAgent.Transport.Fault

/-!
Bundles of certificates in textual form. A section begins with a line that names its kind between
dashes and ends with the line that names it again. Lines outside sections are skipped, and so are
sections of kinds nobody knows; sections of the other known kinds must be well formed, but only
certificates are kept. `read` is a reader of such bundles; `load` makes do with any.
-/

namespace TunnelAgent.Bundle

inductive Fault where
  | missingEnd (kind : Bytes)
  | illegalStart (line : Bytes)
  | base64 (fault : Base64.Fault)
  deriving DecidableEq, Repr

def quotedBytes (bytes : Bytes) : String := Text.quoted (String.ofList (Utf8.lossy bytes))

def Fault.message : Fault → String
  | .missingEnd kind => s!"section end {quotedBytes kind} missing"
  | .illegalStart line => s!"illegal section start: {quotedBytes line}"
  | .base64 f => f.message

def certificateKind : Bytes := Utf8.encode "CERTIFICATE"

/-- The kinds whose bodies are decoded. -/
def knownKinds : List Bytes := certificateKind :: (["PUBLIC KEY", "RSA PRIVATE KEY", "PRIVATE KEY",
  "EC PRIVATE KEY", "X509 CRL", "CERTIFICATE REQUEST", "ECHCONFIG"].map Utf8.encode)

def startMark : Bytes := Utf8.encode "-----BEGIN "

def endMark (kind : Bytes) : Bytes := Utf8.encode "-----END " ++ kind ++ Utf8.encode "-----"

def isTerminator (b : UInt8) : Bool := b == 10 || b == 13

/-- The lines of a text, each with the byte that ends it; `line` is read so far, last first. -/
def splitLines (line : Bytes) : Bytes → List Bytes
  | [] => if line.isEmpty then [] else [line.reverse]
  | b :: rest =>
    if isTerminator b then (b :: line).reverse :: splitLines [] rest else splitLines (b :: line) rest

def dash : UInt8 := 45

/-- What may stand from the closing dashes to the end of a line. -/
def closes (b : UInt8) : Bool := b == dash || b == 32 || isTerminator b

/-- The kind a section's first line names: all that stands before its exactly five closing dashes. -/
def startKind? (line : Bytes) : Option Bytes :=
  let tail := (line.reverse.takeWhile closes).reverse.dropWhile (· != dash)
  if tail.count dash = 5 then
    some ((line.take (line.length - tail.length)).drop startMark.length)
  else none

/-- A section being read: its kind, and its lines, latest first. -/
structure Open where
  kind : Bytes
  lines : List Bytes

/-- The certificates in `lines`, after those in `found`, latest first. -/
def collect (found : List Bytes) (section? : Option Open) : List Bytes → Except Fault (List Bytes)
  | [] =>
    match section? with
    | some s => .error (.missingEnd s.kind)
    | none => .ok found.reverse
  | line :: rest =>
    if startMark.isPrefixOf line then
      match startKind? line with
      | none => .error (.illegalStart line)
      | some kind => collect found (some ⟨kind, (section?.map Open.lines).getD []⟩) rest
    else
      match section? with
      | none => collect found none rest
      | some s =>
        if (endMark s.kind).isPrefixOf line then
          if s.kind ∈ knownKinds then
            match Base64.decode s.lines.reverse.flatten with
            | .error e => .error (.base64 e)
            | .ok der => collect (if s.kind = certificateKind then der :: found else found) none rest
          else collect found none rest
        else collect found (some { s with lines := line :: s.lines }) rest

def read (text : Bytes) : Except Fault (List Bytes) := collect [] none (splitLines [] text)

/-- The certificates that `reader` finds in the file at `path`; one without any is of no use. -/
def load (reader : Bytes → Except String (List Bytes)) (path : String)
    (contents : Except FileFault Bytes) : Except TransportFault (List Bytes) :=
  match contents with
  | .error (.unopened e) => .error (.tls s!"Failed to open CA file {path}: {e.text}")
  | .error (.unread e) => .error (.tls s!"Failed to parse CA file: {e.text}")
  | .ok text =>
    match reader text with
    | .error e => .error (.tls s!"Failed to parse CA file: {e}")
    | .ok [] => .error (.tls s!"No certificates found in {path}")
    | .ok certificates => .ok certificates

end TunnelAgent.Bundle
