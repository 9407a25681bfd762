import TunnelAgent.Text.Parts

/-!
Client metadata in a user name: `key=value` parts between semicolons. Empty parts are skipped;
any other part must have a key before its first equals sign. It tells log readers who is
connecting and plays no part in any decision.
-/

namespace TunnelAgent.Socks

/-- The pairs in the order in which they were written. -/
structure Metadata where
  pairs : List (String × String) := []
  deriving DecidableEq, Repr

namespace Metadata

/-- A part split at its first equals sign; `none` without one, or with nothing before it. -/
def pair? (part : List Char) : Option (String × String) :=
  match Text.cutFirst '=' part with
  | none => none
  | some (key, value) => if key.isEmpty then none else some (String.ofList key, String.ofList value)

def ofChars (cs : List Char) : Option Metadata :=
  (((Text.parts ';' cs).filter (fun part => !part.isEmpty)).mapM pair?).map fun pairs => ⟨pairs⟩

def parse (username : String) : Option Metadata := ofChars username.toList

/-- The value of the first pair with that key. -/
def get? (m : Metadata) (key : String) : Option String := m.pairs.lookup key

def text (m : Metadata) : String := " ".intercalate (m.pairs.map fun (k, v) => k ++ "=" ++ v)

end Metadata

end TunnelAgent.Socks
