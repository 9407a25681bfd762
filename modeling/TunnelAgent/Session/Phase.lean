/-!
How far a session has come. It goes through the phases in order and ends in `closed` or `failed`,
from wherever it is; it never leaves an end.
-/

namespace TunnelAgent.Session

inductive Phase where
  | init
  | connected
  | greeted
  | authorized
  | registered
  | dispatching
  | closed
  | failed
  deriving DecidableEq, Repr

namespace Phase

def name : Phase → String
  | init => "Init"
  | connected => "TlsConnected"
  | greeted => "HandshakeSent"
  | authorized => "Authorized"
  | registered => "Registered"
  | dispatching => "Dispatching"
  | closed => "Closed"
  | failed => "Failed"

def isTerminal (p : Phase) : Bool := p = closed || p = failed

/-- The phases in the order in which a session goes through them. -/
def path : List Phase := [init, connected, greeted, authorized, registered, dispatching]

def canMoveTo (p : Phase) : Phase → Bool
  | closed => !p.isTerminal
  | failed => !p.isTerminal
  | next => (p, next) ∈ path.zip path.tail

end Phase

end TunnelAgent.Session
