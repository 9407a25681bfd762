/-!
Unsigned decimal numerals with a bound. `read limit` takes an optional `+` and digits; it fails
with the first cause met from the left, so a numeral that has outgrown `limit` is too large even
when a later character is no digit.
-/

namespace TunnelAgent.Numeral

inductive Fault where
  | empty
  | invalidDigit
  | tooLarge
  deriving DecidableEq, Repr

def Fault.message : Fault → String
  | .empty => "cannot parse integer from empty string"
  | .invalidDigit => "invalid digit found in string"
  | .tooLarge => "number too large to fit in target type"

def digit? (c : Char) : Option Nat :=
  if '0' ≤ c ∧ c ≤ '9' then some (c.toNat - 48) else none

def readDigits (limit acc : Nat) : List Char → Except Fault Nat
  | [] => .ok acc
  | c :: rest =>
    match digit? c with
    | none => .error .invalidDigit
    | some d => if acc * 10 + d ≤ limit then readDigits limit (acc * 10 + d) rest else .error .tooLarge

/-- The value of a numeral, at most `limit`. -/
def read (limit : Nat) : List Char → Except Fault Nat
  | [] => .error .empty
  | ['+'] => .error .invalidDigit
  | '+' :: digits => readDigits limit 0 digits
  | digits => readDigits limit 0 digits

def maxU16 : Nat := 65535
def maxU32 : Nat := 4294967295
def maxU64 : Nat := 18446744073709551615

end TunnelAgent.Numeral
