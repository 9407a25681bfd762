import TunnelAgent.Binary64.Text
import TunnelAgent.Document

/-!
The usual spelling of the numbers in a document. A whole number that fits 64 bits keeps its own;
any other is written as the double nearest to it, with the fewest digits that read back, a point
and at least one digit behind it, and an exponent where sixteen places or four zeros do not do.
-/

namespace TunnelAgent.Document

open Binary64 (Decimal)

def spellReal (x : Decimal) : String :=
  let digits := Nat.toDigits 10 x.digits
  let point := (digits.length : Int) + x.exponent
  if -5 < point ∧ point ≤ 16 then if 0 ≤ x.exponent then x.text ++ ".0" else x.text
  else
    let behind := if digits.length = 1 then [] else '.' :: digits.drop 1
    String.ofList (digits.take 1 ++ behind) ++ s!"e{point - 1}"

/-- Whether a whole number fits 64 bits; a zero with a sign does not. -/
def fits (negative : Bool) (n : Nat) : Bool :=
  if negative then 0 < n && n ≤ 9223372036854775808 else n ≤ Numeral.maxU64

def usualNumber (lexeme : String) : String :=
  let (negative, digits) := match lexeme.toList with
    | '-' :: rest => (true, rest)
    | cs => (false, cs)
  let keeps := match Numeral.read (Binary64.tenTo digits.length) digits with
    | .ok n => fits negative n
    | .error _ => false
  if keeps then lexeme
  else
    match Binary64.read lexeme with
    | some (.finite s m e) =>
      (if s then "-" else "") ++ (if m = 0 then "0.0" else spellReal (Binary64.interval m e).shortest)
    | _ => lexeme

mutual

/-- A document with its numbers in the usual spelling. -/
def usual : Document → Document
  | number lexeme => number (usualNumber lexeme)
  | items values => items (usualItems values)
  | fields entries => fields (usualFields entries)
  | d => d

def usualItems : List Document → List Document
  | [] => []
  | d :: rest => usual d :: usualItems rest

def usualFields : List (String × Document) → List (String × Document)
  | [] => []
  | (name, d) :: rest => (name, usual d) :: usualFields rest

end

end TunnelAgent.Document
