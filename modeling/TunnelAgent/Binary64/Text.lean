import TunnelAgent.Binary64
import TunnelAgent.Text.Numeral

/-!
Decimal text of double-precision numbers. `read` rounds a numeral to the nearest number. `text`
writes the fewest digits that read back, always positional, without an exponent and without a
trailing point. A numeral reads back when it lies in the interval of reals that round to the
number; an end of the interval belongs to it when the mantissa is even.
-/

namespace TunnelAgent.Binary64

def tenTo (k : Nat) : Nat := Nat.pow 10 k

/-- A decimal `digits · 10 ^ exponent`. -/
structure Decimal where
  digits : Nat
  exponent : Int
  deriving DecidableEq, Repr

namespace Decimal

def ratio (x : Decimal) : Nat × Nat :=
  if 0 ≤ x.exponent then (x.digits * tenTo x.exponent.toNat, 1) else (x.digits, tenTo (-x.exponent).toNat)

/-- Digits, with a point where the exponent puts it. -/
def text (x : Decimal) : String :=
  let ds := Nat.toDigits 10 x.digits
  if 0 ≤ x.exponent then String.ofList (ds ++ List.replicate x.exponent.toNat '0')
  else
    let places := (-x.exponent).toNat
    let ds := List.replicate (places + 1 - ds.length) '0' ++ ds
    String.ofList (ds.take (ds.length - places) ++ '.' :: ds.drop (ds.length - places))

end Decimal

/-- The reals that round to a finite number, as numerators over one denominator. -/
structure Interval where
  low : Nat
  value : Nat
  high : Nat
  denominator : Nat
  closed : Bool

def interval (m : Nat) (e : Int) : Interval :=
  let below := if m = twoTo 52 ∧ e ≠ minExponent then 1 else 2
  let (a, b) := scaled 1 (e - 2)
  { low := (4 * m - below) * a, value := 4 * m * a, high := (4 * m + 2) * a, denominator := b
    closed := m % 2 == 0 }

def Interval.contains (i : Interval) (x : Decimal) : Bool :=
  let (n, d) := x.ratio
  let point := n * i.denominator
  if i.closed then i.low * d ≤ point && point ≤ i.high * d else i.low * d < point && point < i.high * d

/-- The number of digits before the point, not positive for a number below one tenth. -/
def Interval.magnitude (i : Interval) : Int :=
  if i.denominator ≤ i.value then (Nat.toDigits 10 (i.value / i.denominator)).length
  else
    let guess : Int := 1 - ((Nat.toDigits 10 (i.denominator / i.value)).length : Int)
    let (n, d) := Decimal.ratio ⟨1, guess⟩
    if n * i.denominator ≤ i.value * d then guess + 1 else guess

/-- The nearer of the value's two neighbours with `places` digits that lies in the interval. -/
def Interval.withDigits? (i : Interval) (places : Nat) : Option Decimal :=
  let exponent := i.magnitude - places
  let (n, d) := Decimal.ratio ⟨1, exponent⟩
  let num := i.value * d
  let den := i.denominator * n
  let down : Decimal := ⟨num / den, exponent⟩
  let up : Decimal :=
    if num / den + 1 = tenTo places then ⟨1, exponent + places⟩ else ⟨num / den + 1, exponent⟩
  match i.contains down, i.contains up with
  | true, true => some (if 2 * (num % den) < den then down else up)
  | true, false => some down
  | false, true => some up
  | false, false => none

/-- The shortest decimal in the interval; seventeen digits always suffice. -/
def Interval.shortest (i : Interval) : Decimal :=
  ((List.range 17).findSome? fun k => i.withDigits? (k + 1)).getD ⟨0, 0⟩

def text : Binary64 → String
  | nan => "NaN"
  | infinity s => if s then "-inf" else "inf"
  | finite s m e =>
    let body := if m = 0 then "0" else (interval m e).shortest.text
    if s then "-" ++ body else body

def ofDecimal (negative : Bool) (x : Decimal) : Binary64 :=
  let size := ((Nat.toDigits 10 x.digits).length : Int) + x.exponent
  if x.digits = 0 ∨ size < -400 then .finite negative 0 minExponent
  else if size > 400 then .infinity negative
  else
    let (n, d) := x.ratio
    ofRatio negative n d

/-- The digits at the front, as a number after `acc`, with their count. -/
def takeDigits (acc count : Nat) : List Char → Nat × Nat × List Char
  | [] => (acc, count, [])
  | c :: rest =>
    match Numeral.digit? c with
    | some d => takeDigits (acc * 10 + d) (count + 1) rest
    | none => (acc, count, c :: rest)

def readSign : List Char → Bool × List Char
  | '-' :: rest => (true, rest)
  | '+' :: rest => (false, rest)
  | cs => (false, cs)

/-- An exponent part, or nothing. -/
def readExponent : List Char → Option Int
  | [] => some 0
  | c :: rest =>
    if c = 'e' ∨ c = 'E' then
      let (negative, rest) := readSign rest
      match takeDigits 0 0 rest with
      | (n, count, []) => if count = 0 then none else some (if negative then -(n : Int) else n)
      | _ => none
    else none

def readUnsigned (negative : Bool) (cs : List Char) : Option Binary64 :=
  let lower := String.ofList (cs.map Char.toLower)
  if lower = "inf" ∨ lower = "infinity" then some (.infinity negative)
  else if lower = "nan" then some .nan
  else
    let (whole, before, rest) := takeDigits 0 0 cs
    let (digits, after, rest) :=
      match rest with
      | '.' :: rest =>
        let (digits, count, rest) := takeDigits whole before rest
        (digits, count - before, rest)
      | rest => (whole, 0, rest)
    if before + after = 0 then none
    else (readExponent rest).map fun e => ofDecimal negative ⟨digits, e - after⟩

/-- A decimal numeral, or a name of a number that has none. -/
def read (s : String) : Option Binary64 :=
  let (negative, cs) := readSign s.toList
  readUnsigned negative cs

end TunnelAgent.Binary64
