/-!
Double-precision numbers in exact arithmetic. A finite number is `± m · 2 ^ e`; every operation
is the exact one followed by one rounding, to nearest with ties to even. `ofRatio` is that
rounding, so each operation here is a single line over natural numbers.
-/

namespace TunnelAgent

inductive Binary64 where
  | nan
  | infinity (negative : Bool)
  | finite (negative : Bool) (mantissa : Nat) (exponent : Int)
  deriving DecidableEq, Repr

/-- The quotient `n / d` rounded to the nearest natural number, halves to the even one. -/
def roundDiv (n d : Nat) : Nat :=
  let q := n / d
  let r := n % d
  if 2 * r < d then q
  else if 2 * r > d then q + 1
  else if q % 2 = 0 then q else q + 1

namespace Binary64

def minExponent : Int := -1074
def maxExponent : Int := 971

def twoTo (k : Nat) : Nat := Nat.pow 2 k

/-- `n · 2 ^ e` over one, or `n` over a power of two. -/
def scaled (n : Nat) (e : Int) : Nat × Nat :=
  if 0 ≤ e then (n * twoTo e.toNat, 1) else (n, twoTo (-e).toNat)

/-- The exponent at which `n / d` has 53 significant bits, if it is not below the least. -/
def exponentFor (n d : Nat) : Int :=
  let guess : Int := (n.log2 : Int) - (d.log2 : Int) - 52
  let (a, b) := scaled 1 guess
  max minExponent (if n * b < twoTo 52 * (d * a) then guess - 1 else guess)

/-- The number nearest to `± n / d`. -/
def ofRatio (negative : Bool) (n d : Nat) : Binary64 :=
  if n = 0 then .finite negative 0 minExponent
  else
    let e := exponentFor n d
    let (a, b) := scaled 1 e
    let m := roundDiv (n * b) (d * a)
    let (m, e) := if m = twoTo 53 then (twoTo 52, e + 1) else (m, e)
    if e > maxExponent then .infinity negative else .finite negative m e

def ofNat (n : Nat) : Binary64 := ofRatio false n 1

/-- Numerator and denominator of the absolute value. -/
def ratio? : Binary64 → Option (Nat × Nat)
  | finite _ m e => some (scaled m e)
  | _ => none

def isFinite (x : Binary64) : Bool := x.ratio?.isSome

def isNegative : Binary64 → Bool
  | finite s _ _ => s
  | infinity s => s
  | nan => false

def isZero : Binary64 → Bool
  | finite _ m _ => m == 0
  | _ => false

def mul (x y : Binary64) : Binary64 :=
  let s := x.isNegative != y.isNegative
  match x.ratio?, y.ratio? with
  | some (n, d), some (n', d') => ofRatio s (n * n') (d * d')
  | _, _ =>
    if x = nan ∨ y = nan ∨ x.isZero ∨ y.isZero then nan else infinity s

/-- The sum of two numbers that are not negative. -/
def addPositive (x y : Binary64) : Binary64 :=
  match x.ratio?, y.ratio? with
  | some (n, d), some (n', d') => ofRatio false (n * d' + n' * d) (d * d')
  | _, _ => if x = nan ∨ y = nan then nan else infinity false

/-- Where a number lies on the line, as a fraction of integers; infinities lie outside. -/
def position? : Binary64 → Option (Int × Nat)
  | finite s m e => let (n, d) := scaled m e; some (if s then -(n : Int) else n, d)
  | _ => none

/-- The order of numbers; nothing is comparable to `nan`. -/
def le (x y : Binary64) : Bool :=
  match x, y with
  | nan, _ => false
  | _, nan => false
  | infinity true, _ => true
  | _, infinity false => true
  | x, y =>
    match x.position?, y.position? with
    | some (n, d), some (n', d') => n * d' ≤ n' * d
    | _, _ => decide (x = y)

def one : Binary64 := ofNat 1

end Binary64

end TunnelAgent
