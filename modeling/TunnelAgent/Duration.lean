import TunnelAgent.Binary64

/-!
Lengths of time, in nanoseconds. The longest has `2 ^ 64 - 1` whole seconds; products saturate
there. Seconds as a double-precision number are rounded once for the whole seconds, once for the
fraction and once for their sum; the way back rounds to the nearest nanosecond, ties to even.
-/

namespace TunnelAgent

abbrev Duration := Nat

namespace Duration

def nanosPerSecond : Nat := 1000000000

def ofSeconds (s : Nat) : Duration := s * nanosPerSecond

def ofMillis (ms : Nat) : Duration := ms * 1000000

def longest : Duration := ofSeconds 18446744073709551615 + 999999999

def saturatingMul (d : Duration) (n : Nat) : Duration := min (d * n) longest

def toSeconds (d : Duration) : Binary64 :=
  (Binary64.ofNat (d / nanosPerSecond)).addPositive
    (Binary64.ofRatio false (d % nanosPerSecond) nanosPerSecond)

/-- The length of a finite number of seconds that is not negative. -/
def ofSeconds64 (x : Binary64) : Duration :=
  match x.ratio? with
  | some (n, d) => roundDiv (n * nanosPerSecond) d
  | none => longest

/-- A fraction of `places` decimal places, without its trailing zeros. -/
def fraction (places n : Nat) : String :=
  let ds := Nat.toDigits 10 n
  let ds := List.replicate (places - ds.length) '0' ++ ds
  let kept := (ds.reverse.dropWhile (· == '0')).reverse
  if kept.isEmpty then "" else String.ofList ('.' :: kept)

/-- The length in the largest unit of which it has at least one. -/
def text (d : Duration) : String :=
  if nanosPerSecond ≤ d then s!"{d / nanosPerSecond}{fraction 9 (d % nanosPerSecond)}s"
  else if 1000000 ≤ d then s!"{d / 1000000}{fraction 6 (d % 1000000)}ms"
  else if 1000 ≤ d then s!"{d / 1000}{fraction 3 (d % 1000)}µs"
  else s!"{d}ns"

end Duration

end TunnelAgent
