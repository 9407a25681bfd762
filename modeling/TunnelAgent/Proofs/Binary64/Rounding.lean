import Mathlib.Algebra.Order.Field.Power
import Mathlib.Data.Rat.Cast.Order
import Mathlib.Tactic.FieldSimp
import Mathlib.Tactic.Linarith
import Mathlib.Tactic.Positivity
import Mathlib.Tactic.Ring
import TunnelAgent.Binary64

/-! # Rounding to the nearest number

`ofRatio` gives a number than which no other is nearer to the quotient, as long as the quotient is
not too large. Values are rationals here. All later bounds on rounded results come from two
consequences: a representable bound of the exact value bounds the rounded one, and from `2 ^ 53` on
the numbers are the even integers among others. -/

namespace TunnelAgent

theorem roundDiv_cases (n d : Nat) :
    roundDiv n d = n / d ∧ 2 * (n % d) ≤ d ∨ roundDiv n d = n / d + 1 ∧ d ≤ 2 * (n % d) := by
  unfold roundDiv
  simp only
  split
  · omega
  · split
    · omega
    · split <;> omega

/-- A quotient as whole units and a fraction. -/
theorem ratio_eq (n : Nat) {d : Nat} (hd : 0 < d) : (n : ℚ) / d = (n / d : ℕ) + (n % d : ℕ) / d := by
  have hd' : (d : ℚ) ≠ 0 := by exact_mod_cast hd.ne'
  have hdiv : (n : ℚ) = d * (n / d : ℕ) + (n % d : ℕ) := by exact_mod_cast (Nat.div_add_mod n d).symm
  rw [hdiv]
  field_simp

/-- Between the quotient and its rounding lies at most one half. -/
theorem roundDiv_half (n : Nat) {d : Nat} (hd : 0 < d) : |(roundDiv n d : ℚ) - n / d| ≤ 1 / 2 := by
  have hd' : (0 : ℚ) < d := by exact_mod_cast hd
  have hmod : ((n % d : ℕ) : ℚ) < d := by exact_mod_cast Nat.mod_lt n hd
  have hnonneg : (0 : ℚ) ≤ (n % d : ℕ) / d := by positivity
  have hbelow : ((n % d : ℕ) : ℚ) / d < 1 := (div_lt_one hd').mpr hmod
  rw [ratio_eq n hd, abs_le]
  rcases roundDiv_cases n d with ⟨hround, hhalf⟩ | ⟨hround, hhalf⟩
  · have hfraction : ((n % d : ℕ) : ℚ) / d ≤ 1 / 2 := by
      rw [div_le_iff₀ hd']
      have hcast : (2 : ℚ) * (n % d : ℕ) ≤ d := by exact_mod_cast hhalf
      linarith
    rw [hround]
    constructor <;> linarith
  · have hfraction : (1 : ℚ) / 2 ≤ (n % d : ℕ) / d := by
      rw [le_div_iff₀ hd']
      have hcast : (d : ℚ) ≤ 2 * (n % d : ℕ) := by exact_mod_cast hhalf
      linarith
    rw [hround]
    push_cast at hfraction hnonneg hbelow ⊢
    constructor <;> linarith

/-- No integer is nearer to the quotient than its rounding. -/
theorem roundDiv_nearest (n : Nat) {d : Nat} (hd : 0 < d) (k : ℤ) :
    |(roundDiv n d : ℚ) - n / d| ≤ |(k : ℚ) - n / d| := by
  have hhalf := roundDiv_half n hd
  by_cases hk : k = roundDiv n d
  · rw [hk]
    simp
  · have hone : (1 : ℤ) ≤ |k - roundDiv n d| := Int.one_le_abs (sub_ne_zero.mpr hk)
    have hfar : (1 : ℚ) ≤ |(k : ℚ) - roundDiv n d| := by exact_mod_cast hone
    have htriangle := abs_sub_le (k : ℚ) (n / d) (roundDiv n d)
    rw [abs_sub_comm ((n : ℚ) / d)] at htriangle
    linarith

/-- A bound of the quotient bounds its rounding. -/
theorem roundDiv_le {n d k : Nat} (hd : 0 < d) (h : n ≤ k * d) : roundDiv n d ≤ k := by
  have hle : (n : ℚ) / d ≤ k := by
    rw [div_le_iff₀ (by exact_mod_cast hd)]
    exact_mod_cast h
  by_contra hlt
  have hfar : (k : ℚ) + 1 ≤ roundDiv n d := by exact_mod_cast Nat.not_le.mp hlt
  have hnear := roundDiv_half n hd
  rw [abs_le] at hnear
  linarith [hnear.2]

namespace Binary64

/-- The value of `m · 2 ^ e`. -/
def value (m : Nat) (e : Int) : ℚ := m * 2 ^ e

theorem twoTo_eq (k : Nat) : twoTo k = 2 ^ k := rfl

/-- The quotient that stands for `m · 2 ^ e`. -/
theorem scaled_ratio (m : Nat) (e : Int) :
    0 < (scaled m e).2 ∧ ((scaled m e).1 : ℚ) / (scaled m e).2 = value m e := by
  unfold scaled value
  split
  · rename_i he
    obtain ⟨k, rfl⟩ := Int.eq_ofNat_of_zero_le he
    refine ⟨Nat.one_pos, ?_⟩
    simp [twoTo_eq]
  · rename_i he
    obtain ⟨k, hk⟩ := Int.eq_ofNat_of_zero_le (by omega : (0 : ℤ) ≤ -e)
    obtain rfl : e = -k := by omega
    refine ⟨by rw [twoTo_eq]; positivity, ?_⟩
    simp [twoTo_eq, div_eq_mul_inv]

/-- The values of the numbers that are not negative, if there were no largest one. -/
def Representable (q : ℚ) : Prop := ∃ m : ℕ, ∃ e : ℤ, m < 2 ^ 53 ∧ minExponent ≤ e ∧ q = value m e

/-- `v` is a number as near to `q` as any. -/
structure Nearest (q v : ℚ) : Prop where
  representable : Representable v
  nearest : ∀ z, Representable z → |v - q| ≤ |z - q|

/-- A representable bound of the exact value bounds the rounded one. -/
theorem Nearest.le {q v z : ℚ} (h : Nearest q v) (hz : Representable z) (hq : q ≤ z) : v ≤ z := by
  by_contra hlt
  have hnear := h.nearest z hz
  rw [abs_of_nonneg (by linarith), abs_of_nonneg (by linarith)] at hnear
  linarith

theorem Nearest.ge {q v z : ℚ} (h : Nearest q v) (hz : Representable z) (hq : z ≤ q) : z ≤ v := by
  by_contra hlt
  have hnear := h.nearest z hz
  rw [abs_of_nonpos (by linarith), abs_of_nonpos (by linarith)] at hnear
  linarith

theorem representable_natCast {n : Nat} (h : n < 2 ^ 53) : Representable n :=
  ⟨n, 0, h, by decide, by simp [value]⟩

theorem representable_twoTo (k : Nat) : Representable (2 ^ k) :=
  ⟨1, k, by norm_num, by unfold minExponent; omega, by simp [value]⟩

/-- From `2 ^ 53` on there are only even integers. -/
theorem Representable.even {q : ℚ} (h : Representable q) (hq : 2 ^ 53 ≤ q) : ∃ k : ℕ, q = 2 * k := by
  obtain ⟨m, e, hm, -, rfl⟩ := h
  have hpos : 0 < e := by
    by_contra he
    have hsmall : (2 : ℚ) ^ e ≤ 1 := zpow_le_one_of_nonpos₀ (by norm_num) (by omega)
    have hm' : (m : ℚ) < 2 ^ 53 := by exact_mod_cast hm
    have hle : value m e ≤ m * 1 := mul_le_mul_of_nonneg_left hsmall (by positivity)
    linarith
  obtain ⟨k, hk⟩ := Int.eq_ofNat_of_zero_le (by omega : 0 ≤ e - 1)
  obtain rfl : e = k + 1 := by omega
  refine ⟨m * 2 ^ k, ?_⟩
  rw [value, zpow_add_one₀ (by norm_num), zpow_natCast]
  push_cast
  ring

/-- Taking whole units from a number that is less than one above them leaves a number. -/
theorem Representable.sub_natCast {q : ℚ} {n : Nat} (h : Representable q) (hn : (n : ℚ) ≤ q)
    (hq : q < n + 1) : Representable (q - n) := by
  by_cases hzero : n = 0
  · simpa [hzero] using h
  · obtain ⟨m, e, hm, -, rfl⟩ := h
    have hone : (1 : ℚ) ≤ n := by exact_mod_cast Nat.one_le_iff_ne_zero.mpr hzero
    have he : -52 ≤ e := by
      by_contra he
      have hunit : (2 : ℚ) ^ e ≤ 2 ^ (-53 : ℤ) := zpow_le_zpow_right₀ (by norm_num) (by omega)
      have hm' : (m : ℚ) < 2 ^ 53 := by exact_mod_cast hm
      have hlt : value m e < 1 := calc
        value m e ≤ m * 2 ^ (-53 : ℤ) := mul_le_mul_of_nonneg_left hunit (by positivity)
        _ < 2 ^ 53 * 2 ^ (-53 : ℤ) := mul_lt_mul_of_pos_right hm' (by positivity)
        _ = 1 := by norm_num
      linarith
    obtain ⟨k, hk⟩ := Int.eq_ofNat_of_zero_le (by omega : 0 ≤ e + 52)
    have hvalue : value m e = (m * 2 ^ k : ℕ) / 2 ^ 52 := by
      rw [value, show e = k - 52 by omega, zpow_sub₀ (by norm_num), zpow_natCast]
      push_cast
      rw [mul_div_assoc]
      norm_cast
    rw [hvalue] at hn hq ⊢
    rw [le_div_iff₀ (by positivity)] at hn
    rw [div_lt_iff₀ (by positivity)] at hq
    have hle : n * 2 ^ 52 ≤ m * 2 ^ k := by exact_mod_cast hn
    have hlt : m * 2 ^ k < (n + 1) * 2 ^ 52 := by exact_mod_cast hq
    refine ⟨m * 2 ^ k - n * 2 ^ 52, -52, by omega, by decide, ?_⟩
    have hunit : (2 : ℚ) ^ (-52 : ℤ) = 1 / 2 ^ 52 := by norm_num
    rw [value, Nat.cast_sub hle, hunit]
    push_cast
    ring

/-- The exponent gives 53 significant bits, or as many as the least exponent leaves. -/
theorem exponentFor_bounds {n d : Nat} (hn : 0 < n) (hd : 0 < d) :
    minExponent ≤ exponentFor n d ∧ (n : ℚ) / d < 2 ^ 53 * 2 ^ exponentFor n d ∧
      (exponentFor n d = minExponent ∨ 2 ^ 52 * 2 ^ exponentFor n d ≤ (n : ℚ) / d) := by
  have hd' : (0 : ℚ) < d := by exact_mod_cast hd
  have hn' : (0 : ℚ) < n := by exact_mod_cast hn
  have hnlow : (2 : ℚ) ^ n.log2 ≤ n := by exact_mod_cast Nat.log2_self_le (by omega : n ≠ 0)
  have hnhigh : (n : ℚ) < 2 * 2 ^ n.log2 := by
    rw [← pow_succ']
    exact_mod_cast Nat.lt_log2_self
  have hdlow : (2 : ℚ) ^ d.log2 ≤ d := by exact_mod_cast Nat.log2_self_le (by omega : d ≠ 0)
  have hdhigh : (d : ℚ) < 2 * 2 ^ d.log2 := by
    rw [← pow_succ']
    exact_mod_cast Nat.lt_log2_self
  have hguess : (2 : ℚ) ^ ((n.log2 : ℤ) - d.log2 - 52) = 2 ^ n.log2 / 2 ^ d.log2 / 2 ^ 52 := by
    rw [zpow_sub₀ (by norm_num), zpow_sub₀ (by norm_num)]
    norm_cast
  have hlow : 2 ^ 51 * (2 : ℚ) ^ ((n.log2 : ℤ) - d.log2 - 52) ≤ n / d := by
    rw [hguess, le_div_iff₀ hd', div_div, mul_div_assoc', div_mul_eq_mul_div,
      div_le_iff₀ (by positivity)]
    nlinarith
  have hhigh : (n : ℚ) / d < 2 ^ 53 * 2 ^ ((n.log2 : ℤ) - d.log2 - 52) := by
    rw [hguess, div_lt_iff₀ hd', div_div, mul_div_assoc', div_mul_eq_mul_div,
      lt_div_iff₀ (by positivity)]
    nlinarith
  unfold exponentFor
  simp only
  generalize (n.log2 : ℤ) - d.log2 - 52 = g at *
  obtain ⟨hb, hscaled⟩ := scaled_ratio 1 g
  generalize (scaled 1 g).1 = a at *
  generalize (scaled 1 g).2 = b at *
  have htest : n * b < twoTo 52 * (d * a) ↔ (n : ℚ) / d < 2 ^ 52 * 2 ^ g := by
    have hpower : (2 : ℚ) ^ g = a / b := by rw [hscaled, value, Nat.cast_one, one_mul]
    rw [hpower, mul_div_assoc', div_lt_div_iff₀ hd' (by exact_mod_cast hb), mul_assoc, mul_comm (a : ℚ)]
    exact_mod_cast Iff.rfl
  have hbounds : ∃ e, (if n * b < twoTo 52 * (d * a) then g - 1 else g) = e ∧
      (n : ℚ) / d < 2 ^ 53 * 2 ^ e ∧ 2 ^ 52 * 2 ^ e ≤ (n : ℚ) / d := by
    split
    · rename_i hbelow
      have hhalved : (2 : ℚ) ^ g = 2 * 2 ^ (g - 1) := by
        rw [zpow_sub_one₀ (by norm_num)]
        ring
      rw [htest] at hbelow
      rw [hhalved] at hbelow hlow
      exact ⟨g - 1, rfl, by linarith, by linarith⟩
    · rename_i hbelow
      rw [htest, not_lt] at hbelow
      exact ⟨g, rfl, hhigh, hbelow⟩
  obtain ⟨e, he, hupper, hnormal⟩ := hbounds
  rw [he]
  rcases le_total minExponent e with hmin | hmin
  · rw [max_eq_right hmin]
    exact ⟨hmin, hupper, .inr hnormal⟩
  · rw [max_eq_left hmin]
    refine ⟨le_rfl, lt_of_lt_of_le hupper ?_, .inl rfl⟩
    gcongr
    norm_num

/-- A significand in units of `2 ^ e` is that of a number as near to the quotient as any. -/
theorem significand_nearest {n d : Nat} (hn : 0 < n) (hd : 0 < d) {a b : Nat}
    (hscaled : scaled 1 (exponentFor n d) = (a, b)) :
    roundDiv (n * b) (d * a) ≤ 2 ^ 53 ∧
      ∀ z, Representable z →
        |value (roundDiv (n * b) (d * a)) (exponentFor n d) - n / d| ≤ |z - n / d| := by
  obtain ⟨hmin, hupper, hnormal⟩ := exponentFor_bounds hn hd
  obtain ⟨hb, hratio⟩ := scaled_ratio 1 (exponentFor n d)
  rw [hscaled] at hb hratio
  generalize exponentFor n d = e at *
  have hunit : (0 : ℚ) < 2 ^ e := by positivity
  have hd' : (0 : ℚ) < d := by exact_mod_cast hd
  have hb' : (0 : ℚ) < b := by exact_mod_cast hb
  have hpower : (a : ℚ) = 2 ^ e * b := by
    rw [value, Nat.cast_one, one_mul, div_eq_iff hb'.ne'] at hratio
    exact hratio
  have ha' : (0 : ℚ) < a := by
    rw [hpower]
    positivity
  have hda : 0 < d * a := Nat.mul_pos hd (by exact_mod_cast ha')
  have hunits : ((n * b : ℕ) : ℚ) / (d * a : ℕ) = n / d / 2 ^ e := by
    push_cast
    rw [hpower]
    field_simp
  have hinteger : ∀ k : ℤ,
      |value (roundDiv (n * b) (d * a)) e - n / d| ≤ |(k : ℚ) * 2 ^ e - n / d| := by
    intro k
    have hnear := roundDiv_nearest (n * b) hda k
    rw [hunits] at hnear
    have hscale : ∀ x : ℚ, |x * 2 ^ e - n / d| = |x - n / d / 2 ^ e| * 2 ^ e := by
      intro x
      rw [← abs_of_pos hunit, ← abs_mul, abs_of_pos hunit, sub_mul, div_mul_cancel₀ _ hunit.ne']
    rw [value, hscale, hscale]
    exact mul_le_mul_of_nonneg_right hnear hunit.le
  constructor
  · apply roundDiv_le hda
    rw [← div_lt_iff₀ hunit, ← hunits, div_lt_iff₀ (by exact_mod_cast hda)] at hupper
    exact_mod_cast hupper.le
  · rintro z ⟨m, e', hm, hmin', rfl⟩
    rcases le_or_gt e e' with hle | hlt
    · -- a number of larger units is one of these units
      obtain ⟨k, hk⟩ := Int.eq_ofNat_of_zero_le (sub_nonneg.mpr hle)
      obtain rfl : e' = k + e := by omega
      have hz : value m (k + e) = ((m * 2 ^ k : ℕ) : ℤ) * 2 ^ e := by
        rw [value, zpow_add₀ (by norm_num)]
        push_cast
        rw [zpow_natCast, mul_assoc]
      rw [hz]
      exact hinteger _
    · -- a number of smaller units lies below the least significand, which is no nearer
      have hfull : 2 ^ 52 * (2 : ℚ) ^ e ≤ n / d := by
        rcases hnormal with rfl | hfull
        · omega
        · exact hfull
      have hz : value m e' ≤ 2 ^ 52 * 2 ^ e := by
        have hm' : (m : ℚ) ≤ 2 ^ 53 := by exact_mod_cast hm.le
        calc value m e' ≤ 2 ^ 53 * 2 ^ (e - 1) := by
              unfold value
              gcongr
              · norm_num
              · omega
          _ = 2 ^ 52 * 2 ^ e := by
              rw [zpow_sub_one₀ (by norm_num)]
              ring
      have hleast := hinteger (2 ^ 52 : ℕ)
      rw [Int.cast_natCast, Nat.cast_pow, Nat.cast_ofNat] at hleast
      rw [abs_of_nonpos (by linarith : (2 : ℚ) ^ 52 * 2 ^ e - n / d ≤ 0)] at hleast
      rw [abs_of_nonpos (by linarith : value m e' - n / d ≤ 0)]
      linarith

/-- A quotient is rounded to a nearest number, or is too large for any. -/
theorem ofRatio_cases (s : Bool) (n : Nat) {d : Nat} (hd : 0 < d) :
    (ofRatio s n d = .infinity s ∧ (2 : ℚ) ^ 1023 ≤ n / d) ∨
      ∃ m e, ofRatio s n d = .finite s m e ∧ Nearest (n / d) (value m e) := by
  unfold ofRatio
  by_cases hn : n = 0
  · subst hn
    refine .inr ⟨0, minExponent, if_pos rfl, ⟨0, minExponent, by norm_num, le_rfl, rfl⟩, ?_⟩
    simp [value]
  · rw [if_neg hn]
    obtain ⟨hmin, hupper, hnormal⟩ := exponentFor_bounds (Nat.pos_of_ne_zero hn) hd
    obtain ⟨a, b, hscaled⟩ : ∃ a b, scaled 1 (exponentFor n d) = (a, b) := ⟨_, _, rfl⟩
    obtain ⟨hle, hnear⟩ := significand_nearest (Nat.pos_of_ne_zero hn) hd hscaled
    simp only [hscaled]
    generalize exponentFor n d = e at *
    generalize roundDiv (n * b) (d * a) = m at *
    have hlarge : e + 1 > maxExponent → (2 : ℚ) ^ 1023 ≤ n / d := by
      intro he
      have hfull : 2 ^ 52 * (2 : ℚ) ^ e ≤ n / d :=
        hnormal.resolve_left fun h => by simp [h, minExponent, maxExponent] at he
      calc (2 : ℚ) ^ 1023 = 2 ^ 52 * 2 ^ ((971 : ℕ) : ℤ) := by rw [zpow_natCast, ← pow_add]
        _ ≤ 2 ^ 52 * 2 ^ e := by
            gcongr
            · norm_num
            · unfold maxExponent at he
              omega
        _ ≤ n / d := hfull
    by_cases hcarry : m = twoTo 53
    · -- the significand is one too long, and even: it takes the next exponent
      have hvalue : value (twoTo 52) (e + 1) = value m e := by
        rw [hcarry, value, value, zpow_add_one₀ (by norm_num), twoTo_eq, twoTo_eq]
        push_cast
        ring
      rw [if_pos hcarry]
      by_cases hmax : e + 1 > maxExponent
      · exact .inl ⟨if_pos hmax, hlarge hmax⟩
      · refine .inr ⟨twoTo 52, e + 1, if_neg hmax, ?_, ?_⟩
        · exact ⟨twoTo 52, e + 1, by rw [twoTo_eq]; norm_num, by omega, rfl⟩
        · rw [hvalue]
          exact hnear
    · rw [if_neg hcarry]
      by_cases hmax : e > maxExponent
      · exact .inl ⟨if_pos hmax, hlarge (by omega)⟩
      · refine .inr ⟨m, e, if_neg hmax, ⟨m, e, ?_, hmin, rfl⟩, hnear⟩
        exact lt_of_le_of_ne hle hcarry

theorem ofRatio_nearest (s : Bool) (n : Nat) {d : Nat} (hd : 0 < d) (h : (n : ℚ) / d ≤ 2 ^ 65) :
    ∃ m e, ofRatio s n d = .finite s m e ∧ Nearest (n / d) (value m e) := by
  have hlarge : (2 : ℚ) ^ 65 < 2 ^ 1023 := pow_lt_pow_right₀ (by norm_num) (by norm_num)
  exact (ofRatio_cases s n hd).resolve_left fun hcase => not_le.mpr hlarge (hcase.2.trans h)

section operations

variable (m m' : Nat) (e e' : Int)

theorem le_finite :
    (finite false m e).le (finite false m' e') = true ↔ value m e ≤ value m' e' := by
  obtain ⟨hd, hratio⟩ := scaled_ratio m e
  obtain ⟨hd', hratio'⟩ := scaled_ratio m' e'
  rw [← hratio, ← hratio', div_le_div_iff₀ (by exact_mod_cast hd) (by exact_mod_cast hd')]
  simp only [le, position?, Bool.false_eq_true, if_false, decide_eq_true_eq]
  norm_cast

theorem le_infinity : (finite false m e).le (infinity false) = true := rfl

theorem negative_le : (finite true m e).le (finite false m' e') = true := by
  have hneg : -((scaled m e).1 : ℤ) * (scaled m' e').2 ≤ 0 :=
    mul_nonpos_of_nonpos_of_nonneg (by omega) (by omega)
  have hpos : 0 ≤ ((scaled m' e').1 : ℤ) * (scaled m e).2 := by positivity
  simp only [le, position?, Bool.false_eq_true, if_false, if_true, decide_eq_true_eq]
  exact hneg.trans hpos

theorem addPositive_finite :
    ∃ n d, 0 < d ∧ (finite false m e).addPositive (finite false m' e') = ofRatio false n d ∧
      (n : ℚ) / d = value m e + value m' e' := by
  obtain ⟨hd, hratio⟩ := scaled_ratio m e
  obtain ⟨hd', hratio'⟩ := scaled_ratio m' e'
  refine ⟨(scaled m e).1 * (scaled m' e').2 + (scaled m' e').1 * (scaled m e).2, _,
    Nat.mul_pos hd hd', rfl, ?_⟩
  have hne : ((scaled m e).2 : ℚ) ≠ 0 := by exact_mod_cast hd.ne'
  have hne' : ((scaled m' e').2 : ℚ) ≠ 0 := by exact_mod_cast hd'.ne'
  rw [← hratio, ← hratio', div_add_div _ _ hne hne']
  push_cast
  ring

/-- A product is a representable number, or too large for any. -/
theorem mul_finite :
    (finite false m e).mul (finite false m' e') = .infinity false ∨
      ∃ m'' e'', (finite false m e).mul (finite false m' e') = .finite false m'' e'' ∧
        Representable (value m'' e'') := by
  have hd := Nat.mul_pos (scaled_ratio m e).1 (scaled_ratio m' e').1
  rcases ofRatio_cases false ((scaled m e).1 * (scaled m' e').1) hd with
    ⟨hinfinite, -⟩ | ⟨m'', e'', hfinite, hnear⟩
  · exact .inl hinfinite
  · exact .inr ⟨m'', e'', hfinite, hnear.representable⟩

theorem one_eq : one = .finite false (2 ^ 52) (-52) := by decide +kernel

end operations

end Binary64

end TunnelAgent
