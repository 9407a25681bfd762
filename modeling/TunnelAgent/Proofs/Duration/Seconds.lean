import TunnelAgent.Duration
import TunnelAgent.Proofs.Binary64.Rounding

/-! # Lengths of time in seconds

A length in seconds is rounded three times: the whole seconds, the fraction, and their sum. Main
statement: all the same, a number below a length's seconds is not more than the length itself. So
the way back from any such number is defined, and does not exceed the length. -/

namespace TunnelAgent

namespace Duration

open Binary64

variable {d : Nat}

theorem fraction_le (d : Nat) :
    ((d % nanosPerSecond : ℕ) : ℚ) / nanosPerSecond ≤ 1 - 2 ^ (-53 : ℤ) := by
  have hlt : d % nanosPerSecond + 1 ≤ nanosPerSecond := Nat.mod_lt d (by norm_num [nanosPerSecond])
  have hle : ((d % nanosPerSecond : ℕ) : ℚ) + 1 ≤ nanosPerSecond := by exact_mod_cast hlt
  rw [div_le_iff₀ (by norm_num [nanosPerSecond])]
  norm_num [nanosPerSecond] at hle ⊢
  linarith

theorem representable_below_one : Representable (1 - 2 ^ (-53 : ℤ)) :=
  ⟨2 ^ 53 - 1, -53, by norm_num, by decide, by norm_num [value]⟩

/-- The three roundings on the way to a number of seconds. -/
theorem toSeconds_nearest (hd : d ≤ longest) :
    ∃ m e whole fraction, toSeconds d = .finite false m e ∧
      Nearest (d / nanosPerSecond : ℕ) whole ∧
      Nearest ((d % nanosPerSecond : ℕ) / nanosPerSecond) fraction ∧
      Nearest (whole + fraction) (value m e) := by
  have hseconds : ((d / nanosPerSecond : ℕ) : ℚ) ≤ 2 ^ 64 := by
    have hd' : d ≤ 18446744073709551615 * 1000000000 + 999999999 := hd
    have hle : d / nanosPerSecond ≤ 2 ^ 64 := by
      unfold nanosPerSecond
      omega
    exact_mod_cast hle
  obtain ⟨m, e, hm, hwhole⟩ := ofRatio_nearest false (d / nanosPerSecond) Nat.one_pos (by
    rw [Nat.cast_one, div_one]
    linarith)
  rw [Nat.cast_one, div_one] at hwhole
  have hbelow := fraction_le d
  have hunit : (0 : ℚ) < 2 ^ (-53 : ℤ) := by positivity
  obtain ⟨m', e', hm', hfraction⟩ :=
    ofRatio_nearest false (d % nanosPerSecond) (by decide : 0 < nanosPerSecond) (by linarith)
  obtain ⟨n, k, hk, hadd, hsum⟩ := addPositive_finite m m' e e'
  have hwhole' := hwhole.le (representable_twoTo 64) hseconds
  have hfraction' := hfraction.le representable_below_one hbelow
  obtain ⟨m'', e'', hm'', hnear⟩ := ofRatio_nearest false n hk (by
    rw [hsum]
    linarith)
  rw [hsum] at hnear
  refine ⟨m'', e'', value m e, value m' e', ?_, hwhole, hfraction, hnear⟩
  rw [toSeconds, Binary64.ofNat, hm, hm', hadd, hm'']

/-- From `2 ^ 53` seconds on, what a fraction adds is rounded away. -/
theorem nearest_add_fraction {w f y : ℚ} (hw : Representable w) (hlarge : 2 ^ 53 ≤ w) (hf : 0 ≤ f)
    (hbelow : f < 1) (hy : Nearest (w + f) y) : y ≤ w := by
  by_contra hlt
  obtain ⟨j, rfl⟩ := hw.even hlarge
  obtain ⟨k, rfl⟩ := hy.representable.even (by linarith)
  have hstep : j + 1 ≤ k := by
    have hlt' : j < k := by
      rw [not_le, mul_lt_mul_iff_right₀ (by norm_num)] at hlt
      exact_mod_cast hlt
    exact hlt'
  have hstep' : (j : ℚ) + 1 ≤ k := by exact_mod_cast hstep
  have hnear := hy.nearest _ hw
  rw [abs_of_nonneg (by linarith), abs_of_nonpos (by linarith)] at hnear
  linarith

/-- A number above a length is not less than the length's seconds, for all their roundings. -/
theorem toSeconds_le (hd : d ≤ longest) {x : ℚ} (hx : Representable x)
    (hlt : (d : ℚ) / nanosPerSecond < x) :
    ∃ m e, toSeconds d = .finite false m e ∧ value m e ≤ x := by
  obtain ⟨m, e, whole, fraction, hm, hwhole, hfraction, hsum⟩ := toSeconds_nearest hd
  refine ⟨m, e, hm, ?_⟩
  rw [ratio_eq d (by decide)] at hlt
  have hnonneg : (0 : ℚ) ≤ (d % nanosPerSecond : ℕ) / nanosPerSecond := by positivity
  have hbelow := hfraction.le representable_below_one (fraction_le d)
  have hunit : (0 : ℚ) < 2 ^ (-53 : ℤ) := by positivity
  by_cases hexact : d / nanosPerSecond < 2 ^ 53
  · -- the whole seconds are exact, and what is left of the number is a number itself
    have hwhole' := hwhole.le (representable_natCast hexact) le_rfl
    refine hsum.le hx ?_
    rcases lt_or_ge x ((d / nanosPerSecond : ℕ) + 1) with hnear | hfar
    · have hrest := hx.sub_natCast (by linarith) hnear
      have hfraction' := hfraction.le hrest (by linarith)
      linarith
    · linarith
  · -- there is no number between the whole seconds and the next even number of them
    have hlarge : (2 : ℚ) ^ 53 ≤ whole := by
      refine hwhole.ge (representable_twoTo 53) ?_
      exact_mod_cast Nat.not_lt.mp hexact
    have hle := nearest_add_fraction hwhole.representable hlarge
      (hfraction.ge ⟨0, 0, by norm_num, by decide, by simp [value]⟩ hnonneg) (by linarith) hsum
    exact hle.trans (hwhole.le hx (by linarith))

/-- The way back from a number of seconds below those of a length: it does not exceed the length. -/
theorem ofSeconds64_le (hd : d ≤ longest) {m : Nat} {e : Int} (hx : Representable (value m e))
    (hlt : (toSeconds d).le (.finite false m e) = false) : ofSeconds64 (.finite false m e) ≤ d := by
  have hle : value m e ≤ (d : ℚ) / nanosPerSecond := by
    by_contra hfar
    obtain ⟨m', e', hseconds, hbelow⟩ := toSeconds_le hd hx (not_le.mp hfar)
    rw [hseconds, Bool.eq_false_iff] at hlt
    exact hlt ((le_finite m' m e' e).mpr hbelow)
  obtain ⟨hpos, hratio⟩ := scaled_ratio m e
  rw [← hratio, div_le_div_iff₀ (by exact_mod_cast hpos) (by norm_num [nanosPerSecond])] at hle
  exact roundDiv_le hpos (by exact_mod_cast hle)

end Duration

end TunnelAgent
