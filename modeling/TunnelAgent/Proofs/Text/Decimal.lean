import Mathlib.Data.Nat.Basic
import TunnelAgent.Text.Numeral

/-! # The numerals that are read

A numeral is one or more digits, behind at most one plus sign, whose value is within the limit.
Reading stops at the first digit by which the value so far passes the limit; since a value only
grows with more digits, that never refuses a numeral whose value is within it. -/

namespace TunnelAgent.Numeral

theorem digit?_of_isDigit {c : Char} (h : c.isDigit = true) : digit? c = some (c.toNat - 48) := by
  simp only [Char.isDigit, Bool.and_eq_true, decide_eq_true_eq] at h
  exact if_pos h

theorem digit?_of_not_isDigit {c : Char} (h : ¬ c.isDigit = true) : digit? c = none := by
  simp only [Char.isDigit, Bool.and_eq_true, decide_eq_true_eq] at h
  exact if_neg h

/-- More digits never make a value smaller. -/
theorem le_ofDigitChars (digits : List Char) (acc : Nat) : acc ≤ Nat.ofDigitChars 10 digits acc := by
  induction digits generalizing acc with
  | nil => exact Nat.le_refl acc
  | cons c rest ih =>
    rw [Nat.ofDigitChars_cons]
    exact Nat.le_trans (by omega) (ih _)

theorem readDigits_eq_ok_iff {limit acc n : Nat} {digits : List Char} (hacc : acc ≤ limit) :
    readDigits limit acc digits = .ok n ↔
      (∀ c ∈ digits, c.isDigit = true) ∧ Nat.ofDigitChars 10 digits acc = n ∧ n ≤ limit := by
  induction digits generalizing acc with
  | nil =>
    simp only [readDigits, Except.ok.injEq, Nat.ofDigitChars_nil]
    constructor
    · rintro rfl
      exact ⟨nofun, rfl, hacc⟩
    · exact fun h => h.2.1
  | cons c rest ih =>
    rw [readDigits, List.forall_mem_cons]
    by_cases hc : c.isDigit = true
    · rw [digit?_of_isDigit hc, Nat.ofDigitChars_cons]
      have hvalue : 10 * acc + (c.toNat - '0'.toNat) = acc * 10 + (c.toNat - 48) := by
        rw [Nat.mul_comm]
        rfl
      rw [hvalue]
      by_cases hle : acc * 10 + (c.toNat - 48) ≤ limit
      · simp only [if_pos hle, ih hle, hc, true_and]
      · simp only [if_neg hle, hc, true_and]
        -- the value so far is too large already, and what follows does not make it smaller
        have hgrows := le_ofDigitChars rest (acc * 10 + (c.toNat - 48))
        constructor
        · intro h
          cases h
        · rintro ⟨-, rfl, hn⟩
          exact absurd (Nat.le_trans hgrows hn) hle
    · simp [digit?_of_not_isDigit hc, hc]

/-- Exactly the numerals of values within the limit are read, and each is read as its value. -/
theorem read_eq_ok_iff {limit n : Nat} {cs : List Char} :
    read limit cs = .ok n ↔ ∃ digits, (cs = digits ∨ cs = '+' :: digits) ∧ digits ≠ [] ∧
      (∀ c ∈ digits, c.isDigit = true) ∧ Nat.ofDigitChars 10 digits 0 = n ∧ n ≤ limit := by
  have hplus : ¬ '+'.isDigit = true := by decide
  have hdigits : ∀ digits, readDigits limit 0 digits = .ok n ↔
      (∀ c ∈ digits, c.isDigit = true) ∧ Nat.ofDigitChars 10 digits 0 = n ∧ n ≤ limit :=
    fun _ => readDigits_eq_ok_iff (Nat.zero_le _)
  cases cs with
  | nil =>
    constructor
    · intro h
      cases h
    · rintro ⟨digits, hcs | hcs, hne, -⟩
      · exact absurd hcs.symm hne
      · cases hcs
  | cons c rest =>
    by_cases hsign : c = '+'
    · subst hsign
      have hread : read limit ('+' :: rest) = .ok n ↔ rest ≠ [] ∧ readDigits limit 0 rest = .ok n := by
        cases rest <;> simp [read]
      rw [hread, hdigits]
      constructor
      · exact fun ⟨hne, h⟩ => ⟨rest, .inr rfl, hne, h⟩
      · rintro ⟨digits, rfl | hcs, hne, hall, hvalue⟩
        · exact absurd (hall _ List.mem_cons_self) hplus
        · rw [List.cons.injEq] at hcs
          exact hcs.2 ▸ ⟨hne, hall, hvalue⟩
    · have hread : read limit (c :: rest) = readDigits limit 0 (c :: rest) := by
        simp [read, hsign]
      rw [hread, hdigits]
      constructor
      · exact fun h => ⟨c :: rest, .inl rfl, List.cons_ne_nil _ _, h⟩
      · rintro ⟨digits, rfl | hcs, -, h⟩
        · exact h
        · rw [List.cons.injEq] at hcs
          exact absurd hcs.1 hsign

example : read maxU64 "+018446744073709551615".toList = .ok maxU64 := by rfl

/-- A number that is written in decimal is read. -/
theorem read_toDigits {limit n : Nat} (h : n ≤ limit) : read limit (Nat.toDigits 10 n) = .ok n := by
  refine read_eq_ok_iff.mpr ⟨_, .inl rfl, Nat.toDigits_ne_nil, ?_, Nat.ofDigitChars_ten_toDigits, h⟩
  exact fun c hc => Nat.isDigit_of_mem_toDigits (by decide) (by decide) hc

end TunnelAgent.Numeral
