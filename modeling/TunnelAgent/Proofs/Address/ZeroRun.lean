import Mathlib.Data.List.Basic
import TunnelAgent.Address

/-! # The longest run of zero groups

Of all runs of zeros in the groups of an address the search finds one that no other is longer than
and, of these, the first. From group to group it keeps two runs: the longest that goes up to here, and
the first longest of all so far. -/

namespace TunnelAgent.Address.ZeroRun

/-- All the groups of the run are there, and are zeros. -/
def In (run : ZeroRun) (groups : List UInt16) : Prop :=
  ∀ i < run.length, groups[run.start + i]? = some 0

/-- No run is longer, and none of the same length, unless it is empty, starts before it. -/
structure Longest (run : ZeroRun) (groups : List UInt16) : Prop where
  inside : run.In groups
  longest : ∀ other : ZeroRun, other.In groups → other.length ≤ run.length
  first : ∀ other : ZeroRun, other.In groups → 0 < other.length → other.length = run.length →
    run.start ≤ other.start

/-- The longest run that goes up to the end of the groups. -/
structure Last (run : ZeroRun) (groups : List UInt16) : Prop where
  inside : run.In groups
  ends : 0 < run.length → run.start + run.length = groups.length
  longest : ∀ other : ZeroRun, other.In groups → other.start + other.length = groups.length →
    other.length ≤ run.length

variable {run current best : ZeroRun} {groups : List UInt16} {g : UInt16} {start n : Nat}

theorem In.le (h : run.In groups) (hlength : 0 < run.length) :
    run.start + run.length ≤ groups.length := by
  have hlast := (List.getElem?_eq_some_iff.mp (h (run.length - 1) (by omega))).1
  omega

theorem In.concat (h : run.In groups) : run.In (groups ++ [g]) := by
  intro i hi
  have hplace := (List.getElem?_eq_some_iff.mp (h i hi)).1
  rw [List.getElem?_append_left hplace]
  exact h i hi

theorem In.extend (h : In ⟨start, n⟩ groups) (hend : start + n = groups.length) :
    In ⟨start, n + 1⟩ (groups ++ [0]) := by
  intro i hi
  by_cases hlast : i = n
  · subst hlast
    simp [hend]
  · exact h.concat i (Nat.lt_of_le_of_ne (Nat.le_of_lt_succ hi) hlast)

/-- With one more group a run is one that was there, or it has the new group as its last zero. -/
theorem In.concat_cases (h : In ⟨start, n + 1⟩ (groups ++ [g])) :
    In ⟨start, n + 1⟩ groups ∨ g = 0 ∧ start + n = groups.length ∧ In ⟨start, n⟩ groups := by
  have hold : ∀ i < n + 1, start + i < groups.length → groups[start + i]? = some 0 := by
    intro i hi hplace
    rw [← h i hi, List.getElem?_append_left hplace]
  have hle := h.le (Nat.succ_pos n)
  simp only [List.length_append, List.length_singleton] at hle
  by_cases hend : start + n = groups.length
  · have hlast := h n (Nat.lt_succ_self n)
    simp only [hend, List.getElem?_concat_length, Option.some.injEq] at hlast
    refine .inr ⟨hlast, hend, fun i hi => ?_⟩
    exact hold i (Nat.lt_succ_of_lt hi) (Nat.lt_of_lt_of_eq (Nat.add_lt_add_left hi start) hend)
  · exact .inl fun i hi => hold i hi (by simp only at hi; omega)

theorem Last.other (hg : g ≠ 0) : Last {} (groups ++ [g]) := by
  refine ⟨nofun, nofun, fun other hin hend => ?_⟩
  obtain ⟨start, length⟩ := other
  cases length with
  | zero => exact Nat.le_refl 0
  | succ n =>
    rcases hin.concat_cases with hin | ⟨hzero, -⟩
    · have hle := hin.le (Nat.succ_pos n)
      simp only [List.length_append, List.length_singleton] at hle hend
      omega
    · exact absurd hzero hg

/-- The run with a zero at place `i` behind it. -/
def grow (run : ZeroRun) (i : Nat) : ZeroRun :=
  if run.length = 0 then ⟨i, 1⟩ else { run with length := run.length + 1 }

theorem Last.zero (h : current.Last groups) : (current.grow groups.length).Last (groups ++ [0]) := by
  have hgrown : ∃ start, start + current.length = groups.length ∧ In ⟨start, current.length⟩ groups ∧
      current.grow groups.length = ⟨start, current.length + 1⟩ := by
    by_cases hlength : current.length = 0
    · exact ⟨groups.length, by omega, by simp [In, hlength], by simp [grow, hlength]⟩
    · exact ⟨current.start, h.ends (Nat.pos_of_ne_zero hlength), h.inside, if_neg hlength⟩
  obtain ⟨start, hend, hin, hgrown⟩ := hgrown
  rw [hgrown]
  refine ⟨hin.extend hend, fun _ => by simp [← hend, Nat.add_assoc], fun other hother hends => ?_⟩
  obtain ⟨start', length⟩ := other
  cases length with
  | zero => exact Nat.zero_le _
  | succ n =>
    rcases hother.concat_cases with hother | ⟨-, hends, hother⟩
    · have hle := hother.le (Nat.succ_pos n)
      simp only [List.length_append, List.length_singleton] at hle hends
      omega
    · exact Nat.succ_le_succ (h.longest _ hother hends)

theorem Longest.other (h : best.Longest groups) (hg : g ≠ 0) : best.Longest (groups ++ [g]) := by
  have hold : ∀ other : ZeroRun, other.In (groups ++ [g]) → 0 < other.length → other.In groups := by
    intro ⟨start, length⟩ hother hlength
    obtain ⟨n, rfl⟩ := Nat.exists_eq_succ_of_ne_zero (Nat.ne_of_gt hlength)
    exact hother.concat_cases.resolve_right fun hnew => hg hnew.1
  refine ⟨h.inside.concat, fun other hother => ?_, fun other hother hlength => ?_⟩
  · rcases Nat.eq_zero_or_pos other.length with hzero | hlength
    · omega
    · exact h.longest other (hold other hother hlength)
  · exact h.first other (hold other hother hlength) hlength

theorem Longest.zero (h : best.Longest groups) (hcurrent : current.Last (groups ++ [0])) :
    Longest (if best.length < current.length then current else best) (groups ++ [0]) := by
  have hcases : ∀ other : ZeroRun, other.In (groups ++ [0]) → 0 < other.length → other.In groups ∨
      other.start + other.length = groups.length + 1 ∧ other.length ≤ current.length := by
    intro ⟨start, length⟩ hother hlength
    obtain ⟨n, rfl⟩ := Nat.exists_eq_succ_of_ne_zero (Nat.ne_of_gt hlength)
    refine hother.concat_cases.imp_right fun ⟨_, hend, _⟩ => ?_
    have hends : start + (n + 1) = groups.length + 1 := by omega
    exact ⟨hends, hcurrent.longest _ hother (by simpa using hends)⟩
  have hends : 0 < current.length → current.start + current.length = groups.length + 1 := by
    simpa using hcurrent.ends
  split
  · next hlonger =>
    -- no run that was there is as long as the one that goes up to here
    refine ⟨hcurrent.inside, fun other hother => ?_, fun other hother hlength heq => ?_⟩
    · rcases Nat.eq_zero_or_pos other.length with hzero | hlength
      · omega
      · rcases hcases other hother hlength with hold | ⟨-, hle⟩
        · exact Nat.le_of_lt (Nat.lt_of_le_of_lt (h.longest other hold) hlonger)
        · exact hle
    · rcases hcases other hother hlength with hold | ⟨hend, -⟩
      · have hle := h.longest other hold
        omega
      · have hend' := hends (by omega)
        omega
  · next hshorter =>
    -- the run that goes up to here may be as long, but it starts later
    refine ⟨h.inside.concat, fun other hother => ?_, fun other hother hlength heq => ?_⟩
    · rcases Nat.eq_zero_or_pos other.length with hzero | hlength
      · omega
      · rcases hcases other hother hlength with hold | ⟨-, hle⟩
        · exact h.longest other hold
        · omega
    · rcases hcases other hother hlength with hold | ⟨hend, -⟩
      · exact h.first other hold hlength heq
      · have hle := h.inside.le (heq ▸ hlength)
        omega

theorem longestZeros_longest (hcurrent : current.Last groups) (hbest : best.Longest groups)
    (rest : List UInt16) :
    (longestZeros groups.length current best rest).Longest (groups ++ rest) := by
  induction rest generalizing groups current best with
  | nil => simpa [longestZeros] using hbest
  | cons g rest ih =>
    have hlength : groups.length + 1 = (groups ++ [g]).length := by simp
    rw [longestZeros, hlength, List.append_cons groups g rest]
    split
    · next hg =>
      subst hg
      exact ih hcurrent.zero (hbest.zero hcurrent.zero)
    · next hg => exact ih (.other hg) (hbest.other hg)

theorem In.nil_iff : run.In [] ↔ run.length = 0 := by
  constructor
  · intro h
    by_contra hlength
    have hle := h.le (Nat.pos_of_ne_zero hlength)
    simp only [List.length_nil] at hle
    omega
  · intro hlength i hi
    omega

/-- The search finds the first longest run of all the groups. -/
theorem longest_of_search (groups : List UInt16) : (longestZeros 0 {} {} groups).Longest groups := by
  have hempty : ∀ other : ZeroRun, other.In [] → other.length ≤ 0 := fun other hother =>
    Nat.le_of_eq (In.nil_iff.mp hother)
  have hnone : ({} : ZeroRun).In [] := In.nil_iff.mpr rfl
  have hlast : ({} : ZeroRun).Last [] := ⟨hnone, nofun, fun other hother _ => hempty other hother⟩
  have hlongest : ({} : ZeroRun).Longest [] :=
    ⟨hnone, hempty, fun other _ _ _ => Nat.zero_le other.start⟩
  exact longestZeros_longest hlast hlongest groups

/-- What is before a run, the zeros of the run, and what is behind it. -/
theorem In.split (h : run.In groups) :
    groups = groups.take run.start ++ List.replicate run.length 0 ++
      groups.drop (run.start + run.length) := by
  have hrun : (groups.drop run.start).take run.length = List.replicate run.length 0 := by
    apply List.ext_getElem?
    intro i
    by_cases hi : i < run.length
    · rw [List.getElem?_take_of_lt hi, List.getElem?_drop, h i hi, List.getElem?_replicate_of_lt hi]
    · have hle := Nat.le_of_not_lt hi
      rw [List.getElem?_take_eq_none hle, List.getElem?_eq_none (by simpa using hle)]
  calc groups
      = groups.take run.start ++ groups.drop run.start := (List.take_append_drop ..).symm
    _ = groups.take run.start ++ ((groups.drop run.start).take run.length ++
          (groups.drop run.start).drop run.length) := by rw [List.take_append_drop run.length]
    _ = _ := by rw [hrun, List.drop_drop, List.append_assoc]

end TunnelAgent.Address.ZeroRun
