import TunnelAgent.Proofs.Relay.Operations
import Mathlib.Algebra.GroupWithZero.Nat
import Mathlib.Data.List.Nodup
import Mathlib.Data.Nat.Find

/-! # The search for an id of one's own

Ids that the agent chooses have a flag and 31 bits of a counter, so `2 ^ 31` tries in a row are all
different, wherever the counter stands. Every try that fails has met a live id with the flag. So
there are at most as many of them as there are such ids when the search begins: in its course ids
may be taken out of the table, but none is put in. -/

namespace TunnelAgent.Relay

/-- The agent might have chosen it. -/
def isLocal (id : UInt32) : Bool := id &&& localFlag == localFlag

def liveLocals (r : Relay) : List UInt32 := (r.table.map (·.1)).filter isLocal

theorem liveLocals_length_le (r : Relay) : r.liveLocals.length ≤ r.table.length :=
  Nat.le_trans (List.length_filter_le _ _) (Nat.le_of_eq (List.length_map _))

theorem isLocal_localId (counter : UInt32) : isLocal (localId counter) = true := by
  rw [isLocal, beq_iff_eq, ← UInt32.toBitVec_inj]
  ext i hi
  simp only [localId, UInt32.toBitVec_and, UInt32.toBitVec_or, BitVec.getElem_and,
    BitVec.getElem_or]
  cases localFlag.toBitVec[i] <;> simp

theorem toNat_localId (counter : UInt32) :
    (localId counter).toNat = 2 ^ 31 + counter.toNat % 2 ^ 31 := by
  have hlow : counter.toNat % 2 ^ 31 < 2 ^ 31 := Nat.mod_lt _ (by decide)
  have hmask : (0x7FFFFFFF : UInt32).toNat = 2 ^ 31 - 1 := rfl
  have hflag : localFlag.toNat = 2 ^ 31 * 1 := rfl
  rw [localId, UInt32.toNat_or, UInt32.toNat_and, hmask, Nat.and_two_pow_sub_one_eq_mod, hflag,
    ← Nat.two_pow_add_eq_or_of_lt hlow, Nat.mul_one]

/-- The counter may wrap on the way: `2 ^ 31` divides where it wraps. -/
theorem localId_injective (counter : UInt32) {i j : Nat} (hi : i < 2 ^ 31) (hj : j < 2 ^ 31)
    (h : localId (counter + .ofNat i) = localId (counter + .ofNat j)) : i = j := by
  have hnat := congrArg UInt32.toNat h
  simp only [toNat_localId, UInt32.toNat_add, UInt32.toNat_ofNat'] at hnat
  omega

theorem mem_liveLocals {r : Relay} {id : UInt32} (hlive : r.isOpen id = true)
    (hlocal : isLocal id = true) : id ∈ r.liveLocals := by
  obtain ⟨g, howner⟩ := Option.isSome_iff_exists.mp hlive
  obtain ⟨before, after, htable, -⟩ := List.lookup_eq_some_iff.mp howner
  refine List.mem_filter.mpr ⟨?_, hlocal⟩
  rw [htable]
  simp

/-- A search that meets the table as `found i` at its try `i`. -/
theorem exists_free_try (found : Nat → Relay) (counter : UInt32)
    (hshrinks : ∀ i id, (found (i + 1)).isOpen id = true → (found i).isOpen id = true)
    (hfew : (found 0).liveLocals.length < 2 ^ 31) :
    ∃ i ≤ (found 0).liveLocals.length,
      (found i).isOpen (localId (counter + .ofNat i)) = false := by
  by_contra hnone
  have htaken : ∀ i ≤ (found 0).liveLocals.length,
      (found i).isOpen (localId (counter + .ofNat i)) = true := by
    intro i hi
    rw [← Bool.not_eq_false]
    exact fun hfree => hnone ⟨i, hi, hfree⟩
  have hback : ∀ i id, (found i).isOpen id = true → (found 0).isOpen id = true := by
    intro i id
    induction i with
    | zero => exact fun h => h
    | succ i ih => exact fun h => ih (hshrinks i id h)
  -- One more than there are live ids, and all of them live: two are the same.
  let tried := (List.range ((found 0).liveLocals.length + 1)).map
    fun i => localId (counter + .ofNat i)
  have hnodup : tried.Nodup := by
    refine List.Nodup.map_on ?_ List.nodup_range
    intro i hi j hj h
    rw [List.mem_range] at hi hj
    exact localId_injective counter (by omega) (by omega) h
  have hlive : tried ⊆ (found 0).liveLocals := by
    intro id hid
    obtain ⟨i, hi, rfl⟩ := List.mem_map.mp hid
    rw [List.mem_range, Nat.lt_succ_iff] at hi
    exact mem_liveLocals (hback i _ (htaken i hi)) (isLocal_localId _)
  have hlength := hnodup.length_le_of_subset hlive
  simp only [tried, List.length_map, List.length_range] at hlength
  omega

theorem add_one_add (counter : UInt32) (j : Nat) :
    counter + 1 + .ofNat j = counter + .ofNat (j + 1) := by
  rw [UInt32.ofNat_add, UInt32.add_assoc, UInt32.add_comm 1]
  rfl

/-- The search ends at the first id that is free. -/
theorem freeLocalId_of_first {r : Relay} {i tries : Nat} {counter : UInt32} (htries : i < tries)
    (hfree : r.isOpen (localId (counter + .ofNat i)) = false)
    (hfirst : ∀ j < i, r.isOpen (localId (counter + .ofNat j)) = true) :
    r.freeLocalId tries counter =
      some (localId (counter + .ofNat i), counter + .ofNat i + 1) := by
  induction i generalizing tries counter with
  | zero =>
    obtain ⟨tries, rfl⟩ := Nat.exists_eq_succ_of_ne_zero (Nat.ne_of_gt htries)
    have hhere : counter + .ofNat 0 = counter := UInt32.add_zero counter
    rw [hhere] at hfree ⊢
    rw [freeLocalId, hfree, if_neg Bool.false_ne_true]
  | succ i ih =>
    obtain ⟨tries, rfl⟩ := Nat.exists_eq_succ_of_ne_zero (Nat.ne_zero_of_lt htries)
    have hhere : r.isOpen (localId counter) = true := by
      have htaken := hfirst 0 (Nat.succ_pos i)
      rwa [show counter + .ofNat 0 = counter from UInt32.add_zero counter] at htaken
    rw [← add_one_add] at hfree ⊢
    rw [freeLocalId, if_pos hhere]
    refine ih (Nat.lt_of_succ_lt_succ htries) hfree fun j hj => ?_
    rw [add_one_add]
    exact hfirst (j + 1) (Nat.succ_lt_succ hj)

/-- With fewer than `2 ^ 31` live ids that it might choose, the agent finds a free one, and needs at
most one try more than there are such ids. -/
theorem exists_freeLocalId {r : Relay} (counter : UInt32) (hfew : r.liveLocals.length < 2 ^ 31) :
    ∃ i ≤ r.liveLocals.length, r.isOpen (localId (counter + .ofNat i)) = false ∧
      ∀ tries, i < tries → r.freeLocalId tries counter =
        some (localId (counter + .ofNat i), counter + .ofNat i + 1) := by
  have hexists := exists_free_try (fun _ => r) counter (fun _ _ h => h) hfew
  obtain ⟨hle, hfree⟩ := Nat.find_spec hexists
  refine ⟨Nat.find hexists, hle, hfree, fun tries htries => ?_⟩
  refine freeLocalId_of_first htries hfree fun j hj => ?_
  have hearlier := Nat.find_min hexists hj
  rw [← Bool.not_eq_false]
  exact fun htaken => hearlier ⟨Nat.le_trans (Nat.le_of_lt hj) hle, htaken⟩

end TunnelAgent.Relay
