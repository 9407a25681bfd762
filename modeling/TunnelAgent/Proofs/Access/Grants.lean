import Mathlib.Data.List.Dedup
import Mathlib.Data.List.Induction
import TunnelAgent.Access

/-! # What a table grants

The grants of a manifest are those of its resources, each destination under its resource's key, and
no others. Resources that share a key share one entry, so the entries count the distinct keys. -/

namespace TunnelAgent

/-- Under this key the table holds this very destination. -/
def AccessTable.Grants (t : AccessTable) (key : UInt64) (d : Destination) : Prop :=
  ∃ ds, t.grants.lookup key = some ds ∧ d ∈ ds

theorem AccessTable.check_eq_ok_iff {t : AccessTable} {key : UInt64} {d : Destination} :
    t.check key d = .ok () ↔ t.Grants key d := by
  unfold check Grants
  cases t.grants.lookup key with
  | none => simp
  | some ds => by_cases hd : d ∈ ds <;> simp [hd]

theorem AccessTable.Grants.containsKey {t : AccessTable} {key : UInt64} {d : Destination}
    (h : t.Grants key d) : t.containsKey key = true := by
  obtain ⟨ds, hlookup, -⟩ := h
  rw [AccessTable.containsKey, hlookup]
  rfl

namespace Grants

variable (key k : UInt64) (d : Destination) (grants : Grants)

theorem lookup_insert_self :
    ∃ ds, List.lookup key (insert key d grants) = some ds ∧
      ∀ x, x ∈ ds ↔ x = d ∨ ∃ before, grants.lookup key = some before ∧ x ∈ before := by
  induction grants with
  | nil => exact ⟨[d], by simp [insert], by simp⟩
  | cons entry rest ih =>
    obtain ⟨first, ds⟩ := entry
    by_cases hfirst : first = key
    · subst hfirst
      rw [insert, if_pos rfl, List.lookup_cons_self, List.lookup_cons_self]
      refine ⟨_, rfl, fun x => ?_⟩
      by_cases hd : d ∈ ds
      · rw [if_pos hd]
        constructor
        · exact fun hx => .inr ⟨ds, rfl, hx⟩
        · rintro (rfl | ⟨_, ⟨rfl⟩, hx⟩)
          · exact hd
          · exact hx
      · simp [hd]
    · have hne : (key == first) = false := by simpa using Ne.symm hfirst
      simpa [insert, hfirst, List.lookup_cons, hne] using ih

theorem lookup_insert_ne (h : k ≠ key) :
    List.lookup k (insert key d grants) = grants.lookup k := by
  induction grants with
  | nil =>
    have hne : (k == key) = false := by simpa using h
    simp [insert, List.lookup_cons, hne]
  | cons entry rest ih =>
    obtain ⟨first, ds⟩ := entry
    by_cases hfirst : first = key
    · have hne : (k == first) = false := by simpa [hfirst] using h
      rw [insert, if_pos hfirst, List.lookup_cons, List.lookup_cons, hne]
    · rw [insert, if_neg hfirst, List.lookup_cons, List.lookup_cons, ih]

theorem keys_insert :
    (insert key d grants).map (·.1) =
      if key ∈ grants.map (·.1) then grants.map (·.1) else grants.map (·.1) ++ [key] := by
  induction grants with
  | nil => rfl
  | cons entry rest ih =>
    obtain ⟨first, ds⟩ := entry
    by_cases hfirst : first = key
    · simp [insert, hfirst]
    · simp only [insert, if_neg hfirst, List.map_cons, ih, List.mem_cons, Ne.symm hfirst, false_or]
      split <;> rfl

theorem ofResources_append (resources : List Resource) (r : Resource) :
    ofResources (resources ++ [r]) = insert r.key r.destination (ofResources resources) :=
  List.foldl_concat ..

end Grants

namespace AccessTable

variable {resources : List Resource} {key : UInt64} {d : Destination}

theorem grants_ofResources_iff :
    (ofResources resources).Grants key d ↔ ∃ r ∈ resources, r.key = key ∧ r.destination = d := by
  induction resources using List.reverseRecOn with
  | nil => simp [ofResources, Grants, Grants.ofResources]
  | append_singleton resources r ih =>
    have hsplit : (∃ x ∈ resources ++ [r], x.key = key ∧ x.destination = d) ↔
        (∃ x ∈ resources, x.key = key ∧ x.destination = d) ∨ r.key = key ∧ r.destination = d := by
      simp [or_and_right, exists_or]
    rw [hsplit, ← ih]
    simp only [Grants, ofResources, Grants.ofResources_append]
    by_cases hkey : key = r.key
    · subst hkey
      obtain ⟨ds, hlookup, hmem⟩ :=
        Grants.lookup_insert_self r.key r.destination (Grants.ofResources resources)
      simp [hlookup, hmem, eq_comm, or_comm]
    · rw [Grants.lookup_insert_ne _ _ _ _ hkey]
      simp [Ne.symm hkey]

/-- The keys of a manifest, each once. -/
theorem keys_ofResources (resources : List Resource) :
    ((ofResources resources).grants.map (·.1)).Nodup ∧
      ∀ key, key ∈ (ofResources resources).grants.map (·.1) ↔ key ∈ resources.map (·.key) := by
  induction resources using List.reverseRecOn with
  | nil => exact ⟨List.nodup_nil, fun key => Iff.rfl⟩
  | append_singleton resources r ih =>
    obtain ⟨hnodup, hmem⟩ := ih
    simp only [ofResources] at hnodup hmem
    simp only [ofResources, Grants.ofResources_append, Grants.keys_insert, List.map_append,
      List.map_cons, List.map_nil]
    split
    · rename_i hknown
      refine ⟨hnodup, fun key => ?_⟩
      rw [hmem, List.mem_append, List.mem_singleton]
      constructor
      · exact Or.inl
      · rintro (hkey | rfl)
        · exact hkey
        · exact (hmem _).mp hknown
    · rename_i hnew
      refine ⟨List.nodup_append.mpr ⟨hnodup, List.nodup_singleton _, ?_⟩, fun key => ?_⟩
      · rintro a ha b hb rfl
        rw [List.mem_singleton.mp hb] at ha
        exact hnew ha
      · rw [List.mem_append, List.mem_append, hmem]

theorem check_eq_unknownKey_iff {t : AccessTable} :
    t.check key d = .error .unknownKey ↔ key ∉ t.grants.map (·.1) := by
  have hlookup : t.grants.lookup key = none ↔ key ∉ t.grants.map (·.1) := by
    rw [List.lookup_eq_none_iff]
    simp only [List.mem_map, not_exists, not_and]
    refine forall₂_congr fun entry _ => ?_
    rw [bne_iff_ne, ne_comm]
  rw [← hlookup, check]
  cases t.grants.lookup key with
  | none => simp
  | some ds => by_cases hd : d ∈ ds <;> simp [hd]

theorem size_ofResources (resources : List Resource) :
    (ofResources resources).size = (resources.map (·.key)).dedup.length := by
  obtain ⟨hnodup, hmem⟩ := keys_ofResources resources
  have hperm : ((ofResources resources).grants.map (·.1)).Perm (resources.map (·.key)).dedup := by
    rw [List.perm_ext_iff_of_nodup hnodup (List.nodup_dedup _)]
    intro key
    rw [hmem, List.mem_dedup]
  rw [size, ← hperm.length_eq, List.length_map]

/-- The table once the manifest is in force: nothing that it held before is left. -/
def replaceFrom (resources : List Resource) (t : AccessTable) : AccessTable :=
  { t with grants := .ofResources resources }

end AccessTable

end TunnelAgent
