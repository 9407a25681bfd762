import Mathlib.Data.Finset.Card
import TunnelAgent.Proofs.Access.Grants
import TunnelAgent.Registration

/-! # Every key opens its own resource

Keys are drawn until one is new, so those of a manifest are distinct, whatever is drawn and however
often. Under distinct keys no two resources share an entry of the table: each key opens the
destination of its own rule, and nothing else opens anything. -/

namespace TunnelAgent

variable {used draws rest : List UInt64} {key : UInt64} {rules : List Rule}
  {resources : List Resource}

/-- Only draws already used are passed over. -/
theorem freshKey_eq_some (h : freshKey used draws = some (key, rest)) :
    key ∉ used ∧ ∃ skipped, (∀ word ∈ skipped, word ∈ used) ∧ draws = skipped ++ key :: rest := by
  induction draws with
  | nil => cases h
  | cons word draws ih =>
    rw [freshKey] at h
    split at h
    · rename_i hused
      obtain ⟨hnew, skipped, hskipped, rfl⟩ := ih h
      exact ⟨hnew, word :: skipped, List.forall_mem_cons.mpr ⟨hused, hskipped⟩, rfl⟩
    · rename_i hnew
      cases h
      exact ⟨hnew, [], List.forall_mem_nil _, rfl⟩

theorem freshKey_of_skipped {skipped : List UInt64} (hskipped : ∀ word ∈ skipped, word ∈ used)
    (hnew : key ∉ used) : freshKey used (skipped ++ key :: rest) = some (key, rest) := by
  induction skipped with
  | nil => exact if_neg hnew
  | cons word skipped ih =>
    obtain ⟨hused, hskipped⟩ := List.forall_mem_cons.mp hskipped
    rw [List.cons_append, freshKey, if_pos hused, ih hskipped]

theorem freshKey_append (h : freshKey used draws = some (key, rest)) (more : List UInt64) :
    freshKey used (draws ++ more) = some (key, rest ++ more) := by
  obtain ⟨hnew, skipped, hskipped, rfl⟩ := freshKey_eq_some h
  rw [List.append_assoc, List.cons_append]
  exact freshKey_of_skipped hskipped hnew

/-- A new key uses up one of the words that were still to come. -/
theorem card_fresh (h : freshKey used draws = some (key, rest)) :
    (draws.toFinset \ used.toFinset).card =
      (rest.toFinset \ (key :: used).toFinset).card + 1 := by
  obtain ⟨hnew, skipped, hskipped, rfl⟩ := freshKey_eq_some h
  have hsplit : (skipped ++ key :: rest).toFinset \ used.toFinset =
      insert key (rest.toFinset \ (key :: used).toFinset) := by
    ext word
    simp only [Finset.mem_sdiff, Finset.mem_insert, List.mem_toFinset, List.mem_append,
      List.mem_cons]
    constructor
    · rintro ⟨hskip | rfl | hrest, hword⟩
      · exact absurd (hskipped word hskip) hword
      · exact .inl rfl
      · by_cases hkey : word = key
        · exact .inl hkey
        · exact .inr ⟨hrest, not_or.mpr ⟨hkey, hword⟩⟩
    · rintro (rfl | ⟨hrest, hword⟩)
      · exact ⟨.inr (.inl rfl), hnew⟩
      · exact ⟨.inr (.inr hrest), (not_or.mp hword).2⟩
  rw [hsplit, Finset.card_insert_of_notMem (by simp)]

theorem freshKey_eq_none (h : freshKey used draws = none) : ∀ word ∈ draws, word ∈ used := by
  induction draws with
  | nil => exact List.forall_mem_nil _
  | cons word draws ih =>
    rw [freshKey] at h
    split at h
    · rename_i hused
      exact List.forall_mem_cons.mpr ⟨hused, ih h⟩
    · cases h

theorem exists_freshKey (h : 0 < (draws.toFinset \ used.toFinset).card) :
    ∃ key rest, freshKey used draws = some (key, rest) := by
  obtain ⟨word, hword⟩ := Finset.card_pos.mp h
  rw [Finset.mem_sdiff, List.mem_toFinset, List.mem_toFinset] at hword
  cases hkey : freshKey used draws with
  | some found => exact ⟨found.1, found.2, rfl⟩
  | none => exact absurd (freshKey_eq_none hkey word hword.1) hword.2

/-- What one more rule takes. -/
theorem assignKeysFrom_cons {rule : Rule}
    (h : assignKeysFrom used (rule :: rules) draws = some (resources, rest)) :
    ∃ key middle others, freshKey used draws = some (key, middle) ∧
      assignKeysFrom (key :: used) rules middle = some (others, rest) ∧
      resources = ⟨rule, key⟩ :: others := by
  rw [assignKeysFrom] at h
  split at h
  · cases h
  rename_i key middle hkey
  split at h
  · cases h
  rename_i others _ hothers
  cases h
  exact ⟨key, middle, others, hkey, hothers, rfl⟩

theorem assignKeys_rules (h : assignKeysFrom used rules draws = some (resources, rest)) :
    resources.map (·.rule) = rules := by
  induction rules generalizing used draws resources with
  | nil =>
    cases h
    rfl
  | cons rule rules ih =>
    obtain ⟨key, middle, others, -, hothers, rfl⟩ := assignKeysFrom_cons h
    rw [List.map_cons, ih hothers]

/-- The keys are new and distinct, and were drawn in this order. -/
theorem keys_of_assignKeysFrom (h : assignKeysFrom used rules draws = some (resources, rest)) :
    (resources.map (·.key)).Nodup ∧ (∀ r ∈ resources, r.key ∉ used) ∧
      (resources.map (·.key)).Sublist draws := by
  induction rules generalizing used draws resources with
  | nil =>
    cases h
    exact ⟨List.nodup_nil, List.forall_mem_nil _, List.nil_sublist _⟩
  | cons rule rules ih =>
    obtain ⟨key, middle, others, hkey, hothers, rfl⟩ := assignKeysFrom_cons h
    obtain ⟨hnew, skipped, -, rfl⟩ := freshKey_eq_some hkey
    obtain ⟨hnodup, hfresh, hdrawn⟩ := ih hothers
    refine ⟨List.nodup_cons.mpr ⟨?_, hnodup⟩, List.forall_mem_cons.mpr ⟨hnew, ?_⟩, ?_⟩
    · intro hmem
      obtain ⟨r, hr, hrkey⟩ := List.mem_map.mp hmem
      exact hfresh r hr (hrkey ▸ List.mem_cons_self)
    · exact fun r hr hused => hfresh r hr (List.mem_cons_of_mem _ hused)
    · exact (hdrawn.cons_cons key).trans (List.sublist_append_right _ _)

theorem assignKeysFrom_append (h : assignKeysFrom used rules draws = some (resources, rest))
    (more : List UInt64) :
    assignKeysFrom used rules (draws ++ more) = some (resources, rest ++ more) := by
  induction rules generalizing used draws resources with
  | nil =>
    cases h
    rfl
  | cons rule rules ih =>
    obtain ⟨key, middle, others, hkey, hothers, rfl⟩ := assignKeysFrom_cons h
    simp only [assignKeysFrom, freshKey_append hkey, ih hothers]

theorem exists_assignKeysFrom (h : rules.length ≤ (draws.toFinset \ used.toFinset).card) :
    ∃ resources rest, assignKeysFrom used rules draws = some (resources, rest) := by
  induction rules generalizing used draws with
  | nil => exact ⟨[], draws, rfl⟩
  | cons rule rules ih =>
    rw [List.length_cons] at h
    obtain ⟨key, middle, hkey⟩ := exists_freshKey (Nat.lt_of_lt_of_le (Nat.succ_pos _) h)
    rw [card_fresh hkey] at h
    obtain ⟨others, rest, hothers⟩ := ih (Nat.le_of_succ_le_succ h)
    exact ⟨⟨rule, key⟩ :: others, rest, by simp only [assignKeysFrom, hkey, hothers]⟩

/-- An accepting reply replaces the table whole. -/
theorem Registrar.answer_accepted {payload : Bytes} (h : accepts payload = true)
    (pending : List (List Resource)) (t : AccessTable) :
    Registrar.answer payload ⟨resources :: pending⟩ t = (⟨pending⟩, t.replaceFrom resources) := by
  rw [answer, h]
  rfl

/-- Draws with as many distinct values as there are rules give every rule, in order, a key of its
own; further draws are not looked at. Once that manifest has replaced the table, whatever the table
held, the key of a rule opens the destination of this rule only, no other key is known, and there
are as many keys as rules. -/
theorem keys_open_own_resources (rules : List Rule) (draws : List UInt64)
    (h : rules.length ≤ draws.toFinset.card) :
    ∃ resources rest,
      (∀ more, assignKeys rules (draws ++ more) = some (resources, rest ++ more)) ∧
      resources.map (·.rule) = rules ∧
      (resources.map (·.key)).Nodup ∧
      (resources.map (·.key)).Sublist draws ∧
      ∀ before : AccessTable,
        let table := before.replaceFrom resources
        (∀ payload pending, Registrar.accepts payload = true →
          (Registrar.answer payload ⟨resources :: pending⟩ before).2 = table) ∧
        (∀ i (hi : i < rules.length), ∃ r, resources[i]? = some r ∧ r.rule = rules[i] ∧
          ∀ d, table.check r.key d = .ok () ↔ d = ⟨rules[i].host, rules[i].port⟩) ∧
        (∀ key, key ∉ resources.map (·.key) → ∀ d, table.check key d = .error .unknownKey) ∧
        table.size = rules.length := by
  obtain ⟨resources, rest, hassign⟩ :=
    exists_assignKeysFrom
      (show rules.length ≤ (draws.toFinset \ List.toFinset []).card by simpa using h)
  obtain ⟨hnodup, -, hdrawn⟩ := keys_of_assignKeysFrom hassign
  have hrules := assignKeys_rules hassign
  refine ⟨resources, rest, assignKeysFrom_append hassign, hrules, hnodup, hdrawn, ?_⟩
  intro before table
  refine ⟨?_, ?_, ?_, ?_⟩
  · intro payload pending haccepts
    rw [Registrar.answer_accepted haccepts]
  · intro i hi
    subst hrules
    rw [List.length_map] at hi
    have hmem : resources[i] ∈ resources := List.getElem_mem hi
    refine ⟨resources[i], List.getElem?_eq_getElem hi, (List.getElem_map _).symm, fun d => ?_⟩
    rw [List.getElem_map, AccessTable.check_eq_ok_iff]
    refine AccessTable.grants_ofResources_iff.trans ?_
    constructor
    · rintro ⟨r, hr, hkey, rfl⟩
      rw [List.inj_on_of_nodup_map hnodup hr hmem hkey]
      rfl
    · rintro rfl
      exact ⟨resources[i], hmem, rfl, rfl⟩
  · intro key hkey d
    rw [AccessTable.check_eq_unknownKey_iff]
    exact fun hknown => hkey (((AccessTable.keys_ofResources resources).2 key).mp hknown)
  · refine (AccessTable.size_ofResources resources).trans ?_
    rw [hnodup.dedup, List.length_map, ← hrules, List.length_map]

/-- Two rules for one destination, and draws that repeat. -/
theorem keys_open_own_resources_of_repeats :
    let here : Rule := { name := "a", pattern := "*", host := "h", port := 1 }
    let there : Rule := { name := "b", pattern := "*", host := "h", port := 2 }
    let draws : List UInt64 := [7, 7, 8, 7, 8, 9]
    3 ≤ draws.toFinset.card ∧
      ∀ before : AccessTable, ∃ resources rest,
        assignKeys [here, here, there] draws = some (resources, rest) ∧
        resources.map (·.key) = [7, 8, 9] ∧
        (∀ d, (before.replaceFrom resources).check 8 d = .ok () ↔ d = ⟨"h", 1⟩) ∧
        (before.replaceFrom resources).size = 3 := by
  intro here there draws
  have henough : 3 ≤ draws.toFinset.card := by decide
  refine ⟨henough, fun before => ?_⟩
  obtain ⟨resources, rest, hassign, -, -, -, hopen⟩ :=
    keys_open_own_resources [here, here, there] draws henough
  obtain ⟨-, hown, -, hsize⟩ := hopen before
  have hkeys : assignKeys [here, here, there] (draws ++ []) =
    some ([⟨here, 7⟩, ⟨here, 8⟩, ⟨there, 9⟩], []) := by decide
  obtain ⟨rfl, -⟩ := Prod.mk.inj (Option.some.inj ((hassign []).symm.trans hkeys))
  obtain ⟨_, ⟨rfl⟩, -, hsecond⟩ := hown 1 (by decide)
  exact ⟨_, _, hkeys, rfl, hsecond, hsize⟩

end TunnelAgent
