import Mathlib.Data.Finset.Card
import Mathlib.Data.Finset.Dedup
import TunnelAgent.Proofs.Access.Grants

/-! # A table through its history

A table is replaced and asked, in any order. What it answers is settled by the resources of the
last replacement before the question: by which of them there are, not by their order, not by how
often one stands among them, and not by any manifest before. -/

namespace TunnelAgent.AccessTable

/-- What is done with a table. -/
inductive Use where
  | replace (resources : List Resource)
  | check (key : UInt64) (d : Destination)
  | containsKey (key : UInt64)
  | size
  deriving DecidableEq, Repr

inductive Answer where
  | replaced
  | verdict (outcome : Except AccessFault Unit)
  | known (yes : Bool)
  | count (keys : Nat)
  deriving DecidableEq

/-- One use of a table: what it answers, and what it is afterwards. -/
def answer (t : AccessTable) : Use → Answer × AccessTable
  | .replace resources => (.replaced, t.replaceFrom resources)
  | .check key d => (.verdict (t.check key d), t)
  | .containsKey key => (.known (t.containsKey key), t)
  | .size => (.count t.size, t)

def answers : List Use → AccessTable → List Answer
  | [], _ => []
  | u :: rest, t => (t.answer u).1 :: answers rest (t.answer u).2

def after (uses : List Use) (t : AccessTable) : AccessTable :=
  uses.foldl (fun t u => (t.answer u).2) t

def Use.manifest? : Use → Option (List Resource)
  | .replace resources => some resources
  | _ => none

/-- The resources of the last replacement; none before the first. -/
def lastManifest (uses : List Use) : List Resource :=
  (uses.filterMap Use.manifest?).getLast?.getD []

variable {uses : List Use} {key : UInt64} {d : Destination} {t : AccessTable}

theorem answers_append (uses more : List Use) (t : AccessTable) :
    answers (uses ++ more) t = answers uses t ++ answers more (after uses t) := by
  induction uses generalizing t with
  | nil => rfl
  | cons u rest ih => exact congrArg ((t.answer u).1 :: ·) (ih (t.answer u).2)

theorem length_answers (uses : List Use) (t : AccessTable) :
    (answers uses t).length = uses.length := by
  induction uses generalizing t with
  | nil => rfl
  | cons u rest ih => exact congrArg (· + 1) (ih (t.answer u).2)

/-- Every use is answered by the table as the uses before have left it. -/
theorem getElem?_answers (before later : List Use) (u : Use) (t : AccessTable) :
    (answers (before ++ u :: later) t)[before.length]? = some ((after before t).answer u).1 := by
  rw [answers_append, List.getElem?_append_right (length_answers before t).le, length_answers,
    Nat.sub_self]
  rfl

theorem lastManifest_concat (uses : List Use) (u : Use) :
    lastManifest (uses ++ [u]) = u.manifest?.getD (lastManifest uses) := by
  rw [lastManifest, lastManifest, List.filterMap_append]
  cases hu : u.manifest? with
  | none =>
    rw [List.filterMap_cons_none hu, List.filterMap_nil, List.append_nil]
    rfl
  | some resources =>
    rw [List.filterMap_cons_some hu, List.filterMap_nil, List.getLast?_concat]
    rfl

/-- Nothing of the tables before is left, and no question changes a table. -/
theorem after_eq (uses : List Use) : after uses {} = ofResources (lastManifest uses) := by
  induction uses using List.reverseRecOn with
  | nil => rfl
  | append_singleton uses u ih =>
    rw [after, List.foldl_concat, ← after, ih, lastManifest_concat]
    cases u <;> rfl

theorem destination_eq_iff {r : Resource} :
    r.destination = d ↔ r.rule.host.toUTF8 = d.host.toUTF8 ∧ r.rule.port = d.port := by
  obtain ⟨host, port⟩ := d
  rw [Resource.destination, Destination.mk.injEq, String.toUTF8_eq_toByteArray,
    String.toUTF8_eq_toByteArray, String.toByteArray_inj]

theorem check_cases (t : AccessTable) (key : UInt64) (d : Destination) :
    t.check key d = .ok () ∨ t.check key d = .error .unknownKey ∨
      t.check key d = .error (.destinationNotAllowed d) := by
  rw [check]
  cases t.grants.lookup key with
  | none => exact .inr (.inl rfl)
  | some ds =>
    by_cases hd : d ∈ ds
    · exact .inl (if_pos hd)
    · exact .inr (.inr (if_neg hd))

theorem check_ofResources_unknownKey_iff {resources : List Resource} :
    (ofResources resources).check key d = .error .unknownKey ↔ ∀ r ∈ resources, r.key ≠ key := by
  rw [check_eq_unknownKey_iff, (keys_ofResources resources).2, List.mem_map]
  simp only [not_exists, not_and, ne_eq]

theorem check_ofResources_notAllowed_iff {resources : List Resource} :
    (ofResources resources).check key d = .error (.destinationNotAllowed d) ↔
      (∃ r ∈ resources, r.key = key) ∧
        ¬ ∃ r ∈ resources, r.key = key ∧ r.destination = d := by
  have hok : (ofResources resources).check key d = .ok () ↔ _ :=
    check_eq_ok_iff.trans grants_ofResources_iff
  have hunknown : (ofResources resources).check key d = .error .unknownKey ↔ _ :=
    check_ofResources_unknownKey_iff
  rw [← hok]
  have hsome : (∃ r ∈ resources, r.key = key) ↔
      (ofResources resources).check key d ≠ .error .unknownKey := by
    rw [ne_eq, hunknown]
    simp only [ne_eq, not_forall, not_not, exists_prop]
  rw [hsome]
  rcases check_cases (ofResources resources) key d with h | h | h <;> simp [h]

/-- A key is known if and only if no question about it is answered by not knowing it. -/
theorem containsKey_iff {t : AccessTable} :
    t.containsKey key = true ↔ ∀ d, t.check key d ≠ .error .unknownKey := by
  rw [containsKey]
  simp only [check]
  cases t.grants.lookup key with
  | none =>
    constructor
    · intro h
      cases h
    · exact fun h => absurd rfl (h ⟨"", 0⟩)
  | some ds =>
    simp only [Option.isSome_some, true_iff]
    intro d
    by_cases hd : d ∈ ds <;> simp [hd]

/-- Manifests of the same resources make tables that answer alike. -/
theorem ofResources_alike {resources resources' : List Resource}
    (h : ∀ r, r ∈ resources ↔ r ∈ resources') (u : Use) :
    ((ofResources resources).answer u).1 = ((ofResources resources').answer u).1 := by
  have hcheck : ∀ key d, (ofResources resources).check key d = (ofResources resources').check key d := by
    intro key d
    rcases check_cases (ofResources resources') key d with h' | h' | h' <;> rw [h']
    · rw [check_eq_ok_iff, grants_ofResources_iff] at h' ⊢
      simpa only [h] using h'
    · rw [check_ofResources_unknownKey_iff] at h' ⊢
      simpa only [h] using h'
    · rw [check_ofResources_notAllowed_iff] at h' ⊢
      simpa only [h] using h'
  cases u with
  | replace => rfl
  | check key d => exact congrArg Answer.verdict (hcheck key d)
  | containsKey key =>
    have hknown : (ofResources resources).containsKey key = (ofResources resources').containsKey key := by
      rw [Bool.eq_iff_iff, containsKey_iff, containsKey_iff]
      simp only [hcheck]
    exact congrArg Answer.known hknown
  | size =>
    have hsize : (ofResources resources).size = (ofResources resources').size := by
      rw [size_ofResources, size_ofResources, ← List.card_toFinset, ← List.card_toFinset]
      congr 1
      ext key
      simp only [List.mem_toFinset, List.mem_map, h]
    exact congrArg Answer.count hsize

/-- What is answered anywhere in a history is settled by the resources of the last replacement: a
destination is allowed if one of them has the key and this very host and port, a key is unknown if
none of them has it, and the size counts their keys. Histories whose last manifests hold the same
resources end in tables that answer alike, whatever the order in which and the number of times that
these are listed. -/
theorem answers_of_last_manifest (uses : List Use) :
    let R := lastManifest uses
    let t := after uses {}
    (∀ u later, (answers (uses ++ u :: later) {})[uses.length]? = some (t.answer u).1) ∧
    (∀ key d,
      (t.check key d = .ok () ↔
        ∃ r ∈ R, r.key = key ∧ r.rule.host.toUTF8 = d.host.toUTF8 ∧ r.rule.port = d.port) ∧
      (t.check key d = .error .unknownKey ↔ ∀ r ∈ R, r.key ≠ key) ∧
      (t.check key d = .error (.destinationNotAllowed d) ↔ (∃ r ∈ R, r.key = key) ∧
        ¬ ∃ r ∈ R, r.key = key ∧ r.rule.host.toUTF8 = d.host.toUTF8 ∧ r.rule.port = d.port)) ∧
    (∀ key, t.containsKey key = true ↔ ∀ d, t.check key d ≠ .error .unknownKey) ∧
    t.size = (R.map (·.key)).toFinset.card ∧
    ∀ uses', (∀ r, r ∈ R ↔ r ∈ lastManifest uses') →
      ∀ u, (t.answer u).1 = ((after uses' {}).answer u).1 := by
  intro R t
  have ht : t = ofResources R := after_eq uses
  refine ⟨fun u later => getElem?_answers uses later u {}, fun key d => ?_,
    fun key => containsKey_iff, ?_, fun uses' h u => ?_⟩
  · simp only [ht, ← destination_eq_iff]
    exact ⟨check_eq_ok_iff.trans grants_ofResources_iff, check_ofResources_unknownKey_iff,
      check_ofResources_notAllowed_iff⟩
  · rw [ht, size_ofResources, List.card_toFinset]
  · rw [ht, after_eq uses']
    exact ofResources_alike h u

def resource (key : UInt64) (host : String) (port : UInt16) : Resource :=
  ⟨{ name := "", pattern := "*", host, port }, key⟩

/-- An older manifest, and one whose resources are listed twice and in another order. -/
theorem answers_of_last_manifest_of_repeats :
    let uses := [.replace [resource 1 "a" 80], .check 1 ⟨"a", 80⟩,
      .replace [resource 2 "a" 80, resource 2 "b" 22]]
    let uses' := [.replace [resource 2 "b" 22, resource 2 "a" 80, resource 2 "b" 22]]
    (∀ r, r ∈ lastManifest uses ↔ r ∈ lastManifest uses') ∧
    (after uses {}).check 1 ⟨"a", 80⟩ = .error .unknownKey ∧
    (after uses {}).check 2 ⟨"b", 80⟩ = .error (.destinationNotAllowed ⟨"b", 80⟩) ∧
    (after uses' {}).check 2 ⟨"b", 22⟩ = .ok () ∧ (after uses' {}).size = 1 := by
  intro uses uses'
  have hsame : ∀ r, r ∈ lastManifest uses ↔ r ∈ lastManifest uses' := by
    intro r
    simp only [uses, uses', lastManifest, List.filterMap, Use.manifest?, List.getLast?,
      List.getLast, Option.getD, List.mem_cons, List.not_mem_nil, or_false]
    tauto
  obtain ⟨-, hchecks, -, hsize, halike⟩ := answers_of_last_manifest uses
  have hcheck := halike uses' hsame (.check 2 ⟨"b", 22⟩)
  have hcount := halike uses' hsame .size
  refine ⟨hsame, (hchecks 1 ⟨"a", 80⟩).2.1.mpr (by decide), by decide, ?_, ?_⟩
  · exact (Answer.verdict.inj hcheck).symm.trans (by decide)
  · exact (Answer.count.inj hcount).symm.trans (hsize.trans (by decide))

end TunnelAgent.AccessTable
