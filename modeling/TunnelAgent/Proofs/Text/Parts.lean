import Mathlib.Data.List.Basic
import Mathlib.Data.List.Forall2
import Mathlib.Data.List.TakeWhile
import TunnelAgent.Text.Parts

/-! # Texts cut at a separator

The parts of a text are the only texts without the separator that make it up again when they are
joined by it. A text that is cut once falls into what is before a separator and what is behind it,
and one side has no other: the side before if it is cut at the first, the side behind if at the
last. -/

namespace TunnelAgent.Text

variable {sep : Char} {cs before behind : List Char}

theorem parts_cons (sep c : Char) (rest : List Char) :
    parts sep (c :: rest) =
      if c = sep then [] :: parts sep rest
      else match parts sep rest with
        | [] => [[c]]
        | part :: more => (c :: part) :: more := rfl

theorem parts_eq_splitOn (sep : Char) (cs : List Char) : parts sep cs = cs.splitOn sep := by
  induction cs with
  | nil => rfl
  | cons c rest ih =>
    rw [parts_cons, ih, List.splitOn_cons_eq_if_modifyHead]
    simp only [beq_iff_eq]
    split
    · rfl
    · cases hrest : rest.splitOn sep with
      | nil => exact absurd hrest (List.splitOn_ne_nil sep rest)
      | cons part more => rfl

theorem not_mem_of_mem_parts {part : List Char} (h : part ∈ parts sep cs) : sep ∉ part := by
  induction cs generalizing part with
  | nil =>
    obtain rfl : part = [] := List.mem_singleton.mp h
    exact List.not_mem_nil
  | cons c rest ih =>
    rw [parts_cons] at h
    split at h
    · rcases List.mem_cons.mp h with rfl | h
      · exact List.not_mem_nil
      · exact ih h
    · next hc =>
      cases hrest : parts sep rest with
      | nil =>
        rw [hrest] at h
        obtain rfl : part = [c] := List.mem_singleton.mp h
        simpa using Ne.symm hc
      | cons first more =>
        rw [hrest] at h ih
        rcases List.mem_cons.mp h with rfl | h
        · have hfirst := ih List.mem_cons_self
          simp [Ne.symm hc, hfirst]
        · exact ih (List.mem_cons_of_mem first h)

/-- The parts are the one way to write a text as texts without the separator, joined by it. -/
theorem parts_eq_iff {ps : List (List Char)} :
    parts sep cs = ps ↔ ps ≠ [] ∧ (∀ part ∈ ps, sep ∉ part) ∧ [sep].intercalate ps = cs := by
  constructor
  · rintro rfl
    refine ⟨?_, fun part => not_mem_of_mem_parts, ?_⟩
    · rw [parts_eq_splitOn]
      exact List.splitOn_ne_nil sep cs
    · rw [parts_eq_splitOn]
      exact List.intercalate_splitOn sep
  · rintro ⟨hne, hfree, rfl⟩
    rw [parts_eq_splitOn]
    exact List.splitOn_intercalate sep hfree hne

/-- Nothing but separators is lost between the parts. -/
theorem exists_part_of_mem {c : Char} (h : c ∈ cs) (hc : c ≠ sep) :
    ∃ part ∈ parts sep cs, c ∈ part := by
  obtain ⟨-, -, hjoined⟩ := parts_eq_iff.mp (rfl : parts sep cs = parts sep cs)
  rw [← hjoined] at h
  generalize parts sep cs = ps at h
  induction ps with
  | nil => cases h
  | cons part rest ih =>
    cases rest with
    | nil => exact ⟨part, List.mem_singleton.mpr rfl, by simpa using h⟩
    | cons next more =>
      rw [List.intercalate_cons_cons, List.append_assoc, List.mem_append, List.singleton_append,
        List.mem_cons] at h
      rcases h with h | h | h
      · exact ⟨part, List.mem_cons_self, h⟩
      · exact absurd h hc
      · obtain ⟨found, hfound, hmem⟩ := ih h
        exact ⟨found, List.mem_cons_of_mem part hfound, hmem⟩

theorem parts_append_cons (h : sep ∉ before) (rest : List Char) :
    parts sep (before ++ sep :: rest) = before :: parts sep rest := by
  rw [parts_eq_splitOn, parts_eq_splitOn]
  exact List.splitOn_append_cons_self_of_not_mem h rest

theorem parts_of_not_mem (h : sep ∉ cs) : parts sep cs = [cs] := by
  rw [parts_eq_splitOn]
  exact List.splitOn_eq_singleton h

theorem cutFirst_append_cons (h : sep ∉ before) (rest : List Char) :
    cutFirst sep (before ++ sep :: rest) = some (before, rest) := by
  have hall : ∀ c ∈ before, (c != sep) = true := fun c hc =>
    bne_iff_ne.mpr (ne_of_mem_of_not_mem hc h)
  rw [cutFirst, List.dropWhile_append_of_pos hall, List.takeWhile_append_of_pos hall]
  simp

theorem cutFirst_of_not_mem (h : sep ∉ cs) : cutFirst sep cs = none := by
  have hall : ∀ c ∈ cs, (c != sep) = true := fun c hc => bne_iff_ne.mpr (ne_of_mem_of_not_mem hc h)
  rw [cutFirst, List.dropWhile_eq_nil_iff.mpr hall]

theorem cutFirst_eq_some_iff :
    cutFirst sep cs = some (before, behind) ↔ cs = before ++ sep :: behind ∧ sep ∉ before := by
  constructor
  · intro h
    by_cases hmem : sep ∈ cs
    · obtain ⟨first, rest, rfl, hfree⟩ := List.eq_append_cons_of_mem hmem
      rw [cutFirst_append_cons hfree] at h
      cases h
      exact ⟨rfl, hfree⟩
    · rw [cutFirst_of_not_mem hmem] at h
      cases h
  · rintro ⟨rfl, hfree⟩
    exact cutFirst_append_cons hfree behind

theorem cutFirst_eq_none_iff : cutFirst sep cs = none ↔ sep ∉ cs := by
  refine ⟨fun h hmem => ?_, cutFirst_of_not_mem⟩
  obtain ⟨first, rest, rfl, hfree⟩ := List.eq_append_cons_of_mem hmem
  rw [cutFirst_append_cons hfree] at h
  cases h

theorem cutLast_eq_some_iff :
    cutLast sep cs = some (before, behind) ↔ cs = before ++ sep :: behind ∧ sep ∉ behind := by
  have hreverse : cs = before ++ sep :: behind ↔
      cs.reverse = behind.reverse ++ sep :: before.reverse := by
    rw [← List.reverse_inj]
    simp
  have hcut : cutLast sep cs = some (before, behind) ↔
      cutFirst sep cs.reverse = some (behind.reverse, before.reverse) := by
    simp only [cutLast, Option.map_eq_some_iff, Prod.exists, Prod.mk.injEq]
    constructor
    · rintro ⟨last, front, h, rfl, rfl⟩
      simpa using h
    · intro h
      exact ⟨_, _, h, by simp⟩
  rw [hcut, cutFirst_eq_some_iff, hreverse, List.mem_reverse]

theorem cutLast_eq_none_iff : cutLast sep cs = none ↔ sep ∉ cs := by
  rw [cutLast, Option.map_eq_none_iff, cutFirst_eq_none_iff, List.mem_reverse]

/-- Parts are read if and only if each of them is. -/
theorem mapM_eq_some_iff {α β : Type} {read : α → Option β} {parts : List α} {values : List β} :
    parts.mapM read = some values ↔
      List.Forall₂ (fun part value => read part = some value) parts values := by
  induction parts generalizing values with
  | nil => cases values <;> simp
  | cons part rest ih =>
    cases hpart : read part with
    | none => cases values <;> simp [hpart]
    | some value =>
      cases values with
      | nil => simp [hpart, Option.bind_eq_some_iff]
      | cons first more => simp [hpart, ← ih, Option.bind_eq_some_iff, and_comm]

theorem exists_mapM_iff {α β : Type} {read : α → Option β} {parts : List α} :
    (∃ values, parts.mapM read = some values) ↔ ∀ part ∈ parts, ∃ value, read part = some value := by
  simp only [mapM_eq_some_iff]
  induction parts with
  | nil => simp
  | cons part rest ih =>
    rw [List.forall_mem_cons, ← ih]
    constructor
    · intro ⟨values, h⟩
      cases h with
      | cons hpart hrest => exact ⟨⟨_, hpart⟩, _, hrest⟩
    · intro ⟨⟨_, hpart⟩, _, hrest⟩
      exact ⟨_, .cons hpart hrest⟩

end TunnelAgent.Text
