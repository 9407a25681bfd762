import TunnelAgent.Proofs.Text.Parts
import TunnelAgent.Socks.Metadata

/-! # The grammar of client metadata

Metadata is read if and only if each part between semicolons that is not empty is a pair, and then it
is just these pairs, in their order. Pairs that are written out with semicolons between them, however
many, are read back. -/

namespace TunnelAgent.Socks.Metadata

/-- The texts between the semicolons. -/
structure Between (text : String) (parts : List String) : Prop where
  nonempty : parts ≠ []
  plain : ∀ part ∈ parts, ';' ∉ part.toList
  joined : ";".intercalate parts = text

def pairText (pair : String × String) : String := pair.1 ++ "=" ++ pair.2

/-- Cut at its first equals sign, the part is this key and this value. -/
def Cut (part : String) (pair : String × String) : Prop := part = pairText pair ∧ '=' ∉ pair.1.toList

/-- The part has an equals sign, and not in front. -/
def HasKey (part : String) : Prop := '=' ∈ part.toList ∧ part.toList.head? ≠ some '='

/-- A pair that can be written: it has a key, and no separator is in the wrong place. -/
structure Writable (pair : String × String) : Prop where
  key : pair.1 ≠ ""
  plain : '=' ∉ pair.1.toList
  whole : ';' ∉ pair.1.toList
  value : ';' ∉ pair.2.toList

def semicolons (n : Nat) : String := .ofList (.replicate n ';')

/-- Pairs, each with the number of semicolons behind it. -/
def written (before : Nat) (entries : List ((String × String) × Nat)) : String :=
  semicolons before ++ .join (entries.map fun entry => pairText entry.1 ++ semicolons entry.2)

variable {text part : String} {parts : List String} {pair : String × String}

theorem between_iff :
    Between text parts ↔ (Text.parts ';' text.toList).map String.ofList = parts := by
  have hparts : (Text.parts ';' text.toList).map String.ofList = parts ↔
      Text.parts ';' text.toList = parts.map String.toList := by
    constructor
    · intro h
      simp [← h]
    · intro h
      simp [h]
  rw [hparts, Text.parts_eq_iff]
  constructor
  · intro h
    refine ⟨by simpa using h.nonempty, by simpa using h.plain, ?_⟩
    rw [← h.joined, String.toList_intercalate]
    rfl
  · intro ⟨hne, hplain, hjoined⟩
    refine ⟨by simpa using hne, by simpa using hplain, ?_⟩
    rw [← String.toList_inj, String.toList_intercalate, ← hjoined]
    rfl

theorem cutFirst_eq_some_iff :
    Text.cutFirst '=' part.toList = some (pair.1.toList, pair.2.toList) ↔ Cut part pair := by
  rw [Text.cutFirst_eq_some_iff, Cut, ← String.toList_inj, pairText]
  simp

theorem pair?_eq_some_iff : pair? part.toList = some pair ↔ Cut part pair ∧ pair.1 ≠ "" := by
  rw [← cutFirst_eq_some_iff, pair?]
  cases Text.cutFirst '=' part.toList with
  | none => simp
  | some sides =>
    obtain ⟨front, rest⟩ := sides
    obtain ⟨key, value⟩ := pair
    have htext : ∀ (cs : List Char) (text : String), String.ofList cs = text ↔ cs = text.toList := by
      intro cs text
      rw [← String.toList_inj, String.toList_ofList]
    have hread : (if front.isEmpty then none else some (String.ofList front, String.ofList rest)) =
        some (key, value) ↔ front ≠ [] ∧ front = key.toList ∧ rest = value.toList := by
      simp [htext]
    rw [hread, Option.some.injEq, Prod.mk.injEq]
    constructor
    · intro ⟨hne, hfront, hrest⟩
      exact ⟨⟨hfront, hrest⟩, by simpa [hfront] using hne⟩
    · intro ⟨⟨hfront, hrest⟩, hne⟩
      exact ⟨by simpa [hfront] using hne, hfront, hrest⟩

theorem exists_pair_iff : (∃ pair, pair? part.toList = some pair) ↔ HasKey part := by
  simp only [pair?_eq_some_iff]
  constructor
  · intro ⟨⟨key, value⟩, ⟨hpart, hfree⟩, hkey⟩
    subst hpart
    cases hchars : key.toList with
    | nil => exact absurd (String.toList_eq_nil_iff.mp hchars) hkey
    | cons c rest =>
      have hc : c ≠ '=' := fun hc => hfree (by simp [hchars, hc])
      exact ⟨by simp [pairText], by simpa [pairText, hchars] using hc⟩
  · intro ⟨hmem, hhead⟩
    obtain ⟨front, rest, hpart, hfree⟩ := List.eq_append_cons_of_mem hmem
    refine ⟨(.ofList front, .ofList rest), ⟨?_, by simpa using hfree⟩, ?_⟩
    · rw [← String.toList_inj]
      simp [pairText, hpart]
    · intro hempty
      have hnil : front = [] := by simpa using congrArg String.toList hempty
      rw [hpart, hnil] at hhead
      exact hhead rfl

/-! ## Parts that are not empty -/

def pieces (cs : List Char) : List (List Char) :=
  (Text.parts ';' cs).filter fun part => !part.isEmpty

theorem pieces_semicolons (n : Nat) (cs : List Char) :
    pieces (List.replicate n ';' ++ cs) = pieces cs := by
  induction n with
  | zero => rfl
  | succ n ih =>
    rw [List.replicate_succ, List.cons_append, pieces, Text.parts_cons, if_pos rfl]
    exact ih

theorem pieces_cons {piece : List Char} (hne : piece ≠ []) (hfree : ';' ∉ piece) (cs : List Char) :
    pieces (piece ++ ';' :: cs) = piece :: pieces cs := by
  rw [pieces, Text.parts_append_cons hfree, List.filter_cons_of_pos (by simpa using hne), pieces]

theorem pieces_of_free {piece : List Char} (hne : piece ≠ []) (hfree : ';' ∉ piece) :
    pieces piece = [piece] := by
  rw [pieces, Text.parts_of_not_mem hfree, List.filter_cons_of_pos (by simpa using hne),
    List.filter_nil]

theorem pieces_between (h : Between text parts) :
    pieces text.toList = (parts.filter (· ≠ "")).map String.toList := by
  have hempty : ∀ part : List Char, (!part.isEmpty) = decide (String.ofList part ≠ "") := by
    intro part
    cases part <;> simp
  rw [← between_iff.mp h, pieces, List.filter_map, List.map_map]
  simp [Function.comp_def, hempty]

theorem parse_eq_some_iff (h : Between text parts) {m : Metadata} :
    parse text = some m ↔
      List.Forall₂ (fun part pair => Cut part pair ∧ pair.1 ≠ "") (parts.filter (· ≠ "")) m.pairs := by
  have hparse : parse text = some m ↔ (pieces text.toList).mapM pair? = some m.pairs := by
    change ((pieces text.toList).mapM pair?).map Metadata.mk = some m ↔ _
    obtain ⟨pairs⟩ := m
    simp
  rw [hparse, Text.mapM_eq_some_iff, pieces_between h, List.forall₂_map_left_iff]
  simp only [pair?_eq_some_iff]

theorem exists_parse_iff (h : Between text parts) :
    (parse text).isSome ↔ ∀ part ∈ parts, part ≠ "" → HasKey part := by
  have hparse : (parse text).isSome ↔ ∃ pairs, (pieces text.toList).mapM pair? = some pairs := by
    change (((pieces text.toList).mapM pair?).map Metadata.mk).isSome ↔ _
    rw [Option.isSome_map, Option.isSome_iff_exists]
  rw [hparse, Text.exists_mapM_iff, pieces_between h, List.forall_mem_map]
  simp only [exists_pair_iff, List.mem_filter, decide_eq_true_eq, and_imp]

/-! ## Pairs that are written out -/

theorem toList_written (before : Nat) (entries : List ((String × String) × Nat)) :
    (written before entries).toList = List.replicate before ';' ++
      entries.flatMap fun entry => (pairText entry.1).toList ++ List.replicate entry.2 ';' := by
  simp [written, semicolons, List.flatMap_map]

theorem Writable.pair?_text (h : Writable pair) : pair? (pairText pair).toList = some pair :=
  pair?_eq_some_iff.mpr ⟨⟨rfl, h.plain⟩, h.key⟩

theorem Writable.free (h : Writable pair) : ';' ∉ (pairText pair).toList := by
  simp [pairText, h.whole, h.value]

theorem pieces_written (before : Nat) {entries : List ((String × String) × Nat)}
    (hpairs : ∀ entry ∈ entries, Writable entry.1)
    (hbehind : ∀ entry ∈ entries.dropLast, 0 < entry.2) :
    pieces (written before entries).toList = entries.map fun entry => (pairText entry.1).toList := by
  rw [toList_written, pieces_semicolons]
  induction entries with
  | nil => rfl
  | cons entry rest ih =>
    obtain ⟨pair, behind⟩ := entry
    rw [List.forall_mem_cons] at hpairs
    have hne : (pairText pair).toList ≠ [] := by simp [pairText]
    have hfree := hpairs.1.free
    rw [List.flatMap_cons, List.map_cons]
    cases behind with
    | zero =>
      -- only the last pair has no semicolon behind it
      cases rest with
      | nil => simpa using pieces_of_free hne hfree
      | cons next more => exact absurd (hbehind (pair, 0) (by simp)) (Nat.lt_irrefl 0)
    | succ behind =>
      have hrest : ∀ entry ∈ rest.dropLast, 0 < entry.2 := by
        cases rest with
        | nil => simp
        | cons next more => exact fun entry hentry => hbehind entry (by simp [hentry])
      rw [List.replicate_succ, List.append_assoc, List.cons_append, pieces_cons hne hfree,
        pieces_semicolons, ih hpairs.2 hrest]

/-- Pairs that can be written are read back, however many semicolons are between and around them. -/
theorem parse_written (before : Nat) {entries : List ((String × String) × Nat)}
    (hpairs : ∀ entry ∈ entries, Writable entry.1)
    (hbehind : ∀ entry ∈ entries.dropLast, 0 < entry.2) :
    parse (written before entries) = some ⟨entries.map (·.1)⟩ := by
  change ((pieces (written before entries).toList).mapM pair?).map Metadata.mk = _
  rw [pieces_written before hpairs hbehind, Option.map_eq_some_iff]
  refine ⟨_, Text.mapM_eq_some_iff.mpr ?_, rfl⟩
  rw [List.forall₂_map_left_iff, List.forall₂_map_right_iff, List.forall₂_same]
  exact fun entry hentry => (hpairs entry hentry).pair?_text

/-- A text is read if and only if every part between its semicolons that is not empty has a key, and
then it is these parts, in order, each cut at its first equals sign. What is written of pairs is read
as these pairs. Asked for a key, metadata answers with the first pair that has it. -/
theorem parse_grammar :
    (∀ text, ∃ parts, Between text parts ∧ (∀ parts', Between text parts' → parts' = parts) ∧
      ((parse text).isSome ↔ ∀ part ∈ parts, part ≠ "" → HasKey part) ∧
      ∀ m, parse text = some m → List.Forall₂ Cut (parts.filter (· ≠ "")) m.pairs) ∧
    (∀ before entries, (∀ entry ∈ entries, Writable entry.1) →
      (∀ entry ∈ entries.dropLast, 0 < entry.2) →
      parse (written before entries) = some ⟨entries.map (·.1)⟩) ∧
    ∀ (m : Metadata) key,
      (∀ value, m.get? key = some value ↔ ∃ before behind,
        m.pairs = before ++ (key, value) :: behind ∧ ∀ pair ∈ before, pair.1 ≠ key) ∧
      (m.get? key = none ↔ ∀ pair ∈ m.pairs, pair.1 ≠ key) := by
  refine ⟨fun text => ?_, fun before entries => parse_written before,
    fun m key => ⟨fun value => ?_, ?_⟩⟩
  · have hparts : Between text ((Text.parts ';' text.toList).map String.ofList) := between_iff.mpr rfl
    refine ⟨_, hparts, fun parts' h => (between_iff.mp h).symm, exists_parse_iff hparts,
      fun m hm => ?_⟩
    exact ((parse_eq_some_iff hparts).mp hm).imp fun part pair h => h.1
  · rw [get?, List.lookup_eq_some_iff]
    simp only [bne_iff_ne, ne_comm]
  · rw [get?, List.lookup_eq_none_iff]
    simp only [bne_iff_ne, ne_comm]

/-- A key that comes twice, a value with equals signs, an empty one, and a part without a key. -/
theorem parse_grammar_of_repeats :
    let entries := [(("a", "1=2="), 2), (("b", ""), 1), (("a", "3"), 0)]
    (∀ entry ∈ entries, Writable entry.1) ∧ (∀ entry ∈ entries.dropLast, 0 < entry.2) ∧
    written 3 entries = ";;;a=1=2=;;b=;a=3" ∧
    parse (written 3 entries) = some ⟨[("a", "1=2="), ("b", ""), ("a", "3")]⟩ ∧
    get? ⟨[("a", "1=2="), ("b", ""), ("a", "3")]⟩ "a" = some "1=2=" ∧ parse "a=1;=2" = none := by
  intro entries
  have hpairs : ∀ entry ∈ entries, Writable entry.1 := by
    simp only [entries, List.forall_mem_cons]
    exact ⟨⟨by decide, by decide, by decide, by decide⟩, ⟨by decide, by decide, by decide, by decide⟩,
      ⟨by decide, by decide, by decide, by decide⟩, nofun⟩
  have hbehind : ∀ entry ∈ entries.dropLast, 0 < entry.2 := by decide
  obtain ⟨hread, hwritten, hget⟩ := parse_grammar
  refine ⟨hpairs, hbehind, by decide, hwritten 3 entries hpairs hbehind, ?_, ?_⟩
  · exact ((hget _ "a").1 _).mpr ⟨[], _, rfl, nofun⟩
  · obtain ⟨parts, -, hunique, hsome, -⟩ := hread "a=1;=2"
    have hparts : ["a=1", "=2"] = parts := hunique _ ⟨by decide, by decide, by decide⟩
    rw [← Option.not_isSome_iff_eq_none, hsome, ← hparts]
    exact fun h => (h "=2" (by decide) (by decide)).2 (by decide)

end TunnelAgent.Socks.Metadata
