import Mathlib.Data.List.Basic
import TunnelAgent.Address.Reader
import TunnelAgent.Proofs.Address.ZeroRun
import TunnelAgent.Proofs.Text.Decimal
import TunnelAgent.Proofs.Text.Parts

/-! # Addresses are read back from their text

The text of an address is one that is read as this address, so no two addresses share a text. Four
bytes are found between their points. Groups are found between their colons, on both sides of the
double one if there is one: it is the only one, because every group has a digit, and as many zeros as
are missing stand for it. Only four bytes behind a mark have both points and colons. -/

namespace TunnelAgent.Address

variable {base n : Nat}

theorem exists_digit {c : Char} (hbase : 1 < base) (h : c ∈ Nat.toDigits base n) :
    ∃ d < base, c = Nat.digitChar d := by
  induction n using Nat.base_induction base hbase with
  | single m hm =>
    rw [Nat.toDigits_of_lt_base hm] at h
    exact ⟨m, hm, List.mem_singleton.mp h⟩
  | digit m k hk hm ih =>
    rw [← Nat.toDigits_append_toDigits hbase hm hk, Nat.toDigits_of_lt_base hk] at h
    rcases List.mem_append.mp h with h | h
    · exact ih h
    · exact ⟨k, hk, List.mem_singleton.mp h⟩

/-- No number but zero begins with a zero. -/
theorem head?_toDigits (hbase : 1 < base) (hn : 0 < n) : (Nat.toDigits base n).head? ≠ some '0' := by
  induction n using Nat.base_induction base hbase with
  | single m hm =>
    rw [Nat.toDigits_of_lt_base hm]
    simpa using Nat.ne_of_gt hn
  | digit m k hk hm ih =>
    rw [← Nat.toDigits_append_toDigits hbase hm hk, List.head?_append_of_ne_nil _ Nat.toDigits_ne_nil]
    exact ih hm

/-! ## Bytes and groups -/

def byteText (b : UInt8) : List Char := Nat.toDigits 10 b.toNat

theorem isDigit_of_mem_byteText {b : UInt8} {c : Char} (h : c ∈ byteText b) : c.isDigit = true :=
  Nat.isDigit_of_mem_toDigits (by decide) (by decide) h

theorem not_mem_byteText {c : Char} (hc : c.isDigit = false) (b : UInt8) : c ∉ byteText b :=
  fun h => Bool.false_ne_true (hc.symm.trans (isDigit_of_mem_byteText h))

theorem readByte?_byteText (b : UInt8) : readByte? (byteText b) = some b := by
  have hdigits : (byteText b).all Document.isDigit = true := by
    rw [List.all_eq_true]
    intro c hc
    have hdigit := isDigit_of_mem_byteText hc
    simp only [Char.isDigit, Bool.and_eq_true, decide_eq_true_eq] at hdigit
    simp only [Document.isDigit, Bool.and_eq_true, decide_eq_true_eq]
    exact hdigit
  have hfront : ((byteText b).length == 1 || (byteText b).head? != some '0') = true := by
    by_cases hb : b.toNat = 0
    · simp [byteText, hb]
    · simp [byteText, head?_toDigits (by decide : 1 < 10) (Nat.pos_of_ne_zero hb)]
  have hread : Numeral.read 255 (byteText b) = .ok b.toNat :=
    Numeral.read_toDigits (Nat.le_of_lt_succ b.toNat_lt)
  rw [readByte?, hdigits, hfront, hread]
  simp

def groupText (g : UInt16) : List Char := Nat.toDigits 16 g.toNat

theorem groupText_ne_nil (g : UInt16) : groupText g ≠ [] := Nat.toDigits_ne_nil

theorem not_mem_groupText {c : Char} (hc : ∀ d < 16, c ≠ Nat.digitChar d) (g : UInt16) :
    c ∉ groupText g := by
  intro h
  obtain ⟨d, hd, rfl⟩ := exists_digit (by decide) h
  exact hc d hd rfl

theorem colon_not_mem_groupText (g : UInt16) : ':' ∉ groupText g := not_mem_groupText (by decide) g

theorem point_not_mem_groupText (g : UInt16) : '.' ∉ groupText g := not_mem_groupText (by decide) g

theorem hexValue?_digitChar {d : Nat} (hd : d < 16) :
    Document.hexValue? (Nat.digitChar d) = some d := by
  revert d
  decide

/-- From digit to digit the value is that of the digits read so far. -/
theorem foldl_toDigits (n : Nat) :
    (Nat.toDigits 16 n).foldl (fun acc c => match acc, Document.hexValue? c with
      | some n, some d => some (n * 16 + d)
      | _, _ => none) (some 0) = some n := by
  induction n using Nat.base_induction 16 (by decide) with
  | single m hm =>
    rw [Nat.toDigits_of_lt_base hm]
    simp [hexValue?_digitChar hm]
  | digit m k hk hm ih =>
    rw [← Nat.toDigits_append_toDigits (by decide) hm hk, Nat.toDigits_of_lt_base hk,
      List.foldl_append, ih]
    simp [hexValue?_digitChar hk, Nat.mul_comm]

theorem readGroup?_groupText (g : UInt16) : readGroup? (groupText g) = some g := by
  have hlength : (groupText g).length ≤ 4 :=
    (Nat.length_toDigits_le_iff (by decide) (by decide)).mpr g.toNat_lt
  have hshort : ((groupText g).isEmpty || decide (4 < (groupText g).length)) = false := by
    simp [hlength, groupText_ne_nil]
  rw [readGroup?, hshort]
  exact (congrArg (Option.map UInt16.ofNat) (foldl_toDigits g.toNat)).trans (by simp)

/-! ## Groups between colons -/

theorem toList_colons (groups : List UInt16) :
    (colons groups).toList = [':'].intercalate (groups.map groupText) := by
  rw [colons, String.toList_intercalate, List.map_map]
  congr 2
  funext g
  simp [hexText, groupText]

theorem colons_cons_cons (g g' : UInt16) (groups : List UInt16) :
    (colons (g :: g' :: groups)).toList = groupText g ++ ':' :: (colons (g' :: groups)).toList := by
  simp [toList_colons]

/-- Groups begin with a digit. -/
theorem head?_colons (g : UInt16) (groups : List UInt16) (rest : List Char) :
    ((colons (g :: groups)).toList ++ rest).head? ≠ some ':' := by
  have hfront : ∃ tail, (colons (g :: groups)).toList = groupText g ++ tail := by
    cases groups with
    | nil => exact ⟨[], by simp [toList_colons]⟩
    | cons g' groups => exact ⟨_, colons_cons_cons g g' groups⟩
  obtain ⟨tail, htail⟩ := hfront
  rw [htail, List.append_assoc, List.head?_append_of_ne_nil _ (groupText_ne_nil g)]
  exact fun h => colon_not_mem_groupText g (List.mem_of_head? h)

theorem parts_colons {groups : List UInt16} (h : groups ≠ []) :
    Text.parts ':' (colons groups).toList = groups.map groupText := by
  rw [Text.parts_eq_iff, toList_colons]
  refine ⟨by simpa using h, ?_, rfl⟩
  simp only [List.forall_mem_map]
  exact fun g _ => colon_not_mem_groupText g

theorem point_not_mem_colons (groups : List UInt16) : '.' ∉ (colons groups).toList := by
  induction groups with
  | nil => simp [toList_colons]
  | cons g rest ih =>
    cases rest with
    | nil => simpa [toList_colons] using point_not_mem_groupText g
    | cons g' rest =>
      rw [colons_cons_cons]
      simp [point_not_mem_groupText g, ih]

theorem read4?_of_free {cs : List Char} (h : '.' ∉ cs) : read4? cs = none := by
  rw [read4?, Text.parts_of_not_mem h]
  cases hread : readByte? cs <;> simp [hread]

theorem readGroups?_colons (groups : List UInt16) :
    readGroups? (colons groups).toList = some groups := by
  cases groups with
  | nil => rfl
  | cons g rest =>
    have hne : (colons (g :: rest)).toList.isEmpty = false := by
      cases rest <;> simp [toList_colons, groupText_ne_nil]
    have hgroups : ((g :: rest).map groupText).mapM readGroup? = some (g :: rest) := by
      rw [Text.mapM_eq_some_iff, List.forall₂_map_left_iff, List.forall₂_same]
      exact fun g _ => readGroup?_groupText g
    have hlast : ∀ last, ((g :: rest).map groupText).getLast? = some last → read4? last = none := by
      intro last h
      obtain ⟨g', -, rfl⟩ := List.mem_map.mp (List.mem_of_getLast? h)
      exact read4?_of_free (point_not_mem_groupText g')
    rw [readGroups?, hne, parts_colons (List.cons_ne_nil g rest)]
    simp only [Bool.false_eq_true, if_false]
    cases hcase : ((g :: rest).map groupText).getLast? with
    | none => simp at hcase
    | some last => simp only [hlast last hcase, hgroups]

/-! ## The double colon -/

theorem splitDouble_cons {c : Char} {rest : List Char} (h : c ≠ ':' ∨ rest.head? ≠ some ':')
    (before : List Char) : splitDouble before (c :: rest) = splitDouble (c :: before) rest := by
  rw [splitDouble]
  rintro rest' rfl rfl
  simp at h

theorem splitDouble_append {front : List Char} (h : ':' ∉ front) (before rest : List Char) :
    splitDouble before (front ++ rest) = splitDouble (front.reverse ++ before) rest := by
  induction front generalizing before with
  | nil => rfl
  | cons c front ih =>
    rw [List.mem_cons, not_or] at h
    rw [List.cons_append, splitDouble_cons (.inl (Ne.symm h.1)), ih h.2]
    simp

/-- Between groups there is one colon, so a double one can only be behind them. -/
theorem splitDouble_colons (groups : List UInt16) (before rest : List Char) :
    splitDouble before ((colons groups).toList ++ rest) =
      splitDouble ((colons groups).toList.reverse ++ before) rest := by
  induction groups generalizing before with
  | nil => simp [toList_colons]
  | cons g groups ih =>
    cases groups with
    | nil => simpa [toList_colons] using splitDouble_append (colon_not_mem_groupText g) before rest
    | cons g' groups =>
      rw [colons_cons_cons, List.append_assoc, List.cons_append,
        splitDouble_append (colon_not_mem_groupText g),
        splitDouble_cons (.inr (head?_colons g' groups rest)), ih]
      simp

theorem splitDouble_whole (groups : List UInt16) : splitDouble [] (colons groups).toList = none := by
  have h := splitDouble_colons groups [] []
  rwa [List.append_nil] at h

theorem splitDouble_shortened (front back : List UInt16) :
    splitDouble [] (colons front ++ "::" ++ colons back).toList =
      some ((colons front).toList, (colons back).toList) := by
  have h := splitDouble_colons front [] (':' :: ':' :: (colons back).toList)
  rw [splitDouble] at h
  simpa using h

theorem ofGroups?_toList (groups : Vector UInt16 8) :
    ofGroups? groups.toList = some (.v6 groups) := by
  rw [ofGroups?, dif_pos (by simp)]
  simp [← Vector.toList_toArray]

theorem read6?_whole (groups : Vector UInt16 8) :
    read6? (colons groups.toList).toList = some (.v6 groups) := by
  rw [read6?, splitDouble_whole, readGroups?_colons]
  exact ofGroups?_toList groups

theorem read6?_shortened {groups : Vector UInt16 8} {front back : List UInt16} {n : Nat} (hn : 0 < n)
    (hgroups : groups.toList = front ++ List.replicate n 0 ++ back) :
    read6? (colons front ++ "::" ++ colons back).toList = some (.v6 groups) := by
  have hlength : front.length + n + back.length = 8 := by
    simpa [Nat.add_assoc] using (congrArg List.length hgroups).symm
  have hn : 8 - front.length - back.length = n := by omega
  have hroom : ¬ 7 < front.length + back.length := by omega
  have hpoint : (colons front).toList.contains '.' = false := by
    simpa using point_not_mem_colons front
  rw [read6?, splitDouble_shortened]
  simp only [readGroups?_colons, hpoint, hn, Bool.or_false, decide_eq_true_eq, if_neg hroom]
  rw [← hgroups]
  exact ofGroups?_toList groups

/-! ## Four bytes -/

theorem point_not_mem_byteText (b : UInt8) : '.' ∉ byteText b := not_mem_byteText (by decide) b

theorem toList_text4 (a b c d : UInt8) :
    (text4 a b c d).toList =
      byteText a ++ '.' :: (byteText b ++ '.' :: (byteText c ++ '.' :: byteText d)) := by
  have hbyte : ∀ b : UInt8, (toString b).toList = byteText b := fun b => by
    change (toString b.toNat).toList = _
    rw [Nat.toString_eq_ofList_toDigits, String.toList_ofList, byteText]
  have hpoint : toString "." = "." := rfl
  rw [text4]
  simp [hbyte, hpoint]

theorem colon_not_mem_text4 (a b c d : UInt8) : ':' ∉ (text4 a b c d).toList := by
  have hbyte : ∀ b, ':' ∉ byteText b := not_mem_byteText (by decide)
  rw [toList_text4]
  simp [hbyte]

theorem read4?_text4 (a b c d : UInt8) : read4? (text4 a b c d).toList = some (.v4 a b c d) := by
  have hparts : Text.parts '.' (text4 a b c d).toList = [a, b, c, d].map byteText := by
    rw [toList_text4, Text.parts_append_cons (point_not_mem_byteText a),
      Text.parts_append_cons (point_not_mem_byteText b),
      Text.parts_append_cons (point_not_mem_byteText c),
      Text.parts_of_not_mem (point_not_mem_byteText d)]
    rfl
  have hbytes : ([a, b, c, d].map byteText).mapM readByte? = some [a, b, c, d] := by
    rw [Text.mapM_eq_some_iff, List.forall₂_map_left_iff, List.forall₂_same]
    exact fun b _ => readByte?_byteText b
  rw [read4?, hparts, hbytes]

/-- A colon is no part of four bytes. -/
theorem read4?_of_colon {cs : List Char} (h : ':' ∈ cs) : read4? cs = none := by
  obtain ⟨part, hpart, hmem⟩ : ∃ part ∈ Text.parts '.' cs, ':' ∈ part :=
    Text.exists_part_of_mem h (by decide)
  have hread : readByte? part = none := by
    have hplain : part.all Document.isDigit = false :=
      List.all_eq_false.mpr ⟨':', hmem, by decide⟩
    rw [readByte?, hplain]
    rfl
  have hnone : (Text.parts '.' cs).mapM readByte? = none := by
    rw [Option.eq_none_iff_forall_ne_some]
    intro values hvalues
    obtain ⟨b, hb⟩ := Text.exists_mapM_iff.mp ⟨values, hvalues⟩ part hpart
    cases hread.symm.trans hb
  rw [read4?, hnone]

/-! ## Four bytes behind a mark -/

def word (high low : UInt8) : UInt16 := .ofNat (high.toNat * 256 + low.toNat)

theorem word_bytes (x : UInt16) : word (x >>> 8).toUInt8 x.toUInt8 = x := by
  have hx := x.toNat_lt
  have hhigh : (x >>> 8).toUInt8.toNat = x.toNat / 256 := by
    simp [Nat.shiftRight_eq_div_pow]
    omega
  have hlow : x.toUInt8.toNat = x.toNat % 256 := by simp
  rw [word, hhigh, hlow, Nat.div_add_mod', UInt16.ofNat_toNat]

theorem embedded?_eq_some {groups : List UInt16} {a b c d : UInt8}
    (h : embedded? groups = some (a, b, c, d)) :
    groups = [0, 0, 0, 0, 0, 0xFFFF, word a b, word c d] := by
  revert h
  fun_cases embedded? groups
  · intro h
    cases h
    rw [word_bytes, word_bytes]
  · nofun

/-- The group in front of four bytes. -/
def ones : List Char := ['f', 'f', 'f', 'f']

theorem readGroups?_embedded (a b c d : UInt8) :
    readGroups? (ones ++ ':' :: (text4 a b c d).toList) =
      some [0xFFFF, word a b, word c d] := by
  have hones : readGroup? ones = some 0xFFFF := by decide
  rw [readGroups?, Text.parts_append_cons (by decide),
    Text.parts_of_not_mem (colon_not_mem_text4 a b c d)]
  simp [read4?_text4, hones, word]

theorem read6?_embedded (a b c d : UInt8) :
    read6? ("::ffff:" ++ text4 a b c d).toList =
      some (.v6 #v[0, 0, 0, 0, 0, 0xFFFF, word a b, word c d]) := by
  have htext : ("::ffff:" ++ text4 a b c d).toList =
      ':' :: ':' :: (ones ++ ':' :: (text4 a b c d).toList) := by
    simp [ones]
  have hnil : readGroups? [] = some [] := rfl
  rw [htext, read6?, splitDouble]
  simp only [List.reverse_nil, hnil, readGroups?_embedded]
  rfl

/-! ## All addresses -/

/-- How groups are written: with four bytes at the end if they embed them, else with a double colon
for the first longest run of two or more zeros, else all of them. -/
inductive Written : List UInt16 → String → Prop
  | embedded (a b c d : UInt8) :
      Written [0, 0, 0, 0, 0, 0xFFFF, word a b, word c d]
        ("::ffff:" ++ text4 a b c d)
  | shortened {groups : List UInt16} {run : ZeroRun} (plain : embedded? groups = none)
      (longest : run.Longest groups) (two : 2 ≤ run.length) :
      Written groups
        (colons (groups.take run.start) ++ "::" ++ colons (groups.drop (run.start + run.length)))
  | whole {groups : List UInt16} (plain : embedded? groups = none)
      (short : ∀ run : ZeroRun, run.In groups → run.length < 2) : Written groups (colons groups)

theorem written_text6 (groups : List UInt16) : Written groups (text6 groups) := by
  rw [text6]
  cases hembedded : embedded? groups with
  | some bytes =>
    obtain ⟨a, b, c, d⟩ := bytes
    rw [embedded?_eq_some hembedded]
    exact .embedded a b c d
  | none =>
    have hlongest := ZeroRun.longest_of_search groups
    by_cases htwo : 1 < (longestZeros 0 {} {} groups).length
    · simp only [if_pos htwo]
      exact .shortened hembedded hlongest htwo
    · simp only [if_neg htwo]
      refine .whole hembedded fun run hrun => ?_
      have hle := hlongest.longest run hrun
      omega

theorem Written.read6? {groups : Vector UInt16 8} {text : String} (h : Written groups.toList text) :
    Address.read6? text.toList = some (.v6 groups) := by
  -- `Written` is about any list, the groups of an address are eight
  generalize hlist : groups.toList = list at h
  cases h with
  | embedded a b c d =>
    rw [read6?_embedded]
    congr 2
    exact (Vector.toList_inj.mp hlist).symm
  | shortened plain longest two =>
    subst hlist
    exact read6?_shortened (by omega) longest.inside.split
  | whole plain short =>
    subst hlist
    exact read6?_whole groups

theorem Written.colon {groups : Vector UInt16 8} {text : String} (h : Written groups.toList text) :
    ':' ∈ text.toList := by
  generalize hlist : groups.toList = list at h
  cases h with
  | embedded a b c d => simp
  | shortened plain longest two => simp
  | whole plain short =>
    have hlength : list.length = 8 := by rw [← hlist, Vector.length_toList]
    match list, hlength with
    | g :: g' :: rest, _ =>
      rw [colons_cons_cons]
      simp

/-- Every address is read back from its text. -/
theorem read?_text (address : Address) : read? address.text.toList = some address := by
  cases address with
  | v4 a b c d =>
    rw [text, read?, read4?_text4]
    rfl
  | v6 groups =>
    have hwritten := written_text6 groups.toList
    rw [text, read?, read4?_of_colon hwritten.colon, hwritten.read6?]
    rfl

theorem text_injective : Function.Injective text := by
  intro address address' h
  have hread := read?_text address
  rw [h, read?_text] at hread
  exact (Option.some.inj hread).symm

end TunnelAgent.Address
