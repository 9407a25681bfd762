import TunnelAgent.Proofs.Serial.Exact

/-! # Forms that are cut short

A written form is a row of parts: texts behind their counts, and bytes of any other kind. Where the
form ends before its last byte, its reader meets the end in the part that holds the first missing
byte, with everything before it read. The fault is that of a short text when all eight bytes of a
text's count are there, and the end of the bytes otherwise. Like exactness, this is proved once for
each way of putting formats together. -/

namespace TunnelAgent

namespace Serial

/-- A part of a written form: a text behind its count, or bytes of any other kind. -/
inductive Part where
  | bytes (bytes : Bytes)
  | text (content : String)

namespace Part

def form : Part → Bytes
  | bytes b => b
  | text s => Format.text.write s

/-- What a reader meets if its bytes end `n` bytes into the part. -/
def fault : Part → Nat → Fault
  | bytes _, _ => .endOfBytes
  | text _, n => if n < 8 then .endOfBytes else .shortText

@[simp] theorem form_bytes (b : Bytes) : (bytes b).form = b := rfl

@[simp] theorem form_text (s : String) : (text s).form = Format.text.write s := rfl

end Part

namespace Part

variable {α : Type}

def optional (parts : α → List Part) : Option α → List Part
  | none => [bytes [0]]
  | some a => bytes [1] :: parts a

def sequence (parts : α → List Part) (xs : List α) : List Part :=
  bytes (Bytes.little 8 xs.length) :: xs.flatMap parts

end Part

/-- The form that the parts make up. -/
def written (parts : List Part) : Bytes := parts.flatMap Part.form

/-- Byte `n` lies in the content of a text, behind the eight bytes of its count. -/
def InText (parts : List Part) (n : Nat) : Prop :=
  ∃ before s after, parts = before ++ .text s :: after ∧ (written before).length + 8 ≤ n ∧
    n < (written before).length + 8 + (Utf8.encode s).length

/-- What a reader meets if its bytes end before byte `n` of the parts' form. -/
def cutFault : List Part → Nat → Fault
  | [], _ => .endOfBytes
  | part :: rest, n =>
    if n < part.form.length then part.fault n else cutFault rest (n - part.form.length)

@[simp] theorem written_nil : written [] = [] := rfl

@[simp] theorem written_cons (part : Part) (rest : List Part) :
    written (part :: rest) = part.form ++ written rest := rfl

@[simp] theorem written_append (parts parts' : List Part) :
    written (parts ++ parts') = written parts ++ written parts' := List.flatMap_append

theorem length_text_write (s : String) :
    (Format.text.write s).length = 8 + (Utf8.encode s).length := by
  simp [Format.text]

theorem cutFault_append (parts parts' : List Part) (n : Nat) :
    cutFault (parts ++ parts') n =
      if n < (written parts).length then cutFault parts n
      else cutFault parts' (n - (written parts).length) := by
  induction parts generalizing n with
  | nil => simp
  | cons part rest ih =>
    rw [List.cons_append, cutFault, cutFault, ih, written_cons, List.length_append]
    by_cases hpart : n < part.form.length
    · rw [if_pos hpart, if_pos (by omega), if_pos hpart]
    · rw [if_neg hpart, if_neg hpart, Nat.sub_sub]
      by_cases hrest : n - part.form.length < (written rest).length
      · rw [if_pos hrest, if_pos (by omega)]
      · rw [if_neg hrest, if_neg (by omega)]

theorem cutFault_bytes (bs : List Bytes) (n : Nat) : cutFault (bs.map .bytes) n = .endOfBytes := by
  induction bs generalizing n with
  | nil => rfl
  | cons b rest ih =>
    rw [List.map_cons, cutFault]
    split
    · rfl
    · exact ih _

theorem cutFault_eq (parts : List Part) (n : Nat) :
    cutFault parts n = .endOfBytes ∨ cutFault parts n = .shortText := by
  induction parts generalizing n with
  | nil => exact .inl rfl
  | cons part rest ih =>
    rw [cutFault]
    split
    · cases part with
      | bytes b => exact .inl rfl
      | text s =>
        rw [Part.fault]
        split
        · exact .inl rfl
        · exact .inr rfl
    · exact ih _

theorem not_inText_nil (n : Nat) : ¬InText [] n := by
  rintro ⟨before, s, after, hparts, -⟩
  simp at hparts

/-- The content that holds a byte is the first part's, or it is further on. -/
theorem inText_cons_iff (part : Part) (rest : List Part) (n : Nat) :
    InText (part :: rest) n ↔
      (∃ s, part = .text s ∧ 8 ≤ n ∧ n < part.form.length) ∨
        (part.form.length ≤ n ∧ InText rest (n - part.form.length)) := by
  constructor
  · rintro ⟨before, s, after, hparts, hfrom, hbelow⟩
    cases before with
    | nil =>
      obtain ⟨rfl, rfl⟩ := List.cons.inj hparts
      refine .inl ⟨s, rfl, by simpa using hfrom, ?_⟩
      rw [Part.form_text, length_text_write]
      simpa using hbelow
    | cons first before =>
      obtain ⟨rfl, rfl⟩ := List.cons.inj hparts
      rw [written_cons, List.length_append] at hfrom hbelow
      exact .inr ⟨by omega, before, s, after, rfl, by omega, by omega⟩
  · rintro (⟨s, rfl, hfrom, hbelow⟩ | ⟨hpast, before, s, after, rfl, hfrom, hbelow⟩)
    · rw [Part.form_text, length_text_write] at hbelow
      exact ⟨[], s, rest, rfl, by simpa using hfrom, by simpa using hbelow⟩
    · refine ⟨part :: before, s, after, rfl, ?_, ?_⟩
      · rw [written_cons, List.length_append]
        omega
      · rw [written_cons, List.length_append]
        omega

theorem cutFault_eq_shortText_iff (parts : List Part) (n : Nat) :
    cutFault parts n = .shortText ↔ InText parts n := by
  induction parts generalizing n with
  | nil => exact iff_of_false (fun h => by cases h) (not_inText_nil n)
  | cons part rest ih =>
    rw [cutFault, inText_cons_iff]
    by_cases hpart : n < part.form.length
    · rw [if_pos hpart, or_iff_left fun h => Nat.not_le.mpr hpart h.1]
      cases part with
      | bytes b => simp [Part.fault]
      | text s =>
        rw [Part.fault]
        by_cases hcount : n < 8
        · simp [hcount, Nat.not_le.mpr hcount]
        · rw [if_neg hcount]
          exact iff_of_true rfl ⟨s, rfl, Nat.not_lt.mp hcount, hpart⟩
    · rw [if_neg hpart, ih]
      simp [hpart, Nat.not_lt.mp hpart]

namespace Format

variable {α β : Type}

/-- The format is exact, its forms are made up of the given parts, and a form that is cut is refused
with the fault of the cut. -/
structure Cuts (f : Format α) (Counted : α → Prop) (parts : α → List Part) : Prop
    extends f.Exact Counted where
  form : ∀ a, f.write a = written (parts a)
  read_cut : ∀ a n, Counted a → n < (f.write a).length →
    f.read ((f.write a).take n) = .error (cutFault (parts a) n)

theorem Cuts.congr {f : Format α} {C D : α → Prop} {parts parts' : α → List Part}
    (h : f.Cuts C parts) (hiff : ∀ a, C a ↔ D a) (hparts : ∀ a, parts a = parts' a) :
    f.Cuts D parts' := by
  obtain rfl : C = D := funext fun a => propext (hiff a)
  obtain rfl : parts = parts' := funext hparts
  exact h

theorem word_read_cut {w n v : Nat} (h : n < w) :
    (word w).read ((Bytes.little w v).take n) = .error .endOfBytes := by
  simp only [word]
  rw [if_neg]
  simp only [List.length_take, Bytes.length_little]
  omega

theorem choice_read_cut {count n v : Nat} (h : n < 4) :
    (choice count).read ((Bytes.little 4 v).take n) = .error .endOfBytes := by
  simp only [choice, u32, Format.via, word_read_cut h]

/-- Values under numbers: those of a word, or of a choice. -/
theorem Exact.cuts_numbered {f : Format Nat} {width : Nat} {forth : Nat → β} {back : β → Nat}
    {C : β → Prop} (h : (f.via forth back).Exact C)
    (hwrite : ∀ v, f.write v = Bytes.little width v)
    (hcut : ∀ {n v}, n < width → f.read ((Bytes.little width v).take n) = .error .endOfBytes) :
    (f.via forth back).Cuts C fun b => [.bytes (Bytes.little width (back b))] := by
  refine ⟨h, fun b => ?_, fun b n _ hn => ?_⟩
  · simp [Format.via, hwrite]
  · simp only [Format.via, hwrite, Bytes.length_little] at hn ⊢
    simp [hcut hn, cutFault, Part.fault]

theorem cuts_u8 : u8.Cuts (fun _ => True) fun b => [.bytes (Bytes.little 1 b.toNat)] :=
  exact_u8.cuts_numbered (fun _ => rfl) word_read_cut

theorem cuts_u16 : u16.Cuts (fun _ => True) fun n => [.bytes (Bytes.little 2 n.toNat)] :=
  exact_u16.cuts_numbered (fun _ => rfl) word_read_cut

theorem cuts_u32 : u32.Cuts (fun _ => True) fun n => [.bytes (Bytes.little 4 n.toNat)] :=
  exact_u32.cuts_numbered (fun _ => rfl) word_read_cut

theorem cuts_u64 : u64.Cuts (fun _ => True) fun n => [.bytes (Bytes.little 8 n.toNat)] :=
  exact_u64.cuts_numbered (fun _ => rfl) word_read_cut

theorem Cuts.via {f : Format α} {C : α → Prop} {parts : α → List Part} {forth : α → β} {back : β → α}
    (h : f.Cuts C parts) (hback : ∀ b, forth (back b) = b) (hforth : ∀ a, C a → back (forth a) = a) :
    (f.via forth back).Cuts (fun b => C (back b)) fun b => parts (back b) := by
  refine ⟨h.toExact.via hback hforth, fun b => h.form (back b), fun b n hb hn => ?_⟩
  simp only [Format.via] at hn ⊢
  rw [h.read_cut _ n hb hn]

/-- A cut of two values falls into the first one, or the first one is whole. -/
theorem Cuts.pair {f : Format α} {g : Format β} {C : α → Prop} {D : β → Prop}
    {parts : α → List Part} {parts' : β → List Part} (hf : f.Cuts C parts) (hg : g.Cuts D parts') :
    (f.pair g).Cuts (fun p => C p.1 ∧ D p.2) fun p => parts p.1 ++ parts' p.2 := by
  refine ⟨hf.toExact.pair hg.toExact, fun p => ?_, fun p n hp hn => ?_⟩
  · rw [written_append, ← hf.form, ← hg.form]
    rfl
  · simp only [Format.pair, List.length_append] at hn ⊢
    rw [cutFault_append, ← hf.form]
    by_cases hfirst : n < (f.write p.1).length
    · rw [if_pos hfirst, List.take_append_of_le_length (Nat.le_of_lt hfirst),
        hf.read_cut p.1 n hp.1 hfirst]
    · rw [if_neg hfirst, List.take_append, List.take_of_length_le (Nat.not_lt.mp hfirst),
        hf.read_write p.1 _ hp.1]
      simp only
      rw [hg.read_cut p.2 _ hp.2 (by omega)]

theorem cuts_text : text.Cuts CountedText fun s => [.text s] := by
  refine ⟨exact_text, fun s => by simp, fun s n hs hn => ?_⟩
  have hcut : cutFault [.text s] n = if n < 8 then .endOfBytes else .shortText := by
    rw [cutFault, Part.form_text, if_pos hn, Part.fault]
  have hlength := Bytes.length_little 8 (Utf8.encode s).length
  rw [length_text_write] at hn
  rw [hcut]
  simp only [text]
  by_cases hcount : n < 8
  · rw [if_pos hcount, List.take_append_of_le_length (by omega), word_read_cut hcount]
  · rw [if_neg hcount, List.take_append, List.take_of_length_le (by omega), word_read,
      Nat.mod_eq_of_lt hs]
    simp only
    rw [if_neg]
    rw [List.length_take, List.length_take, hlength]
    omega

theorem Cuts.option {f : Format α} {C : α → Prop} {parts : α → List Part} (h : f.Cuts C parts) :
    f.option.Cuts (fun o => ∀ a ∈ o, C a) (Part.optional parts) := by
  refine ⟨h.toExact.option, fun o => ?_, fun o n ho hn => ?_⟩
  · cases o with
    | none => rfl
    | some a => simp [Format.option, Part.optional, h.form]
  · cases o with
    | none =>
      obtain rfl : n = 0 := by simpa [Format.option] using hn
      rfl
    | some a =>
      cases n with
      | zero => rfl
      | succ n =>
        simp only [Format.option, List.length_cons, List.take_succ_cons] at hn ⊢
        rw [if_neg (by decide), if_pos trivial, h.read_cut a n (ho a rfl) (by omega)]
        simp [Part.optional, cutFault]

theorem written_flatMap {f : Format α} {C : α → Prop} {parts : α → List Part} (h : f.Cuts C parts)
    (xs : List α) : written (xs.flatMap parts) = xs.flatMap f.write := by
  induction xs with
  | nil => rfl
  | cons x xs ih => rw [List.flatMap_cons, List.flatMap_cons, written_append, ih, h.form]

/-- A cut list of values: some are whole, and the next one is cut. -/
theorem readMany_cut {f : Format α} {C : α → Prop} {parts : α → List Part} (h : f.Cuts C parts)
    (xs acc : List α) (n : Nat) (hxs : ∀ x ∈ xs, C x) (hn : n < (xs.flatMap f.write).length) :
    f.readMany xs.length acc ((xs.flatMap f.write).take n) = .error (cutFault (xs.flatMap parts) n) := by
  induction xs generalizing acc n with
  | nil => simp at hn
  | cons x xs ih =>
    have hx := hxs x List.mem_cons_self
    rw [List.flatMap_cons, List.length_append] at hn
    rw [List.flatMap_cons, List.flatMap_cons, List.length_cons, readMany, cutFault_append, ← h.form]
    by_cases hfirst : n < (f.write x).length
    · rw [if_pos hfirst, List.take_append_of_le_length (Nat.le_of_lt hfirst),
        h.read_cut x n hx hfirst]
    · rw [if_neg hfirst, List.take_append, List.take_of_length_le (Nat.not_lt.mp hfirst),
        h.read_write x _ hx]
      exact ih _ _ (fun y hy => hxs y (List.mem_cons_of_mem _ hy)) (by omega)

theorem Cuts.sequence {f : Format α} {C : α → Prop} {parts : α → List Part} (h : f.Cuts C parts)
    (hwrites : f.Writes) :
    f.sequence.Cuts (fun xs => xs.length < Bytes.words 8 ∧ ∀ x ∈ xs, C x) (Part.sequence parts) := by
  refine ⟨h.toExact.sequence hwrites, fun xs => ?_, fun xs n hxs hn => ?_⟩
  · rw [Part.sequence, written_cons, written_flatMap h]
    rfl
  · have hlength := Bytes.length_little 8 xs.length
    simp only [Format.sequence, List.length_append, hlength] at hn ⊢
    rw [Part.sequence, cutFault, Part.form_bytes, hlength]
    by_cases hcount : n < 8
    · rw [if_pos hcount, List.take_append_of_le_length (by omega), word_read_cut hcount]
      rfl
    · rw [if_neg hcount, List.take_append, List.take_of_length_le (by omega), word_read,
        Nat.mod_eq_of_lt hxs.1, hlength]
      exact readMany_cut h xs [] _ hxs.2 (by omega)

/-- No byte of a byte string lies in a text. -/
theorem cuts_blob :
    blob.Cuts (fun bytes => bytes.length < Bytes.words 8) fun bytes => [.bytes (blob.write bytes)] := by
  have hbytes : ∀ bytes : Bytes, bytes.flatMap (fun b => [Part.bytes (Bytes.little 1 b.toNat)]) =
      (bytes.map fun b => Bytes.little 1 b.toNat).map .bytes := by
    intro bytes
    rw [List.map_map, List.map_eq_flatMap]
    rfl
  have hsequence := cuts_u8.sequence writes_u8
  rw [← blob_eq_sequence] at hsequence
  refine ⟨exact_blob, fun bytes => by simp, fun bytes n hcount hn => ?_⟩
  rw [hsequence.read_cut bytes n ⟨hcount, fun _ _ => trivial⟩ hn, Part.sequence, hbytes,
    ← List.map_cons, cutFault_bytes]
  exact congrArg Except.error (cutFault_bytes [blob.write bytes] n).symm

end Format

end Serial

end TunnelAgent
