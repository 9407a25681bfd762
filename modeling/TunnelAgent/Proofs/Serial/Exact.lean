import TunnelAgent.Serial

/-! # Readers that are the exact inverses of their writers

A format is exact if it reads a value from precisely the bytes that it writes for that value, in
front of any other bytes. The values are those whose counts fit into the eight bytes of a count; a
form shorter than `2 ^ 64` bytes, as every form in memory is, has only such counts. Exactness is
proved once for each way of putting formats together. -/

namespace TunnelAgent

theorem Utf8.decode?_encode (s : String) : Utf8.decode? (Utf8.encode s) = some s := by
  have hbytes : (⟨s.toByteArray.data.toList.toArray⟩ : ByteArray) = s.toByteArray := by
    rw [Array.toArray_toList]
  unfold Utf8.decode? Utf8.encode
  rw [String.toUTF8_eq_toByteArray, hbytes, String.fromUTF8?, dif_pos s.isValidUTF8]
  rfl

theorem Utf8.encode_of_decode? {bytes : Bytes} {s : String} (h : Utf8.decode? bytes = some s) :
    bytes = Utf8.encode s := by
  unfold Utf8.decode? String.fromUTF8? at h
  split at h
  · cases h
    rfl
  · cases h

namespace Serial.Format

variable {α β : Type}

structure Exact (f : Format α) (Counted : α → Prop) : Prop where
  read_write : ∀ a rest, Counted a → f.read (f.write a ++ rest) = .ok (a, rest)
  of_read : ∀ {bytes a rest}, f.read bytes = .ok (a, rest) → Counted a ∧ bytes = f.write a ++ rest
  short : ∀ a, (f.write a).length < Bytes.words 8 → Counted a

/-- No value is written as nothing. -/
def Writes (f : Format α) : Prop := ∀ a, 0 < (f.write a).length

/-- What a text's count can say. -/
def CountedText (s : String) : Prop := (Utf8.encode s).length < Bytes.words 8

theorem Exact.congr {f : Format α} {C D : α → Prop} (h : f.Exact C) (hiff : ∀ a, C a ↔ D a) :
    f.Exact D := by
  obtain rfl : C = D := funext fun a => propext (hiff a)
  exact h

theorem word_read (w n : Nat) (rest : Bytes) :
    (word w).read (Bytes.little w n ++ rest) = .ok (n % Bytes.words w, rest) := by
  have hlength := Bytes.length_little w n
  simp only [word]
  rw [List.take_left' hlength, List.drop_left' hlength, if_pos hlength, Bytes.ofLittle_little]

theorem of_word_read {w n : Nat} {bytes rest : Bytes} (h : (word w).read bytes = .ok (n, rest)) :
    n < Bytes.words w ∧ bytes = Bytes.little w n ++ rest := by
  simp only [word] at h
  split at h
  · rename_i hlength
    cases h
    have hlt := Bytes.ofLittle_lt (bytes.take w)
    have hlittle := Bytes.little_ofLittle (bytes.take w)
    rw [hlength] at hlt hlittle
    exact ⟨hlt, by rw [hlittle, List.take_append_drop]⟩
  · cases h

theorem choice_read {count n : Nat} (rest : Bytes) (hcount : count ≤ Bytes.words 4) (hn : n < count) :
    (choice count).read (Bytes.little 4 n ++ rest) = .ok (n, rest) := by
  have hlt : n < Bytes.words 4 := Nat.lt_of_lt_of_le hn hcount
  have hword : (UInt32.ofNat n).toNat = n := UInt32.toNat_ofNat_of_lt' hlt
  simp only [choice, u32, Format.via, word_read, Nat.mod_eq_of_lt hlt, hword, if_pos hn]

theorem of_choice_read {count n : Nat} {bytes rest : Bytes}
    (h : (choice count).read bytes = .ok (n, rest)) :
    n < count ∧ bytes = Bytes.little 4 n ++ rest := by
  simp only [choice, u32, Format.via] at h
  split at h
  · cases h
  rename_i m after hfirst
  split at hfirst <;> cases hfirst
  rename_i m hword
  obtain ⟨hm, hbytes⟩ := of_word_read hword
  rw [UInt32.toNat_ofNat_of_lt' hm] at h
  split at h <;> cases h
  exact ⟨‹_›, hbytes⟩

/-- Values under numbers: those of a word, or of a choice. -/
theorem exact_numbered {f : Format Nat} {bound : Nat} {forth : Nat → β} {back : β → Nat}
    (hread : ∀ n rest, n < bound → f.read (f.write n ++ rest) = .ok (n, rest))
    (hof : ∀ n bytes rest, f.read bytes = .ok (n, rest) → n < bound ∧ bytes = f.write n ++ rest)
    (hlt : ∀ b, back b < bound) (hback : ∀ b, forth (back b) = b)
    (hforth : ∀ n, n < bound → back (forth n) = n) : (f.via forth back).Exact fun _ => True := by
  refine ⟨?_, ?_, fun _ _ => trivial⟩
  · intro b rest _
    simp only [Format.via, hread (back b) rest (hlt b), hback]
  · intro bytes b rest h
    simp only [Format.via] at h
    split at h <;> cases h
    rename_i n hn
    obtain ⟨hn, hbytes⟩ := hof n bytes rest hn
    simp only [Format.via, hforth n hn]
    exact ⟨trivial, hbytes⟩

theorem exact_word {w : Nat} {forth : Nat → β} {back : β → Nat}
    (hlt : ∀ b, back b < Bytes.words w) (hback : ∀ b, forth (back b) = b)
    (hforth : ∀ n, n < Bytes.words w → back (forth n) = n) :
    ((word w).via forth back).Exact fun _ => True := by
  refine exact_numbered (fun n rest hn => ?_) (fun n bytes rest => of_word_read) hlt hback hforth
  have hread := word_read w n rest
  rwa [Nat.mod_eq_of_lt hn] at hread

theorem exact_choice {count : Nat} {forth : Nat → β} {back : β → Nat} (hcount : count ≤ Bytes.words 4)
    (hlt : ∀ b, back b < count) (hback : ∀ b, forth (back b) = b)
    (hforth : ∀ n, n < count → back (forth n) = n) :
    ((choice count).via forth back).Exact fun _ => True :=
  exact_numbered (fun _ rest hn => choice_read rest hcount hn) (fun _ _ _ => of_choice_read) hlt
    hback hforth

theorem exact_u8 : u8.Exact fun _ => True :=
  exact_word (fun n => n.toNat_lt) (fun _ => UInt8.ofNat_toNat) fun _ h => UInt8.toNat_ofNat_of_lt' h

theorem exact_u16 : u16.Exact fun _ => True :=
  exact_word (fun n => n.toNat_lt) (fun _ => UInt16.ofNat_toNat) fun _ h => UInt16.toNat_ofNat_of_lt' h

theorem exact_u32 : u32.Exact fun _ => True :=
  exact_word (fun n => n.toNat_lt) (fun _ => UInt32.ofNat_toNat) fun _ h => UInt32.toNat_ofNat_of_lt' h

theorem exact_u64 : u64.Exact fun _ => True :=
  exact_word (fun n => n.toNat_lt) (fun _ => UInt64.ofNat_toNat) fun _ h => UInt64.toNat_ofNat_of_lt' h

theorem Exact.via {f : Format α} {C : α → Prop} {forth : α → β} {back : β → α} (h : f.Exact C)
    (hback : ∀ b, forth (back b) = b) (hforth : ∀ a, C a → back (forth a) = a) :
    (f.via forth back).Exact fun b => C (back b) := by
  refine ⟨?_, ?_, fun b => h.short (back b)⟩
  · intro b rest hb
    simp only [Format.via, h.read_write _ rest hb, hback]
  · intro bytes b rest hread
    simp only [Format.via] at hread
    split at hread <;> cases hread
    rename_i a hread
    obtain ⟨ha, hbytes⟩ := h.of_read hread
    simp only [Format.via, hforth a ha]
    exact ⟨ha, hbytes⟩

theorem Exact.pair {f : Format α} {g : Format β} {C : α → Prop} {D : β → Prop} (hf : f.Exact C)
    (hg : g.Exact D) : (f.pair g).Exact fun p => C p.1 ∧ D p.2 := by
  refine ⟨?_, ?_, ?_⟩
  · intro p rest hp
    simp only [Format.pair]
    rw [List.append_assoc, hf.read_write _ _ hp.1]
    simp only
    rw [hg.read_write _ _ hp.2]
  · intro bytes p rest hread
    simp only [Format.pair] at hread
    split at hread
    · cases hread
    rename_i a middle hfirst
    split at hread <;> cases hread
    rename_i b rest hsecond
    obtain ⟨ha, hbytes⟩ := hf.of_read hfirst
    obtain ⟨hb, hmiddle⟩ := hg.of_read hsecond
    refine ⟨⟨ha, hb⟩, ?_⟩
    rw [hbytes, hmiddle, ← List.append_assoc]
    rfl
  · intro p hlt
    simp only [Format.pair, List.length_append] at hlt
    exact ⟨hf.short _ (by omega), hg.short _ (by omega)⟩

theorem exact_text : text.Exact CountedText := by
  refine ⟨?_, ?_, ?_⟩
  · intro s rest hs
    simp only [text, List.append_assoc]
    rw [word_read, Nat.mod_eq_of_lt hs]
    simp only
    rw [List.take_left, List.drop_left, if_pos rfl, Utf8.decode?_encode]
  · intro bytes s rest hread
    simp only [text] at hread
    split at hread
    · cases hread
    rename_i n after hcount
    obtain ⟨hn, hbytes⟩ := of_word_read hcount
    split at hread
    · rename_i hlength
      split at hread <;> cases hread
      rename_i hdecode
      have hfront := Utf8.encode_of_decode? hdecode
      have hcounted : (Utf8.encode s).length = n := by rw [← hfront, hlength]
      refine ⟨by rw [CountedText, hcounted]; exact hn, ?_⟩
      simp only [text]
      rw [hcounted, ← hfront, hbytes, List.append_assoc, List.take_append_drop]
    · cases hread
  · intro s hlt
    rw [show (text.write s).length = 8 + (Utf8.encode s).length by simp [text]] at hlt
    exact Nat.lt_of_le_of_lt (Nat.le_add_left _ _) hlt

theorem Exact.option {f : Format α} {C : α → Prop} (h : f.Exact C) :
    f.option.Exact fun o => ∀ a ∈ o, C a := by
  refine ⟨?_, ?_, ?_⟩
  · intro o rest ho
    cases o with
    | none => rfl
    | some a =>
      simp only [Format.option, List.cons_append]
      rw [if_neg (by decide), if_pos trivial, h.read_write a rest (ho a rfl)]
  · intro bytes o rest hread
    cases bytes with
    | nil => cases hread
    | cons tag after =>
      simp only [Format.option] at hread
      split at hread
      · cases hread
        subst tag
        exact ⟨by simp, rfl⟩
      split at hread
      · split at hread <;> cases hread
        rename_i a rest hvalue
        obtain ⟨ha, hafter⟩ := h.of_read hvalue
        subst tag
        refine ⟨by simpa using ha, ?_⟩
        rw [hafter]
        rfl
      · cases hread
  · intro o hlt a ho
    obtain rfl : o = some a := ho
    simp only [Format.option, List.length_cons] at hlt
    exact h.short a (by omega)

theorem readMany_flatMap {f : Format α} {C : α → Prop} (h : f.Exact C) (xs acc : List α)
    (rest : Bytes) (hxs : ∀ x ∈ xs, C x) :
    f.readMany xs.length acc (xs.flatMap f.write ++ rest) = .ok (acc.reverse ++ xs, rest) := by
  induction xs generalizing acc with
  | nil => simp [readMany]
  | cons x xs ih =>
    rw [List.flatMap_cons, List.length_cons, readMany, List.append_assoc,
      h.read_write x _ (hxs x List.mem_cons_self)]
    simp only
    rw [ih (x :: acc) fun y hy => hxs y (List.mem_cons_of_mem _ hy), List.reverse_cons,
      List.append_assoc, List.singleton_append]

theorem of_readMany {f : Format α} {C : α → Prop} (h : f.Exact C) {n : Nat} {acc ys : List α}
    {bytes rest : Bytes} (hread : f.readMany n acc bytes = .ok (ys, rest)) :
    ∃ xs : List α, ys = acc.reverse ++ xs ∧ xs.length = n ∧ (∀ x ∈ xs, C x) ∧
      bytes = xs.flatMap f.write ++ rest := by
  induction n generalizing acc bytes with
  | zero =>
    cases hread
    exact ⟨[], by simp, rfl, by simp, rfl⟩
  | succ n ih =>
    rw [readMany] at hread
    split at hread
    · cases hread
    rename_i x after hfirst
    obtain ⟨hx, hbytes⟩ := h.of_read hfirst
    obtain ⟨xs, hys, hlength, hxs, hafter⟩ := ih hread
    refine ⟨x :: xs, ?_, by rw [List.length_cons, hlength], by simpa using ⟨hx, hxs⟩, ?_⟩
    · rw [hys, List.reverse_cons, List.append_assoc, List.singleton_append]
    · rw [hbytes, hafter, List.flatMap_cons, List.append_assoc]

theorem length_le_flatMap {f : Format α} (h : f.Writes) (xs : List α) :
    xs.length ≤ (xs.flatMap f.write).length := by
  induction xs with
  | nil => exact Nat.le_refl 0
  | cons x xs ih =>
    rw [List.flatMap_cons, List.length_append, List.length_cons]
    have hpos := h x
    omega

theorem length_le_of_mem_flatMap {f : Format α} {x : α} {xs : List α} (h : x ∈ xs) :
    (f.write x).length ≤ (xs.flatMap f.write).length := by
  rw [List.flatMap_def]
  exact (List.sublist_flatten_of_mem (List.mem_map_of_mem h)).length_le

theorem Exact.sequence {f : Format α} {C : α → Prop} (h : f.Exact C) (hwrites : f.Writes) :
    f.sequence.Exact fun xs => xs.length < Bytes.words 8 ∧ ∀ x ∈ xs, C x := by
  refine ⟨?_, ?_, ?_⟩
  · intro xs rest hxs
    simp only [Format.sequence, List.append_assoc]
    rw [word_read, Nat.mod_eq_of_lt hxs.1]
    exact readMany_flatMap h xs [] rest hxs.2
  · intro bytes xs rest hread
    simp only [Format.sequence] at hread
    split at hread
    · cases hread
    rename_i n after hcount
    obtain ⟨hn, hbytes⟩ := of_word_read hcount
    obtain ⟨ys, rfl, rfl, hys, hafter⟩ := of_readMany h hread
    refine ⟨⟨hn, hys⟩, ?_⟩
    rw [hbytes, hafter, ← List.append_assoc]
    rfl
  · intro xs hlt
    have hlength : (f.sequence.write xs).length = 8 + (xs.flatMap f.write).length := by
      simp [Format.sequence]
    have hcount := length_le_flatMap hwrites xs
    refine ⟨by omega, fun x hx => h.short x ?_⟩
    have hle := length_le_of_mem_flatMap (f := f) hx
    omega

/-- A byte string in one piece is the sequence of its bytes. -/
theorem blob_eq_sequence : blob = u8.sequence := by
  have hbyte : ∀ b : UInt8, u8.write b = [b] := by
    intro b
    simp [u8, Format.via, word, Bytes.little]
  have hbytes : ∀ bytes : Bytes, bytes.flatMap u8.write = bytes := by
    intro bytes
    induction bytes with
    | nil => rfl
    | cons b rest ih => rw [List.flatMap_cons, hbyte, ih, List.singleton_append]
  have hwrite : blob.write = u8.sequence.write := by
    funext bytes
    show _ = Bytes.little 8 bytes.length ++ bytes.flatMap u8.write
    rw [hbytes]
    rfl
  rw [show blob = ⟨blob.write, u8.sequence.read⟩ from rfl, hwrite]

theorem writes_u8 : u8.Writes := by
  intro b
  simp [u8, Format.via, word]

theorem writes_text : text.Writes := by
  intro s
  rw [show (text.write s).length = 8 + (Utf8.encode s).length by simp [text]]
  exact Nat.add_pos_left (by decide) _

theorem exact_blob : blob.Exact fun bytes => bytes.length < Bytes.words 8 := by
  rw [blob_eq_sequence]
  exact (exact_u8.sequence writes_u8).congr fun bytes => by simp

/-- A value is decoded from its form and from nothing else, whatever follows. -/
theorem Exact.decode_eq_ok_iff {f : Format α} {C : α → Prop} (h : f.Exact C) {bytes : Bytes} {a : α} :
    f.decode bytes = .ok a ↔ C a ∧ ∃ rest, bytes = f.write a ++ rest := by
  unfold Format.decode
  constructor
  · intro hdecode
    split at hdecode <;> cases hdecode
    rename_i rest hread
    obtain ⟨ha, hbytes⟩ := h.of_read hread
    exact ⟨ha, rest, hbytes⟩
  · intro hform
    obtain ⟨ha, rest, rfl⟩ := hform
    rw [h.read_write a rest ha]

theorem Exact.decode_write {f : Format α} {C : α → Prop} (h : f.Exact C) {a : α}
    (hlt : (f.write a).length < Bytes.words 8) : f.decode (f.write a) = .ok a :=
  h.decode_eq_ok_iff.mpr ⟨h.short a hlt, [], (List.append_nil _).symm⟩

end Serial.Format

end TunnelAgent
