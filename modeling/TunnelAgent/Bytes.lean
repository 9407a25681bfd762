/-!
Byte strings and fixed-width words. `little w n` is the `w`-byte little-endian form of `n`
modulo `words w`, the number of such words, and `big` the same in the other order; `ofLittle` and
`ofBig` read them back. The two directions are inverse up to the width, which is what every
fixed-width field of the wire formats rests on.
-/

namespace TunnelAgent

abbrev Bytes := List UInt8

namespace Bytes

/-- How many words of `w` bytes there are. -/
def words (w : Nat) : Nat := Nat.pow 256 w

/-- The low `w` bytes of `n`, least significant first. -/
def little : Nat → Nat → Bytes
  | 0, _ => []
  | w + 1, n => UInt8.ofNat (n % 256) :: little w (n / 256)

def ofLittle : Bytes → Nat
  | [] => 0
  | b :: rest => b.toNat + 256 * ofLittle rest

/-- The low `w` bytes of `n`, most significant first. -/
def big (w n : Nat) : Bytes := (little w n).reverse

def ofBig (bytes : Bytes) : Nat := ofLittle bytes.reverse

@[simp] theorem length_little (w n : Nat) : (little w n).length = w := by
  induction w generalizing n with
  | zero => rfl
  | succ w ih => simp [little, ih]

@[simp] theorem length_big (w n : Nat) : (big w n).length = w := by simp [big]

theorem words_succ (w : Nat) : words (w + 1) = 256 * words w := Nat.mul_comm _ _

theorem ofLittle_little (w n : Nat) : ofLittle (little w n) = n % words w := by
  induction w generalizing n with
  | zero => exact (Nat.mod_one n).symm
  | succ w ih =>
    have hb : (UInt8.ofNat (n % 256)).toNat = n % 256 := by
      simp [UInt8.toNat_ofNat']
    simp only [little, ofLittle, ih, hb]
    rw [words_succ, Nat.mod_mul]

theorem little_ofLittle (bytes : Bytes) : little bytes.length (ofLittle bytes) = bytes := by
  induction bytes with
  | nil => rfl
  | cons b rest ih =>
    have hb := b.toNat_lt
    have h1 : (b.toNat + 256 * ofLittle rest) % 256 = b.toNat := by omega
    have h2 : (b.toNat + 256 * ofLittle rest) / 256 = ofLittle rest := by omega
    simp only [List.length_cons, little, ofLittle, h1, h2, ih]
    simp

theorem ofLittle_lt (bytes : Bytes) : ofLittle bytes < words bytes.length := by
  induction bytes with
  | nil => exact Nat.one_pos
  | cons b rest ih =>
    have hb := b.toNat_lt
    simp only [List.length_cons, ofLittle, words_succ]
    omega

theorem ofBig_big (w n : Nat) : ofBig (big w n) = n % words w := by
  simp [ofBig, big, ofLittle_little]

theorem big_ofBig (bytes : Bytes) : big bytes.length (ofBig bytes) = bytes := by
  have h := little_ofLittle bytes.reverse
  simp only [List.length_reverse] at h
  simp [big, ofBig, h]

end Bytes

end TunnelAgent
