import TunnelAgent.Proofs.Access.Grants
import TunnelAgent.Proofs.Text.Decimal
import TunnelAgent.Socks.Negotiation

/-! # What a client has to say to be let through

A greeting that offers the password method, a user name and a password, and a request to connect to
an address: three messages, whose parts of no fixed size stand behind their length. No stream
begins with two such conversations, and no password stands for two keys. -/

namespace TunnelAgent

namespace Socks

/-- The password is, between blanks, a decimal numeral with the key as its value. -/
def Names (password : Bytes) (key : UInt64) : Prop :=
  ∃ digits, (Text.trim (Utf8.lossy password) = digits ∨
      Text.trim (Utf8.lossy password) = '+' :: digits) ∧
    digits ≠ [] ∧ (∀ c ∈ digits, c.isDigit = true) ∧ Nat.ofDigitChars 10 digits 0 = key.toNat

theorem keyOf?_eq_some_iff {password : Bytes} {key : UInt64} :
    keyOf? password = some key ↔ Names password key := by
  have hbound : key.toNat ≤ Numeral.maxU64 := Nat.le_of_lt_succ key.toNat_lt
  have hread : Numeral.read Numeral.maxU64 (Text.trim (Utf8.lossy password)) = .ok key.toNat ↔
      Names password key := by
    rw [Numeral.read_eq_ok_iff, Names]
    simp only [hbound, and_true]
  rw [← hread, keyOf?]
  cases hcase : Numeral.read Numeral.maxU64 (Text.trim (Utf8.lossy password)) with
  | error fault => simp
  | ok n =>
    obtain ⟨-, -, -, -, -, hn⟩ := Numeral.read_eq_ok_iff.mp hcase
    have hsmall : n < 2 ^ 64 := Nat.lt_succ_of_le hn
    simp only [Option.some.injEq, Except.ok.injEq]
    constructor
    · rintro rfl
      exact (UInt64.toNat_ofNat_of_lt' hsmall).symm
    · rintro rfl
      exact UInt64.ofNat_toNat

theorem Names.unique {password : Bytes} {key key' : UInt64} (h : Names password key)
    (h' : Names password key') : key = key' := by
  have hsame := (keyOf?_eq_some_iff.mpr h).symm.trans (keyOf?_eq_some_iff.mpr h')
  exact Option.some.inj hsame

/-- A byte string behind its length. -/
def counted (bytes : Bytes) : Bytes := .ofNat bytes.length :: bytes

/-- A size byte says how long the byte string behind it is. -/
theorem counted_iff {size : UInt8} {bytes : Bytes} :
    size.toNat = bytes.length ↔ bytes.length < 256 ∧ size :: bytes = counted bytes := by
  rw [counted, List.cons.injEq]
  constructor
  · intro h
    refine ⟨h ▸ size.toNat_lt, ?_, rfl⟩
    rw [← h, UInt8.ofNat_toNat]
  · rintro ⟨hlt, rfl, -⟩
    exact UInt8.toNat_ofNat_of_lt' hlt

theorem counted_append_inj {bytes bytes' rest rest' : Bytes} (hb : bytes.length < 256)
    (hb' : bytes'.length < 256) (h : counted bytes ++ rest = counted bytes' ++ rest') :
    bytes = bytes' ∧ rest = rest' := by
  rw [counted, counted, List.cons_append, List.cons_append, List.cons.injEq] at h
  have hlength : bytes.length = bytes'.length := by
    have hsize := congrArg UInt8.toNat h.1
    rwa [UInt8.toNat_ofNat_of_lt' hb, UInt8.toNat_ofNat_of_lt' hb'] at hsize
  exact List.append_inj h.2 hlength

namespace HostForm

def code : HostForm → UInt8
  | v4 => 0x01
  | name => 0x03
  | v6 => 0x04

theorem ofByte?_eq_some_iff {b : UInt8} {form : HostForm} : ofByte? b = some form ↔ b = form.code := by
  constructor
  · fun_cases ofByte? b <;> intro h <;> cases h <;> rfl
  · rintro rfl
    cases form <;> rfl

theorem code_inj {form form' : HostForm} (h : form.code = form'.code) : form = form' := by
  have hform := ofByte?_eq_some_iff.mpr h
  rw [ofByte?_eq_some_iff.mpr rfl] at hform
  exact Option.some.inj hform

/-- The bytes of a host in a request; only a name has its length in front. -/
def spell : HostForm → Bytes → Bytes
  | name, host => counted host
  | _, host => host

def Admits : HostForm → Bytes → Prop
  | v4, host => host.length = 4
  | name, host => host.length < 256
  | v6, host => host.length = 16

theorem spell_append_inj {form : HostForm} {host host' rest rest' : Bytes} (h : form.Admits host)
    (h' : form.Admits host') (hsame : form.spell host ++ rest = form.spell host' ++ rest') :
    host = host' ∧ rest = rest' := by
  cases form with
  | name => exact counted_append_inj h h' hsame
  | v4 | v6 => exact List.append_inj hsame (h.trans h'.symm)

end HostForm

/-- What a client says in a greeting, its credentials and a request to connect. -/
structure Conversation where
  methods : Bytes
  username : Bytes
  password : Bytes
  reserved : UInt8
  form : HostForm
  host : Bytes
  port : UInt16
  deriving DecidableEq, Repr

namespace Conversation

def greeting (c : Conversation) : Bytes := 0x05 :: counted c.methods

def credentials (c : Conversation) : Bytes := 0x01 :: (counted c.username ++ counted c.password)

def request (c : Conversation) : Bytes :=
  [0x05, 0x01, c.reserved, c.form.code] ++ (c.form.spell c.host ++ Bytes.big 2 c.port.toNat)

def bytes (c : Conversation) : Bytes := c.greeting ++ (c.credentials ++ c.request)

def destination (c : Conversation) : Destination := ⟨hostText c.form c.host, c.port⟩

structure Valid (c : Conversation) : Prop where
  methods : c.methods.length < 256
  offers : 0x02 ∈ c.methods
  username : c.username.length < 256
  password : c.password.length < 256
  host : c.form.Admits c.host

theorem ofBig_port (port : UInt16) : UInt16.ofNat (Bytes.ofBig (Bytes.big 2 port.toNat)) = port := by
  have hsmall : port.toNat % Bytes.words 2 = port.toNat := Nat.mod_eq_of_lt port.toNat_lt
  rw [Bytes.ofBig_big, hsmall, UInt16.ofNat_toNat]

theorem big_ofBig_port {bytes : Bytes} (h : bytes.length = 2) :
    Bytes.big 2 (UInt16.ofNat (Bytes.ofBig bytes)).toNat = bytes := by
  have hsmall : Bytes.ofBig bytes < 2 ^ 16 := by
    have hlt := Bytes.ofLittle_lt bytes.reverse
    rwa [List.length_reverse, h] at hlt
  rw [UInt16.toNat_ofNat_of_lt' hsmall, ← h, Bytes.big_ofBig]

/-- A stream begins with one conversation only. -/
theorem Valid.unique {c c' : Conversation} {rest rest' : Bytes} (h : c.Valid) (h' : c'.Valid)
    (hsame : c.bytes ++ rest = c'.bytes ++ rest') : c = c' := by
  simp only [bytes, greeting, credentials, request, List.append_assoc, List.cons_append,
    List.nil_append, List.cons.injEq, true_and] at hsame
  obtain ⟨hmethods, hcredentials⟩ := counted_append_inj h.methods h'.methods hsame
  rw [List.cons.injEq] at hcredentials
  obtain ⟨husername, hsecret⟩ := counted_append_inj h.username h'.username hcredentials.2
  obtain ⟨hpassword, hrequest⟩ := counted_append_inj h.password h'.password hsecret
  simp only [List.cons.injEq, true_and] at hrequest
  obtain ⟨hreserved, hcode, haddress⟩ := hrequest
  have hform : c.form = c'.form := HostForm.code_inj hcode
  have hhost' : c.form.Admits c'.host := hform ▸ h'.host
  rw [← hform] at haddress
  obtain ⟨hhost, hport⟩ := HostForm.spell_append_inj h.host hhost' haddress
  have hword := (List.append_inj hport (by rw [Bytes.length_big, Bytes.length_big])).1
  have hsame := congrArg (UInt16.ofNat <| Bytes.ofBig ·) hword
  simp only [ofBig_port] at hsame
  obtain ⟨⟩ := c
  obtain ⟨⟩ := c'
  simp only [mk.injEq]
  exact ⟨hmethods, husername, hpassword, hreserved, hform, hhost, hsame⟩

end Conversation

end Socks

end TunnelAgent
