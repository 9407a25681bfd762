import Mathlib.Algebra.Group.Nat.Defs
import TunnelAgent.Frame
import TunnelAgent.Proofs.Serial.Exact

/-! # One binary form for each message

A payload is read as a message if and only if it begins with the form of that message. So a message
has one form, no form continues another one of its type, and what has been read is what would be
written. A byte string may be written in one piece and read byte by byte because both are the same
format. -/

namespace TunnelAgent

open Serial.Format

theorem ResultCode.exact : ResultCode.format.Exact fun _ => True := by
  refine exact_choice (by decide) ?_ ?_ ?_
  · intro result
    cases result <;> decide
  · intro result
    cases result <;> rfl
  · intro n hn
    match n, hn with
    | 0, _ => rfl
    | 1, _ => rfl
    | 2, _ => rfl
    | 3, _ => rfl

def AuthorizationRequest.Counted (m : AuthorizationRequest) : Prop :=
  CountedText m.agentId ∧ CountedText m.username ∧ CountedText m.secret ∧ CountedText m.agentVersion

theorem AuthorizationRequest.exact : AuthorizationRequest.format.Exact Counted :=
  (exact_text.pair (exact_text.pair (exact_text.pair exact_text))).via (fun _ => rfl) fun _ _ => rfl

def AuthorizationResponse.Counted (m : AuthorizationResponse) : Prop := ∀ s ∈ m.message, CountedText s

theorem AuthorizationResponse.exact : AuthorizationResponse.format.Exact Counted :=
  ((ResultCode.exact.pair exact_text.option).via (fun _ => rfl) fun _ _ => rfl).congr fun _ => by
    simp [Counted]

def Rule.Counted (r : Rule) : Prop :=
  CountedText r.name ∧ CountedText r.pattern ∧
    (r.allowedIdentities.length < Bytes.words 8 ∧ ∀ s ∈ r.allowedIdentities, CountedText s) ∧
    CountedText r.host ∧ ∀ s ∈ r.clientScope, CountedText s

theorem Rule.exact : Rule.format.Exact Counted := by
  have hidentities := exact_text.sequence writes_text
  have hscope := exact_u16.pair exact_text.option
  exact ((exact_text.pair (exact_text.pair (hidentities.pair (exact_text.pair hscope)))).via
    (fun _ => rfl) fun _ _ => rfl).congr fun _ => by simp [Counted]

theorem Resource.exact : Resource.format.Exact fun r => r.rule.Counted :=
  ((Rule.exact.pair exact_u64).via (fun _ => rfl) fun _ _ => rfl).congr fun _ => by simp

theorem Resource.writes : Resource.format.Writes := by
  intro r
  simp [Resource.format, Serial.Format.via, Serial.Format.pair, u64, word]

def RegistrationRequest.Counted (m : RegistrationRequest) : Prop :=
  m.resources.length < Bytes.words 8 ∧ ∀ r ∈ m.resources, r.rule.Counted

theorem RegistrationRequest.exact : RegistrationRequest.format.Exact Counted :=
  (Resource.exact.sequence Resource.writes).via (fun _ => rfl) fun _ _ => rfl

theorem HealthSettings.exact : HealthSettings.format.Exact fun _ => True :=
  ((exact_u64.pair exact_u32).via (fun _ => rfl) fun _ _ => rfl).congr fun _ => by simp

def RegistrationResponse.Counted (m : RegistrationResponse) : Prop := ∀ s ∈ m.message, CountedText s

theorem RegistrationResponse.exact : RegistrationResponse.format.Exact Counted :=
  ((ResultCode.exact.pair (exact_text.option.pair HealthSettings.exact.option)).via
    (fun _ => rfl) fun _ _ => rfl).congr fun _ => by simp [Counted]

theorem HealthCheck.exact : HealthCheck.format.Exact fun _ => True :=
  exact_u64.via (fun _ => rfl) fun _ _ => rfl

theorem HealthCheckResponse.exact : HealthCheckResponse.format.Exact fun _ => True :=
  ((exact_u64.pair ResultCode.exact).via (fun _ => rfl) fun _ _ => rfl).congr fun _ => by simp

def SocketEvent.Counted : SocketEvent → Prop
  | data bytes => bytes.length < Bytes.words 8
  | _ => True

theorem SocketEvent.exact : SocketEvent.format.Exact Counted := by
  have hchoice : ∀ n rest, n < 3 → (choice 3).read (Bytes.little 4 n ++ rest) = .ok (n, rest) :=
    fun n rest hn => choice_read rest (by decide) hn
  refine ⟨?_, ?_, ?_⟩
  · intro event rest hevent
    cases event with
    | start => simp only [format, hchoice 0 rest (by decide)]
    | close => simp only [format, hchoice 2 rest (by decide)]
    | data bytes =>
      simp only [format]
      rw [List.append_assoc, hchoice 1 _ (by decide)]
      simp only
      rw [exact_blob.read_write bytes rest hevent]
  · intro bytes event rest hread
    simp only [format] at hread
    split at hread
    · cases hread
    · rename_i hnumber
      cases hread
      exact ⟨trivial, (of_choice_read hnumber).2⟩
    · rename_i hnumber
      split at hread <;> cases hread
      rename_i hdata
      obtain ⟨hcounted, hafter⟩ := exact_blob.of_read hdata
      refine ⟨hcounted, ?_⟩
      rw [(of_choice_read hnumber).2, hafter, ← List.append_assoc]
      rfl
    · rename_i n after hzero hone hnumber
      cases hread
      obtain ⟨hlt, hbytes⟩ := of_choice_read hnumber
      have hne : n ≠ 0 ∧ n ≠ 1 := ⟨hzero, hone⟩
      obtain rfl : n = 2 := by omega
      exact ⟨trivial, hbytes⟩
  · intro event hlt
    cases event with
    | start => trivial
    | close => trivial
    | data bytes =>
      simp only [format, List.length_append] at hlt
      exact exact_blob.short bytes (by omega)

def SocketData.Counted (m : SocketData) : Prop := m.event.Counted

theorem SocketData.exact : SocketData.format.Exact Counted :=
  ((exact_u32.pair SocketEvent.exact).via (fun _ => rfl) fun _ _ => rfl).congr fun _ => by
    simp [Counted]

namespace Message

/-- Every text, list and byte string of the message has fewer than `2 ^ 64` bytes or items, which is
what a count can say. -/
def Counted : Message → Prop
  | authorization m => m.Counted
  | authorizationResponse m => m.Counted
  | registration m => m.Counted
  | registrationResponse m => m.Counted
  | healthCheck _ => True
  | healthCheckResponse _ => True
  | socketData m => m.Counted

variable {t : FrameType} {payload : Bytes} {m : Message}

/-- The payloads of one type are read by that type's format. -/
theorem decode_of_format {α : Type} {f : Serial.Format α} {C : α → Prop} {wrap : α → Message}
    (h : f.Exact C) (hdecode : decode t payload = (f.decode payload).map wrap)
    (hcounted : ∀ a, (wrap a).Counted ↔ C a) (hencode : ∀ a, (wrap a).encode = f.write a)
    (htype : m.type = t ↔ ∃ a, wrap a = m) :
    decode t payload = .ok m ↔ m.type = t ∧ m.Counted ∧ ∃ rest, payload = m.encode ++ rest := by
  rw [hdecode, htype]
  constructor
  · intro hread
    cases hvalue : f.decode payload with
    | error fault =>
      rw [hvalue] at hread
      cases hread
    | ok a =>
      rw [hvalue] at hread
      cases hread
      rw [hcounted, hencode]
      exact ⟨⟨a, rfl⟩, h.decode_eq_ok_iff.mp hvalue⟩
  · intro hform
    obtain ⟨⟨a, rfl⟩, hform⟩ := hform
    rw [hcounted, hencode] at hform
    rw [h.decode_eq_ok_iff.mpr hform]
    rfl

theorem decode_eq_ok_iff :
    decode t payload = .ok m ↔ m.type = t ∧ m.Counted ∧ ∃ rest, payload = m.encode ++ rest := by
  cases t with
  | authorization =>
    refine decode_of_format AuthorizationRequest.exact rfl (fun _ => .rfl) (fun _ => rfl) ?_
    cases m <;> simp [type]
  | authorizationResponse =>
    refine decode_of_format AuthorizationResponse.exact rfl (fun _ => .rfl) (fun _ => rfl) ?_
    cases m <;> simp [type]
  | registration =>
    refine decode_of_format RegistrationRequest.exact rfl (fun _ => .rfl) (fun _ => rfl) ?_
    cases m <;> simp [type]
  | registrationResponse =>
    refine decode_of_format RegistrationResponse.exact rfl (fun _ => .rfl) (fun _ => rfl) ?_
    cases m <;> simp [type]
  | healthCheck =>
    refine decode_of_format HealthCheck.exact rfl (fun _ => .rfl) (fun _ => rfl) ?_
    cases m <;> simp [type]
  | healthCheckResponse =>
    refine decode_of_format HealthCheckResponse.exact rfl (fun _ => .rfl) (fun _ => rfl) ?_
    cases m <;> simp [type]
  | socketData =>
    refine decode_of_format SocketData.exact rfl (fun _ => .rfl) (fun _ => rfl) ?_
    cases m <;> simp [type]

theorem counted_of_length (h : m.encode.length < Bytes.words 8) : m.Counted := by
  cases m with
  | authorization m => exact AuthorizationRequest.exact.short m h
  | authorizationResponse m => exact AuthorizationResponse.exact.short m h
  | registration m => exact RegistrationRequest.exact.short m h
  | registrationResponse m => exact RegistrationResponse.exact.short m h
  | healthCheck m => trivial
  | healthCheckResponse m => trivial
  | socketData m => exact SocketData.exact.short m h

/-- Two forms of one type, one of which begins with the other, are of one message. -/
theorem eq_of_encode_prefix {m' : Message} (htype : m.type = m'.type) (hm : m.Counted)
    (hm' : m'.Counted) (hform : m.encode <+: m'.encode) : m = m' := by
  obtain ⟨rest, hrest⟩ := hform
  have hread : decode m'.type m'.encode = .ok m :=
    decode_eq_ok_iff.mpr ⟨htype, hm, rest, hrest.symm⟩
  have hread' : decode m'.type m'.encode = .ok m' :=
    decode_eq_ok_iff.mpr ⟨rfl, hm', [], (List.append_nil _).symm⟩
  exact Except.ok.inj (hread.symm.trans hread')

/-- The codec of the messages is exact: a payload is read as the message whose form it begins with,
and as no other. -/
theorem codec_exact :
    (∀ t payload m, decode t payload = .ok m ↔
      m.type = t ∧ m.Counted ∧ ∃ rest, payload = m.encode ++ rest) ∧
      (∀ m : Message, m.encode.length < 2 ^ 64 → m.Counted) ∧
      (∀ m m' : Message, m.type = m'.type → m.Counted → m'.Counted →
        (m.encode = m'.encode → m = m') ∧ (m.encode <+: m'.encode → m = m')) ∧
      (∀ t payload m, decode t payload = .ok m → payload.take m.encode.length = m.encode) ∧
      (∀ bytes, blob.write bytes = u8.sequence.write bytes) ∧
      ∀ bytes rest, bytes.length < 2 ^ 64 →
        u8.sequence.read (blob.write bytes ++ rest) = .ok (bytes, rest) := by
  refine ⟨fun t payload m => decode_eq_ok_iff, fun m h => counted_of_length h, ?_, ?_, ?_, ?_⟩
  · intro m m' htype hm hm'
    refine ⟨fun heq => ?_, eq_of_encode_prefix htype hm hm'⟩
    exact eq_of_encode_prefix htype hm hm' (heq ▸ List.prefix_rfl)
  · intro t payload m h
    obtain ⟨-, -, rest, rfl⟩ := decode_eq_ok_iff.mp h
    exact List.take_left
  · intro bytes
    rw [blob_eq_sequence]
  · intro bytes rest h
    rw [← blob_eq_sequence]
    exact exact_blob.read_write bytes rest h

end Message

end TunnelAgent
