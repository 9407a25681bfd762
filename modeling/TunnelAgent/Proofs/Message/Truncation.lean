import TunnelAgent.Frame.Fault
import TunnelAgent.Proofs.Message.Canonical
import TunnelAgent.Proofs.Serial.Cuts

/-! # Messages that are cut short

Main statement: of no message can a part be mistaken for another message, or for a broken one.
Whatever strict prefix of a message's form is read, the answer is that its bytes have ended: inside
a text's content if the text's count is whole, before or behind the contents otherwise. No check of
a text, an option or a choice can fail first, since all that stands before the cut is well formed. -/

namespace TunnelAgent

open Serial Serial.Format

def AuthorizationRequest.parts (m : AuthorizationRequest) : List Part :=
  [.text m.agentId, .text m.username, .text m.secret, .text m.agentVersion]

def ResultCode.part (result : ResultCode) : Part := .bytes (Bytes.little 4 result.toIndex)

/-- A text that may be missing. -/
def Serial.Part.text? (s : Option String) : List Part := Part.optional (fun s => [.text s]) s

def AuthorizationResponse.parts (m : AuthorizationResponse) : List Part :=
  m.result.part :: Part.text? m.message

def Rule.parts (r : Rule) : List Part :=
  [.text r.name, .text r.pattern] ++ Part.sequence (fun s => [.text s]) r.allowedIdentities ++
    [.text r.host, .bytes (Bytes.little 2 r.port.toNat)] ++ Part.text? r.clientScope

def Resource.parts (r : Resource) : List Part := r.rule.parts ++ [.bytes (Bytes.little 8 r.key.toNat)]

def RegistrationRequest.parts (m : RegistrationRequest) : List Part :=
  Part.sequence Resource.parts m.resources

def HealthSettings.parts (s : HealthSettings) : List Part :=
  [.bytes (Bytes.little 8 s.intervalSecs.toNat), .bytes (Bytes.little 4 s.maxMissed.toNat)]

def RegistrationResponse.parts (m : RegistrationResponse) : List Part :=
  m.result.part :: Part.text? m.message ++ Part.optional HealthSettings.parts m.healthCheck

def HealthCheck.parts (m : HealthCheck) : List Part := [.bytes (Bytes.little 8 m.nonce.toNat)]

def HealthCheckResponse.parts (m : HealthCheckResponse) : List Part :=
  [.bytes (Bytes.little 8 m.nonce.toNat), m.result.part]

def SocketEvent.parts : SocketEvent → List Part
  | start => [.bytes (Bytes.little 4 0)]
  | data bytes => [.bytes (Bytes.little 4 1), .bytes (blob.write bytes)]
  | close => [.bytes (Bytes.little 4 2)]

def SocketData.parts (m : SocketData) : List Part :=
  .bytes (Bytes.little 4 m.connectionId.toNat) :: m.event.parts

theorem ResultCode.cuts : ResultCode.format.Cuts (fun _ => True) fun r => [r.part] :=
  ResultCode.exact.cuts_numbered (fun _ => rfl) choice_read_cut

theorem AuthorizationRequest.cuts : AuthorizationRequest.format.Cuts Counted parts :=
  (cuts_text.pair (cuts_text.pair (cuts_text.pair cuts_text))).via (fun _ => rfl) fun _ _ => rfl

theorem AuthorizationResponse.cuts : AuthorizationResponse.format.Cuts Counted parts :=
  ((ResultCode.cuts.pair cuts_text.option).via (fun _ => rfl) fun _ _ => rfl).congr
    (fun _ => by simp [Counted]) fun _ => rfl

theorem Rule.cuts : Rule.format.Cuts Counted parts := by
  have hidentities := cuts_text.sequence writes_text
  have hscope := cuts_u16.pair cuts_text.option
  exact ((cuts_text.pair (cuts_text.pair (hidentities.pair (cuts_text.pair hscope)))).via
    (fun _ => rfl) fun _ _ => rfl).congr (fun _ => by simp [Counted])
    fun _ => by simp [parts, Part.text?]

theorem Resource.cuts : Resource.format.Cuts (fun r => r.rule.Counted) parts :=
  ((Rule.cuts.pair cuts_u64).via (fun _ => rfl) fun _ _ => rfl).congr (fun _ => by simp) fun _ => rfl

theorem RegistrationRequest.cuts : RegistrationRequest.format.Cuts Counted parts :=
  (Resource.cuts.sequence Resource.writes).via (fun _ => rfl) fun _ _ => rfl

theorem HealthSettings.cuts : HealthSettings.format.Cuts (fun _ => True) parts :=
  ((cuts_u64.pair cuts_u32).via (fun _ => rfl) fun _ _ => rfl).congr (fun _ => by simp) fun _ => rfl

theorem RegistrationResponse.cuts : RegistrationResponse.format.Cuts Counted parts :=
  ((ResultCode.cuts.pair (cuts_text.option.pair HealthSettings.cuts.option)).via
    (fun _ => rfl) fun _ _ => rfl).congr (fun _ => by simp [Counted]) fun _ => rfl

theorem HealthCheck.cuts : HealthCheck.format.Cuts (fun _ => True) parts :=
  cuts_u64.via (fun _ => rfl) fun _ _ => rfl

theorem HealthCheckResponse.cuts : HealthCheckResponse.format.Cuts (fun _ => True) parts :=
  ((cuts_u64.pair ResultCode.cuts).via (fun _ => rfl) fun _ _ => rfl).congr (fun _ => by simp)
    fun _ => rfl

theorem SocketEvent.read_choice_cut {n v : Nat} (h : n < 4) :
    format.read ((Bytes.little 4 v).take n) = .error .endOfBytes := by
  simp only [format, choice_read_cut h]

theorem SocketEvent.cuts : SocketEvent.format.Cuts Counted parts := by
  have hfits : ∀ v : Nat, (Bytes.little 4 v).length = 4 := Bytes.length_little 4
  refine ⟨exact, fun event => ?_, fun event n hevent hn => ?_⟩
  · cases event <;> simp [format, parts]
  · cases event with
    | start =>
      simp only [format, hfits] at hn
      simp [show format.write start = Bytes.little 4 0 from rfl, read_choice_cut hn, parts, cutFault,
        Part.fault]
    | close =>
      simp only [format, hfits] at hn
      simp [show format.write close = Bytes.little 4 2 from rfl, read_choice_cut hn, parts, cutFault,
        Part.fault]
    | data bytes =>
      simp only [show format.write (data bytes) = Bytes.little 4 1 ++ blob.write bytes from rfl,
        List.length_append, hfits] at hn ⊢
      rw [show (data bytes).parts = [Part.bytes (Bytes.little 4 1)] ++ [.bytes (blob.write bytes)]
        from rfl, cutFault_append]
      simp only [written_cons, written_nil, Part.form_bytes, List.append_nil, hfits]
      by_cases hchoice : n < 4
      · rw [if_pos hchoice, List.take_append_of_le_length (by rw [hfits]; omega),
          read_choice_cut hchoice]
        simp [cutFault, Part.fault, hfits, hchoice]
      · rw [if_neg hchoice, List.take_append, List.take_of_length_le (by rw [hfits]; omega), hfits]
        simp only [format]
        rw [choice_read _ (by decide) (by decide)]
        simp only
        rw [cuts_blob.read_cut bytes (n - 4) hevent (by omega)]

theorem SocketData.cuts : SocketData.format.Cuts Counted parts :=
  ((cuts_u32.pair SocketEvent.cuts).via (fun _ => rfl) fun _ _ => rfl).congr
    (fun _ => by simp [Counted]) fun _ => rfl

namespace Message

/-- The parts of the message's form, in the order in which they are written. -/
def parts : Message → List Part
  | authorization m => m.parts
  | authorizationResponse m => m.parts
  | registration m => m.parts
  | registrationResponse m => m.parts
  | healthCheck m => m.parts
  | healthCheckResponse m => m.parts
  | socketData m => m.parts

theorem decode_cut_of_format {α : Type} {f : Serial.Format α} {C : α → Prop}
    {parts : α → List Part} {wrap : α → Message} (h : f.Cuts C parts) {a : α} {n : Nat} (ha : C a)
    (hn : n < (f.write a).length) :
    (f.decode ((f.write a).take n)).map wrap = .error (cutFault (parts a) n) := by
  simp [Serial.Format.decode, h.read_cut a n ha hn, Except.map]

theorem written_parts (m : Message) : written m.parts = m.encode := by
  cases m with
  | authorization m => exact (AuthorizationRequest.cuts.form m).symm
  | authorizationResponse m => exact (AuthorizationResponse.cuts.form m).symm
  | registration m => exact (RegistrationRequest.cuts.form m).symm
  | registrationResponse m => exact (RegistrationResponse.cuts.form m).symm
  | healthCheck m => exact (HealthCheck.cuts.form m).symm
  | healthCheckResponse m => exact (HealthCheckResponse.cuts.form m).symm
  | socketData m => exact (SocketData.cuts.form m).symm

theorem decode_cut {m : Message} {n : Nat} (hm : m.Counted) (hn : n < m.encode.length) :
    decode m.type (m.encode.take n) = .error (cutFault m.parts n) := by
  cases m with
  | authorization m => exact decode_cut_of_format AuthorizationRequest.cuts hm hn
  | authorizationResponse m => exact decode_cut_of_format AuthorizationResponse.cuts hm hn
  | registration m => exact decode_cut_of_format RegistrationRequest.cuts hm hn
  | registrationResponse m => exact decode_cut_of_format RegistrationResponse.cuts hm hn
  | healthCheck m => exact decode_cut_of_format HealthCheck.cuts trivial hn
  | healthCheckResponse m => exact decode_cut_of_format HealthCheckResponse.cuts trivial hn
  | socketData m => exact decode_cut_of_format SocketData.cuts hm hn

/-- A message that is cut short is refused as cut, wherever the cut is. The text of the fault is that
of a short text exactly if the first byte that is missing belongs to the content of a text. -/
theorem cut_refused_as_cut {m : Message} {q : Bytes} (hm : m.Counted) (hq : q <+: m.encode)
    (hne : q ≠ m.encode) :
    written m.parts = m.encode ∧
      ∃ fault, decode m.type q = .error fault ∧ (fault = .endOfBytes ∨ fault = .shortText) ∧
        ((FrameFault.serialization fault).message = "serialization error: io error: " ↔
          InText m.parts q.length) ∧
        ((FrameFault.serialization fault).message =
            "serialization error: io error: unexpected end of file" ↔ ¬InText m.parts q.length) := by
  have hlt : q.length < m.encode.length :=
    Nat.lt_of_le_of_ne hq.length_le fun heq => hne (hq.eq_of_length heq)
  have hdecode := decode_cut hm hlt
  rw [← List.prefix_iff_eq_take.mp hq] at hdecode
  refine ⟨written_parts m, cutFault m.parts q.length, hdecode, cutFault_eq _ _, ?_⟩
  rw [← cutFault_eq_shortText_iff]
  rcases cutFault_eq m.parts q.length with hfault | hfault
  · rw [hfault]
    decide
  · rw [hfault]
    decide

/-- A manifest cut after two of the three letters of an identity. -/
theorem cut_refused_as_cut_in_identity :
    let m := registration ⟨[⟨⟨"db", "*", ["ops"], "h", 5432, none⟩, 7⟩]⟩
    let q := m.encode.take 45
    m.Counted ∧ q <+: m.encode ∧ q ≠ m.encode ∧ InText m.parts q.length ∧
      ∃ fault, decode m.type q = .error fault ∧
        (FrameFault.serialization fault).message = "serialization error: io error: " := by
  intro m q
  have hm : m.Counted := counted_of_length (by decide +kernel)
  have hq : q <+: m.encode := List.take_prefix 45 m.encode
  have hne : q ≠ m.encode := by decide +kernel
  have hin : InText m.parts q.length :=
    (cutFault_eq_shortText_iff m.parts q.length).mp (by decide +kernel)
  obtain ⟨-, fault, hdecode, -, htext, -⟩ := cut_refused_as_cut hm hq hne
  exact ⟨hm, hq, hne, hin, fault, hdecode, htext.mpr hin⟩

end Message

end TunnelAgent
