import TunnelAgent.Agent

/-! # Which certificate is accepted

A certificate is accepted if its chain is valid, for the host or for another name, and the first
common name of its subject is the host. Any other fault of the chain is passed on as it is, whatever
the common name says. What reads the trusted certificates may be anything. -/

namespace TunnelAgent

namespace Identity

/-- What is read of a certificate. -/
structure Certificate where
  /-- the common names of the subject in their order, each if it is readable; `none` if the
  certificate cannot be parsed -/
  commonNames : Option (List (Option String))
  alternativeNames : List String
  deriving DecidableEq, Repr

namespace Certificate

/-- The first common name, if it is readable. -/
def commonName (certificate : Certificate) : Option String :=
  match certificate.commonNames with
  | some (name :: _) => name
  | _ => none

/-- A peer with this certificate; `check` is the check of the chain. -/
def shown (check : Certificate → ChainVerdict) (certificate : Certificate) : Peer :=
  .presents (check certificate) certificate.commonName

/-- The chain is valid, for the host or for another name, and the common name is the host. -/
structure Proves (host : String) (chain : ChainVerdict) (certificate : Certificate) : Prop where
  chain : chain = .valid ∨ chain = .nameMismatch
  name : ∃ rest, certificate.commonNames = some (some host :: rest)

theorem commonName_eq_some_iff {certificate : Certificate} {host : String} :
    certificate.commonName = some host ↔
      ∃ rest, certificate.commonNames = some (some host :: rest) := by
  unfold commonName
  cases certificate.commonNames with
  | none => simp
  | some names => cases names <;> simp

end Certificate

variable {host : String} {chain : ChainVerdict} {commonName : Option String}

theorem verify_eq_ok_iff : verify host chain commonName = .ok () ↔
    (chain = .valid ∨ chain = .nameMismatch) ∧ commonName = some host := by
  cases chain with
  | refused text => simp [verify]
  | valid | nameMismatch =>
    cases commonName with
    | none => simp [verify]
    | some name => by_cases hname : name = host <;> simp [verify, hname]

/-- A certificate that is not accepted is refused for a reason, that of the chain if it has one. -/
theorem refused_of_verify (h : verify host chain commonName ≠ .ok ()) :
    ∃ text, verify host chain commonName = .error text ∧
      ∀ reason, chain = .refused reason → text = reason := by
  cases hverify : verify host chain commonName with
  | ok _ => exact absurd hverify h
  | error text =>
    refine ⟨text, rfl, ?_⟩
    rintro reason rfl
    exact (Except.error.inj hverify).symm

theorem shakeHands_eq_ok {peer : Peer} (h : shakeHands host false peer = .ok ()) :
    ∃ chain, (chain = .valid ∨ chain = .nameMismatch) ∧ peer = .presents chain (some host) := by
  cases peer with
  | fails | silent => cases h
  | presents chain commonName =>
    simp only [shakeHands, Bool.false_eq_true, if_false] at h
    split at h
    · rename_i hverify
      obtain ⟨hchain, rfl⟩ := verify_eq_ok_iff.mp hverify
      exact ⟨chain, hchain, rfl⟩
    · cases h

/-- A handshake is as good as the certificate. -/
theorem shakeHands_shown (host : String) (check : Certificate → ChainVerdict)
    (certificate : Certificate) :
    (certificate.Proves host (check certificate) ∧
        shakeHands host false (certificate.shown check) = .ok ()) ∨
      ¬ certificate.Proves host (check certificate) ∧
        ∃ text, shakeHands host false (certificate.shown check) = .error (.tls text) ∧
          ∀ reason, check certificate = .refused reason → text = reason := by
  simp only [shakeHands, Certificate.shown, Bool.false_eq_true, if_false]
  by_cases hverify : verify host (check certificate) certificate.commonName = .ok ()
  · obtain ⟨hchain, hname⟩ := verify_eq_ok_iff.mp hverify
    exact .inl ⟨⟨hchain, Certificate.commonName_eq_some_iff.mp hname⟩, by rw [hverify]⟩
  · obtain ⟨text, htext, hreason⟩ := refused_of_verify hverify
    refine .inr ⟨fun hproves => hverify ?_, text, by rw [htext], hreason⟩
    exact verify_eq_ok_iff.mpr
      ⟨hproves.chain, Certificate.commonName_eq_some_iff.mpr hproves.name⟩

end Identity

namespace Agent
open Identity

variable {c : Config} {readers : Readers} {files : String → Except FileFault Bytes}
  {dial : Except TransportFault Unit} {nameFault : Option String} {peer : Peer}

/-- The connection comes as far as the handshake: the readers take the trusted certificates, the
stream below is there, and the host is a name. -/
structure Reaches (readers : Readers) (files : String → Except FileFault Bytes)
    (dial : Except TransportFault Unit) (nameFault : Option String) (c : Config) : Prop where
  trust : ∃ trust, Agent.trust readers files c = .ok trust ∧
    trustFault? readers.anchor trust = none
  dial : dial = .ok ()
  name : nameFault = none

theorem insecure_of_trust {trust : Trust} (h : Agent.trust readers files c = .ok trust) :
    trust.insecure = c.tls.insecure := by
  unfold Agent.trust at h
  split at h
  · cases h
    rfl
  · split at h <;> cases h
    rfl

theorem connect_of_reaches (h : Reaches readers files dial nameFault c) (peer : Peer) :
    connect readers files dial nameFault peer c = shakeHands c.gateway.host c.tls.insecure peer := by
  obtain ⟨⟨trust, htrust, hanchors⟩, rfl, rfl⟩ := h
  simp only [connect, Identity.connect, htrust, hanchors, insecure_of_trust htrust]

theorem reaches_of_connect (h : connect readers files dial nameFault peer c = .ok ()) :
    Reaches readers files dial nameFault c := by
  unfold connect at h
  split at h
  · cases h
  rename_i trust htrust
  unfold Identity.connect at h
  split at h
  · cases h
  rename_i hanchors
  split at h
  · cases h
  split at h
  · cases h
  exact ⟨⟨trust, htrust, hanchors⟩, rfl, rfl⟩

/-- A connection is made to a peer that shows a certificate with the host's name, or not at all. -/
theorem peer_of_connect (hsecure : c.tls.insecure = false)
    (h : connect readers files dial nameFault peer c = .ok ()) :
    ∃ chain, (chain = .valid ∨ chain = .nameMismatch) ∧
      peer = .presents chain (some c.gateway.host) := by
  have hreaches := reaches_of_connect h
  rw [connect_of_reaches hreaches, hsecure] at h
  exact shakeHands_eq_ok h

end Agent

end TunnelAgent
