import TunnelAgent.CommandLine.Launch
import TunnelAgent.Proofs.Text.Decimal
import TunnelAgent.Proofs.Text.Parts

/-! # The gateway's address on the command line

An address is a host, a colon and a port. The last colon is the one between them, so a host may have
colons of its own and a port has none; a text without a colon, without a host or without a port
behind it is refused. -/

namespace TunnelAgent.CommandLine

/-- One or more digits, perhaps behind a plus sign, with the port as their value. -/
def SpellsPort (text : String) (port : UInt16) : Prop :=
  ∃ digits, (text.toList = digits ∨ text.toList = '+' :: digits) ∧ digits ≠ [] ∧
    (∀ c ∈ digits, c.isDigit = true) ∧ Nat.ofDigitChars 10 digits 0 = port.toNat

/-- Cut at its last colon, the text is this host and what is behind it. -/
def LastCut (text host behind : String) : Prop := text = host ++ ":" ++ behind ∧ ':' ∉ behind.toList

/-- The text is this host, a colon and this port. -/
def SpellsAddress (text host : String) (port : UInt16) : Prop :=
  host ≠ "" ∧ ∃ behind, LastCut text host behind ∧ SpellsPort behind port

variable {text host behind : String} {port : UInt16}

theorem read_port_iff :
    (∃ n, Numeral.read Numeral.maxU16 behind.toList = .ok n ∧ UInt16.ofNat n = port) ↔
      SpellsPort behind port := by
  have hbound : port.toNat ≤ Numeral.maxU16 := Nat.le_of_lt_succ port.toNat_lt
  have hread : Numeral.read Numeral.maxU16 behind.toList = .ok port.toNat ↔ SpellsPort behind port := by
    rw [Numeral.read_eq_ok_iff, SpellsPort]
    simp only [hbound, and_true]
  rw [← hread]
  constructor
  · rintro ⟨n, hn, rfl⟩
    obtain ⟨-, -, -, -, -, hle⟩ := Numeral.read_eq_ok_iff.mp hn
    rwa [UInt16.toNat_ofNat_of_lt' (Nat.lt_succ_of_le hle)]
  · exact fun h => ⟨_, h, UInt16.ofNat_toNat⟩

/-- A port in decimal is a spelling of it. -/
theorem spellsPort_toString (port : UInt16) : SpellsPort (toString port.toNat) port := by
  refine read_port_iff.mp ⟨port.toNat, ?_, UInt16.ofNat_toNat⟩
  rw [Nat.toString_eq_ofList_toDigits, String.toList_ofList]
  exact Numeral.read_toDigits (Nat.le_of_lt_succ port.toNat_lt)

theorem SpellsPort.noColon (h : SpellsPort behind port) : ':' ∉ behind.toList := by
  obtain ⟨digits, htext, -, hdigits, -⟩ := h
  have hfree : ':' ∉ digits := fun hmem => absurd (hdigits _ hmem) (by decide)
  rcases htext with htext | htext <;> simp [htext, hfree]

theorem cutLast_of_lastCut (h : LastCut text host behind) :
    Text.cutLast ':' text.toList = some (host.toList, behind.toList) := by
  obtain ⟨rfl, hfree⟩ := h
  exact Text.cutLast_eq_some_iff.mpr ⟨by simp, hfree⟩

theorem exists_lastCut (h : ':' ∈ text.toList) : ∃ host behind, LastCut text host behind := by
  cases hcut : Text.cutLast ':' text.toList with
  | none => exact absurd h (Text.cutLast_eq_none_iff.mp hcut)
  | some sides =>
    obtain ⟨before, after⟩ := sides
    obtain ⟨htext, hfree⟩ := Text.cutLast_eq_some_iff.mp hcut
    refine ⟨.ofList before, .ofList after, ?_, by simpa using hfree⟩
    rw [← String.toList_inj]
    simp [htext]

theorem parseAddress_of_noColon (h : ':' ∉ text.toList) : parseAddress text = .error .noColon := by
  rw [parseAddress, Text.cutLast_eq_none_iff.mpr h]

theorem parseAddress_of_noHost (h : LastCut text "" behind) :
    parseAddress text = .error .emptyHost := by
  rw [parseAddress, cutLast_of_lastCut h]
  rfl

theorem parseAddress_of_lastCut (h : LastCut text host behind) (hhost : host ≠ "") :
    parseAddress text =
      match Numeral.read Numeral.maxU16 behind.toList with
      | .ok n => .ok (host, UInt16.ofNat n)
      | .error e => .error (.port e) := by
  have hnonempty : host.toList.isEmpty = false := by simpa using hhost
  rw [parseAddress, cutLast_of_lastCut h]
  simp only [hnonempty, String.ofList_toList]
  rfl

/-- All that can come of a text, and of which text it does. -/
theorem parseAddress_cases (text : String) :
    (parseAddress text = .error .noColon ∧ ':' ∉ text.toList) ∨
    (parseAddress text = .error .emptyHost ∧ ∃ behind, LastCut text "" behind) ∨
    ∃ host behind, host ≠ "" ∧ LastCut text host behind ∧
      ((∃ port, parseAddress text = .ok (host, port) ∧ SpellsPort behind port) ∨
        ∃ fault, parseAddress text = .error (.port fault) ∧ ¬ ∃ port, SpellsPort behind port) := by
  by_cases hcolon : ':' ∈ text.toList
  swap
  · exact .inl ⟨parseAddress_of_noColon hcolon, hcolon⟩
  obtain ⟨host, behind, hcut⟩ := exists_lastCut hcolon
  by_cases hhost : host = ""
  · subst hhost
    exact .inr (.inl ⟨parseAddress_of_noHost hcut, behind, hcut⟩)
  refine .inr (.inr ⟨host, behind, hhost, hcut, ?_⟩)
  have hparse := parseAddress_of_lastCut hcut hhost
  cases hread : Numeral.read Numeral.maxU16 behind.toList with
  | ok n =>
    rw [hread] at hparse
    exact .inl ⟨_, hparse, read_port_iff.mp ⟨n, hread, rfl⟩⟩
  | error fault =>
    rw [hread] at hparse
    refine .inr ⟨fault, hparse, ?_⟩
    intro ⟨port, hport⟩
    obtain ⟨n, hn, -⟩ := read_port_iff.mpr hport
    rw [hread] at hn
    cases hn

theorem parseAddress_eq_ok_iff :
    parseAddress text = .ok (host, port) ↔ SpellsAddress text host port := by
  constructor
  · intro h
    rcases parseAddress_cases text with ⟨h', -⟩ | ⟨h', -⟩ | ⟨_, behind, hhost, hcut, hport⟩
    · cases h'.symm.trans h
    · cases h'.symm.trans h
    · rcases hport with ⟨_, h', hport⟩ | ⟨fault, h', -⟩
      · cases h'.symm.trans h
        exact ⟨hhost, behind, hcut, hport⟩
      · cases h'.symm.trans h
  · intro ⟨hhost, behind, hcut, hport⟩
    obtain ⟨n, hread, rfl⟩ := read_port_iff.mpr hport
    rw [parseAddress_of_lastCut hcut hhost, hread]

theorem parseAddress_eq_noColon_iff : parseAddress text = .error .noColon ↔ ':' ∉ text.toList := by
  refine ⟨fun h => ?_, parseAddress_of_noColon⟩
  rcases parseAddress_cases text with ⟨-, hfree⟩ | ⟨h', -⟩ | ⟨_, _, _, _, ⟨_, h', -⟩ | ⟨_, h', -⟩⟩
  · exact hfree
  all_goals cases h'.symm.trans h

theorem parseAddress_eq_emptyHost_iff :
    parseAddress text = .error .emptyHost ↔ ∃ behind, LastCut text "" behind := by
  refine ⟨fun h => ?_, fun ⟨_, hcut⟩ => parseAddress_of_noHost hcut⟩
  rcases parseAddress_cases text with ⟨h', -⟩ | ⟨-, hcut⟩ | ⟨_, _, _, _, ⟨_, h', -⟩ | ⟨_, h', -⟩⟩
  · cases h'.symm.trans h
  · exact hcut
  all_goals cases h'.symm.trans h

theorem parseAddress_eq_port_iff :
    (∃ fault, parseAddress text = .error (.port fault)) ↔
      ∃ host behind, host ≠ "" ∧ LastCut text host behind ∧ ¬ ∃ port, SpellsPort behind port := by
  constructor
  · intro ⟨fault, h⟩
    rcases parseAddress_cases text with ⟨h', -⟩ | ⟨h', -⟩ | ⟨host, behind, hhost, hcut, hport⟩
    · cases h'.symm.trans h
    · cases h'.symm.trans h
    · rcases hport with ⟨_, h', -⟩ | ⟨_, -, hnone⟩
      · cases h'.symm.trans h
      · exact ⟨host, behind, hhost, hcut, hnone⟩
  · intro ⟨host, behind, hhost, hcut, hnone⟩
    rw [parseAddress_of_lastCut hcut hhost]
    cases hread : Numeral.read Numeral.maxU16 behind.toList with
    | ok n => exact absurd ⟨_, read_port_iff.mp ⟨n, hread, rfl⟩⟩ hnone
    | error fault => exact ⟨fault, rfl⟩

/-- Every host that is not empty can be written with every port, and just the texts that spell a host
and a port are taken, for these. Every other text is refused: for the colon it lacks, for the host, or
for the port behind the last colon. -/
theorem parseAddress_grammar :
    (∀ (host : String) (port : UInt16), host ≠ "" →
      parseAddress (host ++ ":" ++ toString port.toNat) = .ok (host, port)) ∧
    (∀ text host port, parseAddress text = .ok (host, port) ↔ SpellsAddress text host port) ∧
    (∀ text, (∃ fault, parseAddress text = .error fault) ↔
      ¬ ∃ host port, SpellsAddress text host port) ∧
    (∀ text, parseAddress text = .error .noColon ↔ ':' ∉ text.toList) ∧
    (∀ text, parseAddress text = .error .emptyHost ↔ ∃ behind, LastCut text "" behind) ∧
    (∀ text, (∃ fault, parseAddress text = .error (.port fault)) ↔
      ∃ host behind, host ≠ "" ∧ LastCut text host behind ∧ ¬ ∃ port, SpellsPort behind port) := by
  refine ⟨fun host port hhost => ?_, fun text host port => parseAddress_eq_ok_iff, fun text => ?_,
    fun text => parseAddress_eq_noColon_iff, fun text => parseAddress_eq_emptyHost_iff,
    fun text => parseAddress_eq_port_iff⟩
  · have hport := spellsPort_toString port
    exact parseAddress_eq_ok_iff.mpr ⟨hhost, _, ⟨rfl, hport.noColon⟩, hport⟩
  · simp only [← parseAddress_eq_ok_iff]
    cases parseAddress text with
    | ok address => simp [Prod.ext_iff]
    | error fault => simp

/-- A host full of colons, a port behind a sign and zeros, and a port that is one too large. -/
theorem parseAddress_grammar_of_colons :
    "::1" ≠ "" ∧ parseAddress ("::1" ++ ":" ++ toString (65535 : UInt16).toNat) = .ok ("::1", 65535) ∧
    parseAddress "::1:+0065535" = .ok ("::1", 65535) ∧
    ∃ fault, parseAddress "::1:65536" = .error (.port fault) := by
  obtain ⟨hspelled, htaken, -, -, -, hport⟩ := parseAddress_grammar
  refine ⟨by decide, hspelled "::1" 65535 (by decide), ?_, ?_⟩
  · refine (htaken ..).mpr ⟨by decide, "+0065535", ⟨rfl, by decide⟩, ?_⟩
    exact ⟨"0065535".toList, .inr rfl, by decide, List.all_eq_true.mp rfl, by decide⟩
  · refine (hport _).mpr ⟨"::1", "65536", by decide, ⟨rfl, by decide⟩, ?_⟩
    intro ⟨port, digits, htext, _, _, hvalue⟩
    rcases htext with rfl | htext
    · have hsmall := port.toNat_lt
      rw [← hvalue] at hsmall
      revert hsmall
      decide
    · cases htext

end TunnelAgent.CommandLine
