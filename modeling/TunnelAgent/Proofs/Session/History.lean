import TunnelAgent.Proofs.Session.Registering

/-! # The record of a session

Proof-only history beside a run: what the gateway has sent, the phases, the frames queued, and
whether the session was hindered before its manifest was accepted. -/

namespace TunnelAgent.Session

/-- The phases up to this one. -/
def Phase.way (p : Phase) : List Phase := path.take (path.idxOf p + 1)

/-- The gateway has still to accept the manifest. -/
def Phase.isEarly (p : Phase) : Bool := p ∈ [init, connected, greeted, authorized]

/-- The phase of a session that has ended. -/
def Phase.ending : Except SessionFault Unit → Phase
  | .ok () => closed
  | .error _ => failed

theorem Phase.way_prefix (p : Phase) : p.way <+: path ∧ p.way ≠ [] :=
  ⟨List.take_prefix _ _, by simp [way, path]⟩

theorem not_mem_way_of_early {p : Phase} (hp : p.isEarly = true) :
    .registered ∉ p.way ∧ .dispatching ∉ p.way := by
  cases p <;> revert hp <;> decide

theorem ending_ne_of_early {phase : Phase} (hearly : phase.isEarly = true)
    (result : Except SessionFault Unit) : Phase.ending result ≠ phase := by
  intro h
  rw [← h] at hearly
  cases result <;> cases hearly

theorem not_mem_ending (result : Option (Except SessionFault Unit)) {p : Phase}
    (hp : p.isTerminal = false) : p ∉ (result.map Phase.ending).toList := by
  rintro hmem
  cases result with
  | none => cases hmem
  | some result =>
    obtain rfl := List.mem_singleton.mp hmem
    cases result <;> cases hp

/-- The main task is refused what it would write next: the preamble or one of its requests. -/
def refuses : Action → Session → Bool
  | .main draws _, s =>
    match s.point with
    | .greeting rest => decide (rest ≠ []) && s.outgoing.pipe.readerGone
    | .authorizing => !(s.send (.ofMessage (.authorization s.settings.credentials))).1.isOk
    | .registering =>
      match assignKeys s.shared.rules draws with
      | some (resources, _) => !(s.send (Registrar.frame resources)).1.isOk
      | none => false
    | _ => false
  | _, _ => false

/-- What is on record of a run of a session. -/
structure History where
  /-- the gateway's bytes, read or not -/
  stream : Bytes := []
  /-- the gateway's stream may have come to its end -/
  ended : Bool := false
  visited : List Phase := [.init]
  /-- the frames put into the queue -/
  sent : List Outbound := []
  /-- the transport was closed, or something was refused, before the manifest was accepted -/
  hindered : Bool := false

namespace History

def record (action : Action) (s s' : Session) (h : History) : History where
  stream := h.stream ++ action.bytes
  ended := h.ended || action.endsStream
  visited := if s'.phase = s.phase then h.visited else h.visited ++ [s'.phase]
  sent := h.sent ++ queued s s'
  hindered := h.hindered || s'.phase.isEarly && s'.outgoing.closed || refuses action s

/-- The record of a run from `s` on. -/
def after : List Action → Session → History → History
  | [], _, h => h
  | action :: rest, s, h =>
    match s.step action with
    | some s' => after rest s' (h.record action s s')
    | none => h

/-- The first Registration that was sent. -/
def registration? (h : History) : Option Outbound := h.sent.find? (·.type = .registration)

end History

/-- The main task waits for the gateway, or has ended. -/
def Rests (s : Session) : Prop :=
  match s.point with
  | .awaitingAuthorization => s.receive = none
  | .awaitingRegistration _ => s.receive = none
  | .dispatching => s.receive = none
  | .ended _ => True
  | _ => False

variable {s s' : Session} {h : History} {action : Action}

theorem refuses_of_beside (hmain : action.isMain = false) (s : Session) : refuses action s = false := by
  cases action with
  | main draws nonce => cases hmain
  | _ => rfl

/-- Beside an unpublished session's main task nothing registers. -/
theorem noneQueued_of_beside (hmain : action.isMain = false) (hstep : s.step action = some s')
    (hunpublished : s.published = false) : ∀ frame ∈ queued s s', frame.type ≠ .registration := by
  refine noneQueued_beside hmain ?_ hstep
  rintro rules draws rfl
  simp [step, reregister, hunpublished] at hstep

theorem registration?_of_none (hnone : ∀ frame ∈ queued s s', frame.type ≠ .registration) :
    (h.record action s s').registration? = h.registration? := by
  have hfind : (queued s s').find? (·.type = .registration) = none :=
    List.find?_eq_none.mpr fun frame hframe => by simpa using hnone frame hframe
  rw [History.registration?, History.record, List.find?_append, hfind, Option.or_none]
  rfl

theorem registration?_of_some {frame : Outbound} (hown : h.registration? = some frame) :
    (h.record action s s').registration? = some frame := by
  rw [History.registration?] at hown
  rw [History.registration?, History.record, List.find?_append, hown, Option.some_or]

theorem visited_of_same (hphase : s'.phase = s.phase) :
    (h.record action s s').visited = h.visited := by
  rw [History.record, if_pos hphase]

theorem visited_of_ne (hphase : s'.phase ≠ s.phase) :
    (h.record action s s').visited = h.visited ++ [s'.phase] := by
  rw [History.record, if_neg hphase]

theorem conclude_ending (fault : SessionFault) (s : Session) :
    ∃ result, (s.conclude fault).point = .ended result ∧
      (s.conclude fault).phase = .ending result := by
  refine ⟨_, rfl, ?_⟩
  simp only [conclude]
  split <;> simp only [Phase.ending, *]

end TunnelAgent.Session
