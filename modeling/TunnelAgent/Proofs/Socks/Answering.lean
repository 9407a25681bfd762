import TunnelAgent.Proofs.Socks.Connection
import TunnelAgent.Proofs.Socks.Transcript

/-! # A connection answers as its client is answered

The clock can end a handshake and a dial, and a socket can fail; to the client at the gate that is no
more than the end of its stream, or the outcome of its dial. So what a connection writes at the gate
is the answer to what has been heard of its client: to all that it has said, if nothing comes too
late and no socket fails. -/

namespace TunnelAgent.Socks

/-- A client that does nothing but speak. -/
def Stream.words (s : Stream) : List Client.Event := s.map fun (table, b) => .byte table b

theorem heard_words (s : Stream) : heard s.words = s := by
  induction s with
  | nil => rfl
  | cons said s ih => exact congrArg (said :: ·) ih

theorem Client.effects_append (events more : List Client.Event) (c : Client) :
    (Client.run (events ++ more) c).1 =
      (Client.run events c).1 ++ (Client.run more (Client.run events c).2).1 := by
  induction events generalizing c with
  | nil => rfl
  | cons event rest ih => rw [List.cons_append, Client.run_cons, ih, Client.run_cons, List.append_assoc]; rfl

namespace Connection

variable {config : Config.Socks} {k : Connection} {m : Moment} {rest ms : List Moment}
  {c : Client} {events : List Client.Event}

/-- At the gate the connection does what the client does to whom these things happen. -/
structure Retold (config : Config.Socks) (ms : List Moment) (k : Connection) (c : Client)
    (events : List Client.Event) : Prop where
  gates : gates (run config ms k).1 = (Client.run events c).1
  isPrefix : Socks.heard events <+: k.heard ms
  all : Timely config ms k → Socks.heard events = k.heard ms

/-- The client at the gate; one that goes on while both streams have ended does no more. -/
def Stands (k : Connection) (c : Client) : Prop :=
  k.client = c ∨ k.client = .closed ∧ k.clientEnded = true ∧ ∃ d, c = .relaying d

/-- What happens to a client that is behind its handshake. -/
def Moment.atGate (m : Moment) (k : Connection) : List Client.Event :=
  match m.event with
  | .byte b => if k.clientEnded then [] else [.byte m.table b]
  | .dialed outcome => [.dialed outcome]
  | _ => []

theorem heard_of_ended (hended : k.clientEnded = true) (ms : List Moment) : k.heard ms = [] :=
  if_pos hended

theorem Timely.of_settled (h : Timely config (m :: rest) k) {k' : Connection}
    (hsettled : k'.client.isSettled = true) : Timely config rest k' := by
  intro later hmem
  refine ⟨fun hgoing => ?_, (h later (List.mem_cons_of_mem m hmem)).2⟩
  rw [hsettled] at hgoing
  cases hgoing

namespace Retold

/-- A moment, and what it is to the client. -/
theorem cons (first : List Client.Event) (front : Stream)
    (h : Retold config rest (step config m k).2 (Client.run first c).2 events)
    (hgates : Connection.gates (step config m k).1 = (Client.run first c).1)
    (hfirst : ∀ later, Socks.heard (first ++ later) = front ++ Socks.heard later)
    (hheard : k.heard (m :: rest) = front ++ (step config m k).2.heard rest)
    (htimely : Timely config (m :: rest) k → Timely config rest (step config m k).2) :
    Retold config (m :: rest) k c (first ++ events) := by
  refine ⟨?_, ?_, fun h' => ?_⟩
  · rw [run_cons, gates_append, hgates, h.gates, Client.effects_append]
  · rw [hfirst, hheard]
    exact (List.prefix_append_right_inj front).mpr h.isPrefix
  · rw [hfirst, hheard, h.all (htimely h')]

theorem same (hstep : step config m k = ([], k)) (hheard : k.heard (m :: rest) = k.heard rest)
    (h : Retold config rest k c events) : Retold config (m :: rest) k c events := by
  refine .cons [] [] (by rw [hstep]; exact h) ?_ (fun _ => rfl) ?_ ?_
  · rw [hstep]
    rfl
  · rw [hstep]
    exact hheard
  · rw [hstep]
    exact fun htimely later hmem => htimely later (List.mem_cons_of_mem m hmem)

/-- A connection that is over says no more, whatever its client says. -/
theorem closed (hclosed : k.client = .closed) : Retold config ms k .closed (k.heard ms).words := by
  refine ⟨?_, ?_, fun _ => heard_words _⟩
  · rw [(run_closed config hclosed ms).1, Client.run_closed]
    rfl
  · exact (heard_words (k.heard ms)).symm ▸ List.prefix_refl _

/-- A handshake that is over before its end. -/
theorem ended {field : Field} {need : Nat} {got : Bytes} (heffects : (step config m k).1 = [])
    (hclosed : (step config m k).2.client = .closed)
    (hall : Timely config (m :: rest) k → k.heard (m :: rest) = []) :
    Retold config (m :: rest) k (.reading field need got) [.ended] := by
  refine ⟨?_, List.nil_prefix, fun htimely => (hall htimely).symm⟩
  rw [run_cons, heffects, (run_closed config hclosed rest).1]
  rfl

end Retold

theorem heard_byte {b : UInt8} (hb : m.event = .byte b) (hopen : k.clientEnded = false)
    {k' : Connection} (hopen' : k'.clientEnded = false) (rest : List Moment) :
    k.heard (m :: rest) = (m.table, b) :: k'.heard rest := by
  simp [heard, spoken, hopen, hopen', hb]

/-- Behind the handshake: what a moment does to the connection is what it does to its client, unless
a socket fails. -/
theorem take_stands (hsettled : k.client.isSettled = true) (hopen : k.client ≠ .closed)
    (hfails : m.event ≠ .failed) :
    gates (k.take m).1 = (Client.run (m.atGate k) k.client).1 ∧
      Stands (k.take m).2 (Client.run (m.atGate k) k.client).2 ∧
      ∃ front, (∀ later, Socks.heard (m.atGate k ++ later) = front ++ Socks.heard later) ∧
        ∀ rest, k.heard (m :: rest) = front ++ (k.take m).2.heard rest := by
  obtain ⟨since, client, username, clientEnded, destinationEnded⟩ := k
  obtain ⟨now, table, event⟩ := m
  cases client with
  | reading field need got => cases hsettled
  | closed => exact absurd rfl hopen
  | dialing d early =>
    cases event with
    | failed => exact absurd rfl hfails
    | byte b =>
      cases clientEnded with
      | true => exact ⟨rfl, .inl rfl, [], fun _ => rfl, fun _ => rfl⟩
      | false => exact ⟨rfl, .inl rfl, [(table, b)], fun _ => rfl, fun _ => rfl⟩
    | ended => cases clientEnded <;> exact ⟨rfl, .inl rfl, [], fun _ => rfl, fun _ => rfl⟩
    | dialed outcome =>
      cases outcome with
      | error fault => exact ⟨rfl, .inl rfl, [], fun _ => rfl, fun _ => rfl⟩
      | ok bound =>
        cases early <;> cases clientEnded <;> exact ⟨rfl, .inl rfl, [], fun _ => rfl, fun _ => rfl⟩
    | answered | answerEnded | waited => exact ⟨rfl, .inl rfl, [], fun _ => rfl, fun _ => rfl⟩
  | relaying d =>
    cases event with
    | failed => exact absurd rfl hfails
    | byte b =>
      cases clientEnded with
      | true => exact ⟨rfl, .inl rfl, [], fun _ => rfl, fun _ => rfl⟩
      | false => exact ⟨rfl, .inl rfl, [(table, b)], fun _ => rfl, fun _ => rfl⟩
    | ended =>
      cases clientEnded with
      | true => exact ⟨rfl, .inl rfl, [], fun _ => rfl, fun _ => rfl⟩
      | false =>
        cases destinationEnded with
        | false => exact ⟨rfl, .inl rfl, [], fun _ => rfl, fun _ => rfl⟩
        | true => exact ⟨rfl, .inr ⟨rfl, rfl, d, rfl⟩, [], fun _ => rfl, fun _ => rfl⟩
    | answerEnded =>
      cases destinationEnded with
      | true => exact ⟨rfl, .inl rfl, [], fun _ => rfl, fun _ => rfl⟩
      | false =>
        cases clientEnded with
        | false => exact ⟨rfl, .inl rfl, [], fun _ => rfl, fun _ => rfl⟩
        | true => exact ⟨rfl, .inr ⟨rfl, rfl, d, rfl⟩, [], fun _ => rfl, fun _ => rfl⟩
    | answered bytes =>
      cases destinationEnded <;> exact ⟨rfl, .inl rfl, [], fun _ => rfl, fun _ => rfl⟩
    | dialed | waited => exact ⟨rfl, .inl rfl, [], fun _ => rfl, fun _ => rfl⟩

/-- The outcome of a dial that is not over in time. -/
def timedOut : Except IoFault (Option Endpoint) := .error ⟨.timedOut, "timed out"⟩

theorem retold_late_dial {d : Destination} {early : Bytes} (hclient : k.client = .dialing d early)
    (hlate : k.since + connectTimeout config < m.now) :
    ∃ events, Retold config (m :: rest) k (.dialing d early) events := by
  have hexpire : k.expire config m.now = k.dialed timedOut := by
    simp only [expire, hclient]
    exact if_pos hlate
  have hdialed : k.dialed timedOut = ([.gate (.reply (Reply.hostUnreachable.bytes none))],
      { k with client := .closed }) := by
    simp only [dialed, hclient]
    rfl
  have hrun : (run config (m :: rest) k).1 = [.gate (.reply (Reply.hostUnreachable.bytes none))] := by
    obtain ⟨heffects, hclosed⟩ :=
      take_closed (k := { k with client := .closed }) rfl m
    rw [run_cons, step_eq, hexpire, hdialed, heffects, (run_closed config hclosed rest).1]
    rfl
  refine ⟨.dialed timedOut :: (k.heard (m :: rest)).words, ?_, ?_, fun _ => heard_words _⟩
  · rw [hrun, Client.run_cons]
    change _ = _ ++ (Client.run _ .closed).1
    rw [Client.run_closed]
    rfl
  · exact (heard_words (k.heard (m :: rest))).symm ▸ List.prefix_refl _

theorem retold_byte {b : UInt8} (hgoing : k.client.isSettled = false) (hopen : k.clientEnded = false)
    (hb : m.event = .byte b) (hstep : step config m k = k.take m)
    (h : Retold config rest (k.byte m.now m.table b).2 (k.byte m.now m.table b).2.client events) :
    Retold config (m :: rest) k k.client (.byte m.table b :: events) := by
  have hstep : step config m k = k.byte m.now m.table b := by rw [hstep, take, hb]
  have hnext : (k.byte m.now m.table b).2.client = (k.client.feed m.table b).2 ∧
      (k.byte m.now m.table b).2.clientEnded = false := by
    simp [Connection.byte, hopen]
  rw [hnext.1, ← hstep] at h
  refine .cons [.byte m.table b] [(m.table, b)] h ?_ (fun _ => rfl) ?_ ?_
  · rw [hstep, gates_byte hopen]
    exact (List.append_nil _).symm
  · rw [hstep, heard_byte hb hopen hnext.2]
    rfl
  · intro htimely later hmem
    obtain ⟨htime, hfailed⟩ := htimely later (List.mem_cons_of_mem m hmem)
    refine ⟨fun hstill hlate => htime hgoing ?_, hfailed⟩
    rw [hstep] at hstill hlate
    rwa [Late, since_byte m.now m.table b hstill] at hlate

section
variable (ih : ∀ {k : Connection} {c : Client}, k.Stands c → ∃ events, Retold config rest k c events)
include ih

/-- Behind the handshake, when neither the clock nor a socket has the word. -/
theorem retold_take (hsettled : k.client.isSettled = true) (hopen : k.client ≠ .closed)
    (hfails : m.event ≠ .failed) (hstep : step config m k = k.take m) :
    ∃ events, Retold config (m :: rest) k k.client events := by
  obtain ⟨hgates, hstands, front, hfirst, hheard⟩ := take_stands hsettled hopen hfails
  obtain ⟨events, h⟩ := ih hstands
  refine ⟨_, .cons _ front (by rw [hstep]; exact h) (by rw [hstep]; exact hgates) hfirst
    (by rw [hstep]; exact hheard rest) fun htimely => htimely.of_settled ?_⟩
  rw [hstep]
  exact (take_settled hsettled m).2

theorem retold_reading {field : Field} {need : Nat} {got : Bytes}
    (hclient : k.client = .reading field need got) :
    ∃ events, Retold config (m :: rest) k (.reading field need got) events := by
  by_cases hlate : Late config k m
  · obtain ⟨heffects, hclosed⟩ := step_late hclient hlate
    refine ⟨_, .ended heffects hclosed fun htimely => ?_⟩
    exact absurd hlate ((htimely m List.mem_cons_self).1 (by rw [hclient]; rfl))
  have hstep := step_in_time hclient hlate
  rcases byte?_cases m with ⟨b, hb⟩ | hevent
  · cases hopen : k.clientEnded with
    | true =>
      have htake : k.take m = ([], k) := by
        rw [take, hb]
        exact if_pos hopen
      obtain ⟨events, h⟩ := ih (.inl hclient : k.Stands _)
      refine ⟨_, h.same (hstep.trans htake) ?_⟩
      rw [heard_of_ended hopen, heard_of_ended hopen]
    | false =>
      obtain ⟨events, h⟩ := ih (.inl rfl)
      rw [← hclient]
      exact ⟨_, retold_byte (by rw [hclient]; rfl) hopen hb hstep h⟩
  · rcases take_reading hclient hevent with ⟨heffects, hclosed, hheard⟩ | ⟨hsame, hheard⟩
    · rw [← hstep] at heffects hclosed
      exact ⟨_, .ended heffects hclosed fun htimely =>
        hheard (htimely m List.mem_cons_self).2 rest⟩
    · obtain ⟨events, h⟩ := ih (.inl hclient : k.Stands _)
      exact ⟨_, h.same (hstep.trans hsame) (hheard rest)⟩

theorem retold_dialing {d : Destination} {early : Bytes} (hclient : k.client = .dialing d early) :
    ∃ events, Retold config (m :: rest) k (.dialing d early) events := by
  by_cases hlate : k.since + connectTimeout config < m.now
  · exact retold_late_dial hclient hlate
  have hstep : step config m k = k.take m := by
    have hexpire : k.expire config m.now = ([], k) := by
      simp only [expire, hclient]
      exact if_neg hlate
    rw [step_eq, hexpire]
    rfl
  by_cases hfails : m.event = .failed
  · -- A failure is not noticed during the dial.
    have htake : k.take m = ([], k) := by simp [take, hfails, failed, hclient]
    obtain ⟨events, h⟩ := ih (.inl hclient : k.Stands _)
    exact ⟨_, h.same (hstep.trans htake) (by simp [heard, spoken, hfails])⟩
  rw [← hclient]
  exact retold_take ih (by rw [hclient]; rfl) (by simp [hclient]) hfails hstep

theorem retold_relaying {d : Destination} (hclient : k.client = .relaying d) :
    ∃ events, Retold config (m :: rest) k (.relaying d) events := by
  have hstep : step config m k = k.take m := by
    have hexpire : k.expire config m.now = ([], k) := by simp only [expire, hclient]
    rw [step_eq, hexpire]
    rfl
  by_cases hfails : m.event = .failed
  · have htake : k.take m = ([], { k with client := .closed }) := by
      simp [take, hfails, failed, hclient]
    refine ⟨[], ?_, List.nil_prefix, fun htimely => absurd hfails (htimely m List.mem_cons_self).2⟩
    rw [run_cons, hstep, htake, (run_closed config rfl rest).1]
    rfl
  rw [← hclient]
  exact retold_take ih (by rw [hclient]; rfl) (by simp [hclient]) hfails hstep

end

/-- What a connection does at the gate is what some client does that says what has been heard. -/
theorem exists_retold (config : Config.Socks) (ms : List Moment) {k : Connection} {c : Client}
    (hstands : k.Stands c) : ∃ events, Retold config ms k c events := by
  induction ms generalizing k c with
  | nil => exact ⟨[], rfl, List.nil_prefix, fun _ => (ite_self _).symm⟩
  | cons m rest ih =>
    rcases hstands with rfl | ⟨hclosed, hended, d, rfl⟩
    · cases hclient : k.client with
      | reading field need got => exact retold_reading ih hclient
      | dialing d early => exact retold_dialing ih hclient
      | relaying d => exact retold_relaying ih hclient
      | closed => exact ⟨_, .closed hclient⟩
    · refine ⟨[], ?_, List.nil_prefix, fun _ => (heard_of_ended hended _).symm⟩
      rw [(run_closed config hclosed _).1]
      rfl

/-- On the clock, too, the first check that fails has the last word at the gate: what happens there
follows the answer to what has been heard of the client, which is all that it has said if nothing
comes too late and no socket fails. -/
theorem answers_heard (config : Config.Socks) (ms : List Moment) (now : Duration) :
    ∃ events, Socks.heard events <+: spoken ms ∧
      (Timely config ms (accept now) → Socks.heard events = spoken ms) ∧
      (∃ said asked, Answered (Socks.heard events) said asked) ∧
      ∀ said asked, Answered (Socks.heard events) said asked →
        Client.Follows events (gates (run config ms (accept now)).1) said asked := by
  obtain ⟨events, h⟩ := exists_retold config ms (.inl rfl : (accept now).Stands .start)
  refine ⟨events, h.isPrefix, h.all, Answered.total _, fun said asked hanswered => ?_⟩
  rw [h.gates]
  exact show Client.Follows events (Client.goes {} 2 (.read .header 2) events) said asked from
    hanswered.follows

end Connection

end TunnelAgent.Socks
