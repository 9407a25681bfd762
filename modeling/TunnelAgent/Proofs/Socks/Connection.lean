import TunnelAgent.Proofs.Socks.Admission
import TunnelAgent.Socks.Connection

/-! # A connection on the clock

During the handshake the clock and the sockets can do nothing but end it. So what a connection dials is
what its client's conversation asks for, as far as the client has spoken before its stream ends, and in
time; behind the handshake nothing is dialled. -/

namespace TunnelAgent.Socks

namespace Connection

def Event.byte? : Event → Option UInt8
  | byte b => some b
  | _ => none

theorem byte?_eq_none {event : Event} (h : ∀ b, event ≠ .byte b) : event.byte? = none := by
  cases event with
  | byte b => exact absurd rfl (h b)
  | _ => rfl

variable {config : Config.Socks} {k : Connection}

theorem step_eq (m : Moment) (k : Connection) :
    step config m k = ((k.expire config m.now).1 ++ ((k.expire config m.now).2.take m).1,
      ((k.expire config m.now).2.take m).2) := rfl

theorem run_cons (m : Moment) (rest : List Moment) (k : Connection) :
    run config (m :: rest) k = ((step config m k).1 ++ (run config rest (step config m k).2).1,
      (run config rest (step config m k).2).2) := rfl

theorem run_append (ms ns : List Moment) (k : Connection) :
    run config (ms ++ ns) k =
      ((run config ms k).1 ++ (run config ns (run config ms k).2).1,
        (run config ns (run config ms k).2).2) := by
  induction ms generalizing k with
  | nil => rfl
  | cons m rest ih => rw [List.cons_append, run_cons, ih, run_cons, List.append_assoc]

/-! ## A connection that is over -/

theorem take_closed (h : k.client = .closed) (m : Moment) :
    (k.take m).1 = [] ∧ (k.take m).2.client = .closed := by
  cases hevent : m.event with
  | byte b =>
    simp only [take, hevent, byte]
    split
    · exact ⟨rfl, h⟩
    · simp [h, Client.completed, Client.feed]
  | dialed outcome => simp [take, hevent, dialed, h, Client.dialed]
  | ended => simp [take, hevent, ended, h]
  | answered bytes => simp [take, hevent, answered, h]
  | answerEnded => simp [take, hevent, answerEnded, h]
  | failed => simp [take, hevent, failed, h]
  | waited => simp [take, hevent, h]

theorem step_closed (config : Config.Socks) (h : k.client = .closed) (m : Moment) :
    (step config m k).1 = [] ∧ (step config m k).2.client = .closed := by
  have hexpire : k.expire config m.now = ([], k) := by
    rw [expire, h]
  rw [step_eq, hexpire]
  exact take_closed h m

theorem run_closed (config : Config.Socks) (h : k.client = .closed) (ms : List Moment) :
    (run config ms k).1 = [] ∧ (run config ms k).2.client = .closed := by
  induction ms generalizing k with
  | nil => exact ⟨rfl, h⟩
  | cons m rest ih =>
    obtain ⟨heffects, hclosed⟩ := step_closed config h m
    obtain ⟨hmore, hrest⟩ := ih hclosed
    rw [run_cons, heffects, hmore]
    exact ⟨rfl, hrest⟩

/-! ## During the handshake -/

/-- What the client says before its stream ends. -/
def spoken : List Moment → Stream
  | [] => []
  | m :: rest =>
    match m.event with
    | .byte b => (m.table, b) :: spoken rest
    | .ended => []
    | _ => spoken rest

/-- What is still to be heard of the client. -/
def heard (ms : List Moment) (k : Connection) : Stream := if k.clientEnded then [] else spoken ms

/-- The time for a handshake that has begun with the connection is over. -/
def Late (config : Config.Socks) (k : Connection) (m : Moment) : Prop :=
  k.since + handshakeTimeout config < m.now

section
variable {field : Field} {need : Nat} {got : Bytes} {m : Moment}

theorem step_late (hclient : k.client = .reading field need got) (hlate : Late config k m) :
    (step config m k).1 = [] ∧ (step config m k).2.client = .closed := by
  have hexpire : k.expire config m.now = ([], { k with client := .closed }) := by
    simp only [expire, hclient, Client.giveUp]
    exact if_pos hlate
  rw [step_eq, hexpire]
  exact take_closed rfl m

theorem step_in_time (hclient : k.client = .reading field need got) (htime : ¬ Late config k m) :
    step config m k = k.take m := by
  have hexpire : k.expire config m.now = ([], k) := by
    simp only [expire, hclient]
    exact if_neg htime
  rw [step_eq, hexpire]
  rfl

/-- Whatever else happens during the handshake ends it or does nothing. -/
theorem take_reading (hclient : k.client = .reading field need got)
    (hevent : ∀ b, m.event ≠ .byte b) :
    ((k.take m).1 = [] ∧ (k.take m).2.client = .closed ∧
        (m.event ≠ .failed → ∀ rest, k.heard (m :: rest) = [])) ∨
      k.take m = ([], k) ∧ ∀ rest, k.heard (m :: rest) = k.heard rest := by
  obtain ⟨since, client, username, clientEnded, destinationEnded⟩ := k
  obtain ⟨now, table, event⟩ := m
  cases hclient
  cases event with
  | byte b => exact absurd rfl (hevent b)
  | ended =>
    cases clientEnded
    · exact .inl ⟨rfl, rfl, fun _ _ => rfl⟩
    · exact .inr ⟨rfl, fun _ => rfl⟩
  | failed => exact .inl ⟨rfl, rfl, fun h => absurd rfl h⟩
  | _ => exact .inr ⟨rfl, fun _ => rfl⟩

/-- Only a byte, the end and a failure are noticed during the handshake. -/
theorem take_idle (hclient : k.client = .reading field need got)
    (hbyte : ∀ b, m.event ≠ .byte b) (hends : m.event ≠ .ended) (hfails : m.event ≠ .failed) :
    k.take m = ([], k) := by
  obtain ⟨since, client, username, clientEnded, destinationEnded⟩ := k
  obtain ⟨now, table, event⟩ := m
  cases hclient
  cases event with
  | byte b => exact absurd rfl (hbyte b)
  | ended => exact absurd rfl hends
  | failed => exact absurd rfl hfails
  | _ => rfl

/-- When all that comes is late, nothing happens any more. -/
theorem run_late (hclient : k.client = .reading field need got) {ms : List Moment}
    (hlate : ∀ m ∈ ms, Late config k m) :
    (run config ms k).1 = [] ∧ (ms ≠ [] → (run config ms k).2.client = .closed) := by
  cases ms with
  | nil => exact ⟨rfl, fun h => absurd rfl h⟩
  | cons m rest =>
    obtain ⟨heffects, hclosed⟩ := step_late hclient (hlate m List.mem_cons_self)
    obtain ⟨hmore, hrest⟩ := run_closed config hclosed rest
    rw [run_cons, heffects, hmore]
    exact ⟨rfl, fun _ => hrest⟩

end

/-! ## What happens at the gate -/

/-- What happens at the gate. -/
def gates (effects : List Effect) : List Client.Effect :=
  effects.filterMap fun effect => match effect with
    | .gate e => some e
    | _ => none

def notes (effects : List Effect) : List Note :=
  effects.filterMap fun effect => match effect with
    | .note n => some n
    | _ => none

theorem gates_append (effects more : List Effect) :
    gates (effects ++ more) = gates effects ++ gates more := List.filterMap_append

theorem notes_append (effects more : List Effect) :
    notes (effects ++ more) = notes effects ++ notes more := List.filterMap_append

theorem gates_gate (effects : List Client.Effect) : gates (effects.map .gate) = effects := by
  rw [gates, List.filterMap_map]
  exact List.filterMap_some

theorem notes_note (log : List Note) : notes (log.map .note) = log := by
  rw [notes, List.filterMap_map]
  exact List.filterMap_some

theorem gates_note (log : List Note) : gates (log.map .note) = [] := by
  rw [gates, List.filterMap_map, List.filterMap_eq_nil_iff]
  exact fun _ _ => rfl

theorem notes_gate (effects : List Client.Effect) : notes (effects.map .gate) = [] := by
  rw [notes, List.filterMap_map, List.filterMap_eq_nil_iff]
  exact fun _ _ => rfl

theorem gates_byte (hopen : k.clientEnded = false) (now : Duration) (table : AccessTable)
    (b : UInt8) : gates (k.byte now table b).1 = (k.client.feed table b).1 := by
  simp only [byte, hopen, Bool.false_eq_true, if_false, gates_append, gates_note, gates_gate,
    List.nil_append]

/-- What can come to a connection without a byte of its client: nothing is dialled or logged, and the
handshake goes on unless it is over. -/
structure Aside (k : Connection) (r : List Effect × Connection) : Prop where
  dials : dials (gates r.1) = []
  notes : notes r.1 = []
  username : r.2.username = k.username
  client : r.2.client = k.client ∨ r.2.client.isSettled = true

theorem Aside.same (k : Connection) : Aside k ([], k) := ⟨rfl, rfl, rfl, .inl rfl⟩

theorem aside_dialed (outcome : Except IoFault (Option Endpoint)) (k : Connection) :
    Aside k (k.dialed outcome) := by
  obtain ⟨since, client, username, clientEnded, destinationEnded⟩ := k
  cases client with
  | dialing destination early =>
    cases outcome with
    | error fault => exact ⟨rfl, rfl, rfl, .inr rfl⟩
    | ok bound => cases early <;> cases clientEnded <;> exact ⟨rfl, rfl, rfl, .inr rfl⟩
  | _ => exact .same _

theorem aside_expire (now : Duration) (k : Connection) : Aside k (k.expire config now) := by
  cases hclient : k.client with
  | reading field need got =>
    simp only [expire, hclient]
    split
    · exact ⟨rfl, rfl, rfl, .inr rfl⟩
    · exact .same k
  | dialing destination early =>
    simp only [expire, hclient]
    split
    · exact aside_dialed _ k
    · exact .same k
  | relaying destination =>
    simp only [expire, hclient]
    exact .same k
  | closed =>
    simp only [expire, hclient]
    exact .same k

theorem aside_take {m : Moment} (hevent : ∀ b, m.event ≠ .byte b) : Aside k (k.take m) := by
  obtain ⟨since, client, username, clientEnded, destinationEnded⟩ := k
  obtain ⟨now, table, event⟩ := m
  cases event with
  | byte b => exact absurd rfl (hevent b)
  | dialed outcome => exact aside_dialed outcome _
  | ended =>
    cases clientEnded with
    | true => exact .same _
    | false => cases client <;> cases destinationEnded <;> exact ⟨rfl, rfl, rfl, .inr rfl⟩
  | answered bytes =>
    cases client <;> cases destinationEnded <;> exact ⟨rfl, rfl, rfl, .inl rfl⟩
  | answerEnded =>
    cases client with
    | relaying destination =>
      cases clientEnded <;> cases destinationEnded <;> exact ⟨rfl, rfl, rfl, .inr rfl⟩
    | _ => exact .same _
  | failed => cases client <;> exact ⟨rfl, rfl, rfl, .inr rfl⟩
  | waited => exact .same _

theorem byte?_cases (m : Moment) : (∃ b, m.event = .byte b) ∨ ∀ b, m.event ≠ .byte b := by
  cases h : m.event with
  | byte b => exact .inl ⟨b, rfl⟩
  | _ => exact .inr (by simp)

/-! ## What is dialled -/

theorem Aside.settled {r : List Effect × Connection} (h : Aside k r)
    (hsettled : k.client.isSettled = true) : r.2.client.isSettled = true := by
  rcases h.client with hsame | hother
  · rw [hsame]
    exact hsettled
  · exact hother

theorem take_settled (h : k.client.isSettled = true) (m : Moment) :
    dials (gates (k.take m).1) = [] ∧ (k.take m).2.client.isSettled = true := by
  rcases byte?_cases m with ⟨b, hb⟩ | hevent
  · have hfeed : dials (k.client.feed m.table b).1 = [] ∧
        (k.client.feed m.table b).2.isSettled = true := by
      cases hclient : k.client with
      | reading field need got =>
        rw [hclient] at h
        cases h
      | _ => exact ⟨rfl, rfl⟩
    cases hopen : k.clientEnded with
    | true =>
      have htake : k.take m = ([], k) := by
        rw [take, hb]
        exact if_pos hopen
      rw [htake]
      exact ⟨rfl, h⟩
    | false =>
      have htake : k.take m = k.byte m.now m.table b := by rw [take, hb]
      rw [htake, gates_byte hopen]
      refine ⟨hfeed.1, ?_⟩
      simp only [byte, hopen]
      exact hfeed.2
  · have haside : Aside k (k.take m) := aside_take hevent
    exact ⟨haside.dials, haside.settled h⟩

/-- Behind the handshake nothing is dialled. -/
theorem run_settled (h : k.client.isSettled = true) (ms : List Moment) :
    dials (gates (run config ms k).1) = [] := by
  induction ms generalizing k with
  | nil => rfl
  | cons m rest ih =>
    have hexpire : Aside k (k.expire config m.now) := aside_expire m.now k
    obtain ⟨hdials, hsettled⟩ := take_settled (hexpire.settled h) m
    rw [run_cons, step_eq, gates_append, gates_append, dials_append, dials_append, hexpire.dials,
      hdials, ih hsettled]
    rfl

/-- While the handshake goes on, its time is that of its beginning. -/
theorem since_byte (now : Duration) (table : AccessTable) (b : UInt8)
    (h : (k.byte now table b).2.client.isSettled = false) :
    (k.byte now table b).2.since = k.since := by
  unfold byte at h ⊢
  split at h
  · rw [if_pos ‹_›]
  · rw [if_neg ‹_›]
    simp only at h ⊢
    split
    · rename_i hdialing
      rw [hdialing] at h
      cases h
    · rfl

/-- The handshake is not late, and no socket fails. -/
def Timely (config : Config.Socks) (ms : List Moment) (k : Connection) : Prop :=
  ∀ m ∈ ms, (k.client.isSettled = false → ¬ Late config k m) ∧ m.event ≠ .failed

/-- A connection dials what these words of its client call for. -/
structure Heeds (config : Config.Socks) (ms : List Moment) (k : Connection) (s : Stream) : Prop where
  isPrefix : s <+: k.heard ms
  dials : dials (gates (run config ms k).1) = k.client.dialled s
  all : Timely config ms k → s = k.heard ms

namespace Heeds
variable {m : Moment} {s : Stream}

theorem settled (h : k.client.isSettled = true) (ms : List Moment) :
    Heeds config ms k (k.heard ms) := by
  refine ⟨List.prefix_refl _, ?_, fun _ => rfl⟩
  rw [run_settled h, Client.dialled, Client.dials_of_settled _ h]

theorem finished {rest : List Moment} (heffects : (step config m k).1 = [])
    (hclosed : (step config m k).2.client = .closed)
    (hall : Timely config (m :: rest) k → k.heard (m :: rest) = []) :
    Heeds config (m :: rest) k [] := by
  refine ⟨List.nil_prefix, ?_, fun htimely => (hall htimely).symm⟩
  rw [run_cons, heffects, (run_closed config hclosed rest).1]
  rfl

theorem same {rest : List Moment} (hstep : step config m k = ([], k))
    (hheard : k.heard (m :: rest) = k.heard rest) (h : Heeds config rest k s) :
    Heeds config (m :: rest) k s := by
  refine ⟨hheard ▸ h.isPrefix, ?_, fun htimely => ?_⟩
  · rw [run_cons, hstep]
    exact h.dials
  · rw [hheard]
    exact h.all fun later hmem => htimely later (List.mem_cons_of_mem m hmem)

theorem byte {rest : List Moment} {b : UInt8} (hgoing : k.client.isSettled = false)
    (hopen : k.clientEnded = false) (hb : m.event = .byte b)
    (hstep : step config m k = k.byte m.now m.table b)
    (h : Heeds config rest (k.byte m.now m.table b).2 s) :
    Heeds config (m :: rest) k ((m.table, b) :: s) := by
  have hnext : (k.byte m.now m.table b).2.client = (k.client.feed m.table b).2 ∧
      (k.byte m.now m.table b).2.clientEnded = false := by
    simp [Connection.byte, hopen]
  have hheard : k.heard (m :: rest) = (m.table, b) :: (k.byte m.now m.table b).2.heard rest := by
    simp [heard, spoken, hopen, hnext.2, hb]
  refine ⟨?_, ?_, fun htimely => ?_⟩
  · rw [hheard]
    exact (List.prefix_cons_inj _).mpr h.isPrefix
  · rw [run_cons, hstep, gates_append, dials_append, gates_byte hopen, h.dials, hnext.1,
      Client.dialled_cons]
  · rw [hheard, h.all]
    intro later hmem
    obtain ⟨htime, hfailed⟩ := htimely later (List.mem_cons_of_mem m hmem)
    refine ⟨fun hstill hlate => htime hgoing ?_, hfailed⟩
    rwa [Late, since_byte m.now m.table b hstill] at hlate

end Heeds

/-- What is dialled is what the client's words call for, as far as they are heard in time. -/
theorem dials_run (config : Config.Socks) (ms : List Moment) (k : Connection) :
    ∃ s, Heeds config ms k s := by
  induction ms generalizing k with
  | nil => exact ⟨[], List.nil_prefix, rfl, fun _ => (ite_self _).symm⟩
  | cons m rest ih =>
    cases hclient : k.client with
    | reading field need got =>
      by_cases hlate : Late config k m
      · obtain ⟨heffects, hclosed⟩ := step_late hclient hlate
        refine ⟨[], .finished heffects hclosed fun htimely => ?_⟩
        exact absurd hlate ((htimely m List.mem_cons_self).1 (by rw [hclient]; rfl))
      have hstep := step_in_time hclient hlate
      rcases byte?_cases m with ⟨b, hb⟩ | hevent
      · cases hopen : k.clientEnded with
        | true =>
          have htake : k.take m = ([], k) := by
            rw [take, hb]
            exact if_pos hopen
          have hheard : ∀ later, k.heard later = [] := fun _ => if_pos hopen
          obtain ⟨s, h⟩ := ih k
          exact ⟨s, h.same (hstep.trans htake) ((hheard _).trans (hheard _).symm)⟩
        | false =>
          have htake : k.take m = k.byte m.now m.table b := by rw [take, hb]
          obtain ⟨s, h⟩ := ih (k.byte m.now m.table b).2
          exact ⟨_, h.byte (by rw [hclient]; rfl) hopen hb (hstep.trans htake)⟩
      · rcases take_reading hclient hevent with ⟨heffects, hclosed, hheard⟩ | ⟨hsame, hheard⟩
        · rw [← hstep] at heffects hclosed
          exact ⟨[], .finished heffects hclosed fun htimely =>
            hheard (htimely m List.mem_cons_self).2 rest⟩
        · obtain ⟨s, h⟩ := ih k
          exact ⟨s, h.same (hstep.trans hsame) (hheard rest)⟩
    | _ => exact ⟨_, .settled (by rw [hclient]; rfl) _⟩

end Connection

theorem Stream.tableAt_append {s t : Stream} {n : Nat} (hn : n ≤ s.length) :
    tableAt (s ++ t) n = tableAt s n := by
  rw [tableAt, tableAt, List.take_append_of_le_length hn]

/-- A conversation that passes at the front of a stream passes whatever follows. -/
theorem Passes.extend {s t : Stream} {c : Conversation} {key : UInt64} (h : Passes s c key)
    (hst : s <+: t) : Passes t c key := by
  obtain ⟨rest, rfl⟩ := hst
  have hlength : c.bytes.length ≤ s.length := Stream.length_bytes s ▸ h.said.length_le
  have hearly : c.greeting.length + c.credentials.length ≤ s.length := by
    simp only [Conversation.bytes, List.length_append] at hlength
    omega
  refine ⟨h.valid, ?_, h.names, ?_, ?_⟩
  · rw [Stream.bytes_append]
    exact h.said.trans (List.prefix_append _ _)
  · rw [Stream.tableAt_append hearly]
    exact h.known
  · rw [Stream.tableAt_append hlength]
    exact h.granted

namespace Connection

/-- A connection dials at most once, and only where its client's conversation passes; if that is said
in time and no socket fails, it does dial there. -/
theorem dials_where_client_passes (config : Config.Socks) (accepted : Duration) (ms : List Moment) :
    let dialled := dials (gates (run config ms (accept accepted)).1)
    dialled.length ≤ 1 ∧
      (∀ d ∈ dialled, ∃ c key, Passes (spoken ms) c key ∧ c.destination = d) ∧
      ((∀ m ∈ ms, m.now ≤ accepted + handshakeTimeout config ∧ m.event ≠ .failed) →
        ∀ d, (∃ c key, Passes (spoken ms) c key ∧ c.destination = d) → d ∈ dialled) := by
  intro dialled
  obtain ⟨s, h⟩ := dials_run config ms (accept accepted)
  have hdialled : dialled = Client.start.dialled s := h.dials
  rw [hdialled]
  refine ⟨Client.length_dialled_le s Client.start, fun d hd => ?_, fun htimely d hpasses => ?_⟩
  · obtain ⟨c, key, hpasses, hc⟩ := Client.mem_dialled_start.mp hd
    exact ⟨c, key, hpasses.extend h.isPrefix, hc⟩
  · have hall : s = spoken ms := h.all fun m hmem =>
      ⟨fun _ => Nat.not_lt.mpr (htimely m hmem).1, (htimely m hmem).2⟩
    rw [hall]
    exact Client.mem_dialled_start.mpr hpasses

end Connection

end TunnelAgent.Socks
