import TunnelAgent.Proofs.Session.Queue

/-! # The exchange about manifests

A session sends a first manifest, and others when it is called upon; the gateway answers them in
order, by frames that do not say which manifest they are for. The record of this exchange is kept
beside the run: the manifests in the order in which their frames were queued, those whose frames the
writer has begun, and the replies in the order in which they were taken. -/

namespace TunnelAgent.Session

/-- A call by somebody who has got hold of the registrar, which may have been withdrawn since. -/
def call (rules : List Rule) (draws : List UInt64) (s : Session) :
    Option (Except TransportFault Unit × Session) :=
  if s.reachedDispatching then
    match ({ s with published := true } : Session).reregister rules draws with
    | none => none
    | some (result, t) => some (result, { t with published := s.published })
  else none

/-- A call queues the Registration of a manifest that waits for its reply behind the others, or it
is refused and nothing has happened. -/
theorem call_cases {s s' : Session} {rules : List Rule} {draws : List UInt64}
    {result : Except TransportFault Unit} (h : s.call rules draws = some (result, s')) :
    s.reachedDispatching = true ∧
      ((result = .ok () ∧ ∃ resources : List Resource, resources.map (·.rule) = rules ∧
          Envelope.fits (Registrar.frame resources).payload ∧
          queued s s' = [Registrar.frame resources] ∧
          s' = { s with
            registrar := { pending := s.registrar.pending ++ [resources] }
            outgoing := s.outgoing.enqueue [Registrar.frame resources] }) ∨
        (∃ fault, result = .error fault) ∧ s' = s) := by
  unfold call at h
  split at h
  case isFalse => cases h
  refine ⟨‹_›, ?_⟩
  split at h
  · cases h
  rename_i hcall
  cases h
  rcases reregister_cases hcall with ⟨hok, resources, hrules, hfits, hqueued, rfl⟩ | ⟨hrefused, rfl⟩
  · exact .inl ⟨hok, resources, hrules, hfits, hqueued, rfl⟩
  · exact .inr ⟨hrefused, rfl⟩

/-- Where the registrar can be found, a call goes through it. -/
theorem call_of_published {s : Session} (hpublished : s.published = true)
    (hreached : s.reachedDispatching = true) (rules : List Rule) (draws : List UInt64) :
    s.call rules draws = s.reregister rules draws := by
  have hsame : ({ s with published := true } : Session) = s := by rw [← hpublished]
  rw [call, if_pos hreached, hsame]
  cases hcall : s.reregister rules draws with
  | none => rfl
  | some outcome =>
    obtain ⟨result, t⟩ := outcome
    have hkept := (beside_of_reregister hcall).published
    simp only [← hkept]

inductive Event where
  | own (action : Action)
  | call (rules : List Rule) (draws : List UInt64)

def next : Event → Session → Option Session
  | .own action, s => s.step action
  | .call rules draws, s => (s.call rules draws).map (·.2)

/-- The manifest of a Registration. -/
def manifest? (frame : Outbound) : Option (List Resource) :=
  if frame.type = .registration then
    match RegistrationRequest.format.decode frame.payload with
    | .ok request => some request.resources
    | .error _ => none
  else none

/-- Frames are replies to manifests here, if they are of that type. -/
def Point.awaitsReply : Point → Bool
  | awaitingRegistration _ => true
  | dispatching => true
  | _ => false

/-- The payload of the reply that the main task is about to take. -/
def reply? : Event → Session → Option Bytes
  | .own (.main ..), s =>
    if s.point.awaitsReply then
      match s.receive with
      | some (.ok frame, _) =>
        if frame.type = .registrationResponse then some frame.payload else none
      | _ => none
    else none
  | _, _ => none

/-- The manifests sent, and the replies taken while one of them was without a reply. -/
structure Exchange where
  sent : List (List Resource) := []
  /-- the manifests whose frames the writer has begun -/
  begun : List (List Resource) := []
  replies : List Bytes := []

namespace Exchange

/-- The manifests without a reply, oldest first. -/
def unanswered (e : Exchange) : List (List Resource) := e.sent.drop e.replies.length

/-- The manifests that have been accepted, by the replies in their order. -/
def accepted (e : Exchange) : List (List Resource) :=
  ((e.sent.zip e.replies).filter fun answered => Registrar.accepts answered.2).map (·.1)

/-- The table of the manifest accepted last. -/
def table (start : AccessTable) (e : Exchange) : AccessTable :=
  match e.accepted.getLast? with
  | none => start
  | some resources => .ofResources resources

def answer (reply : Option Bytes) (e : Exchange) : Exchange :=
  match reply with
  | none => e
  | some payload => if e.unanswered = [] then e else { e with replies := e.replies ++ [payload] }

def send (manifests : List (List Resource)) (e : Exchange) : Exchange :=
  { e with sent := e.sent ++ manifests }

/-- The record after an event from `before` to `after`, but for the writer. -/
def noted (event : Event) (before after : Session) (e : Exchange) : Exchange :=
  (e.answer (reply? event before)).send ((queued before after).filterMap manifest?)

def record (event : Event) (before after : Session) (e : Exchange) : Exchange :=
  { e.noted event before after with
    begun := e.begun ++ (Session.begun before after).filterMap manifest? }

/-- A run of events, with the record of the exchange. -/
def run : List Event → Session → Exchange → Option (Session × Exchange)
  | [], s, e => some (s, e)
  | event :: events, s, e =>
    match s.next event with
    | none => none
    | some t => run events t (e.record event s t)

/-- What every event preserves, a run preserves. -/
theorem preserved_of_run {P : Session → Exchange → Prop}
    (hstep : ∀ {event s s' e}, P s e → s.next event = some s' → P s' (e.record event s s'))
    {events : List Event} {s s' : Session} {e e' : Exchange} (hP : P s e)
    (h : run events s e = some (s', e')) : P s' e' := by
  induction events generalizing s e with
  | nil =>
    cases h
    exact hP
  | cons event events ih =>
    rw [run] at h
    split at h
    · cases h
    · rename_i t hnext
      exact ih (hstep hP hnext) h

@[simp] theorem send_nil (e : Exchange) : e.send [] = e := by
  rw [send, List.append_nil]

@[simp] theorem answer_none (e : Exchange) : e.answer none = e := rfl

@[simp] theorem sent_answer (reply : Option Bytes) (e : Exchange) :
    (e.answer reply).sent = e.sent := by
  unfold answer
  split
  · rfl
  · split <;> rfl

@[simp] theorem sent_record (event : Event) (before after : Session) (e : Exchange) :
    (e.record event before after).sent =
      e.sent ++ (queued before after).filterMap manifest? := by
  rw [record, noted, send, sent_answer]

@[simp] theorem begun_record (event : Event) (before after : Session) (e : Exchange) :
    (e.record event before after).begun =
      e.begun ++ (Session.begun before after).filterMap manifest? := rfl

theorem zip_append_of_le {α β : Type} {l more : List α} {r : List β} (h : r.length ≤ l.length) :
    (l ++ more).zip r = l.zip r := by
  induction l generalizing r with
  | nil =>
    obtain rfl : r = [] := List.eq_nil_of_length_eq_zero (Nat.le_zero.mp h)
    simp
  | cons x l ih =>
    cases r with
    | nil => simp
    | cons y r =>
      rw [List.cons_append, List.zip_cons_cons, List.zip_cons_cons, ih (Nat.le_of_succ_le_succ h)]

section growth
variable {e : Exchange}

theorem unanswered_send (manifests : List (List Resource))
    (hbound : e.replies.length ≤ e.sent.length) :
    (e.send manifests).unanswered = e.unanswered ++ manifests :=
  List.drop_append_of_le_length hbound

theorem accepted_send (manifests : List (List Resource))
    (hbound : e.replies.length ≤ e.sent.length) : (e.send manifests).accepted = e.accepted := by
  rw [accepted, accepted, send, zip_append_of_le hbound]

theorem table_send (manifests : List (List Resource)) (start : AccessTable)
    (hbound : e.replies.length ≤ e.sent.length) :
    (e.send manifests).table start = e.table start := by
  rw [table, table, accepted_send manifests hbound]

theorem answer_of_unsolicited (reply : Option Bytes) (h : e.unanswered = []) :
    e.answer reply = e := by
  cases reply with
  | none => rfl
  | some payload => exact if_pos h

theorem answer_of_cons (payload : Bytes) {resources : List Resource}
    {rest : List (List Resource)} (h : e.unanswered = resources :: rest) :
    e.answer (some payload) = { e with replies := e.replies ++ [payload] } :=
  if_neg (by rw [h]; simp)

theorem bound_of_cons {resources : List Resource} {rest : List (List Resource)}
    (h : e.unanswered = resources :: rest) : e.replies.length < e.sent.length := by
  refine Nat.lt_of_not_le fun hle => ?_
  rw [unanswered, List.drop_eq_nil_of_le hle] at h
  cases h

/-- A reply takes the oldest manifest without one, whatever it says. -/
theorem unanswered_answer (payload : Bytes) (e : Exchange) :
    (e.answer (some payload)).unanswered = e.unanswered.tail := by
  cases h : e.unanswered with
  | nil => rw [answer_of_unsolicited _ h, h, List.tail_nil]
  | cons resources rest =>
    rw [answer_of_cons payload h, unanswered, List.length_append, List.length_singleton,
      ← List.drop_drop, List.drop_one]
    rw [unanswered] at h
    rw [h]

theorem accepted_answer (payload : Bytes) {resources : List Resource}
    {rest : List (List Resource)} (h : e.unanswered = resources :: rest) :
    (e.answer (some payload)).accepted =
      e.accepted ++ if Registrar.accepts payload then [resources] else [] := by
  have hlt := bound_of_cons h
  have hlength : (e.sent.take e.replies.length).length = e.replies.length :=
    List.length_take_of_le (Nat.le_of_lt hlt)
  have hsent : e.sent = e.sent.take e.replies.length ++ resources :: rest := by
    rw [← h, unanswered, List.take_append_drop]
  have hbefore : e.sent.zip e.replies = (e.sent.take e.replies.length).zip e.replies := by
    conv => lhs; rw [hsent]
    exact zip_append_of_le (Nat.le_of_eq hlength.symm)
  have hafter : e.sent.zip (e.replies ++ [payload]) =
      e.sent.zip e.replies ++ [(resources, payload)] := by
    rw [hbefore]
    conv => lhs; rw [hsent]
    rw [List.zip_append hlength]
    simp
  rw [answer_of_cons payload h, accepted, hafter, List.filter_append, List.map_append, accepted]
  by_cases haccepts : Registrar.accepts payload = true
  · simp [haccepts]
  · simp [haccepts]

/-- A reply changes the table exactly as the registrar does. -/
theorem table_answer (payload : Bytes) (start : AccessTable) {resources : List Resource}
    {rest : List (List Resource)} (h : e.unanswered = resources :: rest) :
    (e.answer (some payload)).table start =
      if Registrar.accepts payload then .ofResources resources else e.table start := by
  rw [table, accepted_answer payload h]
  by_cases haccepts : Registrar.accepts payload = true
  · rw [if_pos haccepts, if_pos haccepts, List.getLast?_concat]
  · rw [if_neg haccepts, if_neg haccepts, List.append_nil, table]

theorem bound_answer (reply : Option Bytes) (hbound : e.replies.length ≤ e.sent.length) :
    (e.answer reply).replies.length ≤ (e.answer reply).sent.length := by
  cases h : e.unanswered with
  | nil => rwa [answer_of_unsolicited reply h]
  | cons resources rest =>
    cases reply with
    | none => exact hbound
    | some payload =>
      rw [answer_of_cons payload h, List.length_append]
      exact bound_of_cons h

end growth

end Exchange

theorem manifests_of_quiet {s s' : Session}
    (h : ∀ frame ∈ queued s s', frame.type ≠ .registration) :
    (queued s s').filterMap manifest? = [] :=
  List.filterMap_eq_nil_iff.mpr fun frame hmem => if_neg (h frame hmem)

theorem manifests_of_registration {s s' : Session} {resources : List Resource}
    (hfits : Envelope.fits (Registrar.frame resources).payload)
    (h : queued s s' = [Registrar.frame resources]) :
    (queued s s').filterMap manifest? = [resources] := by
  have hmanifest : manifest? (Registrar.frame resources) = some resources := by
    have htype : (Registrar.frame resources).type = .registration := rfl
    rw [manifest?, if_pos htype, Registrar.decode_frame hfits]
  rw [h, List.filterMap_cons, hmanifest, List.filterMap_nil]

end TunnelAgent.Session
