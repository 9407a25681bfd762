import TunnelAgent.Proofs.Socks.Admission

/-! # How a client is read

What a field leads to is settled by its bytes and the table in force at its last byte; of a field
that is cut nothing comes. Put together, that tells what leaves the gate on account of a greeting,
of credentials and of a request, each of them whole or cut anywhere, and what is left to come. -/

namespace TunnelAgent.Socks

/-- A reply that opens nothing. -/
def refusal (code : UInt8) : Bytes := [0x05, code, 0x00, 0x01, 0, 0, 0, 0, 0, 0]

def greeting (methods : Bytes) : Bytes := 0x05 :: counted methods

def credentials (username password : Bytes) : Bytes := 0x01 :: (counted username ++ counted password)

/-- A request, whatever its command. -/
def request (command reserved : UInt8) (form : HostForm) (host : Bytes) (port : UInt16) : Bytes :=
  [0x05, command, reserved, form.code] ++ (form.spell host ++ Bytes.big 2 port.toNat)

/-! ## What leaves the gate -/

/-- The bytes that are written to the client. -/
def written : List Client.Effect → Bytes
  | [] => []
  | .reply bytes :: rest => bytes ++ written rest
  | _ :: rest => written rest

/-- The bytes that go to the destination. -/
def forwarded : List Client.Effect → Bytes
  | [] => []
  | .forward bytes :: rest => bytes ++ forwarded rest
  | _ :: rest => forwarded rest

@[simp] theorem written_append (effects more : List Client.Effect) :
    written (effects ++ more) = written effects ++ written more := by
  induction effects with
  | nil => rfl
  | cons effect rest ih => cases effect <;> simp [written, ih]

@[simp] theorem forwarded_append (effects more : List Client.Effect) :
    forwarded (effects ++ more) = forwarded effects ++ forwarded more := by
  induction effects with
  | nil => rfl
  | cons effect rest ih => cases effect <;> simp [forwarded, ih]

@[simp] theorem written_replies (bytes : Bytes) : written (Client.replies bytes) = bytes := by
  cases bytes with
  | nil => rfl
  | cons b rest => exact List.append_nil _

@[simp] theorem forwarded_replies (bytes : Bytes) : forwarded (Client.replies bytes) = [] := by
  rw [Client.replies]
  split <;> rfl

namespace Stream

variable {s first rest : Stream}

theorem split {front : Bytes} (h : front <+: s.bytes) : ∃ first rest, s = first ++ rest ∧
    first.bytes = front ∧ first.length = front.length := by
  obtain ⟨back, hback⟩ := h
  obtain ⟨first, rest, hs, hfirst, -⟩ := List.map_eq_append_iff.mp hback.symm
  exact ⟨first, rest, hs, hfirst, (List.length_map _).symm.trans (congrArg _ hfirst)⟩

theorem last_of_tableAt {n : Nat} {table : AccessTable} (hs : s = first ++ rest)
    (hn : first.length = n) (h : s.tableAt n = some table) (before : AccessTable) :
    first.last before = table := by
  rw [tableAt, hs, List.take_left' hn] at h
  rw [last, h]
  rfl

end Stream

namespace Client

/-- What happens after `n` bytes of the client. -/
def since : Nat → List Event → List Event
  | 0, events => events
  | _ + 1, [] => []
  | n + 1, .byte _ _ :: rest => since n rest
  | n + 1, .dialed _ :: rest => since (n + 1) rest
  | _ + 1, .ended :: _ => []

/-- All bytes that come. -/
def bytesOf : List Event → Bytes
  | [] => []
  | .byte _ b :: rest => b :: bytesOf rest
  | _ :: rest => bytesOf rest

/-- How a dial ends, if it does. -/
def outcome? : List Event → Option (Except IoFault (Option Endpoint))
  | [] => none
  | .dialed outcome :: _ => some outcome
  | _ :: rest => outcome? rest

/-- What is written when a dial is over. -/
def dialAnswer : Option (Except IoFault (Option Endpoint)) → Bytes
  | none => []
  | some (.error e) => refusal (if e.kind = .connectionRefused then 0x05 else 0x04)
  | some (.ok bound) => Reply.succeeded.bytes bound

@[simp] theorem since_zero (events : List Event) : since 0 events = events := by
  rw [since]

@[simp] theorem since_nil (n : Nat) : since n [] = [] := by
  cases n <;> rfl

theorem since_since (n m : Nat) (events : List Event) :
    since m (since n events) = since (n + m) events := by
  fun_induction since n events with
  | case1 events => rw [Nat.zero_add]
  | case2 => rw [since_nil, since_nil]
  | case3 n table b rest ih => rw [ih, Nat.succ_add, since]
  | case4 n outcome rest ih => rw [ih, Nat.succ_add, since]
  | case5 => rw [since_nil, Nat.succ_add, since]

theorem heard_since (n : Nat) (events : List Event) : heard (since n events) = (heard events).drop n := by
  fun_induction since n events with
  | case1 => rfl
  | case2 => rfl
  | case3 n table b rest ih => exact ih
  | case4 n outcome rest ih => exact ih
  | case5 => rfl

/-! ## After the handshake -/

theorem run_cons (event : Event) (rest : List Event) (c : Client) :
    (run (event :: rest) c).1 = (c.step event).1 ++ (run rest (c.step event).2).1 := rfl

theorem run_closed (events : List Event) : (run events .closed).1 = [] := by
  induction events with
  | nil => rfl
  | cons event rest ih => cases event <;> exact ih

/-- All that comes goes on to the destination. -/
theorem run_relaying (d : Destination) (events : List Event) :
    written (run events (.relaying d)).1 = [] ∧ dials (run events (.relaying d)).1 = [] ∧
      forwarded (run events (.relaying d)).1 = bytesOf events := by
  induction events with
  | nil => exact ⟨rfl, rfl, rfl⟩
  | cons event rest ih =>
    obtain ⟨hwritten, hdials, hforwarded⟩ := ih
    cases event with
    | byte table b => exact ⟨hwritten, hdials, congrArg (b :: ·) hforwarded⟩
    | dialed outcome => exact ⟨hwritten, hdials, hforwarded⟩
    | ended => exact ⟨hwritten, hdials, hforwarded⟩

/-- What comes during a dial is kept for the destination. -/
theorem run_dialing (d : Destination) (early : Bytes) (events : List Event) :
    written (run events (.dialing d early)).1 = dialAnswer (outcome? events) ∧
      dials (run events (.dialing d early)).1 = [] ∧
      forwarded (run events (.dialing d early)).1 = match outcome? events with
        | some (.ok _) => early ++ bytesOf events
        | _ => [] := by
  induction events generalizing early with
  | nil => exact ⟨rfl, rfl, rfl⟩
  | cons event rest ih =>
    cases event with
    | byte table b =>
      obtain ⟨hwritten, hdials, hforwarded⟩ := ih (early ++ [b])
      refine ⟨hwritten, hdials, hforwarded.trans ?_⟩
      simp only [outcome?, bytesOf, List.append_assoc, List.singleton_append]
    | ended => exact ih early
    | dialed outcome =>
      cases outcome with
      | error e =>
        have hover : (run (.dialed (.error e) :: rest) (.dialing d early)).1 =
            [.reply (refusal (if e.kind = .connectionRefused then 0x05 else 0x04))] := by
          rw [run_cons]
          refine (congrArg _ (run_closed rest)).trans ?_
          by_cases hrefused : e.kind = .connectionRefused <;> simp [step, dialed, hrefused] <;> rfl
        rw [hover]
        exact ⟨List.append_nil _, rfl, rfl⟩
      | ok bound =>
        obtain ⟨hwritten, hdials, hforwarded⟩ := run_relaying d rest
        have hreply := (congrArg (Reply.succeeded.bytes bound ++ ·) hwritten).trans (List.append_nil _)
        cases early with
        | nil => exact ⟨hreply, hdials, hforwarded⟩
        | cons b more => exact ⟨hreply, hdials, congrArg (b :: more ++ ·) hforwarded⟩

/-! ## During the handshake -/

/-- What leaves the gate on account of what comes `next`. -/
def goes (table : AccessTable) (fuel : Nat) (next : Next) (events : List Event) : List Effect :=
  (proceed table fuel ([], next)).1 ++ (run events (proceed table fuel ([], next)).2).1

theorem goes_out (table : AccessTable) (fuel : Nat) (taken : Bytes × Next) (events : List Event) :
    (proceed table fuel taken).1 ++ (run events (proceed table fuel taken).2).1 =
      replies taken.1 ++ goes table fuel taken.2 events := by
  obtain ⟨out, next⟩ := taken
  have hnothing : replies [] = [] := rfl
  rw [goes]
  cases next with
  | close => simp [proceed, hnothing]
  | dial destination => simp [proceed, hnothing]
  | read field size =>
    cases size with
    | zero => cases fuel <;> simp [proceed, hnothing]
    | succ size => simp [proceed, hnothing]

theorem goes_close (table : AccessTable) (fuel : Nat) (events : List Event) :
    goes table fuel .close events = [] := by
  cases fuel <;> exact run_closed events

theorem goes_succ (table : AccessTable) (fuel : Nat) (field : Field) (size : Nat)
    (events : List Event) :
    goes table fuel (.read field (size + 1)) events = goes table 2 (.read field (size + 1)) events := by
  cases fuel <;> rfl

/-- A field that is cut is answered with nothing. -/
theorem run_short (field : Field) {need : Nat} (got : Bytes) {events : List Event}
    (hshort : (heard events).length < need) : (run events (.reading field need got)).1 = [] := by
  induction events generalizing need got with
  | nil => rfl
  | cons event rest ih =>
    cases event with
    | byte table b =>
      have hneed : ¬ need ≤ 1 := by
        rw [heard, List.length_cons] at hshort
        omega
      have hstep : step (.byte table b) (.reading field need got) =
          ([], .reading field (need - 1) (b :: got)) := if_neg hneed
      rw [run_cons, hstep, ih]
      · rfl
      · rw [heard, List.length_cons] at hshort
        omega
    | dialed outcome => exact ih got hshort
    | ended => exact run_closed rest

/-- What a whole field leads to is decided by its bytes and the table in force at its last byte. -/
theorem run_whole (before : AccessTable) (field : Field) (got : Bytes) {first rest : Stream}
    {events : List Event} (hs : heard events = first ++ rest) (hfirst : first ≠ []) :
    let taken := field.take (first.last before) (got.reverse ++ first.bytes)
    (run events (.reading field first.length got)).1 =
      replies taken.1 ++ goes (first.last before) 2 taken.2 (since first.length events) := by
  induction events generalizing first got before with
  | nil => exact absurd (List.append_eq_nil_iff.mp hs.symm).1 hfirst
  | cons event later ih =>
    match first, hfirst with
    | (table, b) :: first, _ =>
    cases event with
    | byte table' b' =>
      obtain ⟨hsame, hlater⟩ := List.cons.inj hs
      cases hsame
      cases first with
      | nil =>
        have hstep : step (.byte table b) (.reading field 1 got) =
            proceed table 2 (field.take table (b :: got).reverse) := rfl
        rw [List.length_singleton, run_cons, hstep, goes_out, List.reverse_cons, since, since_zero]
        rfl
      | cons pair first =>
        have hmore : ¬ first.length + 2 ≤ 1 := by omega
        have hstep : step (.byte table b) (.reading field (first.length + 2) got) =
            ([], .reading field (first.length + 1) (b :: got)) := by
          rw [step, feed, if_neg hmore]
          rfl
        rw [List.length_cons, List.length_cons, run_cons, hstep, List.nil_append, ← List.length_cons,
          ih table (b :: got) hlater (List.cons_ne_nil _ _), Stream.last_cons, Stream.bytes_cons,
          List.reverse_cons, List.append_assoc]
        rfl
    | dialed outcome => exact ih before got hs (List.cons_ne_nil _ _)
    | ended => cases hs

variable {before : AccessTable} {events : List Event} {first rest : Stream}

/-- The same of a field that comes next; one of no bytes is whole at once. -/
theorem goes_whole {fuel : Nat} (field : Field) (hs : heard events = first ++ rest) :
    let taken := field.take (first.last before) first.bytes
    goes before (fuel + 1) (.read field first.length) events = replies taken.1 ++
      goes (first.last before) (if first = [] then fuel else 2) taken.2 (since first.length events) := by
  cases first with
  | nil =>
    have hnow : goes before (fuel + 1) (.read field 0) events =
        (proceed before fuel (field.take before [])).1 ++
          (run events (proceed before fuel (field.take before [])).2).1 := by
      simp [goes, proceed, replies]
    rw [List.length_nil, hnow, goes_out, if_pos rfl, since_zero]
    rfl
  | cons pair first =>
    have hlater : goes before (fuel + 1) (.read field (pair :: first).length) events =
        (run events (.reading field (pair :: first).length [])).1 := by
      simp [goes, proceed, replies]
    rw [hlater, run_whole before field [] hs (List.cons_ne_nil _ _)]
    rfl

theorem goes_short {fuel : Nat} (field : Field) {size : Nat} (hshort : (heard events).length < size) :
    goes before fuel (.read field size) events = [] := by
  obtain ⟨n, rfl⟩ := Nat.exists_eq_succ_of_ne_zero (Nat.ne_zero_of_lt hshort)
  rw [goes_succ]
  exact run_short field [] hshort

/-- A field whose size is a byte that has just been read. -/
theorem goes_sized {field : Field} {size : UInt8} (hs : heard events = first ++ rest)
    (hshort : first.bytes.length < 256) (hsize : size :: first.bytes = counted first.bytes) :
    goes before 2 (.read field size.toNat) events =
      replies (field.take (first.last before) first.bytes).1 ++
        goes (first.last before) (if first.bytes = [] then 1 else 2)
          (field.take (first.last before) first.bytes).2 (since first.length events) := by
  have hlength : size.toNat = first.length := by
    rw [counted_iff.mpr ⟨hshort, hsize⟩, Stream.length_bytes]
  have hempty : first.bytes = [] ↔ first = [] := List.map_eq_nil_iff
  rw [hlength, goes_whole field hs]
  simp only [hempty]

theorem goes_sized_cut {field : Field} {size : UInt8}
    (hcut : ∀ content : Bytes, content.length < 256 → size :: content = counted content →
      ¬ content <+: (heard events).bytes) : goes before 2 (.read field size.toNat) events = [] := by
  refine goes_short field (Nat.lt_of_not_le fun hwhole => ?_)
  have hlength : size.toNat = (Stream.bytes ((heard events).take size.toNat)).length := by
    rw [Stream.length_bytes, List.length_take, Nat.min_eq_left hwhole]
  obtain ⟨hshort, hcounted⟩ := counted_iff.mp hlength
  refine hcut _ hshort hcounted ⟨Stream.bytes ((heard events).drop size.toNat), ?_⟩
  rw [← Stream.bytes_append, List.take_append_drop]

theorem heard_since_of_append {n : Nat} (hs : heard events = first ++ rest) (hn : first.length = n) :
    heard (since n events) = rest := by
  rw [heard_since, hs, List.drop_left' hn]

section
variable {sizeField field : Field}
  (hsize : ∀ table b, sizeField.take table [b] = ([], .read field b.toNat))
include hsize

/-- A size byte leads to the field behind it. -/
theorem goes_size {table : AccessTable} {b : UInt8} (hs : heard events = (table, b) :: rest) :
    goes before 2 (.read sizeField 1) events = goes table 2 (.read field b.toNat) (since 1 events) := by
  have hone : heard events = [(table, b)] ++ rest := hs
  refine (goes_whole sizeField hone).trans ?_
  rw [Stream.last_cons, Stream.bytes_cons, Stream.bytes_nil, hsize]
  rfl

/-- A byte string behind its length, read whole. -/
theorem goes_counted {content : Bytes} (hs : heard events = first ++ rest)
    (hfirst : first.bytes = counted content) (hshort : content.length < 256) :
    goes before 2 (.read sizeField 1) events =
      replies (field.take (first.last before) content).1 ++
        goes (first.last before) (if content = [] then 1 else 2)
          (field.take (first.last before) content).2 (since first.length events) := by
  match first, hfirst with
  | (table, b) :: first, hfirst =>
  obtain rfl : Stream.bytes first = content := (List.cons.inj hfirst).2
  have hone : heard (since 1 events) = first ++ rest :=
    heard_since_of_append (show heard events = [(table, b)] ++ (first ++ rest) from hs) rfl
  have hsized : b :: Stream.bytes first = counted (Stream.bytes first) := hfirst
  rw [goes_size hsize hs, goes_sized hone hshort hsized, since_since,
    Stream.last_cons, List.length_cons, Nat.add_comm first.length]

/-- A byte string behind its length, cut before its end. -/
theorem goes_counted_cut
    (hcut : ∀ content : Bytes, content.length < 256 → ¬ counted content <+: (heard events).bytes) :
    goes before 2 (.read sizeField 1) events = [] := by
  cases hs : heard events with
  | nil => exact goes_short sizeField (by simp [hs])
  | cons pair rest =>
    obtain ⟨table, b⟩ := pair
    have hone : heard (since 1 events) = rest :=
      heard_since_of_append (show heard events = [(table, b)] ++ rest from hs) rfl
    rw [goes_size hsize hs]
    refine goes_sized_cut fun content hshort hcounted hcontent => hcut content hshort ?_
    rw [hone] at hcontent
    rw [← hcounted, hs, Stream.bytes_cons]
    exact (List.prefix_cons_inj b).mpr hcontent

end

/-! ## What the fields answer -/

theorem take_header (table : AccessTable) (v count : UInt8) :
    Field.header.take table [v, count] =
      if v = 0x05 then ([], .read .methods count.toNat) else ([], .close) := rfl

theorem take_authHeader (table : AccessTable) (v : UInt8) :
    Field.authHeader.take table [v] = if v = 0x01 then ([], .read .usernameSize 1) else ([], .close) := by
  by_cases hv : v = 0x01
  · rw [hv]
    rfl
  · rw [if_neg hv]
    exact if_neg fun h => hv (List.cons.inj h).1

theorem take_request (table : AccessTable) (key : UInt64) (v command reserved kind : UInt8) :
    (Field.request key).take table [v, command, reserved, kind] =
      if v = 0x05 then
        match HostForm.ofByte? kind with
        | some form => ([], hostField key command form)
        | none => (refusal 0x08, .close)
      else ([], .close) := by
  by_cases hv : v = 0x05
  · rw [if_pos hv]
    refine (if_pos hv).trans ?_
    cases HostForm.ofByte? kind with
    | none => rfl
    | some form => cases form <;> rfl
  · rw [if_neg hv]
    exact if_neg hv

section
variable {table : AccessTable} {key : UInt64} {name : String} {port : UInt16}

theorem take_port_other {command : UInt8} (hother : command ≠ 0x01) :
    (Field.port key command name).take table (Bytes.big 2 port.toNat) = (refusal 0x07, .close) :=
  if_neg hother

theorem take_port_denied (hdenied : ¬ table.Grants key ⟨name, port⟩) :
    (Field.port key 0x01 name).take table (Bytes.big 2 port.toNat) = (refusal 0x02, .close) := by
  have hconnect : (0x01 : UInt8) = connectCommand := rfl
  simp only [Field.take, if_pos hconnect, Conversation.ofBig_port]
  cases hcheck : table.check key ⟨name, port⟩ with
  | ok _ => exact absurd (AccessTable.check_eq_ok_iff.mp hcheck) hdenied
  | error fault => rfl

theorem take_port_granted (hgrants : table.Grants key ⟨name, port⟩) :
    (Field.port key 0x01 name).take table (Bytes.big 2 port.toNat) = ([], .dial ⟨name, port⟩) := by
  have hconnect : (0x01 : UInt8) = connectCommand := rfl
  simp only [Field.take, if_pos hconnect, Conversation.ofBig_port,
    AccessTable.check_eq_ok_iff.mpr hgrants]

end

theorem take_password_known {table : AccessTable} {password : Bytes} {key : UInt64}
    (hnames : Names password key) (hknown : table.containsKey key = true) :
    Field.password.take table password = ([0x01, 0x00], .read (.request key) 4) := by
  rw [Field.take, keyOf?_eq_some_iff.mpr hnames]
  exact if_pos hknown

theorem take_password_unknown {table : AccessTable} {password : Bytes}
    (hunknown : ∀ key, Names password key → table.containsKey key = false) :
    Field.password.take table password = ([0x01, 0x01], .close) := by
  rw [Field.take]
  cases hkey : keyOf? password with
  | none => rfl
  | some key => exact if_neg (by simp [hunknown key (keyOf?_eq_some_iff.mp hkey)])

/-! ## The three messages -/

theorem goes_greeting {methods : Bytes} (hs : heard events = first ++ rest)
    (hfirst : first.bytes = greeting methods) (hshort : methods.length < 256) :
    goes before 2 (.read .header 2) events =
      if 0x02 ∈ methods then
        replies [0x05, 0x02] ++
          goes (first.last before) 2 (.read .authHeader 1) (since first.length events)
      else replies [0x05, 0xFF] := by
  match first, hfirst with
  | (t, v) :: (table, count) :: first, hfirst =>
  obtain ⟨hv, hcounted⟩ := List.cons.inj hfirst
  obtain rfl : Stream.bytes first = methods := (List.cons.inj hcounted).2
  have hsized : count :: Stream.bytes first = counted (Stream.bytes first) := hcounted
  have htwo : heard events = [(t, v), (table, count)] ++ (first ++ rest) := hs
  have hheader : goes before 2 (.read .header 2) events =
      goes table 2 (.read .methods count.toNat) (since 2 events) := by
    refine (goes_whole .header htwo).trans ?_
    simp only [Stream.last_cons, Stream.last_nil, Stream.bytes_cons, Stream.bytes_nil, take_header]
    rw [if_pos (show v = 0x05 from hv)]
    rfl
  have hmethods : heard (since 2 events) = first ++ rest := heard_since_of_append htwo rfl
  rw [hheader, goes_sized hmethods hshort hsized, since_since]
  by_cases hoffer : 0x02 ∈ Stream.bytes first
  · have htake : ∀ table, Field.methods.take table (Stream.bytes first) =
        ([0x05, 0x02], .read .authHeader 1) := fun _ => if_pos hoffer
    rw [htake, if_pos hoffer, goes_succ, Stream.last_cons, Stream.last_cons]
    simp only [List.length_cons, Nat.add_comm 2, Nat.add_assoc]
  · have htake : ∀ table, Field.methods.take table (Stream.bytes first) = ([0x05, 0xFF], .close) :=
      fun _ => if_neg hoffer
    rw [htake, if_neg hoffer, goes_close, List.append_nil]

theorem goes_greeting_cut
    (hcut : ∀ methods : Bytes, methods.length < 256 → ¬ greeting methods <+: (heard events).bytes) :
    goes before 2 (.read .header 2) events = [] := by
  match hs : heard events with
  | [] => exact goes_short .header (by simp [hs])
  | [_] => exact goes_short .header (by simp [hs])
  | (t, v) :: (table, count) :: rest =>
    have htwo : heard events = [(t, v), (table, count)] ++ rest := hs
    refine (goes_whole .header htwo).trans ?_
    simp only [Stream.last_cons, Stream.last_nil, Stream.bytes_cons, Stream.bytes_nil, take_header]
    by_cases hv : v = 0x05
    · rw [if_pos hv]
      show goes table 2 (.read .methods count.toNat) (since 2 events) = []
      refine goes_sized_cut fun content hshort hcounted hcontent => hcut content hshort ?_
      have hrest : heard (since 2 events) = rest := heard_since_of_append htwo rfl
      rw [hrest] at hcontent
      rw [hs, greeting, ← hcounted, hv, Stream.bytes_cons, Stream.bytes_cons]
      exact (List.prefix_cons_inj _).mpr ((List.prefix_cons_inj _).mpr hcontent)
    · rw [if_neg hv]
      exact goes_close ..

/-- The password decides under the table in force when it has been read. -/
theorem goes_credentials {username password : Bytes} (hs : heard events = first ++ rest)
    (hfirst : first.bytes = credentials username password) (husername : username.length < 256)
    (hpassword : password.length < 256) :
    goes before 2 (.read .authHeader 1) events =
      replies (Field.password.take (first.last before) password).1 ++
        goes (first.last before) (if password = [] then 1 else 2)
          (Field.password.take (first.last before) password).2 (since first.length events) := by
  match first, hfirst with
  | (table, v) :: first, hfirst =>
  obtain ⟨hv, hmore⟩ := List.cons.inj hfirst
  obtain ⟨front, back, rfl, hfront, hback⟩ := List.map_eq_append_iff.mp hmore
  have hone : heard events = [(table, v)] ++ (front ++ (back ++ rest)) := by
    rw [hs, List.cons_append, List.append_assoc]
    rfl
  have hname : heard (since 1 events) = front ++ (back ++ rest) := heard_since_of_append hone rfl
  have hsecret : heard (since front.length (since 1 events)) = back ++ rest :=
    heard_since_of_append hname rfl
  have hheader : goes before 2 (.read .authHeader 1) events =
      goes table 2 (.read .usernameSize 1) (since 1 events) := by
    refine (goes_whole .authHeader hone).trans ?_
    simp only [Stream.last_cons, Stream.last_nil, Stream.bytes_cons, Stream.bytes_nil, take_authHeader]
    rw [if_pos (show v = 0x01 from hv)]
    rfl
  have hnext : goes table 2 (.read .usernameSize 1) (since 1 events) =
      goes (Stream.last table front) 2 (.read .passwordSize 1)
        (since front.length (since 1 events)) := by
    rw [goes_counted (fun _ _ => rfl) hname hfront husername]
    exact goes_succ ..
  rw [hheader, hnext, goes_counted (fun _ _ => rfl) hsecret hback hpassword, since_since, since_since,
    Stream.last_cons, Stream.last_append, List.length_cons, List.length_append, Nat.add_comm 1,
    Nat.add_right_comm]

theorem goes_credentials_cut
    (hcut : ∀ username password : Bytes, username.length < 256 → password.length < 256 →
      ¬ credentials username password <+: (heard events).bytes) :
    goes before 2 (.read .authHeader 1) events = [] := by
  match hs : heard events with
  | [] => exact goes_short .authHeader (by simp [hs])
  | (table, v) :: rest =>
    have hone : heard events = [(table, v)] ++ rest := hs
    refine (goes_whole .authHeader hone).trans ?_
    simp only [Stream.last_cons, Stream.last_nil, Stream.bytes_cons, Stream.bytes_nil, take_authHeader]
    by_cases hv : v = 0x01
    · rw [if_pos hv]
      have hname : heard (since 1 events) = rest := heard_since_of_append hone rfl
      by_cases husername : ∃ username : Bytes, username.length < 256 ∧
          counted username <+: Stream.bytes rest
      · obtain ⟨username, hshort, hwhole⟩ := husername
        obtain ⟨front, back, rfl, hfront, -⟩ := Stream.split hwhole
        have hnext : goes table 2 (.read .usernameSize 1) (since 1 events) =
            goes (front.last table) 2 (.read .passwordSize 1) (since front.length (since 1 events)) := by
          rw [goes_counted (fun _ _ => rfl) hname hfront hshort]
          exact goes_succ ..
        refine hnext.trans (goes_counted_cut (fun _ _ => rfl)
          fun password hpassword hback => hcut username password hshort hpassword ?_)
        rw [heard_since_of_append hname rfl] at hback
        rw [hs, credentials, hv, Stream.bytes_cons, Stream.bytes_append, hfront]
        exact (List.prefix_cons_inj _).mpr ((List.prefix_append_right_inj _).mpr hback)
      · refine goes_counted_cut (fun _ _ => rfl) fun username hshort hwhole =>
          husername ⟨username, hshort, ?_⟩
        rwa [← hname]
    · rw [if_neg hv]
      exact goes_close ..

section
variable {key : UInt64} {command reserved kind : UInt8} {form : HostForm} {host : Bytes} {port : UInt16}

theorem goes_head (hs : heard events = first ++ rest)
    (hfirst : first.bytes = [0x05, command, reserved, kind]) :
    goes before 2 (.read (.request key) 4) events = match HostForm.ofByte? kind with
      | some form => goes (first.last before) 2 (hostField key command form) (since 4 events)
      | none => replies (refusal 0x08) := by
  have hlength : first.length = 4 := by
    rw [← Stream.length_bytes, hfirst]
    rfl
  have hnonempty : first ≠ [] := by
    rintro rfl
    cases hlength
  have hwhole : goes before 2 (.read (.request key) first.length) events = _ := goes_whole _ hs
  rw [hlength, if_neg hnonempty, hfirst, take_request, if_pos rfl] at hwhole
  rw [hwhole]
  cases HostForm.ofByte? kind with
  | some form => rfl
  | none => exact (congrArg _ (goes_close ..)).trans (List.append_nil _)

theorem goes_head_cut
    (hcut : ∀ command reserved kind, ¬ [0x05, command, reserved, kind] <+: (heard events).bytes) :
    goes before 2 (.read (.request key) 4) events = [] := by
  match hs : heard events with
  | [] | [_] | [_, _] | [_, _, _] => exact goes_short _ (by simp [hs])
  | (t, v) :: (t', command) :: (t'', reserved) :: (table, kind) :: rest =>
    have hfour : heard events = [(t, v), (t', command), (t'', reserved), (table, kind)] ++ rest := hs
    refine (goes_whole _ hfour).trans ?_
    simp only [Stream.last_cons, Stream.last_nil, Stream.bytes_cons, Stream.bytes_nil, take_request]
    by_cases hv : v = 0x05
    · refine absurd ?_ (hcut command reserved kind)
      rw [hs, hv]
      exact ⟨Stream.bytes rest, rfl⟩
    · rw [if_neg hv]
      exact goes_close ..

theorem goes_host (hs : heard events = first ++ rest) (hfirst : first.bytes = form.spell host)
    (hadmits : form.Admits host) :
    goes before 2 (hostField key command form) events =
      goes (first.last before) 2 (.read (.port key command (hostText form host)) 2)
        (since first.length events) := by
  have hfixed : ∀ {n}, first.bytes = host → host.length = n + 1 →
      goes before 2 (.read (.host key command form) (n + 1)) events =
        goes (first.last before) 2 (.read (.port key command (hostText form host)) 2)
          (since first.length events) := by
    intro n hhost hlength
    have hfield : first.length = n + 1 := by rw [← Stream.length_bytes, hhost, hlength]
    rw [← hfield, goes_whole _ hs, hhost]
    exact goes_succ ..
  cases form with
  | v4 => exact hfixed hfirst hadmits
  | v6 => exact hfixed hfirst hadmits
  | name =>
    refine (goes_counted (fun _ _ => rfl) hs hfirst hadmits).trans ?_
    exact goes_succ ..

theorem goes_host_cut (hcut : ∀ host, form.Admits host → ¬ form.spell host <+: (heard events).bytes) :
    goes before 2 (hostField key command form) events = [] := by
  have hfixed : ∀ {n}, (∀ host : Bytes, host.length = n → ¬ host <+: (heard events).bytes) →
      goes before 2 (.read (.host key command form) n) events = [] := by
    intro n hcut
    refine goes_short _ (Nat.lt_of_not_le fun hwhole => ?_)
    refine hcut ((heard events).bytes.take n) ?_ (List.take_prefix _ _)
    rw [List.length_take, Stream.length_bytes, Nat.min_eq_left hwhole]
  cases form with
  | v4 => exact hfixed hcut
  | v6 => exact hfixed hcut
  | name => exact goes_counted_cut (fun _ _ => rfl) hcut

theorem goes_port {name : String} (hs : heard events = first ++ rest)
    (hfirst : first.bytes = Bytes.big 2 port.toNat) :
    goes before 2 (.read (.port key command name) 2) events =
      replies ((Field.port key command name).take (first.last before) (Bytes.big 2 port.toNat)).1 ++
        goes (first.last before) 2
          ((Field.port key command name).take (first.last before) (Bytes.big 2 port.toNat)).2
          (since first.length events) := by
  have hlength : first.length = 2 := by rw [← Stream.length_bytes, hfirst, Bytes.length_big]
  have hnonempty : first ≠ [] := by
    rintro rfl
    cases hlength
  have hwhole : goes before 2 (.read (.port key command name) first.length) events = _ :=
    goes_whole _ hs
  rw [if_neg hnonempty, hfirst] at hwhole
  rw [hlength] at hwhole ⊢
  exact hwhole

theorem goes_port_cut {name : String}
    (hcut : ∀ port : UInt16, ¬ Bytes.big 2 port.toNat <+: (heard events).bytes) :
    goes before 2 (.read (.port key command name) 2) events = [] := by
  refine goes_short _ (Nat.lt_of_not_le fun hwhole => ?_)
  have hlength : ((heard events).bytes.take 2).length = 2 := by
    rw [List.length_take, Stream.length_bytes, Nat.min_eq_left hwhole]
  refine hcut (.ofNat (Bytes.ofBig ((heard events).bytes.take 2))) ?_
  rw [Conversation.big_ofBig_port hlength]
  exact List.take_prefix _ _

/-- What is asked for is looked up when the request has been read. -/
theorem goes_request (hs : heard events = first ++ rest)
    (hfirst : first.bytes = request command reserved form host port) (hadmits : form.Admits host) :
    let taken := (Field.port key command (hostText form host)).take (first.last before)
      (Bytes.big 2 port.toNat)
    goes before 2 (.read (.request key) 4) events =
      replies taken.1 ++ goes (first.last before) 2 taken.2 (since first.length events) := by
  obtain ⟨head, address, rfl, hhead, haddress⟩ := List.map_eq_append_iff.mp hfirst
  obtain ⟨middle, last, rfl, hmiddle, hlast⟩ := List.map_eq_append_iff.mp haddress
  have hlength : head.length = 4 := (List.length_map _).symm.trans (congrArg _ hhead)
  rw [List.append_assoc, List.append_assoc] at hs
  have hafter : heard (since 4 events) = middle ++ (last ++ rest) := heard_since_of_append hs hlength
  have hlater : heard (since middle.length (since 4 events)) = last ++ rest :=
    heard_since_of_append hafter rfl
  have hform := HostForm.ofByte?_eq_some_iff.mpr (rfl : form.code = form.code)
  rw [goes_head hs hhead, hform]
  simp only
  rw [goes_host hafter hmiddle hadmits, goes_port hlater hlast, since_since, since_since,
    Stream.last_append, Stream.last_append, List.length_append, List.length_append, hlength]

theorem goes_address_cut (hhead : [0x05, command, reserved, form.code] <+: (heard events).bytes)
    (hcut : ∀ host port, form.Admits host →
      ¬ request command reserved form host port <+: (heard events).bytes) :
    goes before 2 (.read (.request key) 4) events = [] := by
  obtain ⟨head, more, hs, hhead, hlength⟩ := Stream.split hhead
  have hafter : heard (since 4 events) = more := heard_since_of_append hs hlength
  have hform := HostForm.ofByte?_eq_some_iff.mpr (rfl : form.code = form.code)
  rw [goes_head hs hhead, hform]
  simp only
  by_cases hhost : ∃ host, form.Admits host ∧ form.spell host <+: Stream.bytes more
  · obtain ⟨host, hadmits, hwhole⟩ := hhost
    obtain ⟨middle, last, rfl, hmiddle, -⟩ := Stream.split hwhole
    rw [goes_host hafter hmiddle hadmits]
    refine goes_port_cut fun port hport => hcut host port hadmits ?_
    rw [heard_since_of_append hafter rfl] at hport
    rw [hs, request, Stream.bytes_append, Stream.bytes_append, hhead, hmiddle]
    exact (List.prefix_append_right_inj _).mpr ((List.prefix_append_right_inj _).mpr hport)
  · refine goes_host_cut fun host hadmits hwhole => hhost ⟨host, hadmits, ?_⟩
    rwa [← hafter]

end

end Client

end TunnelAgent.Socks
