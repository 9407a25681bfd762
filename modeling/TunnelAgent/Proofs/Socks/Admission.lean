import TunnelAgent.Proofs.Socks.Conversation

/-! # Whom the gate lets through

A client is dialled for if and only if its stream begins with a whole conversation whose password
names a key that the table knows when the password has been read, and whose address is granted to
that key when the request has been read. The tables may differ from byte to byte.

The proof follows the fields: what a field leads to depends on its bytes, on the table in force at
its last byte and on the rest of the stream, and on nothing else. -/

namespace TunnelAgent.Socks

/-- What a client reads out to the gate, each byte with the table in force when it is taken. -/
abbrev Stream := List (AccessTable × UInt8)

namespace Stream

def bytes (s : Stream) : Bytes := s.map (·.2)

/-- The table in force when the last of these bytes has been taken, `before` if there is none. -/
def last (before : AccessTable) (s : Stream) : AccessTable := (s.getLast?.map (·.1)).getD before

/-- The table in force when the `n`-th byte has been taken. -/
def tableAt (s : Stream) (n : Nat) : Option AccessTable := (s.take n).getLast?.map (·.1)

@[simp] theorem bytes_append (s t : Stream) : bytes (s ++ t) = s.bytes ++ t.bytes := List.map_append

theorem length_bytes (s : Stream) : s.bytes.length = s.length := List.length_map _

theorem last_append (before : AccessTable) (s t : Stream) :
    last before (s ++ t) = t.last (s.last before) := by
  rw [last, List.getLast?_append, last, last]
  cases t.getLast? <;> rfl

@[simp] theorem bytes_nil : bytes [] = [] := rfl

@[simp] theorem bytes_cons (table : AccessTable) (b : UInt8) (s : Stream) :
    bytes ((table, b) :: s) = b :: s.bytes := rfl

@[simp] theorem last_nil (before : AccessTable) : last before [] = before := rfl

@[simp] theorem last_cons (before table : AccessTable) (b : UInt8) (s : Stream) :
    last before ((table, b) :: s) = s.last table := last_append before [(table, b)] s

theorem tableAt_of_append {s t : Stream} {n : Nat} (hn : s.length = n) (hs : s ≠ [])
    (before : AccessTable) : tableAt (s ++ t) n = some (s.last before) := by
  rw [tableAt, List.take_left' hn, last, List.getLast?_eq_some_getLast hs]
  rfl

end Stream

/-- The bytes that come before the client ends its stream or runs out of time. -/
def heard : List Client.Event → Stream
  | [] => []
  | .byte table b :: rest => (table, b) :: heard rest
  | .dialed _ :: rest => heard rest
  | .ended :: _ => []

/-- The destinations that are dialled, in order. -/
def dials : List Client.Effect → List Destination
  | [] => []
  | .dial d :: rest => d :: dials rest
  | _ :: rest => dials rest

@[simp] theorem dials_append (effects more : List Client.Effect) :
    dials (effects ++ more) = dials effects ++ dials more := by
  induction effects with
  | nil => rfl
  | cons effect rest ih => cases effect <;> simp [dials, ih]

@[simp] theorem dials_replies (bytes : Bytes) : dials (Client.replies bytes) = [] := by
  rw [Client.replies]
  split <;> rfl

namespace Client

/-- What is dialled in a run that consists of these bytes. -/
def dialled (c : Client) (s : Stream) : List Destination :=
  dials (run (s.map fun (table, b) => .byte table b) c).1

theorem dialled_cons (c : Client) (table : AccessTable) (b : UInt8) (rest : Stream) :
    c.dialled ((table, b) :: rest) = dials (c.feed table b).1 ++ (c.feed table b).2.dialled rest :=
  dials_append _ _

/-- The handshake is over. -/
def isSettled : Client → Bool
  | reading .. => false
  | _ => true

theorem dials_run_cons (event : Event) (rest : List Event) (c : Client) :
    dials (run (event :: rest) c).1 =
      dials (c.step event).1 ++ dials (run rest (c.step event).2).1 := dials_append _ _

/-- After the handshake nothing is dialled any more. -/
theorem dials_of_settled (events : List Event) {c : Client} (hc : c.isSettled = true) :
    dials (run events c).1 = [] := by
  induction events generalizing c with
  | nil => rfl
  | cons event rest ih =>
    have hstep : dials (c.step event).1 = [] ∧ (c.step event).2.isSettled = true := by
      cases c with
      | reading field need got => cases hc
      | dialing destination early =>
        cases event with
        | byte table b => exact ⟨rfl, rfl⟩
        | ended => exact ⟨rfl, rfl⟩
        | dialed outcome =>
          cases outcome with
          | error fault => exact ⟨rfl, rfl⟩
          | ok bound => cases early <;> exact ⟨rfl, rfl⟩
      | relaying destination => cases event <;> exact ⟨rfl, rfl⟩
      | closed => cases event <;> exact ⟨rfl, rfl⟩
    rw [dials_run_cons, hstep.1, ih hstep.2]
    rfl

/-- Only the bytes up to the end of the stream decide what is dialled. -/
theorem dials_run (events : List Event) (c : Client) :
    dials (run events c).1 = c.dialled (heard events) := by
  induction events generalizing c with
  | nil => rfl
  | cons event rest ih =>
    by_cases hc : c.isSettled = true
    · rw [dials_of_settled _ hc, dialled, dials_of_settled _ hc]
    cases event with
    | byte table b =>
      rw [dials_run_cons, ih, heard, dialled_cons]
      rfl
    | dialed outcome =>
      cases c with
      | reading field need got => exact (dials_run_cons ..).trans (ih _)
      | _ => exact absurd rfl hc
    | ended =>
      cases c with
      | reading field need got => exact (dials_run_cons ..).trans (dials_of_settled rest rfl)
      | _ => exact absurd rfl hc

/-- What is dialled on account of what comes `next`, when `s` is still to be read. -/
def leads (table : AccessTable) (fuel : Nat) (next : Next) (s : Stream) : List Destination :=
  dials (proceed table fuel ([], next)).1 ++ (proceed table fuel ([], next)).2.dialled s

theorem leads_out (table : AccessTable) (fuel : Nat) (taken : Bytes × Next) (s : Stream) :
    dials (proceed table fuel taken).1 ++ (proceed table fuel taken).2.dialled s =
      leads table fuel taken.2 s := by
  obtain ⟨out, next⟩ := taken
  rw [leads]
  cases next with
  | close => simp [proceed]
  | dial destination => simp [proceed]
  | read field size =>
    cases size with
    | zero => cases fuel <;> simp [proceed]
    | succ size => simp [proceed]

@[simp] theorem leads_close (table : AccessTable) (fuel : Nat) (s : Stream) :
    leads table fuel .close s = [] := by
  simp only [leads, proceed, dials_replies, List.nil_append]
  exact dials_of_settled _ rfl

@[simp] theorem leads_dial (table : AccessTable) (fuel : Nat) (d : Destination) (s : Stream) :
    leads table fuel (.dial d) s = [d] := by
  simp only [leads, proceed, dials_append, dials_replies, List.nil_append]
  exact congrArg (d :: ·) (dials_of_settled _ rfl)

/-- A field of some bytes leads to nothing until it has been read whole. -/
theorem dialled_reading (before : AccessTable) (field : Field) {need : Nat} (hneed : 0 < need)
    (got : Bytes) (s : Stream) (d : Destination) :
    d ∈ dialled (.reading field need got) s ↔ ∃ first rest, s = first ++ rest ∧
      first.length = need ∧ d ∈ leads (Stream.last before first) 2
        (field.take (Stream.last before first) (got.reverse ++ Stream.bytes first)).2 rest := by
  induction s generalizing need got before with
  | nil =>
    constructor
    · intro h
      cases h
    · rintro ⟨first, rest, hs, rfl, -⟩
      obtain ⟨rfl, -⟩ := List.append_eq_nil_iff.mp hs.symm
      exact absurd hneed (Nat.lt_irrefl 0)
  | cons pair s ih =>
    obtain ⟨table, b⟩ := pair
    rw [dialled_cons]
    by_cases hlast : need ≤ 1
    · obtain rfl : need = 1 := Nat.le_antisymm hlast hneed
      rw [feed, if_pos hlast, leads_out, List.reverse_cons]
      constructor
      · exact fun h => ⟨[(table, b)], s, rfl, rfl, h⟩
      · rintro ⟨first, rest, hs, hlength, h⟩
        obtain ⟨pair, rfl⟩ := List.length_eq_one_iff.mp hlength
        obtain ⟨rfl, rfl⟩ := List.cons.inj hs
        exact h
    · have hlonger : dials (feed table b (.reading field need got)).1 ++
          (feed table b (.reading field need got)).2.dialled s =
            dialled (.reading field (need - 1) (b :: got)) s := by
        rw [feed, if_neg hlast]
        rfl
      rw [hlonger, ih table (by omega), List.reverse_cons]
      simp only [List.append_assoc, List.singleton_append]
      constructor
      · rintro ⟨first, rest, rfl, hlength, h⟩
        refine ⟨(table, b) :: first, rest, rfl, by rw [List.length_cons]; omega, ?_⟩
        rwa [Stream.last_cons, Stream.bytes_cons]
      · rintro ⟨first, rest, hs, hlength, h⟩
        cases first with
        | nil => exact absurd hlength (by simp; omega)
        | cons pair first =>
          obtain ⟨rfl, rfl⟩ := List.cons.inj hs
          rw [Stream.last_cons, Stream.bytes_cons] at h
          exact ⟨first, rest, rfl, by rw [List.length_cons] at hlength; omega, h⟩

/-- What a field leads to is decided by its bytes and the table in force at its last byte. A field of
no bytes is whole at once, under the table of the byte before. -/
theorem mem_leads_read {before : AccessTable} {fuel : Nat} {field : Field} {size : Nat} {s : Stream}
    {d : Destination} :
    d ∈ leads before (fuel + 1) (.read field size) s ↔ ∃ first rest, s = first ++ rest ∧
      first.length = size ∧ d ∈ leads (Stream.last before first) (if size = 0 then fuel else 2)
        (field.take (Stream.last before first) (Stream.bytes first)).2 rest := by
  cases size with
  | zero =>
    have hnow : leads before (fuel + 1) (.read field 0) s =
        leads before fuel (field.take before []).2 s := by
      rw [← leads_out]
      simp [leads, proceed]
    rw [hnow]
    constructor
    · exact fun h => ⟨[], s, rfl, rfl, h⟩
    · rintro ⟨first, rest, rfl, hlength, h⟩
      obtain rfl := List.eq_nil_of_length_eq_zero hlength
      exact h
  | succ size =>
    have hlater : leads before (fuel + 1) (.read field (size + 1)) s =
        dialled (.reading field (size + 1) []) s := by
      simp [leads, proceed]
    rw [hlater, dialled_reading before field (Nat.succ_pos size)]
    rfl

/-- Only for fields of no bytes is it counted how many follow each other. -/
theorem leads_succ (table : AccessTable) (fuel : Nat) (field : Field) (size : Nat) (s : Stream) :
    leads table fuel (.read field (size + 1)) s = leads table 2 (.read field (size + 1)) s := by
  cases fuel <;> rfl

variable {before : AccessTable} {s : Stream} {d : Destination}

/-- A field whose size is a byte that has just been read. -/
theorem mem_leads_sized {field : Field} {size : UInt8} :
    d ∈ leads before 2 (.read field size.toNat) s ↔ ∃ first rest, s = first ++ rest ∧
      (Stream.bytes first).length < 256 ∧ size :: Stream.bytes first = counted (Stream.bytes first) ∧
      d ∈ leads (Stream.last before first) (if Stream.bytes first = [] then 1 else 2)
        (field.take (Stream.last before first) (Stream.bytes first)).2 rest := by
  rw [mem_leads_read]
  refine exists₂_congr fun first rest => and_congr_right fun _ => ?_
  rw [← Stream.length_bytes, ← and_assoc, ← counted_iff]
  constructor
  · rintro ⟨hlength, h⟩
    refine ⟨hlength.symm, ?_⟩
    simpa only [← hlength, List.length_eq_zero_iff] using h
  · rintro ⟨hlength, h⟩
    refine ⟨hlength.symm, ?_⟩
    simpa only [hlength, List.length_eq_zero_iff] using h

/-- A size byte and the byte string behind it. -/
theorem mem_leads_counted {sizeField field : Field}
    (hsize : ∀ table b, (sizeField.take table [b]).2 = .read field b.toNat) :
    d ∈ leads before 2 (.read sizeField 1) s ↔ ∃ first rest content, s = first ++ rest ∧
      Stream.bytes first = counted content ∧ content.length < 256 ∧
      d ∈ leads (Stream.last before first) (if content = [] then 1 else 2)
        (field.take (Stream.last before first) content).2 rest := by
  rw [mem_leads_read]
  constructor
  · rintro ⟨one, rest, rfl, hone, h⟩
    obtain ⟨⟨table, b⟩, rfl⟩ := List.length_eq_one_iff.mp hone
    have hread : d ∈ leads table 2 (.read field b.toNat) rest := hsize table b ▸ h
    obtain ⟨first, rest, rfl, hlt, hcounted, h⟩ := mem_leads_sized.mp hread
    exact ⟨(table, b) :: first, rest, Stream.bytes first, rfl, hcounted, hlt,
      by rwa [Stream.last_cons]⟩
  · rintro ⟨first, rest, content, rfl, hbytes, hlt, h⟩
    match first, hbytes with
    | (table, b) :: first, hbytes =>
      obtain rfl : Stream.bytes first = content := (List.cons.inj hbytes).2
      rw [Stream.last_cons] at h
      refine ⟨[(table, b)], first ++ rest, rfl, rfl, ?_⟩
      have hread : d ∈ leads table 2 (.read field b.toNat) (first ++ rest) :=
        mem_leads_sized.mpr ⟨first, rest, rfl, hlt, hbytes, h⟩
      exact (hsize table b).symm ▸ hread

/-! ## What the fields demand -/

theorem next_header (table : AccessTable) (v count : UInt8) :
    (Field.header.take table [v, count]).2 =
      if v = 0x05 then .read .methods count.toNat else .close := by
  simp only [Field.take]
  by_cases hv : v = 0x05
  · rw [if_pos hv]
    exact congrArg Prod.snd (if_pos hv)
  · rw [if_neg hv]
    exact congrArg Prod.snd (if_neg hv)

theorem mem_leads_methods {fuel : Nat} {methods : Bytes} :
    d ∈ leads before fuel (Field.methods.take before methods).2 s ↔
      0x02 ∈ methods ∧ d ∈ leads before 2 (.read .authHeader 1) s := by
  by_cases hoffer : (0x02 : UInt8) ∈ methods
  · have htake : (Field.methods.take before methods).2 = .read .authHeader 1 :=
      congrArg Prod.snd (if_pos hoffer)
    rw [htake, leads_succ, and_iff_right hoffer]
  · have htake : (Field.methods.take before methods).2 = .close :=
      congrArg Prod.snd (if_neg hoffer)
    simp [htake, hoffer]

theorem next_authHeader (table : AccessTable) (v : UInt8) :
    (Field.authHeader.take table [v]).2 = if v = 0x01 then .read .usernameSize 1 else .close := by
  by_cases hv : v = 0x01
  · rw [hv]
    rfl
  · have hbytes : [v] ≠ [authVersion] := fun h => hv (List.cons.inj h).1
    rw [if_neg hv]
    exact congrArg Prod.snd (if_neg hbytes)

/-- The key is looked up in the table in force when the password has been read. -/
theorem mem_leads_password {fuel : Nat} {password : Bytes} :
    d ∈ leads before fuel (Field.password.take before password).2 s ↔ ∃ key, Names password key ∧
      before.containsKey key = true ∧ d ∈ leads before 2 (.read (.request key) 4) s := by
  simp only [← keyOf?_eq_some_iff, Field.take]
  cases hkey : keyOf? password with
  | none => simp
  | some key =>
    simp only [Option.some.injEq, exists_eq_left']
    by_cases hknown : before.containsKey key = true
    · rw [if_pos hknown, leads_succ, and_iff_right hknown]
    · rw [if_neg hknown, leads_close]
      simp [hknown]

/-- How the host of a request is read. -/
def hostField (key : UInt64) (command : UInt8) : HostForm → Next
  | .v4 => .read (.host key command .v4) 4
  | .name => .read (.nameSize key command) 1
  | .v6 => .read (.host key command .v6) 16

theorem next_request (table : AccessTable) (key : UInt64) (v command reserved byte : UInt8) :
    ((Field.request key).take table [v, command, reserved, byte]).2 =
      if v = 0x05 then ((HostForm.ofByte? byte).map (hostField key command)).getD .close
      else .close := by
  by_cases hv : v = 0x05
  · rw [if_pos hv]
    refine (congrArg Prod.snd (if_pos hv)).trans ?_
    cases HostForm.ofByte? byte with
    | none => rfl
    | some form => cases form <;> rfl
  · rw [if_neg hv]
    exact congrArg Prod.snd (if_neg hv)

/-- Only a request to connect is granted anything, by the table in force at its last byte. -/
theorem mem_leads_port {key : UInt64} {command : UInt8} {name : String} :
    d ∈ leads before 2 (.read (.port key command name) 2) s ↔ ∃ first rest, ∃ port : UInt16,
      s = first ++ rest ∧ Stream.bytes first = Bytes.big 2 port.toNat ∧ command = 0x01 ∧
      (Stream.last before first).Grants key ⟨name, port⟩ ∧ d = ⟨name, port⟩ := by
  have htake : ∀ (table : AccessTable) (bytes : Bytes) (rest : Stream),
      d ∈ leads table 2 ((Field.port key command name).take table bytes).2 rest ↔
        command = 0x01 ∧ table.Grants key ⟨name, .ofNat (Bytes.ofBig bytes)⟩ ∧
          d = ⟨name, .ofNat (Bytes.ofBig bytes)⟩ := by
    intro table bytes rest
    by_cases hcommand : command = 0x01
    · have hconnect : command = connectCommand := hcommand
      simp only [Field.take, if_pos hconnect, ← AccessTable.check_eq_ok_iff]
      cases hcheck : table.check key ⟨name, .ofNat (Bytes.ofBig bytes)⟩ with
      | ok _ => simp [hcommand]
      | error fault => simp
    · have hother : ¬ command = connectCommand := hcommand
      simp [Field.take, if_neg hother, hcommand]
  rw [mem_leads_read]
  constructor
  · rintro ⟨first, rest, rfl, hlength, h⟩
    rw [← Stream.length_bytes] at hlength
    exact ⟨first, rest, .ofNat (Bytes.ofBig (Stream.bytes first)), rfl,
      (Conversation.big_ofBig_port hlength).symm, (htake ..).mp h⟩
  · rintro ⟨first, rest, port, rfl, hbytes, h⟩
    refine ⟨first, rest, rfl, ?_, (htake ..).mpr ?_⟩
    · rw [← Stream.length_bytes, hbytes, Bytes.length_big]
    · rw [hbytes, Conversation.ofBig_port]
      exact h

theorem mem_leads_host {key : UInt64} {command : UInt8} {form : HostForm} :
    d ∈ leads before 2 (hostField key command form) s ↔ ∃ first rest host, s = first ++ rest ∧
      Stream.bytes first = form.spell host ∧ form.Admits host ∧
      d ∈ leads (Stream.last before first) 2 (.read (.port key command (hostText form host)) 2)
        rest := by
  have hfixed : ∀ {size : Nat}, d ∈ leads before 2 (.read (.host key command form) (size + 1)) s ↔
      ∃ first rest host, s = first ++ rest ∧ Stream.bytes first = host ∧ host.length = size + 1 ∧
        d ∈ leads (Stream.last before first) 2 (.read (.port key command (hostText form host)) 2)
          rest := by
    intro size
    rw [mem_leads_read]
    constructor
    · rintro ⟨first, rest, rfl, hlength, h⟩
      exact ⟨first, rest, _, rfl, rfl, (Stream.length_bytes first).trans hlength, h⟩
    · rintro ⟨first, rest, _, rfl, rfl, hlength, h⟩
      exact ⟨first, rest, rfl, (Stream.length_bytes first).symm.trans hlength, h⟩
  cases form with
  | v4 | v6 => exact hfixed
  | name =>
    have hsize : ∀ (table : AccessTable) (b : UInt8),
        ((Field.nameSize key command).take table [b]).2 =
          .read (.host key command .name) b.toNat := fun _ _ => rfl
    rw [hostField, mem_leads_counted hsize]
    simp only [Field.take, leads_succ]
    rfl

/-! ## The three messages -/

/-- The greeting must offer the password method. -/
theorem mem_leads_greeting :
    d ∈ leads before 2 (.read .header 2) s ↔ ∃ first rest methods, s = first ++ rest ∧
      Stream.bytes first = 0x05 :: counted methods ∧ methods.length < 256 ∧ 0x02 ∈ methods ∧
      d ∈ leads (Stream.last before first) 2 (.read .authHeader 1) rest := by
  rw [mem_leads_read]
  constructor
  · rintro ⟨header, rest, rfl, hheader, h⟩
    match header, hheader with
    | [(first, v), (table, count)], _ =>
      simp only [Stream.last_cons, Stream.last_nil, Stream.bytes_cons, Stream.bytes_nil,
        next_header] at h
      by_cases hv : v = 0x05
      · rw [if_pos hv] at h
        obtain ⟨methods, rest, rfl, hlt, hcounted, h⟩ := mem_leads_sized.mp h
        obtain ⟨hoffer, h⟩ := mem_leads_methods.mp h
        refine ⟨(first, v) :: (table, count) :: methods, rest, Stream.bytes methods, rfl, ?_, hlt,
          hoffer, by rwa [Stream.last_cons, Stream.last_cons]⟩
        rw [Stream.bytes_cons, Stream.bytes_cons, hcounted, hv]
      · rw [if_neg hv, leads_close] at h
        cases h
  · rintro ⟨first, rest, methods, rfl, hbytes, hlt, hoffer, h⟩
    match first, hbytes with
    | (first, v) :: (table, count) :: more, hbytes =>
      obtain ⟨hv, hcounted⟩ := List.cons.inj hbytes
      obtain rfl : Stream.bytes more = methods := (List.cons.inj hcounted).2
      rw [Stream.last_cons, Stream.last_cons] at h
      refine ⟨[(first, v), (table, count)], more ++ rest, rfl, rfl, ?_⟩
      have hv : v = 0x05 := hv
      simp only [Stream.last_cons, Stream.last_nil, Stream.bytes_cons, Stream.bytes_nil,
        next_header, if_pos hv]
      exact mem_leads_sized.mpr
        ⟨more, rest, rfl, hlt, hcounted, mem_leads_methods.mpr ⟨hoffer, h⟩⟩

/-- The password must name a key that is known when it has been read. -/
theorem mem_leads_credentials :
    d ∈ leads before 2 (.read .authHeader 1) s ↔ ∃ first rest username password key,
      s = first ++ rest ∧ Stream.bytes first = 0x01 :: (counted username ++ counted password) ∧
      username.length < 256 ∧ password.length < 256 ∧ Names password key ∧
      (Stream.last before first).containsKey key = true ∧
      d ∈ leads (Stream.last before first) 2 (.read (.request key) 4) rest := by
  have husername : ∀ (table : AccessTable) (b : UInt8),
      (Field.usernameSize.take table [b]).2 = .read .username b.toNat := fun _ _ => rfl
  have hpassword : ∀ (table : AccessTable) (b : UInt8),
      (Field.passwordSize.take table [b]).2 = .read .password b.toNat := fun _ _ => rfl
  have hnext : ∀ (table : AccessTable) (fuel : Nat) (bytes : Bytes) (rest : Stream),
      leads table fuel (Field.username.take table bytes).2 rest =
        leads table 2 (.read .passwordSize 1) rest := fun _ _ _ _ => leads_succ ..
  rw [mem_leads_read]
  constructor
  · rintro ⟨header, rest, rfl, hheader, h⟩
    obtain ⟨⟨table, v⟩, rfl⟩ := List.length_eq_one_iff.mp hheader
    simp only [Stream.last_cons, Stream.last_nil, Stream.bytes_cons, Stream.bytes_nil,
      next_authHeader] at h
    by_cases hv : v = 0x01
    · rw [if_pos hv] at h
      obtain ⟨first, rest, username, rfl, hfirst, hul, h⟩ := (mem_leads_counted husername).mp h
      rw [hnext] at h
      obtain ⟨second, rest, password, rfl, hsecond, hpl, h⟩ := (mem_leads_counted hpassword).mp h
      obtain ⟨key, hnames, hknown, h⟩ := mem_leads_password.mp h
      rw [← Stream.last_append] at hknown h
      refine ⟨(table, v) :: (first ++ second), rest, username, password, key, ?_, ?_, hul, hpl,
        hnames, by rwa [Stream.last_cons], by rwa [Stream.last_cons]⟩
      · simp only [List.cons_append, List.append_assoc, List.nil_append]
      · rw [Stream.bytes_cons, Stream.bytes_append, hfirst, hsecond, hv]
    · rw [if_neg hv, leads_close] at h
      cases h
  · rintro ⟨first, rest, username, password, key, rfl, hbytes, hul, hpl, hnames, hknown, h⟩
    match first, hbytes with
    | (table, v) :: more, hbytes =>
      obtain ⟨hv, hmore⟩ := List.cons.inj hbytes
      obtain ⟨first, second, rfl, hfirst, hsecond⟩ := List.map_eq_append_iff.mp hmore
      rw [Stream.last_cons, Stream.last_append] at hknown h
      refine ⟨[(table, v)], first ++ (second ++ rest), ?_, rfl, ?_⟩
      · simp only [List.cons_append, List.append_assoc, List.nil_append]
      have hv : v = 0x01 := hv
      simp only [Stream.last_cons, Stream.last_nil, Stream.bytes_cons, Stream.bytes_nil,
        next_authHeader, if_pos hv]
      refine (mem_leads_counted husername).mpr ⟨first, _, username, rfl, hfirst, hul, ?_⟩
      rw [hnext]
      exact (mem_leads_counted hpassword).mpr ⟨second, rest, password, rfl, hsecond, hpl,
        mem_leads_password.mpr ⟨key, hnames, hknown, h⟩⟩

/-- What is asked for must be granted when the request has been read. -/
theorem mem_leads_request {key : UInt64} :
    d ∈ leads before 2 (.read (.request key) 4) s ↔ ∃ first rest reserved, ∃ form : HostForm,
      ∃ host, ∃ port : UInt16, s = first ++ rest ∧
        Stream.bytes first =
          [0x05, 0x01, reserved, form.code] ++ (form.spell host ++ Bytes.big 2 port.toNat) ∧
        form.Admits host ∧ (Stream.last before first).Grants key ⟨hostText form host, port⟩ ∧
        d = ⟨hostText form host, port⟩ := by
  rw [mem_leads_read]
  constructor
  · rintro ⟨header, rest, rfl, hheader, h⟩
    match header, hheader with
    | [(t₁, v), (t₂, command), (t₃, reserved), (table, byte)], _ =>
      simp only [Stream.last_cons, Stream.last_nil, Stream.bytes_cons, Stream.bytes_nil,
        next_request] at h
      by_cases hv : v = 0x05
      · rw [if_pos hv] at h
        cases hform : HostForm.ofByte? byte with
        | none =>
          rw [hform] at h
          simp at h
        | some form =>
          rw [hform] at h
          obtain ⟨first, rest, host, rfl, hhost, hadmits, h⟩ := mem_leads_host.mp h
          obtain ⟨second, rest, port, rfl, hport, hcommand, hgrants, hd⟩ := mem_leads_port.mp h
          rw [← Stream.last_append] at hgrants
          refine ⟨(t₁, v) :: (t₂, command) :: (t₃, reserved) :: (table, byte) :: (first ++ second), rest,
            reserved, form, host, port, ?_, ?_, hadmits, ?_, hd⟩
          · simp only [List.cons_append, List.append_assoc, List.nil_append]
          · simp only [Stream.bytes_cons, Stream.bytes_append, hhost, hport, hv, hcommand,
              HostForm.ofByte?_eq_some_iff.mp hform, List.cons_append, List.nil_append]
          · simpa only [Stream.last_cons] using hgrants
      · rw [if_neg hv, leads_close] at h
        cases h
  · rintro ⟨first, rest, reserved, form, host, port, rfl, hbytes, hadmits, hgrants, hd⟩
    match first, hbytes with
    | (t₁, v) :: (t₂, command) :: (t₃, spare) :: (table, byte) :: more, hbytes =>
      simp only [Stream.bytes_cons, List.cons_append, List.nil_append, List.cons.injEq] at hbytes
      obtain ⟨hv, hcommand, hreserved, hbyte, hmore⟩ := hbytes
      obtain ⟨first, second, rfl, hfirst, hsecond⟩ := List.map_eq_append_iff.mp hmore
      simp only [Stream.last_cons, Stream.last_append] at hgrants
      refine ⟨[(t₁, v), (t₂, command), (t₃, spare), (table, byte)], first ++ (second ++ rest), ?_,
        rfl, ?_⟩
      · simp only [List.cons_append, List.append_assoc, List.nil_append]
      simp only [Stream.last_cons, Stream.last_nil, Stream.bytes_cons, Stream.bytes_nil,
        next_request, if_pos hv, HostForm.ofByte?_eq_some_iff.mpr hbyte]
      exact mem_leads_host.mpr ⟨first, _, host, rfl, hfirst, hadmits,
        mem_leads_port.mpr ⟨second, rest, port, rfl, hsecond, hcommand, hgrants, hd⟩⟩

end Client

/-- The stream begins with this conversation. Its key is known when the password has been read, and
what it asks for is granted to the key when the request has been read. -/
structure Passes (s : Stream) (c : Conversation) (key : UInt64) : Prop where
  valid : c.Valid
  said : c.bytes <+: s.bytes
  names : Names c.password key
  known : ∃ table, s.tableAt (c.greeting.length + c.credentials.length) = some table ∧
    table.containsKey key = true
  granted : ∃ table, s.tableAt c.bytes.length = some table ∧ table.Grants key c.destination

theorem Passes.unique {s : Stream} {c c' : Conversation} {key key' : UInt64} (h : Passes s c key)
    (hvalid : c'.Valid) (hsaid : c'.bytes <+: s.bytes) (hnames : Names c'.password key') :
    c = c' ∧ key = key' := by
  obtain ⟨rest, hrest⟩ := h.said
  obtain ⟨rest', hrest'⟩ := hsaid
  obtain rfl := h.valid.unique hvalid (hrest.trans hrest'.symm)
  exact ⟨rfl, h.names.unique hnames⟩

/-- A conversation at the front of a stream, cut where the tables are looked at. -/
theorem Passes.of_append {first second third rest : Stream} {c : Conversation} {key : UInt64}
    (hgreeting : first.bytes = c.greeting) (hcredentials : second.bytes = c.credentials)
    (hrequest : third.bytes = c.request) (before : AccessTable) :
    Passes (first ++ (second ++ (third ++ rest))) c key ↔ c.Valid ∧ Names c.password key ∧
      (second.last (first.last before)).containsKey key = true ∧
      (third.last (second.last (first.last before))).Grants key c.destination := by
  have hnonempty : first ≠ [] := by
    rintro rfl
    cases hgreeting
  have hknown : (first ++ (second ++ (third ++ rest))).tableAt
      (c.greeting.length + c.credentials.length) = some (second.last (first.last before)) := by
    rw [← List.append_assoc, ← Stream.last_append]
    refine Stream.tableAt_of_append ?_ (by simp [hnonempty]) before
    rw [← Stream.length_bytes, Stream.bytes_append, hgreeting, hcredentials, List.length_append]
  have hgranted : (first ++ (second ++ (third ++ rest))).tableAt c.bytes.length =
      some (third.last (second.last (first.last before))) := by
    rw [← List.append_assoc second, ← List.append_assoc, ← Stream.last_append,
      ← Stream.last_append]
    refine Stream.tableAt_of_append ?_ (by simp [hnonempty]) before
    rw [← Stream.length_bytes, Stream.bytes_append, Stream.bytes_append, hgreeting, hcredentials,
      hrequest, Conversation.bytes]
  have hsaid : c.bytes <+: Stream.bytes (first ++ (second ++ (third ++ rest))) :=
    ⟨rest.bytes, by simp [hgreeting, hcredentials, hrequest, Conversation.bytes]⟩
  constructor
  · rintro ⟨hvalid, -, hnames, ⟨known, hk, hcontains⟩, granting, hg, hgrants⟩
    obtain rfl := Option.some.inj (hknown.symm.trans hk)
    obtain rfl := Option.some.inj (hgranted.symm.trans hg)
    exact ⟨hvalid, hnames, hcontains, hgrants⟩
  · rintro ⟨hvalid, hnames, hcontains, hgrants⟩
    exact ⟨hvalid, hsaid, hnames, ⟨_, hknown, hcontains⟩, _, hgranted, hgrants⟩

/-- The three messages of a stream, one behind the other. -/
theorem Client.mem_dialled_start {s : Stream} {d : Destination} :
    d ∈ Client.start.dialled s ↔ ∃ c key, Passes s c key ∧ c.destination = d := by
  have hstart : Client.start.dialled s = leads {} 2 (.read .header 2) s := rfl
  rw [hstart, mem_leads_greeting]
  constructor
  · rintro ⟨first, rest, methods, rfl, hgreeting, hml, hoffer, h⟩
    obtain ⟨second, rest, username, password, key, rfl, hcredentials, hul, hpl, hnames, hknown, h⟩ :=
      mem_leads_credentials.mp h
    obtain ⟨third, rest, reserved, form, host, port, rfl, hrequest, hadmits, hgrants, rfl⟩ :=
      mem_leads_request.mp h
    refine ⟨⟨methods, username, password, reserved, form, host, port⟩, key, ?_, rfl⟩
    exact (Passes.of_append hgreeting hcredentials hrequest {}).mpr
      ⟨⟨hml, hoffer, hul, hpl, hadmits⟩, hnames, hknown, hgrants⟩
  · rintro ⟨c, key, h, rfl⟩
    obtain ⟨tail, htail⟩ := h.said
    obtain ⟨front, rest, rfl, hfront, -⟩ := List.map_eq_append_iff.mp htail.symm
    obtain ⟨first, front, rfl, hgreeting, hfront⟩ := List.map_eq_append_iff.mp hfront
    obtain ⟨second, third, rfl, hcredentials, hrequest⟩ := List.map_eq_append_iff.mp hfront
    rw [List.append_assoc, List.append_assoc] at h ⊢
    obtain ⟨hvalid, hnames, hknown, hgrants⟩ :=
      (Passes.of_append hgreeting hcredentials hrequest {}).mp h
    refine ⟨first, _, c.methods, rfl, hgreeting, hvalid.methods, hvalid.offers, ?_⟩
    refine mem_leads_credentials.mpr ⟨second, _, c.username, c.password, key, rfl, hcredentials,
      hvalid.username, hvalid.password, hnames, hknown, ?_⟩
    exact mem_leads_request.mpr ⟨third, rest, c.reserved, c.form, c.host, c.port, rfl, hrequest,
      hvalid.host, hgrants, rfl⟩

namespace Client

/-- After a dial the handshake is over. -/
theorem dials_proceed (table : AccessTable) (fuel : Nat) (taken : Bytes × Next) :
    dials (proceed table fuel taken).1 = [] ∨
      ∃ d, dials (proceed table fuel taken).1 = [d] ∧ (proceed table fuel taken).2.isSettled := by
  induction fuel generalizing taken with
  | zero =>
    obtain ⟨out, next⟩ := taken
    cases next with
    | close | read => exact .inl (by simp [proceed])
    | dial d => exact .inr ⟨d, by simp [proceed, dials], rfl⟩
  | succ fuel ih =>
    obtain ⟨out, next⟩ := taken
    cases next with
    | close => exact .inl (by simp [proceed])
    | dial d => exact .inr ⟨d, by simp [proceed, dials], rfl⟩
    | read field size =>
      cases size with
      | zero => simpa [proceed] using ih (field.take table [])
      | succ size => exact .inl (by simp [proceed])

theorem length_dialled_le (s : Stream) (c : Client) : (c.dialled s).length ≤ 1 := by
  induction s generalizing c with
  | nil => exact Nat.zero_le 1
  | cons pair s ih =>
    obtain ⟨table, b⟩ := pair
    rw [dialled_cons]
    have hstep : dials (c.feed table b).1 = [] ∨
        ∃ d, dials (c.feed table b).1 = [d] ∧ (c.feed table b).2.isSettled := by
      cases c with
      | reading field need got =>
        rw [feed]
        split
        · exact dials_proceed ..
        · exact .inl rfl
      | _ => exact .inl rfl
    rcases hstep with h | ⟨d, h, hsettled⟩
    · rw [h]
      exact ih _
    · rw [h, dialled, dials_of_settled _ hsettled]
      rfl

/-- A destination is dialled if and only if the stream passes for it, and only one is. A key that the
table no longer knows when the request has been read opens nothing, nor does any other stream. -/
theorem dials_iff_passes (events : List Event) :
    (∀ d, d ∈ dials (run events start).1 ↔
      ∃ c key, Passes (heard events) c key ∧ c.destination = d) ∧
    (dials (run events start).1).length ≤ 1 ∧
    (∀ (c : Conversation) key, c.Valid → c.bytes <+: (heard events).bytes → Names c.password key →
      ∀ table, (heard events).tableAt c.bytes.length = some table → table.containsKey key = false →
        dials (run events start).1 = []) ∧
    ((¬ ∃ c key, Passes (heard events) c key) → dials (run events start).1 = []) := by
  rw [dials_run]
  have hempty : (¬ ∃ c key, Passes (heard events) c key) → start.dialled (heard events) = [] := by
    intro hnone
    refine List.eq_nil_iff_forall_not_mem.mpr fun d hd => hnone ?_
    obtain ⟨c, key, h, -⟩ := mem_dialled_start.mp hd
    exact ⟨c, key, h⟩
  refine ⟨fun d => mem_dialled_start, length_dialled_le .., ?_, hempty⟩
  intro c key hvalid hsaid hnames table htable hrevoked
  refine hempty ?_
  rintro ⟨c', key', h⟩
  obtain ⟨rfl, rfl⟩ := h.unique hvalid hsaid hnames
  obtain ⟨granting, hgranting, hgrants⟩ := h.granted
  obtain rfl := Option.some.inj (htable.symm.trans hgranting)
  rw [hgrants.containsKey] at hrevoked
  cases hrevoked

/-- A client that says one thing while the table is replaced twice. -/
def saysUnder (c : Conversation) (greeting credentials request : AccessTable) : List Event :=
  c.greeting.map (.byte greeting) ++ c.credentials.map (.byte credentials) ++
    c.request.map (.byte request)

def caller : Conversation := ⟨[0x00, 0x02], [], [0x20, 0x2b, 0x30, 0x37], 0, .name, [0x61], 80⟩

theorem dials_iff_passes_revoked :
    (dials (run (saysUnder caller {} ⟨[(7, [⟨"a", 80⟩])]⟩ ⟨[(7, [⟨"a", 80⟩])]⟩) start).1 =
      [⟨"a", 80⟩]) ∧
    dials (run (saysUnder caller {} ⟨[(7, [⟨"a", 80⟩])]⟩ {}) start).1 = [] := by
  refine ⟨by decide, ?_⟩
  have hhost : caller.host.length < 256 := by decide
  have hvalid : caller.Valid := ⟨by decide, by decide, by decide, by decide, hhost⟩
  have hnames : Names caller.password 7 := keyOf?_eq_some_iff.mp (by decide)
  have hnow : (heard (saysUnder caller {} ⟨[(7, [⟨"a", 80⟩])]⟩ {})).tableAt caller.bytes.length =
      some {} := by decide
  exact (dials_iff_passes _).2.2.1 caller 7 hvalid (by decide) hnames {} hnow rfl

end Client

end TunnelAgent.Socks
