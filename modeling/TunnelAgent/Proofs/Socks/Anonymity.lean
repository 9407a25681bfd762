import TunnelAgent.Proofs.Socks.Connection

/-! # The user name decides nothing

Two clients that say the same up to the user name, under the same tables and with the same that
follows, get the same bytes, the same decisions, the same dials and the same data, however long the
names are, whatever they hold and however long it takes to say them. Only the log tells them apart.

The proof runs through the fields up to the name, where a connection is closed or waits for the name's
size; through the name, after which the connection is the same for every name but for the name itself
or out of time; and from there on with the name left out. -/

namespace TunnelAgent.Socks

/-! ## What the log is told -/

/-- A note without what it tells of the user name. -/
def Note.nameless? : Note → Option Note
  | malformedMetadata _ => none
  | unknownKey => some .unknownKey
  | rejected _ destination fault => some (.rejected "" destination fault)
  | accepted _ destination => some (.accepted "" destination)

/-- What a note tells of the user name is true of this one. -/
def Note.About (username : Bytes) : Note → Prop
  | malformedMetadata text => text = lossyText username ∧ Metadata.parse text = none
  | unknownKey => True
  | rejected metadata _ _ => metadata = metadataText username
  | accepted metadata _ => metadata = metadataText username

theorem nameless_metadataNotes (username : Bytes) :
    (metadataNotes username).filterMap Note.nameless? = [] := by
  rw [metadataNotes]
  split <;> rfl

theorem Field.nameless_notes (table : AccessTable) (username username' bytes : Bytes)
    (field : Field) : (field.notes table username bytes).filterMap Note.nameless? =
      (field.notes table username' bytes).filterMap Note.nameless? := by
  cases field with
  | password => simp only [notes, List.filterMap_append, nameless_metadataNotes]
  | port key command name =>
    simp only [notes]
    split
    · split <;> rfl
    · rfl
  | _ => rfl

theorem about_metadataNotes {username : Bytes} {note : Note} (h : note ∈ metadataNotes username) :
    note.About username := by
  rw [metadataNotes] at h
  split at h
  · cases h
  · rename_i hparse
    obtain rfl := List.mem_singleton.mp h
    exact ⟨rfl, hparse⟩

theorem Field.about_notes {table : AccessTable} {username bytes : Bytes} {field : Field} {note : Note}
    (h : note ∈ field.notes table username bytes) : note.About username := by
  cases field with
  | password =>
    rcases List.mem_append.mp h with h | h
    · exact about_metadataNotes h
    · split at h
      · cases h
      · obtain rfl := List.mem_singleton.mp h
        trivial
  | port key command name =>
    simp only [notes] at h
    split at h
    · split at h <;> obtain rfl := List.mem_singleton.mp h <;> rfl
    · cases h
  | _ => cases h

/-! ## Fields behind the name -/

/-- The user name has been read before this field. -/
def Field.isNamed : Field → Bool
  | header => false
  | methods => false
  | authHeader => false
  | usernameSize => false
  | username => false
  | _ => true

def Next.isNamed : Next → Bool
  | read field _ => field.isNamed
  | _ => true

def Client.isNamed : Client → Bool
  | reading field _ _ => field.isNamed
  | _ => true

theorem Field.notes_of_unnamed {field : Field} (h : field.isNamed = false) (table : AccessTable)
    (username bytes : Bytes) : field.notes table username bytes = [] := by
  cases field <;> first | rfl | cases h

theorem Field.isNamed_take {field : Field} (h : field.isNamed = true) (table : AccessTable)
    (bytes : Bytes) : (field.take table bytes).2.isNamed = true := by
  fun_cases Field.take table bytes field <;> first | rfl | cases h

namespace Client

theorem isNamed_proceed {fuel : Nat} {table : AccessTable} {taken : Bytes × Next}
    (h : taken.2.isNamed = true) : (proceed table fuel taken).2.isNamed = true := by
  fun_induction proceed table fuel taken with
  | case1 | case2 => rfl
  | case3 fuel out field effects c heq ih =>
    rw [heq] at ih
    exact ih (Field.isNamed_take h table [])
  | case4 => exact h

theorem isNamed_feed {c : Client} (h : c.isNamed = true) (table : AccessTable) (b : UInt8) :
    (c.feed table b).2.isNamed = true := by
  cases c with
  | reading field need got =>
    rw [feed]
    split
    · exact isNamed_proceed (Field.isNamed_take h table _)
    · exact h
  | _ => rfl

theorem isNamed_of_settled {c : Client} (h : c.isSettled = true) : c.isNamed = true := by
  cases c <;> first | rfl | cases h

/-- Behind the handshake no field is completed. -/
theorem completed_of_settled {c : Client} (h : c.isSettled = true) (table : AccessTable)
    (b : UInt8) : c.completed table b = [] := by
  cases c <;> first | rfl | cases h

theorem mem_completed {table : AccessTable} {b : UInt8} {field : Field} {need : Nat} {got : Bytes}
    {whole : Field × Bytes} (h : whole ∈ completed table b (.reading field need got)) :
    whole.1 = field ∨ (field.take table (b :: got).reverse).2 = .read whole.1 0 := by
  rw [completed] at h
  split at h
  · simp only at h
    split at h
    · rename_i next hread
      rcases List.mem_cons.mp h with rfl | h
      · exact .inl rfl
      · rw [List.mem_singleton.mp h]
        exact .inr hread
    · rw [List.mem_singleton.mp h]
      exact .inl rfl
  · cases h

/-- Behind the name, no name is completed. -/
theorem lookup_completed {c : Client} (h : c.isNamed = true) (table : AccessTable) (b : UInt8) :
    (c.completed table b).lookup .username = none := by
  refine List.lookup_eq_none_iff.mpr fun whole hwhole => ?_
  have hnamed : whole.1.isNamed = true := by
    cases c with
    | reading field need got =>
      rcases mem_completed hwhole with hfield | hread
      · rw [hfield]
        exact h
      · have hnext := Field.isNamed_take h table (b :: got).reverse
        rw [hread] at hnext
        exact hnext
    | _ => cases hwhole
  rw [bne_iff_ne]
  intro hname
  rw [← hname] at hnamed
  cases hnamed

end Client

namespace Connection

def Effect.nameless? : Effect → Option Effect
  | note n => n.nameless?.map note
  | effect => some effect

/-- What happens, without what is logged of the user name. -/
def nameless (effects : List Effect) : List Effect := effects.filterMap Effect.nameless?

/-- What happens to the sockets, in order. -/
def wire (effects : List Effect) : List Effect :=
  effects.filter fun effect => match effect with
    | .note _ => false
    | _ => true

/-- The connection without the user name. -/
def anonymous (k : Connection) : Connection := { k with username := [] }

/-- The bytes that the client says. -/
def said (ms : List Moment) : Bytes := ms.filterMap (·.event.byte?)

/-- At these moments the client says these bytes, and its stream neither ends nor fails. -/
structure Says (bytes : Bytes) (ms : List Moment) : Prop where
  all : said ms = bytes
  goesOn : ∀ m ∈ ms, m.event ≠ .ended ∧ m.event ≠ .failed

variable {config : Config.Socks} {k : Connection} {ms : List Moment}

theorem said_byte {m : Moment} {b : UInt8} (hb : m.event = .byte b) :
    said (m :: ms) = b :: said ms :=
  List.filterMap_cons_some (by rw [hb]; rfl)

theorem said_other {m : Moment} (hevent : ∀ b, m.event ≠ .byte b) : said (m :: ms) = said ms :=
  List.filterMap_cons_none (byte?_eq_none hevent)

theorem nameless_append (effects more : List Effect) :
    nameless (effects ++ more) = nameless effects ++ nameless more := List.filterMap_append

theorem nameless_notes (log : List Note) :
    nameless (log.map .note) = (log.filterMap Note.nameless?).map .note := by
  rw [nameless, List.filterMap_map, List.map_filterMap]
  rfl

/-- Leaving the user name out changes nothing on the wire. -/
theorem wire_nameless (effects : List Effect) : wire (nameless effects) = wire effects := by
  induction effects with
  | nil => rfl
  | cons effect rest ih =>
    cases effect with
    | note n =>
      have hrest : wire (.note n :: rest) = wire rest := rfl
      rw [hrest, ← ih, nameless, List.filterMap_cons]
      cases hn : n.nameless? with
      | none => simp [Effect.nameless?, hn, nameless]
      | some n' => simp [Effect.nameless?, hn, nameless, wire]
    | _ => exact congrArg (_ :: ·) ih

/-! ## A connection without the user name -/

theorem byte_anonymous (now : Duration) (table : AccessTable) (b : UInt8) :
    nameless (k.anonymous.byte now table b).1 = nameless (k.byte now table b).1 ∧
      (k.anonymous.byte now table b).2.anonymous = (k.byte now table b).2.anonymous := by
  simp only [byte, show k.anonymous.clientEnded = k.clientEnded from rfl,
    show k.anonymous.client = k.client from rfl]
  split
  · exact ⟨rfl, rfl⟩
  · refine ⟨?_, rfl⟩
    simp only [nameless_append, nameless_notes]
    congr 2
    rw [List.filterMap_flatMap, List.filterMap_flatMap]
    simp only [Field.nameless_notes table k.anonymous.username k.username]

theorem take_anonymous (m : Moment) :
    nameless (k.anonymous.take m).1 = nameless (k.take m).1 ∧
      (k.anonymous.take m).2.anonymous = (k.take m).2.anonymous := by
  obtain ⟨since, client, username, clientEnded, destinationEnded⟩ := k
  obtain ⟨now, table, event⟩ := m
  cases event with
  | byte b => exact byte_anonymous now table b
  | dialed outcome => exact ⟨rfl, rfl⟩
  | ended => cases clientEnded <;> cases client <;> exact ⟨rfl, rfl⟩
  | answered bytes => cases destinationEnded <;> cases client <;> exact ⟨rfl, rfl⟩
  | answerEnded => cases destinationEnded <;> cases client <;> exact ⟨rfl, rfl⟩
  | failed => cases client <;> exact ⟨rfl, rfl⟩
  | waited => exact ⟨rfl, rfl⟩

theorem expire_anonymous (now : Duration) : k.anonymous.expire config now =
    ((k.expire config now).1, (k.expire config now).2.anonymous) := by
  obtain ⟨since, client, username, clientEnded, destinationEnded⟩ := k
  cases client with
  | reading =>
    by_cases hlate : since + handshakeTimeout config < now <;>
      simp only [expire, anonymous, hlate, if_true, if_false]
  | dialing =>
    by_cases hlate : since + connectTimeout config < now <;>
      simp only [expire, anonymous, hlate, if_true, if_false]
    rfl
  | relaying | closed => rfl

theorem step_anonymous (config : Config.Socks) (m : Moment) (k : Connection) :
    nameless (step config m k.anonymous).1 = nameless (step config m k).1 ∧
      (step config m k.anonymous).2.anonymous = (step config m k).2.anonymous := by
  obtain ⟨heffects, hk⟩ := take_anonymous (k := (k.expire config m.now).2) m
  rw [step_eq, step_eq, expire_anonymous]
  exact ⟨by rw [nameless_append, nameless_append, heffects], hk⟩

/-- Connections that differ in the user name only go the same way. -/
theorem run_anonymous (config : Config.Socks) {k k' : Connection}
    (h : k.anonymous = k'.anonymous) (ms : List Moment) :
    nameless (run config ms k).1 = nameless (run config ms k').1 ∧
      (run config ms k).2.anonymous = (run config ms k').2.anonymous := by
  induction ms generalizing k k' with
  | nil => exact ⟨rfl, h⟩
  | cons m rest ih =>
    obtain ⟨heffects, hnext⟩ := step_anonymous config m k
    obtain ⟨heffects', hnext'⟩ := step_anonymous config m k'
    rw [h] at heffects hnext
    obtain ⟨hmore, hlast⟩ := ih (hnext.symm.trans hnext')
    rw [run_cons, run_cons, nameless_append, nameless_append, hmore]
    exact ⟨by rw [← heffects, heffects'], hlast⟩

/-! ## The log -/

/-- Only a field that has just been read is logged. -/
theorem mem_notes_step {m : Moment} {n : Note} (h : n ∈ notes (step config m k).1) :
    ∃ b, ∃ whole ∈ k.client.completed m.table b,
      n ∈ whole.1.notes m.table k.username whole.2 := by
  have hexpire : Aside k (k.expire config m.now) := aside_expire m.now k
  rw [step_eq, notes_append, hexpire.notes, List.nil_append] at h
  rcases byte?_cases m with ⟨b, hb⟩ | hevent
  · simp only [take, hb, byte] at h
    split at h
    · cases h
    simp only [notes_append, notes_gate, notes_note, List.append_nil] at h
    obtain ⟨whole, hwhole, hn⟩ := List.mem_flatMap.mp h
    rw [hexpire.username] at hn
    rcases hexpire.client with hsame | hsettled
    · rw [hsame] at hwhole
      exact ⟨b, whole, hwhole, hn⟩
    · rw [Client.completed_of_settled hsettled] at hwhole
      cases hwhole
  · rw [(aside_take hevent).notes] at h
    cases h

/-- The user name that a connection has read. -/
structure Named (username : Bytes) (k : Connection) : Prop where
  client : k.client.isNamed = true
  username : k.username = username

theorem Named.aside {username : Bytes} {r : List Effect × Connection} (h : Named username k)
    (haside : Aside k r) : Named username r.2 := by
  refine ⟨?_, haside.username.trans h.username⟩
  rcases haside.client with hsame | hsettled
  · rw [hsame]
    exact h.client
  · exact Client.isNamed_of_settled hsettled

theorem Named.take {username : Bytes} (h : Named username k) (m : Moment) :
    Named username (k.take m).2 := by
  rcases byte?_cases m with ⟨b, hb⟩ | hevent
  · simp only [Connection.take, hb, byte]
    split
    · exact h
    · refine ⟨Client.isNamed_feed h.client m.table b, ?_⟩
      simp only [Client.lookup_completed h.client, Option.getD_none]
      exact h.username
  · exact h.aside (aside_take hevent)

/-- Behind the name, a connection logs the truth about it. -/
theorem Named.run {username : Bytes} (h : Named username k) (ms : List Moment) :
    ∀ n ∈ notes (run config ms k).1, n.About username := by
  induction ms generalizing k with
  | nil =>
    intro n hn
    cases hn
  | cons m rest ih =>
    intro n hn
    rw [run_cons, notes_append] at hn
    rcases List.mem_append.mp hn with hn | hn
    · obtain ⟨b, whole, -, hn⟩ := mem_notes_step hn
      rw [h.username] at hn
      exact Field.about_notes hn
    · exact ih ((h.aside (aside_expire m.now k)).take m) n hn

/-! ## Up to the name -/

/-- Where a client stands in its handshake when these bytes are left up to the user name. -/
inductive Before : Client → Bytes → Prop
  | greeting {v last : UInt8} {methods : Bytes} : methods.length < 256 →
      Before (.reading .header 2 []) (v :: (counted methods ++ [last]))
  | count {v last : UInt8} {methods : Bytes} : methods.length < 256 →
      Before (.reading .header 1 [v]) (counted methods ++ [last])
  | methods {last : UInt8} {got rest : Bytes} : rest ≠ [] →
      Before (.reading .methods rest.length got) (rest ++ [last])
  | auth {last : UInt8} : Before (.reading .authHeader 1 []) [last]
  | name : Before (.reading .usernameSize 1 []) []

variable {c : Client}

theorem Before.unnamed {rest : Bytes} (h : Before c rest) :
    ∃ field need got, c = .reading field need got ∧ field.isNamed = false := by
  cases h <;> exact ⟨_, _, _, rfl, rfl⟩

theorem Before.done (h : Before c []) : c = .reading .usernameSize 1 [] := by
  generalize hbytes : ([] : Bytes) = bytes at h
  cases h with
  | name => rfl
  | _ => simp [counted] at hbytes

/-- What a whole field leads to, whatever is written for it. -/
theorem client_feed (table : AccessTable) (b : UInt8) (field : Field) (got : Bytes) :
    (Client.feed table b (.reading field 1 got)).2 =
      (Client.proceed table 2 ([], (field.take table (b :: got).reverse).2)).2 := by
  have hfeed : Client.feed table b (.reading field 1 got) =
      Client.proceed table 2 (field.take table (b :: got).reverse) := rfl
  rw [hfeed]
  obtain ⟨out, next⟩ := field.take table (b :: got).reverse
  cases next with
  | read field size => cases size <;> rfl
  | _ => rfl

theorem Before.feed {b : UInt8} {rest : Bytes} (h : Before c (b :: rest)) (table : AccessTable) :
    (c.feed table b).2 = .closed ∨ Before (c.feed table b).2 rest := by
  generalize hbytes : b :: rest = bytes at h
  cases h with
  | greeting hlength =>
    obtain ⟨rfl, rfl⟩ := List.cons.inj hbytes
    exact .inr (.count hlength)
  | @count v last methods hlength =>
    obtain ⟨rfl, rfl⟩ := List.cons.inj hbytes
    rw [client_feed, List.reverse_cons, List.reverse_singleton, List.singleton_append,
      Client.next_header, UInt8.toNat_ofNat_of_lt' hlength]
    split
    · cases methods with
      | nil => exact .inl rfl
      | cons first more => exact .inr (.methods (List.cons_ne_nil first more))
    · exact .inl rfl
  | @methods last got left hleft =>
    obtain ⟨first, more, rfl⟩ := List.exists_cons_of_ne_nil hleft
    obtain ⟨rfl, rfl⟩ := List.cons.inj hbytes
    cases more with
    | nil =>
      rw [List.length_singleton, client_feed, Field.take]
      split
      · exact .inr .auth
      · exact .inl rfl
    | cons second more => exact .inr (.methods (List.cons_ne_nil second more))
  | auth =>
    obtain ⟨rfl, rfl⟩ := List.cons.inj hbytes
    rw [client_feed, List.reverse_singleton, Client.next_authHeader]
    split
    · exact .inr .name
    · exact .inl rfl
  | name => cases hbytes

/-- Between the user name and what follows it stands a size that is read. -/
theorem Field.unnamed_next {field next : Field} (h : field.isNamed = false) {table : AccessTable}
    {bytes : Bytes} (hnext : (field.take table bytes).2 = .read next 0) : next.isNamed = false := by
  revert hnext
  fun_cases Field.take table bytes field <;> intro hnext <;>
    first | exact (Next.read.inj hnext).1 ▸ rfl | cases hnext | cases h

/-- Up to the user name nothing is logged. -/
theorem notes_unnamed {field : Field} {need : Nat} {got : Bytes}
    (hclient : k.client = .reading field need got) (h : field.isNamed = false) (m : Moment) :
    notes (step config m k).1 = [] := by
  refine List.eq_nil_iff_forall_not_mem.mpr fun n hn => ?_
  obtain ⟨b, whole, hwhole, hn⟩ := mem_notes_step hn
  have hunnamed : whole.1.isNamed = false := by
    rw [hclient] at hwhole
    rcases Client.mem_completed hwhole with hfield | hread
    · rw [hfield]
      exact h
    · exact Field.unnamed_next h hread
  rw [Field.notes_of_unnamed hunnamed] at hn
  cases hn

/-- The connection is over, or these bytes are left up to the user name. -/
def UpTo (rest : Bytes) (k : Connection) : Prop :=
  k.client = .closed ∨ k.clientEnded = false ∧ Before k.client rest

theorem UpTo.step (config : Config.Socks) {m : Moment} (h : UpTo (said (m :: ms)) k) :
    notes (step config m k).1 = [] ∧ UpTo (said ms) (step config m k).2 := by
  rcases h with hclosed | ⟨hopen, hbefore⟩
  · obtain ⟨heffects, hstill⟩ := step_closed config hclosed m
    rw [heffects]
    exact ⟨rfl, .inl hstill⟩
  obtain ⟨field, need, got, hclient, hunnamed⟩ := hbefore.unnamed
  refine ⟨notes_unnamed hclient hunnamed m, ?_⟩
  by_cases hlate : Late config k m
  · exact .inl (step_late hclient hlate).2
  rw [step_in_time hclient hlate]
  rcases byte?_cases m with ⟨b, hb⟩ | hevent
  · have htake : (k.take m).2.client = (k.client.feed m.table b).2 ∧
        (k.take m).2.clientEnded = false := by
      simp [take, hb, byte, hopen]
    rw [said_byte hb] at hbefore
    rcases hbefore.feed m.table with hclosed | hbefore
    · exact .inl (htake.1.trans hclosed)
    · exact .inr ⟨htake.2, htake.1 ▸ hbefore⟩
  · rcases take_reading hclient hevent with ⟨-, hclosed, -⟩ | ⟨hsame, -⟩
    · exact .inl hclosed
    · rw [hsame, ← said_other hevent]
      exact .inr ⟨hopen, hbefore⟩

theorem UpTo.run (config : Config.Socks) (h : UpTo (said ms) k) :
    notes (run config ms k).1 = [] ∧ UpTo [] (run config ms k).2 := by
  induction ms generalizing k with
  | nil => exact ⟨rfl, h⟩
  | cons m rest ih =>
    obtain ⟨hquiet, hnext⟩ := h.step config
    obtain ⟨hmore, hlast⟩ := ih hnext
    rw [run_cons, notes_append, hquiet, hmore]
    exact ⟨rfl, hlast⟩

/-! ## The name -/

/-- The connection when the name has been read. -/
def withName (username : Bytes) (k : Connection) : Connection :=
  { k with client := .reading .passwordSize 1 [], username }

/-- A name is said: it is read as it is, or it comes too late. -/
structure Spelled (config : Config.Socks) (username : Bytes) (ms : List Moment) (k : Connection) :
    Prop where
  silent : (run config ms k).1 = []
  read : (run config ms k).2 = k.withName username ∨
    (run config ms k).2.client = .closed ∧ ∃ m ∈ ms, Late config k m

theorem Spelled.late {username : Bytes} {m : Moment} {field : Field} {need : Nat} {got : Bytes}
    (hclient : k.client = .reading field need got) (hlate : Late config k m) (rest : List Moment) :
    Spelled config username (m :: rest) k := by
  obtain ⟨heffects, hclosed⟩ := step_late hclient hlate
  obtain ⟨hmore, hlast⟩ := run_closed config hclosed rest
  refine ⟨?_, .inr ⟨hlast, m, List.mem_cons_self, hlate⟩⟩
  rw [run_cons, heffects, hmore]
  rfl

/-- A moment in time that brings the connection nearer to the end of the name. -/
theorem Spelled.cons {k' : Connection} {username : Bytes} {m : Moment} {rest : List Moment}
    (hstep : step config m k = ([], k')) (hsame : k'.withName username = k.withName username)
    (h : Spelled config username rest k') : Spelled config username (m :: rest) k := by
  refine ⟨?_, ?_⟩
  · rw [run_cons, hstep, h.silent]
    rfl
  · rw [run_cons, hstep]
    rcases h.read with hread | ⟨hclosed, late, hmem, hlate⟩
    · exact .inl (hread.trans hsame)
    · have hsince : k'.since = k.since := congrArg (·.since) hsame
      rw [Late, hsince] at hlate
      exact .inr ⟨hclosed, late, List.mem_cons_of_mem m hmem, hlate⟩

/-- Where a connection stands in the field of the name when these bytes of it are left. -/
inductive Naming (username : Bytes) (k : Connection) : Bytes → Prop
  | size (waits : k.client = .reading .usernameSize 1 []) : Naming username k (counted username)
  | bytes {got rest : Bytes} (waits : k.client = .reading .username rest.length got)
      (more : rest ≠ []) (whole : got.reverse ++ rest = username) : Naming username k rest
  | named (read : k = k.withName username) : Naming username k []

theorem Naming.reading {username rest : Bytes} (h : Naming username k rest) :
    ∃ field need got, k.client = .reading field need got := by
  cases h with
  | size hwaits => exact ⟨_, _, _, hwaits⟩
  | bytes hwaits => exact ⟨_, _, _, hwaits⟩
  | named hread => exact ⟨_, _, _, congrArg (·.client) hread⟩

theorem Naming.done {username : Bytes} (h : Naming username k []) : k = k.withName username := by
  generalize hbytes : ([] : Bytes) = bytes at h
  cases h with
  | size => cases hbytes
  | bytes _ hmore => exact absurd hbytes.symm hmore
  | named hread => exact hread

theorem Naming.byte {username rest : Bytes} {b : UInt8} (h : Naming username k (b :: rest))
    (hlength : username.length < 256) (hopen : k.clientEnded = false) (now : Duration)
    (table : AccessTable) : ∃ k', k.byte now table b = ([], k') ∧ Naming username k' rest ∧
      k'.withName username = k.withName username := by
  obtain ⟨since, client, name, clientEnded, destinationEnded⟩ := k
  cases hopen
  generalize hbytes : b :: rest = bytes at h
  cases h with
  | size hwaits =>
    cases hwaits
    obtain ⟨rfl, rfl⟩ := List.cons.inj hbytes
    cases rest with
    | nil => exact ⟨_, rfl, .named rfl, rfl⟩
    | cons first more =>
      have hsize : (UInt8.ofNat (first :: more).length).toNat = (first :: more).length :=
        UInt8.toNat_ofNat_of_lt' hlength
      have htake : Field.usernameSize.take table [.ofNat (first :: more).length] =
          ([], .read .username (first :: more).length) :=
        congrArg (fun size => ([], Next.read .username size)) hsize
      let k' : Connection :=
        ⟨since, .reading .username (first :: more).length [], name, false, destinationEnded⟩
      refine ⟨k', ?_, .bytes rfl (List.cons_ne_nil first more) rfl, rfl⟩
      simp only [Connection.byte, Client.completed, Client.feed, List.reverse_singleton, htake]
      rfl
  | bytes hwaits _ hwhole =>
    cases hwaits
    cases hbytes
    cases rest with
    | nil =>
      rw [← List.reverse_cons] at hwhole
      subst hwhole
      exact ⟨_, rfl, .named rfl, rfl⟩
    | cons next more =>
      rw [List.append_cons, ← List.reverse_cons] at hwhole
      exact ⟨_, rfl, .bytes rfl (List.cons_ne_nil next more) hwhole, rfl⟩
  | named => cases hbytes

theorem spelled_of_naming {username : Bytes} (hlength : username.length < 256)
    (hopen : k.clientEnded = false) (hgoes : ∀ m ∈ ms, m.event ≠ .ended ∧ m.event ≠ .failed)
    (h : Naming username k (said ms)) : Spelled config username ms k := by
  induction ms generalizing k with
  | nil => exact ⟨rfl, .inl h.done⟩
  | cons m rest ih =>
    obtain ⟨field, need, got, hclient⟩ := h.reading
    by_cases hlate : Late config k m
    · exact .late hclient hlate rest
    have hstep : step config m k = k.take m := step_in_time hclient hlate
    have hrest : ∀ later ∈ rest, later.event ≠ .ended ∧ later.event ≠ .failed :=
      fun later hmem => hgoes later (List.mem_cons_of_mem m hmem)
    rcases byte?_cases m with ⟨b, hb⟩ | hevent
    · rw [said_byte hb] at h
      obtain ⟨k', hbyte, hnext, hsame⟩ := h.byte hlength hopen m.now m.table
      have hended : k'.clientEnded = k.clientEnded := congrArg (·.clientEnded) hsame
      rw [take, hb] at hstep
      exact .cons (hstep.trans hbyte) hsame (ih (hended.trans hopen) hrest hnext)
    · obtain ⟨hends, hfails⟩ := hgoes m List.mem_cons_self
      rw [said_other hevent] at h
      exact .cons (hstep.trans (take_idle hclient hevent hends hfails)) rfl (ih hopen hrest h)

/-- However the name is said and whichever it is, what follows goes the way it goes without it. -/
theorem run_name (config : Config.Socks) {username : Bytes} {name after : List Moment}
    (hlength : username.length < 256) (hopen : k.clientEnded = false)
    (hclient : k.client = .reading .usernameSize 1 [])
    (hspelt : Says (counted username) name)
    (htimes : ∀ earlier ∈ name, ∀ later ∈ after, earlier.now ≤ later.now) :
    nameless (run config (name ++ after) k).1 = nameless (run config after (k.withName [])).1 ∧
      (after ≠ [] → (run config (name ++ after) k).2.client =
        (run config after (k.withName [])).2.client) ∧
      ∀ n ∈ notes (run config (name ++ after) k).1, n.About username := by
  have hspelled : Spelled config username name k :=
    spelled_of_naming hlength hopen hspelt.goesOn (hspelt.all.symm ▸ .size hclient)
  rw [run_append, hspelled.silent, List.nil_append]
  rcases hspelled.read with hread | ⟨hclosed, m, hmem, hlate⟩
  · rw [hread]
    obtain ⟨heffects, hlast⟩ := run_anonymous config
      (show (k.withName username).anonymous = (k.withName []).anonymous from rfl) after
    refine ⟨heffects, fun _ => ?_, Named.run ⟨rfl, rfl⟩ after⟩
    exact congrArg (·.client) hlast
  · have hafter : ∀ later ∈ after, Late config (k.withName []) later := fun later hlater =>
      Nat.lt_of_lt_of_le hlate (htimes m hmem later hlater)
    obtain ⟨heffects, hover⟩ := run_closed config hclosed after
    obtain ⟨hquiet, hend⟩ := run_late (show (k.withName []).client = _ from rfl) hafter
    rw [heffects, hquiet]
    refine ⟨rfl, fun hsome => hover.trans (hend hsome).symm, ?_⟩
    intro n hn
    cases hn

/-- Two streams that are the same up to the user name and behind it lead to the same on the wire and
to the same decisions under every configuration and every history of the table; what the log tells of
the name is true of the one that was said. -/
theorem username_decides_nothing (config : Config.Socks) (accepted : Duration)
    {before name name' after : List Moment} {v last : UInt8} {methods username username' : Bytes}
    (hmethods : methods.length < 256) (hlength : username.length < 256)
    (hlength' : username'.length < 256) (hbefore : said before = v :: (counted methods ++ [last]))
    (hname : Says (counted username) name) (hname' : Says (counted username') name')
    (htimes : ∀ earlier ∈ name ++ name', ∀ later ∈ after, earlier.now ≤ later.now) :
    let r := run config (before ++ (name ++ after)) (accept accepted)
    let r' := run config (before ++ (name' ++ after)) (accept accepted)
    wire r.1 = wire r'.1 ∧ nameless r.1 = nameless r'.1 ∧
      (after ≠ [] → r.2.client = r'.2.client) ∧
      (∀ n ∈ notes r.1, n.About username) ∧ ∀ n ∈ notes r'.1, n.About username' := by
  intro r r'
  have hstart : UpTo (said before) (accept accepted) := .inr ⟨rfl, hbefore ▸ .greeting hmethods⟩
  obtain ⟨hquiet, hready⟩ := hstart.run config
  have hr : r = _ := run_append before (name ++ after) (accept accepted)
  have hr' : r' = _ := run_append before (name' ++ after) (accept accepted)
  suffices hsame : nameless r.1 = nameless r'.1 ∧ (after ≠ [] → r.2.client = r'.2.client) ∧
      (∀ n ∈ notes r.1, n.About username) ∧ ∀ n ∈ notes r'.1, n.About username' by
    refine ⟨?_, hsame⟩
    rw [← wire_nameless r.1, hsame.1, wire_nameless]
  rw [hr, hr', nameless_append, nameless_append, notes_append, notes_append, hquiet]
  rcases hready with hclosed | ⟨hopen, hwaits⟩
  · obtain ⟨heffects, hover⟩ := run_closed config hclosed (name ++ after)
    obtain ⟨heffects', hover'⟩ := run_closed config hclosed (name' ++ after)
    rw [heffects, heffects']
    refine ⟨rfl, fun _ => hover.trans hover'.symm, ?_, ?_⟩
    · intro n hn
      cases hn
    · intro n hn
      cases hn
  · have htold : ∀ earlier ∈ name, ∀ later ∈ after, earlier.now ≤ later.now :=
      fun earlier hmem => htimes earlier (List.mem_append_left _ hmem)
    have htold' : ∀ earlier ∈ name', ∀ later ∈ after, earlier.now ≤ later.now :=
      fun earlier hmem => htimes earlier (List.mem_append_right _ hmem)
    obtain ⟨heffects, hlast, hlog⟩ :=
      run_name config hlength hopen hwaits.done hname htold
    obtain ⟨heffects', hlast', hlog'⟩ :=
      run_name config hlength' hopen hwaits.done hname' htold'
    rw [heffects, heffects']
    exact ⟨rfl, fun hsome => (hlast hsome).trans (hlast' hsome).symm, hlog, hlog'⟩

def oneGrant : AccessTable := ⟨[(7, [⟨"a", 80⟩])]⟩

/-- Bytes that are said at once. -/
def saying (bytes : Bytes) : List Moment := bytes.map (⟨0, oneGrant, .byte ·⟩)

theorem says_saying (bytes : Bytes) : Says bytes (saying bytes) := by
  refine ⟨?_, fun m hmem => ?_⟩
  · induction bytes with
    | nil => rfl
    | cons b rest ih => exact congrArg (b :: ·) ih
  · obtain ⟨b, -, rfl⟩ := List.mem_map.mp hmem
    exact ⟨by simp, by simp⟩

/-- A password, a request, the dial, a byte that is sent on and one that comes back. -/
def proceeding : List Moment :=
  saying (counted Client.caller.password ++ Client.caller.request) ++
    [⟨5, {}, .dialed (.ok none)⟩, ⟨6, {}, .byte 0x78⟩, ⟨7, {}, .answered [0x79]⟩]

/-- A client that is let through, with this name. -/
def passingAs (username : Bytes) : List Moment :=
  saying (Client.caller.greeting ++ [0x01]) ++ (saying (counted username) ++ proceeding)

theorem username_decides_nothing_malformed :
    let r := run {} (passingAs [0x61]) (accept 0)
    let r' := run {} (passingAs [0x61, 0x3d, 0xff]) (accept 0)
    wire r.1 = wire r'.1 ∧ dials (gates r.1) = [⟨"a", 80⟩] ∧
      notes r.1 = [.malformedMetadata "a", .accepted "-" ⟨"a", 80⟩] ∧
      notes r'.1 = [.accepted "a=\uFFFD" ⟨"a", 80⟩] := by
  have hbefore : said (saying (Client.caller.greeting ++ [0x01])) =
      0x05 :: (counted Client.caller.methods ++ [0x01]) := rfl
  have hname : Says (counted [0x61]) (saying (counted [0x61])) := says_saying _
  have hname' : Says (counted [0x61, 0x3d, 0xff]) (saying (counted [0x61, 0x3d, 0xff])) :=
    says_saying _
  have htimes : ∀ earlier ∈ saying (counted [0x61]) ++ saying (counted [0x61, 0x3d, 0xff]),
      ∀ later ∈ proceeding, earlier.now ≤ later.now := by decide
  obtain ⟨hwire, -⟩ := username_decides_nothing {} 0 (by decide) (by decide) (by decide)
    hbefore hname hname' htimes
  exact ⟨hwire, by decide, by decide, by decide⟩

end Connection

end TunnelAgent.Socks
