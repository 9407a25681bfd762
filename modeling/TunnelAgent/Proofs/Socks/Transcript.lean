import TunnelAgent.Proofs.Socks.Reading

/-! # What a client is answered

Greeting, credentials and request are answered one after the other, and the first check that fails
has the last word. What is answered depends on nothing but the bytes of the client, cut wherever its
stream may end, and on the table in force when the password and when the request have been read. If
no check fails the destination is dialled, and what is answered then depends on the outcome; all
that comes behind the request goes to the destination. -/

namespace TunnelAgent.Socks

/-- The destination that is asked for, and how many bytes have been read up to there. -/
abbrev Asked := Option (Destination × Nat)

def Asked.behind (n : Nat) (asked : Asked) : Asked := asked.map fun (d, read) => (d, n + read)

/-- The answer to a request under this key. -/
inductive Requested (key : UInt64) (s : Stream) : Bytes → Asked → Prop
  | cut (head : ∀ command reserved kind, ¬ [0x05, command, reserved, kind] <+: s.bytes) :
      Requested key s [] none
  | unknownType {command reserved kind : UInt8} (head : [0x05, command, reserved, kind] <+: s.bytes)
      (unknown : ∀ form : HostForm, kind ≠ form.code) : Requested key s (refusal 0x08) none
  | cutAddress {command reserved : UInt8} {form : HostForm}
      (head : [0x05, command, reserved, form.code] <+: s.bytes)
      (cut : ∀ host port, form.Admits host → ¬ request command reserved form host port <+: s.bytes) :
      Requested key s [] none
  | otherCommand {command reserved : UInt8} {form : HostForm} {host : Bytes} {port : UInt16}
      (whole : request command reserved form host port <+: s.bytes) (admits : form.Admits host)
      (other : command ≠ 0x01) : Requested key s (refusal 0x07) none
  | denied {reserved : UInt8} {form : HostForm} {host : Bytes} {port : UInt16} {table : AccessTable}
      (whole : request 0x01 reserved form host port <+: s.bytes) (admits : form.Admits host)
      (now : s.tableAt (request 0x01 reserved form host port).length = some table)
      (denied : ¬ table.Grants key ⟨hostText form host, port⟩) : Requested key s (refusal 0x02) none
  | granted {reserved : UInt8} {form : HostForm} {host : Bytes} {port : UInt16} {table : AccessTable}
      (whole : request 0x01 reserved form host port <+: s.bytes) (admits : form.Admits host)
      (now : s.tableAt (request 0x01 reserved form host port).length = some table)
      (grants : table.Grants key ⟨hostText form host, port⟩) :
      Requested key s [] (some (⟨hostText form host, port⟩, (request 0x01 reserved form host port).length))

/-- The answer to credentials and what is behind them. -/
inductive Authenticated (s : Stream) : Bytes → Asked → Prop
  | cut (h : ∀ username password : Bytes, username.length < 256 → password.length < 256 →
      ¬ credentials username password <+: s.bytes) : Authenticated s [] none
  | unknownKey {username password : Bytes} {table : AccessTable} (short : username.length < 256)
      (short' : password.length < 256) (whole : credentials username password <+: s.bytes)
      (now : s.tableAt (credentials username password).length = some table)
      (unknown : ∀ key, Names password key → table.containsKey key = false) :
      Authenticated s [0x01, 0x01] none
  | knownKey {username password : Bytes} {table : AccessTable} {key : UInt64} {said : Bytes}
      {asked : Asked} (short : username.length < 256) (short' : password.length < 256)
      (whole : credentials username password <+: s.bytes)
      (now : s.tableAt (credentials username password).length = some table)
      (names : Names password key) (known : table.containsKey key = true)
      (more : Requested key (s.drop (credentials username password).length) said asked) :
      Authenticated s ([0x01, 0x00] ++ said) (asked.behind (credentials username password).length)

/-- The answer to a greeting and what is behind it. -/
inductive Answered (s : Stream) : Bytes → Asked → Prop
  | cut (h : ∀ methods : Bytes, methods.length < 256 → ¬ greeting methods <+: s.bytes) :
      Answered s [] none
  | noMethod {methods : Bytes} (short : methods.length < 256) (whole : greeting methods <+: s.bytes)
      (lacks : 0x02 ∉ methods) : Answered s [0x05, 0xFF] none
  | offered {methods : Bytes} {said : Bytes} {asked : Asked} (short : methods.length < 256)
      (whole : greeting methods <+: s.bytes) (offers : 0x02 ∈ methods)
      (more : Authenticated (s.drop (greeting methods).length) said asked) :
      Answered s ([0x05, 0x02] ++ said) (asked.behind (greeting methods).length)

namespace Client

/-- These effects are the answer to the handshake and, if a destination is asked for, a dial, the
answer to its outcome and all that comes behind the handshake, passed on if the dial succeeds. -/
def Follows (events : List Event) (effects : List Effect) (said : Bytes) : Asked → Prop
  | none => written effects = said ∧ dials effects = [] ∧ forwarded effects = []
  | some (d, read) =>
    let outcome := outcome? (since read events)
    written effects = said ++ dialAnswer outcome ∧ dials effects = [d] ∧
      forwarded effects = match outcome with
        | some (.ok _) => bytesOf (since read events)
        | _ => []

/-- An answer in front of one that is given `n` bytes later. -/
theorem Follows.behind {n : Nat} {events : List Event} {effects : List Effect} {out said : Bytes}
    {asked : Asked} (h : Follows (since n events) effects said asked) :
    Follows events (replies out ++ effects) (out ++ said) (asked.behind n) := by
  cases asked with
  | none =>
    obtain ⟨hwritten, hdials, hforwarded⟩ := h
    exact ⟨by simp [hwritten], by simp [hdials], by simp [hforwarded]⟩
  | some asked =>
    obtain ⟨d, read⟩ := asked
    obtain ⟨hwritten, hdials, hforwarded⟩ := h
    rw [since_since] at hwritten hforwarded
    exact ⟨by simp [hwritten], by simp [hdials], by simp [hforwarded]⟩

theorem follows_nothing (events : List Event) : Follows events [] [] none := ⟨rfl, rfl, rfl⟩

theorem follows_reply (events : List Event) (out : Bytes) : Follows events (replies out) out none :=
  ⟨written_replies out, dials_replies out, forwarded_replies out⟩

theorem follows_dial (table : AccessTable) (fuel : Nat) (d : Destination) (events : List Event) :
    Follows events (goes table fuel (.dial d) events) [] (some (d, 0)) := by
  obtain ⟨hwritten, hdials, hforwarded⟩ := run_dialing d [] events
  have hgoes : goes table fuel (.dial d) events = .dial d :: (run events (.dialing d [])).1 := by
    cases fuel <;> rfl
  rw [hgoes]
  simp only [Follows, since_zero]
  exact ⟨hwritten, congrArg (d :: ·) hdials, hforwarded⟩

end Client

open Client

section
variable {before : AccessTable} {events : List Event}

theorem Requested.follows {key : UInt64} {said : Bytes} {asked : Asked}
    (h : Requested key (heard events) said asked) :
    Follows events (goes before 2 (.read (.request key) 4) events) said asked := by
  cases h with
  | cut head =>
    rw [goes_head_cut head]
    exact follows_nothing events
  | unknownType head unknown =>
    obtain ⟨first, rest, hs, hfirst, -⟩ := Stream.split head
    have hform := Option.eq_none_iff_forall_ne_some.mpr fun form hform =>
      unknown form (HostForm.ofByte?_eq_some_iff.mp hform)
    rw [goes_head hs hfirst, hform]
    exact follows_reply events _
  | cutAddress head cut =>
    rw [goes_address_cut head cut]
    exact follows_nothing events
  | otherCommand whole admits other =>
    obtain ⟨first, rest, hs, hfirst, -⟩ := Stream.split whole
    rw [goes_request hs hfirst admits, take_port_other other, goes_close, List.append_nil]
    exact follows_reply events _
  | denied whole admits now denied =>
    obtain ⟨first, rest, hs, hfirst, hlength⟩ := Stream.split whole
    rw [goes_request hs hfirst admits, Stream.last_of_tableAt hs hlength now before,
      take_port_denied denied, goes_close, List.append_nil]
    exact follows_reply events _
  | granted whole admits now grants =>
    obtain ⟨first, rest, hs, hfirst, hlength⟩ := Stream.split whole
    rw [goes_request hs hfirst admits, Stream.last_of_tableAt hs hlength now before,
      take_port_granted grants, hlength]
    exact (follows_dial ..).behind

theorem Authenticated.follows {said : Bytes} {asked : Asked}
    (h : Authenticated (heard events) said asked) :
    Follows events (goes before 2 (.read .authHeader 1) events) said asked := by
  cases h with
  | cut cut =>
    rw [goes_credentials_cut cut]
    exact follows_nothing events
  | unknownKey short short' whole now unknown =>
    obtain ⟨first, rest, hs, hfirst, hlength⟩ := Stream.split whole
    rw [goes_credentials hs hfirst short short', Stream.last_of_tableAt hs hlength now before,
      take_password_unknown unknown, goes_close, List.append_nil]
    exact follows_reply events _
  | knownKey short short' whole now names known more =>
    obtain ⟨first, rest, hs, hfirst, hlength⟩ := Stream.split whole
    rw [goes_credentials hs hfirst short short', Stream.last_of_tableAt hs hlength now before,
      take_password_known names known, goes_succ, hlength]
    rw [← heard_since] at more
    exact more.follows.behind

theorem Answered.follows {said : Bytes} {asked : Asked} (h : Answered (heard events) said asked) :
    Follows events (goes before 2 (.read .header 2) events) said asked := by
  cases h with
  | cut cut =>
    rw [goes_greeting_cut cut]
    exact follows_nothing events
  | noMethod short whole lacks =>
    obtain ⟨first, rest, hs, hfirst, -⟩ := Stream.split whole
    rw [goes_greeting hs hfirst short, if_neg lacks]
    exact follows_reply events _
  | offered short whole offers more =>
    obtain ⟨first, rest, hs, hfirst, hlength⟩ := Stream.split whole
    rw [goes_greeting hs hfirst short, if_pos offers, hlength]
    rw [← heard_since] at more
    exact more.follows.behind

end

/-! ## Every stream is answered -/

theorem Stream.tableAt_of_prefix {s : Stream} {front : Bytes} (h : front <+: s.bytes)
    (hfront : front ≠ []) : ∃ table, s.tableAt front.length = some table := by
  obtain ⟨first, rest, rfl, rfl, -⟩ := Stream.split h
  rw [Stream.length_bytes]
  exact ⟨_, Stream.tableAt_of_append rfl (by rintro rfl; exact hfront rfl) {}⟩

theorem Requested.total (key : UInt64) (s : Stream) : ∃ said asked, Requested key s said asked := by
  by_cases hhead : ∃ command reserved kind, [0x05, command, reserved, kind] <+: s.bytes
  swap
  · exact ⟨_, _, .cut fun command reserved kind h => hhead ⟨command, reserved, kind, h⟩⟩
  obtain ⟨command, reserved, kind, hhead⟩ := hhead
  by_cases hform : ∃ form : HostForm, kind = form.code
  swap
  · exact ⟨_, _, .unknownType hhead fun form h => hform ⟨form, h⟩⟩
  obtain ⟨form, rfl⟩ := hform
  by_cases haddress : ∃ host port, form.Admits host ∧ request command reserved form host port <+: s.bytes
  swap
  · exact ⟨_, _, .cutAddress hhead fun host port hadmits h => haddress ⟨host, port, hadmits, h⟩⟩
  obtain ⟨host, port, hadmits, hwhole⟩ := haddress
  by_cases hcommand : command = 0x01
  swap
  · exact ⟨_, _, .otherCommand hwhole hadmits hcommand⟩
  subst hcommand
  obtain ⟨table, hnow⟩ := Stream.tableAt_of_prefix hwhole (List.cons_ne_nil _ _)
  by_cases hgrants : table.Grants key ⟨hostText form host, port⟩
  · exact ⟨_, _, .granted hwhole hadmits hnow hgrants⟩
  · exact ⟨_, _, .denied hwhole hadmits hnow hgrants⟩

theorem Authenticated.total (s : Stream) : ∃ said asked, Authenticated s said asked := by
  by_cases hwhole : ∃ username password : Bytes, username.length < 256 ∧ password.length < 256 ∧
      credentials username password <+: s.bytes
  swap
  · exact ⟨_, _, .cut fun username password husername hpassword h =>
      hwhole ⟨username, password, husername, hpassword, h⟩⟩
  obtain ⟨username, password, husername, hpassword, hwhole⟩ := hwhole
  obtain ⟨table, hnow⟩ := Stream.tableAt_of_prefix hwhole (List.cons_ne_nil _ _)
  by_cases hkey : ∃ key, Names password key ∧ table.containsKey key = true
  · obtain ⟨key, hnames, hknown⟩ := hkey
    obtain ⟨said, asked, hmore⟩ := Requested.total key (s.drop (credentials username password).length)
    exact ⟨_, _, .knownKey husername hpassword hwhole hnow hnames hknown hmore⟩
  · refine ⟨_, _, .unknownKey husername hpassword hwhole hnow fun key hnames => ?_⟩
    exact Bool.eq_false_iff.mpr fun hknown => hkey ⟨key, hnames, hknown⟩

theorem Answered.total (s : Stream) : ∃ said asked, Answered s said asked := by
  by_cases hwhole : ∃ methods : Bytes, methods.length < 256 ∧ greeting methods <+: s.bytes
  swap
  · exact ⟨_, _, .cut fun methods hshort h => hwhole ⟨methods, hshort, h⟩⟩
  obtain ⟨methods, hshort, hwhole⟩ := hwhole
  by_cases hoffers : 0x02 ∈ methods
  · obtain ⟨said, asked, hmore⟩ := Authenticated.total (s.drop (greeting methods).length)
    exact ⟨_, _, .offered hshort hwhole hoffers hmore⟩
  · exact ⟨_, _, .noMethod hshort hwhole hoffers⟩

/-- Whatever happens to a client, its handshake is answered by the first check that fails, and that
is all that leaves the gate. If none fails the destination is dialled, the outcome is answered, and
what comes behind the request goes to the destination, in order. -/
theorem answered_by_first_failing_check (events : List Event) :
    (∃ said asked, Answered (heard events) said asked) ∧
      ∀ said asked, Answered (heard events) said asked →
        Follows events (run events .start).1 said asked :=
  ⟨Answered.total _, fun said asked h =>
    show Follows events (goes {} 2 (.read .header 2) events) said asked from h.follows⟩

/-- A client that does not wait: what it says behind its request reaches the destination. -/
example :
    let events := (caller.bytes ++ [0x68, 0x69]).map (.byte ⟨[(7, [⟨"a", 80⟩])]⟩) ++ [.dialed (.ok none)]
    let effects := (run events .start).1
    written effects = [0x05, 0x02, 0x01, 0x00] ++ refusal 0x00 ∧ forwarded effects = [0x68, 0x69] := by
  decide

end TunnelAgent.Socks
