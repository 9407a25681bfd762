import TunnelAgent.Proofs.Address.Reading
import TunnelAgent.Proofs.Socks.Answering

/-! # Requests by address

What is asked for by address is decided upon by the text of the address. No two addresses share a
text, so no two such requests share a destination, and a grant that is written for an address, in
whatever spelling, lets no other address through. -/

namespace TunnelAgent

namespace Address

theorem bytes_ofBytes4 {host : Bytes} (h : host.length = 4) : (ofBytes4 host).bytes = host := by
  match host, h with
  | [_, _, _, _], _ => rfl

theorem group_succ (bytes : Bytes) (i : Nat) : group bytes (i + 1) = group (bytes.drop 2) i := by
  rw [group, group, List.drop_drop, Nat.mul_succ, Nat.add_comm]

/-- The groups of a byte string are its bytes, two by two. -/
theorem flatMap_group {n : Nat} {bytes : Bytes} (h : bytes.length = 2 * n) :
    (List.ofFn fun i : Fin n => group bytes i.val).flatMap (fun g => Bytes.big 2 g.toNat) = bytes := by
  induction n generalizing bytes with
  | zero => exact (List.eq_nil_of_length_eq_zero h).symm
  | succ n ih =>
    have hword : Bytes.big 2 (group bytes 0).toNat = bytes.take 2 :=
      Socks.Conversation.big_ofBig_port (by simp; omega)
    have hrest : (bytes.drop 2).length = 2 * n := by
      rw [List.length_drop]
      omega
    simp only [List.ofFn_succ, List.flatMap_cons, Fin.val_zero, Fin.val_succ, group_succ]
    rw [hword, ih hrest, List.take_append_drop]

theorem bytes_ofBytes16 {host : Bytes} (h : host.length = 16) : (ofBytes16 host).bytes = host := by
  rw [ofBytes16, bytes, Vector.toList_ofFn]
  exact flatMap_group h

end Address

namespace Socks

/-- A request to connect to an address. -/
structure ByAddress where
  reserved : UInt8
  form : HostForm
  host : Bytes
  port : UInt16
  typed : form ≠ .name
  whole : form.Admits host

namespace ByAddress

def bytes (r : ByAddress) : Bytes := request 0x01 r.reserved r.form r.host r.port

def address (r : ByAddress) : Address :=
  match r.form with
  | .v6 => .ofBytes16 r.host
  | _ => .ofBytes4 r.host

def destination (r : ByAddress) : Destination := ⟨hostText r.form r.host, r.port⟩

theorem hostText_eq (r : ByAddress) : hostText r.form r.host = r.address.text := by
  obtain ⟨reserved, form, host, port, typed, whole⟩ := r
  cases form with
  | name => exact absurd rfl typed
  | v4 | v6 => rfl

theorem bytes_address (r : ByAddress) : r.address.bytes = r.host := by
  obtain ⟨reserved, form, host, port, typed, whole⟩ := r
  cases form with
  | name => exact absurd rfl typed
  | v4 => exact Address.bytes_ofBytes4 whole
  | v6 => exact Address.bytes_ofBytes16 whole

theorem form_eq (r : ByAddress) : r.form = if r.host.length = 4 then .v4 else .v6 := by
  obtain ⟨reserved, form, host, port, typed, whole⟩ := r
  simp only [HostForm.Admits] at whole
  cases form with
  | name => exact absurd rfl typed
  | v4 | v6 => simp [whole]

/-- The bytes of a host are those of its address, and their number is that of its form. -/
theorem destination_inj {r r' : ByAddress} (h : r.destination = r'.destination) :
    r.form = r'.form ∧ r.host = r'.host ∧ r.port = r'.port := by
  obtain ⟨htext, hport⟩ := Destination.mk.inj h
  rw [hostText_eq, hostText_eq] at htext
  have haddress := Address.text_injective htext
  have hhost : r.host = r'.host := by rw [← bytes_address, haddress, bytes_address]
  refine ⟨?_, hhost, hport⟩
  rw [form_eq, hhost, ← form_eq]

end ByAddress

/-- A client that sends these bytes as its request is let through to this destination if the table in
force at the last of them grants it, and else to none. -/
def DecidedBy (bytes : Bytes) (d : Destination) : Prop :=
  ∀ key events s rest, heard events = s ++ rest → s.bytes = bytes →
    dials (Client.run events (.reading (.request key) 4 [])).1 =
      match (s.last {}).check key d with
      | .ok () => [d]
      | .error _ => []

theorem Client.dials_goes (table : AccessTable) (fuel : Nat) (next : Next) (events : List Event) :
    dials (goes table fuel next events) = leads table fuel next (heard events) := by
  rw [goes, leads, dials_append, dials_run]

theorem ByAddress.decidedBy (r : ByAddress) : DecidedBy r.bytes r.destination := by
  intro key events s rest hs hbytes
  have hrun : Client.goes {} 2 (.read (.request key) 4) events =
      (Client.run events (.reading (.request key) 4 [])).1 := rfl
  rw [← hrun, Client.goes_request hs hbytes r.whole, dials_append, dials_replies, Client.dials_goes]
  cases hcheck : (s.last {}).check key r.destination with
  | ok _ =>
    rw [Client.take_port_granted (AccessTable.check_eq_ok_iff.mp hcheck), Client.leads_dial]
    rfl
  | error fault =>
    have hdenied : ¬ (s.last {}).Grants key r.destination := by
      rw [← AccessTable.check_eq_ok_iff, hcheck]
      nofun
    rw [Client.take_port_denied hdenied, Client.leads_close]
    rfl

/-- The table that grants one destination tells it from all others. -/
theorem DecidedBy.unique {bytes : Bytes} {d d' : Destination} (h : DecidedBy bytes d)
    (h' : DecidedBy bytes d') (hbytes : bytes ≠ []) : d = d' := by
  let table : AccessTable := ⟨[(0, [d])]⟩
  let s : Stream := bytes.map fun b => (table, b)
  have hsaid : s.bytes = bytes := by simp [s, Stream.bytes, Function.comp_def]
  have hlast : s.last {} = table := by
    rw [Stream.last, List.getLast?_map, List.getLast?_eq_some_getLast hbytes]
    rfl
  have hheard : heard s.words = s ++ [] := by rw [heard_words, List.append_nil]
  have hsame := (h 0 s.words s [] hheard hsaid).symm.trans (h' 0 s.words s [] hheard hsaid)
  have hcheck : table.check 0 d = .ok () :=
    AccessTable.check_eq_ok_iff.mpr ⟨[d], rfl, List.mem_singleton_self d⟩
  rw [hlast, hcheck] at hsame
  cases hother : table.check 0 d' with
  | ok _ =>
    rw [hother] at hsame
    exact List.singleton_inj.mp hsame
  | error fault =>
    rw [hother] at hsame
    cases hsame

theorem ByAddress.decidedBy_iff (r : ByAddress) {d : Destination} :
    DecidedBy r.bytes d ↔ d = r.destination := by
  constructor
  · exact fun h => h.unique r.decidedBy (List.cons_ne_nil _ _)
  · rintro rfl
    exact r.decidedBy

/-- A grant that is written for another address is no grant for this one. -/
theorem ByAddress.destination_ne {r : ByAddress} {resource : Resource} {a : Address}
    (h : Address.read? resource.rule.host.toList = some a) (ha : a ≠ r.address) :
    resource.destination ≠ r.destination := by
  intro hsame
  have hhost : resource.rule.host = r.address.text :=
    (Destination.mk.inj hsame).1.trans r.hostText_eq
  rw [hhost, Address.read?_text] at h
  exact ha (Option.some.inj h).symm

/-- A request by address is decided upon by its destination and no other. Two requests with one
destination are for the same address and port, and so are two that one grant lets through. A grant
whose host is read as another address lets a request through no more than if it were not there, and
every address is read back from its own text. -/
theorem addresses_never_alias :
    (∀ (r : ByAddress) d, DecidedBy r.bytes d ↔ d = r.destination) ∧
    (∀ r r' : ByAddress, r.destination = r'.destination →
      r.form = r'.form ∧ r.host = r'.host ∧ r.port = r'.port) ∧
    (∀ resource key key' (r r' : ByAddress),
      (AccessTable.ofResources [resource]).check key r.destination = .ok () →
      (AccessTable.ofResources [resource]).check key' r'.destination = .ok () →
      r.form = r'.form ∧ r.host = r'.host ∧ r.port = r'.port) ∧
    (∀ before after (resource : Resource) key (r : ByAddress) a,
      Address.read? resource.rule.host.toList = some a → a ≠ r.address →
      ((AccessTable.ofResources (before ++ resource :: after)).check key r.destination = .ok () ↔
        (AccessTable.ofResources (before ++ after)).check key r.destination = .ok ())) ∧
    ∀ a : Address, Address.read? a.text.toList = some a := by
  refine ⟨fun r d => r.decidedBy_iff, fun r r' => ByAddress.destination_inj, ?_, ?_,
    Address.read?_text⟩
  · intro resource key key' r r' h h'
    rw [AccessTable.check_eq_ok_iff, AccessTable.grants_ofResources_iff] at h h'
    obtain ⟨granted, hmem, -, hd⟩ := h
    obtain ⟨granted', hmem', -, hd'⟩ := h'
    rw [List.mem_singleton.mp hmem] at hd
    rw [List.mem_singleton.mp hmem'] at hd'
    exact ByAddress.destination_inj (hd.symm.trans hd')
  · intro before after resource key r a hread ha
    simp only [AccessTable.check_eq_ok_iff, AccessTable.grants_ofResources_iff]
    constructor
    · intro ⟨granted, hmem, hkey, hd⟩
      refine ⟨granted, ?_, hkey, hd⟩
      rcases List.mem_append.mp hmem with hmem | hmem
      · exact List.mem_append_left _ hmem
      rcases List.mem_cons.mp hmem with rfl | hmem
      · exact absurd hd (ByAddress.destination_ne hread ha)
      · exact List.mem_append_right _ hmem
    · intro ⟨granted, hmem, hgranted⟩
      refine ⟨granted, ?_, hgranted⟩
      rcases List.mem_append.mp hmem with hmem | hmem
      · exact List.mem_append_left _ hmem
      · exact List.mem_append_right _ (List.mem_cons_of_mem _ hmem)

/-- Four bytes. -/
def bare : ByAddress := ⟨0, .v4, [1, 2, 3, 4], 80, nofun, rfl⟩

/-- The same request; the reserved byte says nothing. -/
def spare : ByAddress := { bare with reserved := 0xFF }

/-- The four bytes behind the mark that embeds them in sixteen. -/
def mapped : ByAddress :=
  ⟨0, .v6, [0, 0, 0, 0, 0, 0, 0, 0, 0, 0, 0xFF, 0xFF, 1, 2, 3, 4], 80, nofun, rfl⟩

def grantTo (host : String) : Resource := ⟨⟨"web", "", [], host, 80, none⟩, 7⟩

/-- What is granted to four bytes is not granted to the address that embeds them. A grant for this
address that is not spelled as its text lets no one through. -/
theorem addresses_never_alias_of_mapped :
    (DecidedBy bare.bytes ⟨"1.2.3.4", 80⟩ ∧ DecidedBy mapped.bytes ⟨"::ffff:1.2.3.4", 80⟩) ∧
    (bare.form = spare.form ∧ bare.host = spare.host ∧ bare.port = spare.port) ∧
    (AccessTable.ofResources [grantTo "1.2.3.4"]).check 7 bare.destination = .ok () ∧
    ¬ (AccessTable.ofResources [grantTo "1.2.3.4"]).check 7 mapped.destination = .ok () ∧
    ((AccessTable.ofResources [grantTo "1.2.3.4", grantTo "::FFFF:102:304"]).check 7
      bare.destination = .ok ()) ∧
    ¬ (AccessTable.ofResources [grantTo "::FFFF:102:304"]).check 7 mapped.destination = .ok () := by
  obtain ⟨hdecided, hsame, hgrant, hother, -⟩ := addresses_never_alias
  have hbare : bare.destination = ⟨"1.2.3.4", 80⟩ := by decide
  have hmapped : mapped.destination = ⟨"::ffff:1.2.3.4", 80⟩ := by decide
  have hread : Address.read? (grantTo "::FFFF:102:304").rule.host.toList = some mapped.address := by
    decide
  have hgranted : (AccessTable.ofResources [grantTo "1.2.3.4"]).check 7 bare.destination = .ok () := by
    rw [hbare]
    decide
  refine ⟨⟨(hdecided ..).mpr hbare.symm, (hdecided ..).mpr hmapped.symm⟩, hsame bare spare rfl,
    hgranted, ?_, ?_, ?_⟩
  · intro h
    exact absurd (hgrant _ 7 7 bare mapped hgranted h).1 nofun
  · exact (hother [grantTo "1.2.3.4"] [] _ 7 bare mapped.address hread (by decide)).mpr hgranted
  · rw [hmapped]
    decide

end Socks

end TunnelAgent
