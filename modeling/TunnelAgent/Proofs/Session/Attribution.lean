import TunnelAgent.Proofs.Session.Renewal
import TunnelAgent.Proofs.Session.Turn

/-! # Where a session has its rules from

A session makes up no rules: those of its manifests, sent or waiting for a reply, and those behind
the grants of the table are the rules it was given. So what holds of all rules that are given holds
of all that it sends and grants; whoever wants a property of them must have it of the rules given. -/

namespace TunnelAgent

def AccessTable.GrantsOnly (P : Rule → Prop) (t : AccessTable) : Prop :=
  ∀ key d, t.Grants key d → ∃ rule, P rule ∧ d = ⟨rule.host, rule.port⟩

theorem AccessTable.grantsOnly_ofResources {P : Rule → Prop} {resources : List Resource}
    (h : ∀ r ∈ resources, P r.rule) : (AccessTable.ofResources resources).GrantsOnly P := by
  intro key d hgrants
  obtain ⟨r, hmem, -, rfl⟩ := AccessTable.grants_ofResources_iff.mp hgrants
  exact ⟨r.rule, h r hmem, rfl⟩

namespace Session

/-- Wherever the session holds rules, they are `P`. -/
structure Holds (P : Rule → Prop) (s : Session) : Prop where
  rules : ∀ rule ∈ s.shared.rules, P rule
  awaited : ∀ resources, s.point = .awaitingRegistration resources → ∀ r ∈ resources, P r.rule
  pending : ∀ resources ∈ s.registrar.pending, ∀ r ∈ resources, P r.rule
  access : s.shared.access.GrantsOnly P

section
variable {P : Rule → Prop} {s s' : Session}

theorem Holds.start {settings : Settings} {shared : Shared} {now : Duration} {capacity : Nat}
    (hrules : ∀ rule ∈ shared.rules, P rule) (haccess : shared.access.GrantsOnly P) :
    (start settings shared now capacity).Holds P :=
  ⟨hrules, by simp [Session.start], by simp [Session.start], haccess⟩

/-- A step that changes neither the rules nor the manifests nor the table. -/
theorem Holds.same (h : s.Holds P) (hrules : s'.shared.rules = s.shared.rules)
    (hregistrar : s'.registrar = s.registrar) (haccess : s'.shared.access = s.shared.access)
    (hpoint : s'.point = s.point ∨ ∀ resources, s'.point ≠ .awaitingRegistration resources) :
    s'.Holds P := by
  refine ⟨by rw [hrules]; exact h.rules, fun resources hawaits => ?_,
    by rw [hregistrar]; exact h.pending, by rw [haccess]; exact h.access⟩
  rcases hpoint with hsame | hother
  · exact h.awaited resources (hsame ▸ hawaits)
  · exact absurd hawaits (hother resources)

theorem Holds.conclude (h : s.Holds P) (fault : SessionFault) : (s.conclude fault).Holds P :=
  h.same rfl rfl rfl (.inr (by simp [Session.conclude]))

theorem Holds.leave (h : s.Holds P) (fault : TransportFault) : (s.leave fault).Holds P :=
  h.same rfl rfl rfl (.inr (by simp [Session.leave, Session.conclude]))

/-- The rules are keyed and sent. -/
theorem Holds.registered (h : s.Holds P) {resources : List Resource} {rest draws : List UInt64}
    {outgoing : Outgoing} (hkeys : assignKeys s.shared.rules draws = some (resources, rest)) :
    ({ s with outgoing, point := .awaitingRegistration resources } : Session).Holds P := by
  refine ⟨h.rules, fun sent hsent => ?_, h.pending, h.access⟩
  cases hsent
  intro r hmem
  refine h.rules r.rule ?_
  rw [← assignKeys_rules hkeys]
  exact List.mem_map_of_mem hmem

/-- A reply puts a manifest in force that had been sent. -/
theorem Holds.answered (h : s.Holds P) (payload : Bytes) :
    ({ s with
      registrar := (s.registrar.answer payload s.shared.access).1
      shared := { s.shared with
        access := (s.registrar.answer payload s.shared.access).2 } } : Session).Holds P := by
  have hpending := h.pending
  refine ⟨h.rules, h.awaited, ?_, ?_⟩
  · show ∀ resources ∈ (s.registrar.answer payload s.shared.access).1.pending, _
    rw [pending_answer]
    exact fun resources hmem => h.pending resources (List.mem_of_mem_tail hmem)
  · show (s.registrar.answer payload s.shared.access).2.GrantsOnly P
    unfold Registrar.answer
    split
    · exact h.access
    · rename_i resources pending hfirst
      simp only
      split
      · exact AccessTable.grantsOnly_ofResources (hpending resources (by simp [hfirst]))
      · exact h.access

theorem Holds.dispatch (h : s.Holds P) (frame : Frame) : (s.dispatch frame).Holds P := by
  by_cases htype : frame.type = .registrationResponse
  · rw [dispatch_reply htype]
    exact h.answered frame.payload
  · have hapart := apart_dispatch htype s
    have hquiet : Quiet s (Session.dispatch frame { s with reader := s.reader }) := quiet_dispatch rfl
    refine h.same hquiet.rules hapart.registrar hapart.access (hapart.point.imp_right ?_)
    intro hended resources
    obtain ⟨result, hended⟩ := hended
    rw [hended]
    simp

/-- A request other than a Registration is queued, or refused. -/
theorem Holds.request (h : s.Holds P) (frame : Outbound) {next : Point}
    (hnext : ∀ resources, next ≠ .awaitingRegistration resources) :
    (s.request frame next).Holds P := by
  rcases request_cases frame next s with ⟨-, -, -, hrequest⟩ | ⟨-, fault, hrequest⟩
  · rw [hrequest]
    exact h.same rfl rfl rfl (.inr hnext)
  · rw [hrequest]
    exact h.conclude fault

theorem Holds.register (h : s.Holds P) {draws : List UInt64} (hs : s.register draws = some s') :
    s'.Holds P := by
  unfold Session.register at hs
  split at hs
  · cases hs
  rename_i resources rest hkeys
  cases hs
  rcases request_cases (Registrar.frame resources) (.awaitingRegistration resources) s with
      ⟨-, -, -, hrequest⟩ | ⟨-, fault, hrequest⟩
  · rw [hrequest]
    exact h.registered hkeys
  · rw [hrequest]
    exact h.conclude fault

theorem Holds.greet (h : s.Holds P) {rest : Bytes} (hs : s.greet rest = some s') : s'.Holds P := by
  unfold Session.greet at hs
  split at hs
  · cases hs
    exact h.same rfl rfl rfl (.inr (by simp))
  simp only at hs
  split at hs
  · cases hs
    exact h.conclude _
  split at hs
  · cases hs
  · cases hs
    exact h.same rfl rfl rfl (.inr (by simp))

theorem Holds.reader (h : s.Holds P) (reader : Reader) : ({ s with reader } : Session).Holds P :=
  h.same rfl rfl rfl (.inl rfl)

theorem Holds.takeAuthorization (h : s.Holds P) (frame : Frame) :
    (s.takeAuthorization frame).Holds P := by
  unfold Session.takeAuthorization
  split
  · exact h.conclude _
  · exact h.same rfl rfl rfl (.inr (by simp))

theorem Holds.takeRegistration (h : s.Holds P) {resources : List Resource} (frame : Frame)
    (hresources : ∀ r ∈ resources, P r.rule) : (s.takeRegistration resources frame).Holds P := by
  unfold Session.takeRegistration
  split
  · exact h.conclude _
  · exact ⟨h.rules, by simp, h.pending, AccessTable.grantsOnly_ofResources hresources⟩

theorem Holds.main (h : s.Holds P) {draws : List UInt64} {nonce : UInt64}
    (hs : s.main draws nonce = some s') : s'.Holds P := by
  cases hpoint : s.point with
  | greeting rest =>
    simp only [Session.main, hpoint] at hs
    exact h.greet hs
  | authorizing =>
    simp only [Session.main, hpoint] at hs
    cases hs
    exact h.request _ (by simp)
  | awaitingAuthorization =>
    simp only [Session.main, hpoint] at hs
    obtain ⟨reader, ⟨fault, -, rfl⟩ | ⟨frame, -, rfl⟩⟩ := await_cases hs
    · exact (h.reader reader).conclude _
    · exact (h.reader reader).takeAuthorization frame
  | registering =>
    simp only [Session.main, hpoint] at hs
    exact h.register hs
  | awaitingRegistration resources =>
    simp only [Session.main, hpoint] at hs
    obtain ⟨reader, ⟨fault, -, rfl⟩ | ⟨frame, -, rfl⟩⟩ := await_cases hs
    · exact (h.reader reader).conclude _
    · exact (h.reader reader).takeRegistration frame (h.awaited resources hpoint)
  | opening health =>
    simp only [Session.main, hpoint] at hs
    cases hs
    exact h.same rfl rfl rfl (.inr (by simp [openTunnel]))
  | dispatching =>
    simp only [Session.main, hpoint] at hs
    obtain ⟨reader, ⟨fault, -, rfl⟩ | ⟨frame, -, rfl⟩⟩ := await_cases hs
    · exact (h.reader reader).leave _
    · exact (h.reader reader).dispatch frame
  | _ =>
    simp only [Session.main, hpoint] at hs
    cases hs

theorem Holds.connect (h : s.Holds P) {outcome : Except TransportFault Unit}
    (hs : s.connect outcome = some s') : s'.Holds P := by
  unfold Session.connect at hs
  split at hs
  · cases hs
    exact h.same rfl rfl rfl (.inr (by simp))
  · cases hs
    exact h.conclude _
  · cases hs

/-- The steps of a session that give it no rules. -/
theorem Holds.step (h : s.Holds P) {action : Action} (hset : ∀ rules, action ≠ .setRules rules)
    (hcall : ∀ rules draws, action ≠ .reregister rules draws) (hs : s.step action = some s') :
    s'.Holds P := by
  by_cases hmain : action.isMain = true
  · cases action with
    | connect outcome => exact h.connect hs
    | main draws nonce => exact h.main hs
    | _ => cases hmain
  rw [Bool.not_eq_true] at hmain
  have hrules : s'.shared.rules = s.shared.rules := by
    rcases step_cases hset hcall hs with hregisters | hquiet
    · exact hregisters.rules
    · exact hquiet.rules
  have hbeside := beside_of_step hmain hs
  exact h.same hrules (registrar_of_beside hmain hcall hs) hbeside.access (.inl hbeside.point)

/-- A call gives the session rules, and nothing else does not. -/
theorem Holds.reregister (h : s.Holds P) {rules : List Rule} {draws : List UInt64}
    {result : Except TransportFault Unit} (hrules : ∀ rule ∈ rules, P rule)
    (hs : s.reregister rules draws = some (result, s')) : s'.Holds P := by
  rcases reregister_cases hs with ⟨-, resources, hresources, -, -, rfl⟩ | ⟨-, rfl⟩
  · refine ⟨h.rules, h.awaited, fun sent hmem => ?_, h.access⟩
    rcases List.mem_append.mp hmem with hmem | hmem
    · exact h.pending sent hmem
    · obtain rfl := List.mem_singleton.mp hmem
      intro r hr
      refine hrules r.rule ?_
      rw [← hresources]
      exact List.mem_map_of_mem hr
  · exact h

end

end Session

end TunnelAgent
