import TunnelAgent.CommandLine.Invocation
import TunnelAgent.Proofs.Agent.Manifest
import TunnelAgent.Proofs.Session.Attribution

/-! # Rules without a destination

The resources of a configuration are checked before an agent is made of it. The rules of a later
manifest are not: a call stores what it is given, and a hangup calls with what the file holds. The
agent checks nothing afterwards and invents nothing either, so its rules, those of its Registrations
and those behind its grants all have a host and a port exactly if every stored manifest was sound. -/

namespace TunnelAgent.Agent

/-- What the configuration's check demands of a manifest. -/
def Sound (rules : List Rule) : Prop := ∀ rule ∈ rules, Config.hasDestination rule = true

/-- The manifest that a step stores. -/
def given? : Action → Option (List Rule)
  | .store rules => some rules
  | _ => none

/-- The manifests that have been stored, in order. -/
def stored (actions : List Action) : List (List Rule) := actions.filterMap given?

/-- The manifests in the Registration frames that a step has queued. -/
def announced (before after : Agent) : List (List Rule) :=
  (Session.queued before.session after.session).filterMap manifest?

/-- The manifests in the Registration frames of all sessions, in order. -/
def manifests : List Action → Agent → List (List Rule)
  | [], _ => []
  | action :: rest, a =>
    match step action a with
    | none => []
    | some a' => announced a a' ++ manifests rest a'

/-- The rules in force, those sent and those behind the grants have a destination. -/
structure Destined (sent : List (List Rule)) (a : Agent) : Prop where
  resources : Sound a.resources
  sent : ∀ rules ∈ sent, Sound rules
  grants : ∀ key d, a.access.Grants key d → d.host.isEmpty = false ∧ d.port ≠ 0

theorem manifest?_eq_none {frame : Outbound} (h : frame.type ≠ .registration) :
    manifest? frame = none := by
  unfold manifest?
  split
  · rename_i request hdecode
    exact absurd (Message.decode_eq_ok_iff.mp hdecode).1.symm h
  · rfl

variable {P : Rule → Prop} {a a' : Agent}

theorem announced_quiet
    (h : ∀ frame ∈ Session.queued a.session a'.session, frame.type ≠ .registration) :
    ∀ rules ∈ announced a a', ∀ rule ∈ rules, P rule := by
  have hnone : announced a a' = [] :=
    List.filterMap_eq_nil_iff.mpr fun frame hmem => manifest?_eq_none (h frame hmem)
  rw [hnone]
  simp

theorem announced_frame {resources : List Resource}
    (hfits : Envelope.fits (Registrar.frame resources).payload)
    (h : Session.queued a.session a'.session = [Registrar.frame resources])
    (hrules : ∀ rule ∈ resources.map (·.rule), P rule) :
    ∀ rules ∈ announced a a', ∀ rule ∈ rules, P rule := by
  rw [announced, h, List.filterMap_cons_some (manifest?_frame hfits), List.filterMap_nil]
  intro rules hmem
  rw [List.mem_singleton.mp hmem]
  exact hrules

/-- Wherever the agent holds rules, they are `P`. -/
structure Holds (P : Rule → Prop) (a : Agent) : Prop where
  session : a.session.Holds P
  calls : ∀ rules ∈ a.calls, ∀ rule ∈ rules, P rule

/-- What a step makes of rules that are `P`. -/
structure Keeps (P : Rule → Prop) (action : Action) (a a' : Agent) : Prop where
  holds : a'.Holds P
  announced : ∀ rules ∈ announced a a', ∀ rule ∈ rules, P rule
  resources : a'.resources = (given? action).getD a.resources

namespace Holds

theorem made {c : Config} (h : ∀ rule ∈ c.resources, P rule) : (made c).Holds P := by
  refine ⟨.start h ?_, by simp [Agent.made]⟩
  rintro key d ⟨destinations, hlookup, -⟩
  cases hlookup

/-- A step that leaves the rules where they are, except that a call may be over. -/
theorem aside (h : a.Holds P) {action : Action} (hgiven : given? action = none)
    (hrules : a'.session.shared.rules = a.session.shared.rules)
    (hregistrar : a'.session.registrar = a.session.registrar)
    (haccess : a'.session.shared.access = a.session.shared.access)
    (hpoint : a'.session.point = a.session.point)
    (hqueue : a'.session.outgoing.queue = a.session.outgoing.queue)
    (hcalls : ∀ rules ∈ a'.calls, rules ∈ a.calls) : Keeps P action a a' := by
  refine ⟨⟨h.session.same hrules hregistrar haccess (.inl hpoint), ?_⟩, ?_, ?_⟩
  · exact fun rules hmem => h.calls rules (hcalls rules hmem)
  · exact announced_quiet (Session.noneQueued hqueue)
  · rw [hgiven]
    exact hrules

theorem begin {listener : Except IoFault Endpoint} (h : a.Holds P)
    (hstep : a.begin listener = some a') : Keeps P (.begin listener) a a' := by
  obtain ⟨-, rfl | ⟨fault, rfl⟩⟩ := begin_cases hstep <;>
    exact h.aside rfl rfl rfl rfl rfl rfl fun _ => id

theorem conclude {lasts : Duration → Duration} (h : a.Holds P)
    (hstep : a.conclude lasts = some a') : Keeps P (.conclude lasts) a a' := by
  obtain ⟨result, -, -, backoff, stage, rfl⟩ := conclude_cases hstep
  exact h.aside rfl rfl rfl rfl rfl rfl fun _ => id

theorem cancel (h : a.Holds P) (hstep : a.cancel = some a') : Keeps P .cancel a a' := by
  obtain ⟨due, cut, -, -, rfl⟩ := cancel_cases hstep
  exact h.aside rfl rfl rfl rfl rfl rfl fun _ => id

theorem former {i : Nat} {action : Relay.Action} (h : a.Holds P)
    (hstep : a.formerStep i action = some a') : Keeps P (.former i action) a a' := by
  obtain ⟨former, pool, rfl⟩ := formerStep_cases hstep
  exact h.aside rfl rfl rfl rfl rfl rfl fun _ => id

/-- The next session starts with the rules and the table of the last, and with nothing sent. -/
theorem resume (h : a.Holds P) (hstep : a.resume = some a') : Keeps P .resume a a' := by
  obtain ⟨due, -, -, rfl⟩ := resume_cases hstep
  refine ⟨⟨.start h.session.rules h.session.access, h.calls⟩, ?_, rfl⟩
  rw [announced, Session.queued, show (Session.start _ _ _ _).outgoing.queue = [] from rfl]
  simp

theorem sessionStep {action : Session.Action} (h : a.Holds P)
    (hstep : a.sessionStep action = some a') : Keeps P (.session action) a a' := by
  obtain ⟨his, s, hs, rfl⟩ := sessionStep_cases hstep
  have hset : ∀ rules, action ≠ .setRules rules := by
    rintro rules rfl
    cases his
  have hcall : ∀ rules draws, action ≠ .reregister rules draws := by
    rintro rules draws rfl
    cases his
  refine ⟨⟨h.session.step hset hcall hs, h.calls⟩, ?_, ?_⟩
  · rcases Session.step_cases hset hcall hs with hregisters | hquiet
    · obtain ⟨resources, hresources, hfits, hqueued⟩ := hregisters.frames
      refine announced_frame hfits hqueued ?_
      rw [hresources]
      exact h.session.rules
    · exact announced_quiet hquiet.frames
  · rcases Session.step_cases hset hcall hs with hregisters | hquiet
    · exact hregisters.rules
    · exact hquiet.rules

/-- A call puts its rules in force for later sessions as they are. -/
theorem store (h : a.Holds P) {rules : List Rule} (hrules : ∀ rule ∈ rules, P rule) :
    Keeps P (.store rules) a (a.store rules) := by
  refine ⟨⟨⟨hrules, h.session.awaited, h.session.pending, h.session.access⟩, ?_⟩, ?_, rfl⟩
  · intro call hmem
    rcases List.mem_append.mp hmem with hmem | hmem
    · exact h.calls call hmem
    · rw [List.mem_singleton.mp hmem]
      exact hrules
  · exact announced_quiet (Session.noneQueued rfl)

theorem forward {call : Nat} {draws : List UInt64} (h : a.Holds P)
    (hstep : a.forward call draws = some a') : Keeps P (.forward call draws) a a' := by
  obtain ⟨rules, hcall, hcases⟩ := forward_cases hstep
  have hrules := h.calls rules (List.mem_of_getElem? hcall)
  have hcalls : ∀ other ∈ a.calls.eraseIdx call, other ∈ a.calls :=
    fun other hmem => List.mem_of_mem_eraseIdx hmem
  rcases hcases with ⟨-, result, s, hs, rfl⟩ | ⟨-, rfl⟩
  · refine ⟨⟨h.session.reregister hrules hs, fun other hmem => h.calls other (hcalls other hmem)⟩,
      ?_, ?_⟩
    · rcases Session.reregister_cases hs with
        ⟨-, resources, hresources, hfits, hqueued, -⟩ | ⟨-, rfl⟩
      · exact announced_frame hfits hqueued (by rw [hresources]; exact hrules)
      · exact announced_quiet (Session.noneQueued rfl)
    · rcases Session.reregister_cases hs with ⟨-, resources, -, -, -, rfl⟩ | ⟨-, rfl⟩ <;> rfl
  · exact h.aside rfl rfl rfl rfl rfl rfl hcalls

theorem step {action : Action} (h : a.Holds P)
    (hgiven : ∀ rules, given? action = some rules → ∀ rule ∈ rules, P rule)
    (hstep : Agent.step action a = some a') : Keeps P action a a' := by
  cases action with
  | begin listener => exact h.begin hstep
  | session action => exact h.sessionStep hstep
  | former index action => exact h.former hstep
  | conclude lasts => exact h.conclude hstep
  | resume => exact h.resume hstep
  | cancel => exact h.cancel hstep
  | store rules =>
    cases hstep
    exact h.store (hgiven rules rfl)
  | forward call draws => exact h.forward hstep
  | shutdown =>
    cases hstep
    exact h.aside rfl rfl rfl rfl rfl rfl fun _ => id

/-- Whatever holds of the rules an agent starts with and of all that are stored holds of all that it
sends and of all that it is left with. -/
theorem run {actions : List Action} (h : a.Holds P)
    (hstored : ∀ rules ∈ stored actions, ∀ rule ∈ rules, P rule)
    (hrun : Agent.run actions a = some a') :
    a'.Holds P ∧ (∀ rules ∈ manifests actions a, ∀ rule ∈ rules, P rule) ∧
      a'.resources = (stored actions).getLastD a.resources := by
  induction actions generalizing a with
  | nil =>
    cases hrun
    exact ⟨h, by simp [manifests], rfl⟩
  | cons action rest ih =>
    rw [Agent.run] at hrun
    obtain ⟨b, hstep, hrest⟩ := Option.bind_eq_some_iff.mp hrun
    have hkeeps : Keeps P action a b := by
      refine h.step (fun rules hgiven => hstored rules ?_) hstep
      exact List.mem_filterMap.mpr ⟨action, List.mem_cons_self, hgiven⟩
    have hlater : ∀ rules ∈ stored rest, ∀ rule ∈ rules, P rule := by
      intro rules hmem
      obtain ⟨later, hlater, hgiven⟩ := List.mem_filterMap.mp hmem
      exact hstored rules (List.mem_filterMap.mpr ⟨later, List.mem_cons_of_mem _ hlater, hgiven⟩)
    obtain ⟨hholds, hsent, hresources⟩ := ih hkeeps.holds hlater hrest
    refine ⟨hholds, ?_, ?_⟩
    · intro rules hmem
      rw [manifests, hstep] at hmem
      exact (List.mem_append.mp hmem).elim (hkeeps.announced rules) (hsent rules)
    · rw [hresources, hkeeps.resources, stored, stored, List.filterMap_cons]
      cases given? action with
      | none => rfl
      | some rules => rw [Option.getD_some, List.getLastD_cons]

end Holds

/-- The rule stands in the configuration or in a manifest that was stored. -/
def Given (c : Config) (actions : List Action) (rule : Rule) : Prop :=
  ∃ rules ∈ c.resources :: stored actions, rule ∈ rules

theorem run_given {c : Config} {actions : List Action} (hrun : run actions (made c) = some a) :
    a.Holds (Given c actions) ∧
      (∀ rules ∈ manifests actions (made c), ∀ rule ∈ rules, Given c actions rule) ∧
      a.resources = (stored actions).getLastD c.resources :=
  (Holds.made fun _ hmem => ⟨c.resources, List.mem_cons_self, hmem⟩).run
    (fun rules hrules _ hmem => ⟨rules, List.mem_cons_of_mem _ hrules, hmem⟩) hrun

theorem destined_of_stored {c : Config} {actions : List Action} (hc : Sound c.resources)
    (hstored : ∀ rules ∈ stored actions, Sound rules) (hrun : run actions (made c) = some a) :
    a.Destined (manifests actions (made c)) := by
  obtain ⟨hholds, hsent, -⟩ := (Holds.made hc).run hstored hrun
  refine ⟨hholds.session.rules, hsent, fun key d hgrants => ?_⟩
  obtain ⟨rule, hrule, rfl⟩ := hholds.session.access key d hgrants
  simpa [Config.hasDestination] using hrule

/-- Right after it is stored, a manifest is in force. -/
theorem sound_of_destined {actions : List Action} {a₀ : Agent} (hrun : run actions a₀ = some a)
    (h : ∀ front back b, actions = front ++ back → run front a₀ = some b →
      b.Destined (manifests front a₀)) : ∀ rules ∈ stored actions, Sound rules := by
  intro rules hmem
  obtain ⟨action, haction, hgiven⟩ := List.mem_filterMap.mp hmem
  obtain ⟨front, back, rfl⟩ := List.append_of_mem haction
  obtain ⟨b, hfront, hrest⟩ := Option.bind_eq_some_iff.mp (run_append front _ a₀ ▸ hrun)
  cases action with
  | store kept =>
    cases hgiven
    have hstored : run (front ++ [.store rules]) a₀ = some (b.store rules) := by
      rw [run_append, hfront]
      rfl
    exact (h (front ++ [.store rules]) back _ (by simp) hstored).resources
  | _ => cases hgiven

open CommandLine in
/-- A hangup is a call with the resources of the file, whatever reads the file. -/
theorem hangup_stores {host : Host} {p : Invocation} {c : Config} (hexit : p.exit = none)
    (hagent : p.agent = some a) (hquiet : a.session.published = false)
    (hfile : loadConfig host.readConfig p.path (host.files p.path) = .ok c) :
    ∃ b, (p.take host .hangup).agent = some b ∧
      run [.store c.resources, .forward a.calls.length []] a = some b ∧ b.resources = c.resources := by
  have hcall : (a.store c.resources).calls[a.calls.length]? = some c.resources := by
    simp [Agent.store]
  obtain ⟨b, hforward, hrules⟩ : ∃ b, (a.store c.resources).forward a.calls.length [] = some b ∧
      b.resources = c.resources := by
    simp only [Agent.forward, hcall]
    rw [if_neg (by simpa [Agent.store] using hquiet)]
    exact ⟨_, rfl, rfl⟩
  refine ⟨b, ?_, ?_, hrules⟩
  · simp only [Invocation.take, hexit, hagent, Invocation.reload, Invocation.info, Invocation.say,
      hfile, hforward]
  · simp only [run, step, hforward, Option.bind_some]

open CommandLine in
/-- The resources that an agent is made with all have a destination. From then on what is in force is
what was stored last, whatever that is, and what is sent and granted comes from what was stored; so
all of it has a destination throughout a run exactly if every stored manifest was sound. -/
theorem destined_iff_stored_sound {c : Config} {a₀ : Agent} (hcreate : create c = .ok a₀) :
    Sound c.resources ∧
    (∀ actions a, run actions a₀ = some a →
      a.resources = (stored actions).getLastD c.resources ∧
      (∀ rules ∈ manifests actions a₀, ∀ rule ∈ rules, Given c actions rule) ∧
      (∀ key d, a.access.Grants key d →
        ∃ rule, Given c actions rule ∧ d = ⟨rule.host, rule.port⟩) ∧
      ((∀ front back b, actions = front ++ back → run front a₀ = some b →
          b.Destined (manifests front a₀)) ↔
        ∀ rules ∈ stored actions, Sound rules)) ∧
    ∀ (host : Host) (p : Invocation) a c', p.exit = none → p.agent = some a →
      a.session.published = false →
      loadConfig host.readConfig p.path (host.files p.path) = .ok c' →
      ∃ b, (p.take host .hangup).agent = some b ∧
        run [.store c'.resources, .forward a.calls.length []] a = some b ∧
        b.resources = c'.resources := by
  obtain ⟨hvalid, rfl⟩ := create_eq_ok_iff.mp hcreate
  refine ⟨hvalid.destinations, fun actions a hrun => ?_, fun host p a c' => hangup_stores⟩
  obtain ⟨hholds, hsent, hresources⟩ := run_given hrun
  refine ⟨hresources, hsent, hholds.session.access, sound_of_destined hrun, ?_⟩
  rintro hstored front back b rfl hfront
  refine destined_of_stored hvalid.destinations (fun rules hmem => hstored rules ?_) hfront
  rw [stored, List.filterMap_append]
  exact List.mem_append_left _ hmem

/-- A session that dispatches, and a call. -/
def calledWith (rules : List Rule) : List Action :=
  toRegistered ++ toDispatching ++
    [.store rules, .forward 0 [7], gatewayAnswers 2 (.registrationResponse ⟨.ok, none, none⟩),
      .session (.main [] 0)]

open CommandLine in
/-- Every file is empty. -/
def bareHost : Host where
  environment _ := none
  files _ := .ok ""
  readConfig contents := if contents.isEmpty then some {} else none
  readers := { bundle := fun _ => .ok [], anchor := fun _ => .ok () }
  lasts := id
  listen _ := .ok ⟨.v4 127 0 0 1, 1080⟩
  dialFault := .writerClosed
  freshId := "a"

open CommandLine in
theorem destined_after_sound_call :
    create bareConfig = .ok bareAgent ∧ Sound bareConfig.resources ∧
      (∃ a, run (calledWith [ruleAt 22]) bareAgent = some a ∧
        a.resources = [ruleAt 22] ∧ a.Destined (manifests (calledWith [ruleAt 22]) bareAgent)) ∧
      ∃ b, (({ path := "f", agent := some bareAgent } : Invocation).take bareHost .hangup).agent =
        some b ∧ b.resources = [] := by
  have hcreate : create bareConfig = .ok bareAgent := rfl
  have hrun : run (calledWith [ruleAt 22]) bareAgent = some _ := rfl
  obtain ⟨hstart, hruns, hhangup⟩ := destined_iff_stored_sound hcreate
  obtain ⟨hresources, -, -, hdestined⟩ := hruns _ _ hrun
  have hsound : ∀ rules ∈ stored (calledWith [ruleAt 22]), Sound rules := by
    rw [show stored (calledWith [ruleAt 22]) = [[ruleAt 22]] from rfl]
    simp [Sound, ruleAt, Config.hasDestination]
  have hfile : loadConfig bareHost.readConfig "f" (bareHost.files "f") = .ok {} := rfl
  obtain ⟨b, hagent, -, hempty⟩ :=
    hhangup bareHost { path := "f", agent := some bareAgent } bareAgent {} rfl rfl rfl hfile
  exact ⟨hcreate, hstart, ⟨_, hrun, hresources,
    hdestined.mpr hsound _ [] _ (List.append_nil _).symm hrun⟩, b, hagent, hempty⟩

/-- A call with a rule for port 0 goes through on a dispatching session. -/
theorem portless_rule_granted :
    create bareConfig = .ok bareAgent ∧ ∃ a, run (calledWith [ruleAt 0]) bareAgent = some a ∧
      a.resources = [ruleAt 0] ∧ ¬ Sound a.resources ∧
      [ruleAt 0] ∈ manifests (calledWith [ruleAt 0]) bareAgent ∧
      a.access.Grants 7 ⟨"h", 0⟩ := by
  refine ⟨rfl, _, rfl, rfl, ?_, ?_, ?_⟩
  · intro hsound
    cases hsound (ruleAt 0) (List.mem_singleton_self _)
  · rw [show manifests (calledWith [ruleAt 0]) bareAgent = [[], [ruleAt 0]] from rfl]
    simp
  · exact ⟨[⟨"h", 0⟩], rfl, by simp⟩

end TunnelAgent.Agent
