import TunnelAgent.Proofs.Relay.LocalIds
import TunnelAgent.Proofs.Relay.Sharing
import TunnelAgent.Proofs.Relay.Uplink

/-! # A connection that the agent opens

A local socket gets its slots, an id nobody has, and an entry in the table; then START is to be
queued, before anything else that is sent under the id. Its own connection keeps to that. One that
had the id before may not: it goes on sending after it has lost the id, and so may send before
START. Where the pool refuses, or START cannot be queued, all is as it was. Between these steps
anything may happen in the relay. -/

namespace TunnelAgent.Relay

variable {r r' s t : Relay} {opening g : Nat} {id : UInt32} {w : Bool} {c : Connection}

/-! ## Slots -/

/-- A poll that is not granted changes nothing but what the opening waits for. -/
theorem request_of_not_granted {a : Acquisition} {due now : Nat} (lasts : Nat)
    (hwaiting : r.openings[opening]? = some (.waiting a due)) (hripe : due ≤ now)
    (hpoll : (r.pool.poll a).1 ≠ .granted) :
    ∃ o, (∀ fault, (r.pool.poll a).1 = .refused fault → o = .refused fault) ∧
      r.request opening now lasts = some { r with openings := r.openings.set opening o } := by
  simp only [request, hwaiting, if_neg (Nat.not_lt.mpr hripe)]
  rcases poll_cases r.pool a with ⟨hgranted, -⟩ | ⟨e, hrefused⟩ | hretry
  · rw [hgranted] at hpoll
    exact absurd rfl hpoll
  · rw [hrefused]
    refine ⟨.refused e, fun fault h => ?_, rfl⟩
    cases h
    rfl
  · rw [hretry]
    refine ⟨_, fun fault h => ?_, rfl⟩
    cases h

/-- Slots given back after a poll has granted them leave the pool as it was. -/
theorem release_poll {p p' : Pool} {a : Acquisition} (hslots : a.slots = slotsPerConnection)
    (h : p.poll a = (.granted, p')) : p'.release slotsPerConnection = p := by
  rcases poll_cases p a with ⟨hgranted, -, -, hroom⟩ | ⟨e, hrefused⟩ | hretry
  · rw [hgranted] at h
    cases h
    rw [hslots] at hroom
    simp only [Pool.release, hslots, Nat.sub_add_cancel hroom]
  · rw [hrefused] at h
    cases h
  · rw [hretry] at h
    cases h

/-! ## The entry -/

/-- There is one more entry, for a new connection that is still to send START. -/
structure Adopted (id : UInt32) (r r' : Relay) : Prop where
  table : r'.table = (id, r.nextGeneration) :: r.table
  connections : r'.connections = r.connections ++ [{ id, stage := .announcing }]
  pool : r'.pool = r.pool
  bufferSize : r'.bufferSize = r.bufferSize

theorem Adopted.connection (h : Adopted id r r') :
    r'.connections[r.nextGeneration]? = some { id, stage := .announcing } := by
  rw [h.connections, nextGeneration, List.getElem?_concat_length]

theorem adopted_of_free {counter : UInt32} (hgranted : r.openings[opening]? = some .granted)
    (hfree : r.isOpen id = false)
    (hfound : r.freeLocalId (r.table.length + 1) r.localCounter = some (id, counter)) :
    ∃ r', r.adopt opening = some r' ∧ r'.localCounter = counter ∧ Adopted id r r' := by
  simp only [adopt, hgranted, hfound, insert]
  exact ⟨_, if_neg (Bool.eq_false_iff.mp hfree), rfl, rfl, rfl, rfl, rfl⟩

/-! ## START -/

theorem announce_sent (hc : s.connections[g]? = some c) (hstage : c.stage = .announcing) :
    ∃ t, s.step true (.announce g) = some (t, [.queued g ⟨c.id, .start⟩]) ∧ t.table = s.table ∧
      t.pool = s.pool := by
  have hmove : Move true s g c _ s _ _ := .announced hstage (sendable_small c.id (by decide))
  refine ⟨_, step_of_move hc hmove, enter_table _ _ _, ?_⟩
  rw [enter_pool _ hc, hstage]
  rfl

/-- What is left when START of connection `g` could not be queued: its slots are free, its entry is
gone, if it was still there, and it never sends anything. -/
structure Undone (id : UInt32) (g : Nat) (s t : Relay) : Prop where
  table : ∀ k, t.table.lookup k =
    if k = id ∧ s.table.lookup id = some g then none else s.table.lookup k
  pool : t.pool = s.pool.release slotsPerConnection
  silent : ∀ steps u effects, t.run steps = some (u, effects) → frames g effects = []

/-- Nothing comes out of a connection that has been given up. -/
theorem frames_of_abandoned {steps : List (Bool × Action)} {u : Relay} {effects : List Effect}
    (hc : t.connections[g]? = some c) (hstage : c.stage = .abandoned)
    (hrun : t.run steps = some (u, effects)) : frames g effects = [] := by
  refine (run_induction (P := fun _ u effects => frames g effects = [] ∧
    ∃ d, u.connections[g]? = some d ∧ d.stage = .abandoned) ⟨rfl, c, hc, hstage⟩ ?_ hrun).1
  rintro steps u effects v action u' more - ⟨hnone, d, hd, habandoned⟩ hstep
  have hmover : action.mover? ≠ some g := by
    intro hown
    obtain ⟨d', base, stage, hd', hmove, -⟩ := moves_of_step hown hstep
    rw [hd, Option.some.injEq] at hd'
    subst hd'
    have htask := hmove.task
    rw [habandoned] at htask
    exact htask rfl
  obtain ⟨d', hd', -, hsame⟩ := stays_of_step hmover hd hstep
  rw [frames_append, hnone, frames_of_mover hmover hstep]
  exact ⟨rfl, d', hd', hsame.trans habandoned⟩

theorem announce_refused (hc : s.connections[g]? = some c) (hstage : c.stage = .announcing) :
    s.step false (.announce g) = some ((s.removeOwn g c.id).2.enter g .abandoned, []) ∧
      Undone c.id g s ((s.removeOwn g c.id).2.enter g .abandoned) := by
  have hmove : Move false s g c _ (s.removeOwn g c.id).2 _ _ :=
    .unannounced hstage fun h => by cases h.1
  obtain ⟨d, hd, -, hkept⟩ := (hmove.base.1 g).connection hc
  refine ⟨step_of_move hc hmove, ?_, ?_, fun steps u effects hrun => ?_⟩
  · intro k
    rw [enter_table, removeOwn_eq]
    by_cases howner : s.table.lookup c.id = some g
    · simp only [howner, if_true, lookup_remove, and_true]
    · simp only [howner, and_false, if_false]
  · rw [enter_pool _ hd, hkept, hstage, removeOwn_eq]
    show (if _ then (s.remove c.id).2 else s).pool.release slotsPerConnection = _
    split
    · rw [remove_pool]
    · rfl
  · exact frames_of_abandoned (getElem?_enter_self .abandoned hd) rfl hrun

/-- Without its START an entry is gone as if it had never been made. -/
theorem Adopted.undone (h : Adopted id r r') (hfree : r.isOpen id = false) :
    (r'.removeOwn r.nextGeneration id).2.table = r.table := by
  have howner : r'.table.lookup id = some r.nextGeneration := by
    rw [h.table]
    exact List.lookup_cons_self
  have hnone : r.table.lookup id = none := by simpa [isOpen] using hfree
  rw [removeOwn_eq, if_pos howner, remove_table, h.table, List.filter_cons_of_neg (by simp),
    ← remove_table, remove_of_none hnone]

/-- What a connection that the agent opens has queued: nothing before START, nothing without it. -/
inductive Introduced (id : UInt32) : Stage → List SocketData → Prop where
  | announcing : Introduced id .announcing []
  | undone : Introduced id .abandoned []
  | started {stage : Stage} {more : List SocketData} : stage ≠ .announcing →
      Introduced id stage (⟨id, .start⟩ :: more)

theorem Introduced.cases {stage : Stage} {said : List SocketData} (h : Introduced id stage said) :
    said = [] ∨ ∃ more, said = ⟨id, .start⟩ :: more := by
  cases h with
  | announcing | undone => exact .inl rfl
  | started => exact .inr ⟨_, rfl⟩

theorem Introduced.nothing {said : List SocketData} (h : Introduced id .announcing said) :
    said = [] := by
  cases h with
  | announcing => rfl
  | started hpast => exact absurd rfl hpast

/-- Nothing comes back to the stage before START. -/
theorem Move.stage_ne_announcing {action : Action} {base : Relay} {stage : Stage}
    {effects : List Effect} (h : Move w r g c action base stage effects) :
    stage ≠ .announcing := by
  cases h with
  | polled a due now lasts _ _ =>
    rcases poll_cases r.pool a with ⟨hpoll, -⟩ | ⟨e, hpoll⟩ | hpoll <;> rw [hpoll] <;> exact nofun
  | forwarded bytes down hstage _ _ _ =>
    rw [hstage]
    exact nofun
  | _ => exact nofun

theorem Move.introduced {action : Action} {base : Relay} {stage : Stage} {effects : List Effect}
    {said : List SocketData} (hmove : Move w r g c action base stage effects)
    (h : Introduced c.id c.stage said) : Introduced c.id stage (said ++ frames g effects) := by
  have hlater := hmove.stage_ne_announcing
  have htask := hmove.task
  generalize hstage : c.stage = before at h
  cases h with
  | started _ => exact .started hlater
  | undone =>
    rw [hstage] at htask
    exact absurd rfl htask
  | announcing =>
    cases hmove with
    | announced =>
      rw [frames_queued]
      exact .started hlater
    | unannounced => exact .undone
    | _ => simp_all

theorem introduced_of_step {action : Action} {effects more : List Effect}
    (hc : r.connections[g]? = some c) (h : Introduced c.id c.stage (frames g effects))
    (hstep : r.step w action = some (r', more)) :
    ∃ d, r'.connections[g]? = some d ∧ d.id = c.id ∧
      Introduced d.id d.stage (frames g (effects ++ more)) := by
  rw [frames_append]
  by_cases hmover : action.mover? = some g
  · obtain ⟨c', base, stage, hc', hmove, rfl⟩ := moves_of_step hmover hstep
    rw [hc, Option.some.injEq] at hc'
    subst hc'
    obtain ⟨d, hd, hid⟩ := hmove.next hc
    refine ⟨_, getElem?_enter_self stage hd, hid, ?_⟩
    simp only [hid]
    exact hmove.introduced h
  · obtain ⟨d, hd, hid, hstage⟩ := stays_of_step hmover hc hstep
    refine ⟨d, hd, hid, ?_⟩
    rw [frames_of_mover hmover hstep, List.append_nil, hid, hstage]
    exact h

/-- From the step that makes it, a connection that the agent opens is introduced. -/
theorem introduced_of_run {steps : List (Bool × Action)} {effects : List Effect}
    (hc : r.connections[g]? = some c) (hstage : c.stage = .announcing)
    (hrun : r.run steps = some (s, effects)) :
    ∃ d, s.connections[g]? = some d ∧ d.id = c.id ∧
      Introduced d.id d.stage (frames g effects) := by
  refine run_induction (P := fun _ s effects => ∃ d, s.connections[g]? = some d ∧ d.id = c.id ∧
    Introduced d.id d.stage (frames g effects)) ⟨c, hc, rfl, ?_⟩ ?_ hrun
  · rw [hstage]
    exact .announcing
  · rintro steps t effects v action u more - ⟨d, hd, hid, hsaid⟩ hstep
    obtain ⟨d', hd', hid', hmore⟩ := introduced_of_step hd hsaid hstep
    exact ⟨d', hd', hid'.trans hid, hmore⟩

/-! ## Those that had the id before -/

/-- Connection `g` has still to send its START, and since `r` nobody has got an entry. -/
structure Unannounced (g : Nat) (r s : Relay) : Prop where
  connection : ∃ c, s.connections[g]? = some c ∧ c.stage = .announcing
  alone : s.nextGeneration = r.nextGeneration

theorem Adopted.nextGeneration (h : Adopted id r r') :
    r'.nextGeneration = r.nextGeneration + 1 := by
  rw [Relay.nextGeneration, h.connections, List.length_append, List.length_singleton,
    Relay.nextGeneration]

/-- Earlier connections are as they were. -/
theorem Adopted.earlier (h : Adopted id r r') (hg : g < r.nextGeneration) :
    r'.connections[g]? = r.connections[g]? := by
  rw [h.connections]
  exact List.getElem?_append_left hg

theorem Adopted.canSpeak_iff (h : Adopted id r r') {stage : Stage} :
    r'.CanSpeak stage ↔ r.CanSpeak stage := by
  have hcapacity := congrArg Pool.capacity h.pool
  have hclosed := congrArg Pool.closed h.pool
  constructor
  · intro hcan
    exact hcan.mono h.bufferSize hcapacity hclosed.symm.trans
  · intro hcan
    exact hcan.mono h.bufferSize.symm hcapacity.symm hclosed.trans

/-- If none of those that had the id before can speak, nothing but START is sent under it until the
new connection has sent its own. -/
theorem Adopted.silent {owed : Nat} {steps : List (Bool × Action)} {effects : List Effect}
    (h : Adopted id r r') (inv : Inv owed r')
    (hnone : ∀ (g : Nat) (c : Connection), r.connections[g]? = some c → c.id = id →
      ¬ r.CanSpeak c.stage)
    (hrun : r'.run steps = some (s, effects)) (hbefore : Unannounced r.nextGeneration r' s) :
    ∀ k event, .queued k ⟨id, event⟩ ∈ effects → event = .start := by
  intro k event hmem
  have hlater := hbefore.alone.trans h.nextGeneration
  rcases Nat.lt_trichotomy k r.nextGeneration with hearlier | rfl | hyounger
  · refine Silent.run (n := r.nextGeneration) inv ⟨?_, ?_, ?_⟩ hrun k event hearlier hmem
    · rw [h.nextGeneration]
      exact Nat.le_succ _
    · intro g hg howner
      rw [h.table, List.lookup_cons_self, Option.some.injEq] at howner
      exact absurd howner (Nat.ne_of_gt hg)
    · intro g c hg hc hid hcan
      rw [h.earlier hg] at hc
      exact hnone g c hc hid (h.canSpeak_iff.mp hcan)
  · obtain ⟨c, hc, hstage⟩ := hbefore.connection
    obtain ⟨d, hd, -, hsaid⟩ := introduced_of_run h.connection rfl hrun
    rw [hc, Option.some.injEq] at hd
    subst hd
    rw [hstage] at hsaid
    have hframe := mem_frames.mpr hmem
    rw [hsaid.nothing] at hframe
    cases hframe
  · have hbound := effects_bound hrun _ hmem
    rw [hlater] at hbound
    exact absurd hbound (Nat.not_lt.mpr hyounger)

/-- While only another connection moves, this one has still to send START. -/
theorem unannounced_of_run {k : Nat} {steps : List (Bool × Action)} {effects : List Effect}
    (hc : r.connections[g]? = some c) (hstage : c.stage = .announcing) (hk : k ≠ g)
    (hown : ∀ step ∈ steps, step.2.mover? = some k) (hrun : r.run steps = some (s, effects)) :
    Unannounced g r s := by
  refine run_induction (P := fun steps s _ => (∀ step ∈ steps, step.2.mover? = some k) →
    Unannounced g r s) (fun _ => ⟨⟨c, hc, hstage⟩, rfl⟩) ?_ hrun hown
  intro steps t effects w action u more _ ih hstep hown
  obtain ⟨⟨d, hd, hwaits⟩, halone⟩ := ih fun step hmem => hown step (List.mem_append_left _ hmem)
  have hmover : action.mover? = some k :=
    hown (w, action) (List.mem_append_right _ (List.mem_singleton_self _))
  obtain ⟨d', hd', -, hsame⟩ :=
    stays_of_step (by rw [hmover]; exact fun h => hk (Option.some.inj h)) hd hstep
  obtain ⟨e, base, stage, -, hmove, rfl⟩ := moves_of_step hmover hstep
  refine ⟨⟨d', hd', hsame.trans hwaits⟩, ?_⟩
  rw [enter_nextGeneration, hmove.base.2.1, halone]

/-- One of them that can speak, and need not wait for slots, does so in some run before START. -/
theorem Adopted.spoken (h : Adopted id r r') (hc : r.connections[g]? = some c) (hid : c.id = id)
    (hcan : r.CanSpeak c.stage) (hslots : ∀ a due, c.stage ≠ .acquiring a due) :
    ∃ steps s effects event, r'.run steps = some (s, effects) ∧
      Unannounced r.nextGeneration r' s ∧ event ≠ .start ∧ .queued g ⟨id, event⟩ ∈ effects := by
  obtain ⟨hlt, -⟩ := List.getElem?_eq_some_iff.mp hc
  obtain ⟨steps, s, effects, event, hrun, hown, hevent, hmem⟩ :=
    speaksAlone_of_canSpeak ((h.earlier hlt).trans hc) (h.canSpeak_iff.mpr hcan) hslots
  rw [hid] at hmem
  exact ⟨steps, s, effects, event, hrun,
    unannounced_of_run h.connection rfl (Nat.ne_of_lt hlt) hown hrun, hevent, hmem⟩

/-- An opening, step by step. While the pool does not grant its slots, nothing changes but what it
waits for. Then, if fewer than `2 ^ 31` ids are live that the agent might choose, the search for an
id ends after at most one try more than there are of those, also if ids are taken out of the table
meanwhile. The id is free, and its entry is all that is new. Of the new connection START is queued
before any other frame; and if it cannot be queued, the entry and the slots are given back and
there is never a frame. If none of the connections that had the id before can speak any more, START
comes before any other frame under the id; one that can, and need not wait for slots, may be first. -/
theorem opens_under_free_id (r : Relay) (opening : Nat) :
    (∀ a due now lasts w, r.openings[opening]? = some (.waiting a due) → due ≤ now →
      (r.pool.poll a).1 ≠ .granted →
      ∃ o, (∀ fault, (r.pool.poll a).1 = .refused fault → o = .refused fault) ∧
        r.step w (.request opening now lasts) =
          some ({ r with openings := r.openings.set opening o }, [])) ∧
    (r.openings[opening]? = some .granted → r.liveLocals.length < 2 ^ 31 →
      (∀ found : Nat → Relay, found 0 = r →
        (∀ i id, (found (i + 1)).isOpen id = true → (found i).isOpen id = true) →
        ∃ i ≤ r.liveLocals.length,
          (found i).isOpen (localId (r.localCounter + .ofNat i)) = false) ∧
      ∃ id r', (∀ w, r.step w (.adopt opening) = some (r', [])) ∧
        r.freeLocalId (r.liveLocals.length + 1) r.localCounter = some (id, r'.localCounter) ∧
        id &&& localFlag = localFlag ∧ r.isOpen id = false ∧ Adopted id r r' ∧
        (∀ owed, Inv owed r → ∀ k, r.table.lookup k ≠ some r.nextGeneration) ∧
        (∀ start steps effects, Relay.run steps start = some (r, effects) →
          frames r.nextGeneration effects = []) ∧
        (∃ t, r'.step false (.announce r.nextGeneration) = some (t, []) ∧ t.table = r.table ∧
          ∀ p a, a.slots = slotsPerConnection → p.poll a = (.granted, r.pool) → t.pool = p) ∧
        (∀ steps s effects, r'.run steps = some (s, effects) →
          (frames r.nextGeneration effects = [] ∨
            ∃ more, frames r.nextGeneration effects = ⟨id, .start⟩ :: more) ∧
          ∀ c, s.connections[r.nextGeneration]? = some c → c.stage = .announcing →
            frames r.nextGeneration effects = [] ∧
            (∃ t, s.step true (.announce r.nextGeneration) =
                some (t, [.queued r.nextGeneration ⟨id, .start⟩]) ∧
              t.table = s.table ∧ t.pool = s.pool) ∧
            ∃ t, s.step false (.announce r.nextGeneration) = some (t, []) ∧
              Undone id r.nextGeneration s t) ∧
        (∀ owed, Inv owed r →
          (∀ (g : Nat) (c : Connection), r.connections[g]? = some c → c.id = id →
            ¬ r.CanSpeak c.stage) →
          ∀ steps s effects, r'.run steps = some (s, effects) →
            Unannounced r.nextGeneration r' s →
            ∀ k event, .queued k ⟨id, event⟩ ∈ effects → event = .start) ∧
        ∀ (g : Nat) (c : Connection), r.connections[g]? = some c → c.id = id →
          r.CanSpeak c.stage → (∀ a due, c.stage ≠ .acquiring a due) →
          ∃ steps s effects event, r'.run steps = some (s, effects) ∧
            Unannounced r.nextGeneration r' s ∧ event ≠ .start ∧
            .queued g ⟨id, event⟩ ∈ effects) := by
  refine ⟨fun a due now lasts w hwaiting hripe hpoll => ?_, fun hgranted hfew => ⟨?_, ?_⟩⟩
  · obtain ⟨o, hrefused, hrequest⟩ := request_of_not_granted lasts hwaiting hripe hpoll
    exact ⟨o, hrefused, by rw [step, hrequest]; rfl⟩
  · rintro found rfl hshrinks
    exact exists_free_try found _ hshrinks hfew
  obtain ⟨i, hle, hfree, hfound⟩ := exists_freeLocalId r.localCounter hfew
  have hlength := Nat.lt_succ_of_le (Nat.le_trans hle r.liveLocals_length_le)
  obtain ⟨r', hadopt, hcounter, hadopted⟩ := adopted_of_free hgranted hfree (hfound _ hlength)
  have hc := hadopted.connection
  obtain ⟨hrefused, hundone⟩ := announce_refused hc rfl
  refine ⟨_, r', fun w => by rw [step, hadopt]; rfl, ?_, beq_iff_eq.mp (isLocal_localId _), hfree,
    hadopted, fun owed inv k howner => ?_, fun start steps effects hrun => ?_,
    ⟨_, hrefused, ?_, fun p a hslots hpoll => ?_⟩, fun steps s effects hrun => ?_,
    fun owed inv hnone steps s effects hrun hbefore => ?_,
    fun g c hc hid hcan hslots => hadopted.spoken hc hid hcan hslots⟩
  · rw [hcounter]
    exact hfound _ (Nat.lt_succ_of_le hle)
  · obtain ⟨c, hc, -⟩ := inv.owner howner
    obtain ⟨hlt, -⟩ := List.getElem?_eq_some_iff.mp hc
    exact absurd hlt (Nat.lt_irrefl _)
  · exact frames_of_others fun effect hmem => Nat.ne_of_lt (effects_bound hrun effect hmem)
  · rw [enter_table]
    exact hadopted.undone hfree
  · rw [hundone.pool, hadopted.pool]
    exact release_poll hslots hpoll
  · obtain ⟨d, hd, hid, hsaid⟩ := introduced_of_run hc rfl hrun
    rw [hid] at hsaid
    refine ⟨hsaid.cases, fun c hc hstage => ?_⟩
    rw [hd, Option.some.injEq] at hc
    subst hc
    rw [hstage] at hsaid
    rw [show localId _ = d.id from hid.symm]
    exact ⟨hsaid.nothing, announce_sent hd hstage, _, announce_refused hd hstage⟩
  · exact hadopted.silent (inv.arrival (arrival_adopt hadopt)) hnone hrun hbefore

/-- The gateway has chosen two ids with the flag, on both sides of where the counter wraps. -/
def crowded : Relay where
  pool := { capacity := 8, retryAttempts := 0, retryInterval := 1, available := 2 }
  bufferSize := 1024
  table := [(0x80000000, 1), (0xFFFFFFFF, 0)]
  connections := [{ id := 0xFFFFFFFF, stage := .dialing }, { id := 0x80000000, stage := .dialing }]
  openings := [.granted]
  localCounter := 0xFFFFFFFF

theorem opens_under_free_id_past_wrap :
    crowded.openings[0]? = some .granted ∧ crowded.liveLocals.length = 2 ∧
      ∃ r' t, crowded.step true (.adopt 0) = some (r', []) ∧ Adopted 0x80000001 crowded r' ∧
        r'.step false (.announce 2) = some (t, []) ∧ t.table = crowded.table ∧
        t.pool.available = 4 := by
  obtain ⟨-, hgranted⟩ := opens_under_free_id crowded 0
  obtain ⟨-, id, r', hadopt, hfound, -, -, hadopted, -, -, ⟨t, hrefused, htable, hpool⟩, -⟩ :=
    hgranted rfl (by decide)
  have hid : crowded.freeLocalId 3 0xFFFFFFFF = some (0x80000001, 2) := by decide
  obtain ⟨rfl, -⟩ := Prod.mk.inj (Option.some.inj (hid.symm.trans hfound))
  refine ⟨rfl, by decide, r', t, hadopt true, hadopted, hrefused, htable, ?_⟩
  rw [hpool { crowded.pool with available := 4 } { slots := 2, attempts := 1 } rfl rfl]

/-- The gateway opens and closes the id that the agent chooses next; the first connection's socket
has bytes before its downlink has come to the `close`, and after the agent has taken the id. -/
theorem stale_bytes_before_start :
    ∃ r r' r'' s effects,
      run [(true, .handle 0 (SocketData.format.write ⟨0x80000000, .start⟩)), (true, .poll 0 0 1),
          (true, .dialed 0 true), (true, .handle 0 (SocketData.format.write ⟨0x80000000, .close⟩)),
          (true, .openLocal 0), (true, .request 0 0 1)]
        { pool := { capacity := 8, retryAttempts := 0, retryInterval := 1 }, bufferSize := 1024 } =
          some (r, effects) ∧
      r.liveLocals = [] ∧ r.isOpen 0x80000000 = false ∧
      r.step true (.adopt 0) = some (r', []) ∧ r'.table = [(0x80000000, 1)] ∧
      r'.step true (.readLocal 0 [0x6f, 0x6c, 0x64]) =
        some (r'', [.queued 0 ⟨0x80000000, .data [0x6f, 0x6c, 0x64]⟩]) ∧
      r''.step true (.announce 1) = some (s, [.queued 1 ⟨0x80000000, .start⟩]) :=
  ⟨_, _, _, _, _, rfl, rfl, rfl, rfl, rfl, rfl, rfl⟩

end TunnelAgent.Relay
