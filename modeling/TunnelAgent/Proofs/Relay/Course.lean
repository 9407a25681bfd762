import TunnelAgent.Proofs.Relay.Silence

/-! # The course of a connection

A run as one connection sees it. Some step makes the connection; after that a step is its own move,
or it feeds the connection: with the bytes of a frame while the connection has its id, with the
`close` as it loses the id, with nothing otherwise. It has its id from the step that makes it up to
the step that takes the id out of the table, and never again. What every run does with a connection
is proved by induction on its course. -/

namespace TunnelAgent.Relay

/-- The connection on whose behalf something leaves the relay. -/
def Effect.connection : Effect → Nat
  | queued g _ => g
  | wrote g _ => g
  | shut g => g

/-- The bytes that a frame brings for `id`. -/
def Action.bytesFor (id : UInt32) : Action → Bytes
  | handle _ payload =>
    match SocketData.format.decode payload with
    | .ok ⟨k, .data bytes⟩ => if k = id then bytes else []
    | _ => []
  | _ => []

/-- The payloads of the CONTINUE frames for `id`, in the order in which they are handled. -/
def arrived (id : UInt32) (steps : List (Bool × Action)) : Bytes :=
  steps.flatMap fun step => step.2.bytesFor id

/-- In a run of `steps`, connection `g` has `id` after the first `n` steps exactly if `n` is at
least `first` and at most `last`. -/
structure Tenure (start : Relay) (steps : List (Bool × Action)) (id : UInt32) (g first last : Nat) :
    Prop where
  ordered : first ≤ last
  bound : last ≤ steps.length
  owner : ∀ {n : Nat} {s : Relay} {effects : List Effect}, n ≤ steps.length →
    start.run (steps.take n) = some (s, effects) →
    (s.table.lookup id = some g ↔ first ≤ n ∧ n ≤ last)

/-- The steps of a tenure: those that begin and end with the id in the connection's hands. -/
def during (first last : Nat) (steps : List (Bool × Action)) : List (Bool × Action) :=
  (steps.take last).drop first

/-- What a step puts into the queue of connection `g`, made for `id`, unless it is a move of its
own. -/
inductive Feeds (id : UInt32) (g : Nat) (action : Action) (r r' : Relay) : List Chunk → Prop where
  | nothing (same : r'.table.lookup id = some g ↔ r.table.lookup id = some g)
      (none : r.table.lookup id = some g → action.bytesFor id = []) : Feeds id g action r r' []
  | bytes (owner : r.table.lookup id = some g) (kept : r'.table.lookup id = some g) :
      Feeds id g action r r' [.data (action.bytesFor id)]
  | close (owner : r.table.lookup id = some g) (lost : r'.table.lookup id ≠ some g) :
      Feeds id g action r r' [.close]

theorem lookup_insert {r : Relay} {id k : UInt32} {g n : Nat} (hfree : r.isOpen id = false)
    (h : r.table.lookup k = some g) : ((id, n) :: r.table).lookup k = some g := by
  rw [List.lookup_cons]
  split
  · rename_i hk
    rw [beq_iff_eq] at hk
    rw [isOpen, ← hk, h] at hfree
    cases hfree
  · exact h

section feeds
variable {id : UInt32} {g : Nat} {r r' : Relay} {c : Connection}

theorem feeds_of_eq {action : Action} (hget : r'.connections[g]? = r.connections[g]?)
    (htable : r'.table = r.table) (hc : r.connections[g]? = some c)
    (hnone : action.bytesFor c.id = []) :
    ∃ chunks, r'.connections[g]? = some (c.feed chunks) ∧ Feeds c.id g action r r' chunks :=
  ⟨[], by rw [hget, hc, Connection.feed_nil], .nothing (by rw [htable]) fun _ => hnone⟩

theorem feeds_insert {action : Action} {connection : Connection} (hc : r.connections[g]? = some c)
    (hfree : r.isOpen id = false) (htable : r'.table = (id, r.nextGeneration) :: r.table)
    (hconnections : r'.connections = r.connections ++ [connection])
    (hnone : action.bytesFor c.id = []) :
    ∃ chunks, r'.connections[g]? = some (c.feed chunks) ∧ Feeds c.id g action r r' chunks := by
  obtain ⟨hlt, -⟩ := List.getElem?_eq_some_iff.mp hc
  have hget : r'.connections[g]? = some c := by
    rw [hconnections, List.getElem?_append_left hlt, hc]
  refine ⟨[], by rw [hget, Connection.feed_nil], .nothing ?_ fun _ => hnone⟩
  rw [htable]
  refine ⟨fun h => ?_, lookup_insert hfree⟩
  rw [List.lookup_cons] at h
  split at h
  · cases h
    exact absurd hlt (Nat.lt_irrefl _)
  · exact h

theorem feeds_receive {owed : Nat} (inv : Inv owed r) (action : Action) {bytes : Bytes}
    (hc : r.connections[g]? = some c)
    (hbytes : action.bytesFor c.id = if id = c.id then bytes else []) :
    ∃ chunks, (r.receive id bytes).connections[g]? = some (c.feed chunks) ∧
      Feeds c.id g action r (r.receive id bytes) chunks := by
  unfold receive
  by_cases howner : r.table.lookup id = some g
  · have hid : id = c.id := (inv.id_of_owner hc howner).symm
    subst hid
    rw [if_pos rfl] at hbytes
    simp only [howner]
    refine ⟨[.data bytes], by rw [getElem?_post, if_pos rfl, hc]; rfl, ?_⟩
    rw [← hbytes]
    exact .bytes howner howner
  · have hsame : (r.receive id bytes).connections[g]? = some c := by
      unfold receive
      split
      · exact hc
      · rename_i k hk
        rw [getElem?_post, if_neg (fun hkg : k = g => howner (hkg ▸ hk)), hc]
    refine ⟨[], by rw [Connection.feed_nil]; exact hsame, .nothing ?_ fun hown => ?_⟩
    · split <;> exact Iff.rfl
    · rw [hbytes, if_neg (fun hid : id = c.id => howner (hid ▸ hown))]

theorem feeds_remove {owed : Nat} (inv : Inv owed r) (action : Action)
    (hc : r.connections[g]? = some c) (hnone : action.bytesFor c.id = []) :
    ∃ chunks, (r.remove id).2.connections[g]? = some (c.feed chunks) ∧
      Feeds c.id g action r (r.remove id).2 chunks := by
  by_cases howner : r.table.lookup id = some g
  · have hid : id = c.id := (inv.id_of_owner hc howner).symm
    subst hid
    refine ⟨[.close], by rw [getElem?_remove, if_pos howner, hc]; rfl, .close howner ?_⟩
    rw [lookup_remove, if_pos rfl]
    simp
  · refine ⟨[], by rw [getElem?_remove, if_neg howner, hc, Connection.feed_nil],
      .nothing ?_ fun _ => hnone⟩
    rw [lookup_remove]
    by_cases hid : c.id = id
    · subst hid
      simp [howner]
    · rw [if_neg hid]

theorem feeds_shutdown {owed : Nat} (inv : Inv owed r) (action : Action)
    (hc : r.connections[g]? = some c) (hnone : action.bytesFor c.id = []) :
    ∃ chunks, r.shutdown.connections[g]? = some (c.feed chunks) ∧
      Feeds c.id g action r r.shutdown chunks := by
  have hget : r.shutdown.connections[g]? =
      some (c.feed (List.replicate (r.table.countP (·.2 = g)) .close)) := by
    rw [shutdown_eq, getElem?_closeAll]
    rw [show ({ r with table := [] } : Relay).connections[g]? = some c from hc]
    rfl
  have hempty : r.shutdown.table = [] := by rw [shutdown_eq, closeAll_table]
  have hcount : r.table.countP (·.2 = g) = (r.table.map (·.2)).count g := by
    rw [List.count, List.countP_map]
    congr 1
  rw [hcount] at hget
  by_cases howner : r.table.lookup c.id = some g
  · have hmem : g ∈ r.table.map (·.2) :=
      List.mem_map.mpr ⟨(c.id, g), (mem_iff_lookup inv.nodup c.id g).mpr howner, rfl⟩
    rw [inv.generations.count, if_pos hmem] at hget
    exact ⟨[.close], hget, .close howner (by simp [hempty])⟩
  · have hnot : g ∉ r.table.map (·.2) := by
      intro hmem
      obtain ⟨⟨id, k⟩, hentry, rfl⟩ := List.mem_map.mp hmem
      have hlookup := (mem_iff_lookup inv.nodup id k).mp hentry
      exact howner ((inv.id_of_owner hc hlookup).symm ▸ hlookup)
    rw [inv.generations.count, if_neg hnot] at hget
    exact ⟨[], hget, .nothing (by simp [hempty, howner]) fun _ => hnone⟩

theorem feeds_take {owed : Nat} (inv : Inv owed r) {now : Nat} {payload : Bytes} {data : SocketData}
    (hc : r.connections[g]? = some c) (hdata : SocketData.format.decode payload = .ok data) :
    ∃ chunks, (r.take now data).connections[g]? = some (c.feed chunks) ∧
      Feeds c.id g (.handle now payload) r (r.take now data) chunks := by
  obtain ⟨id, event⟩ := data
  cases event with
  | start =>
    have hnone : (Action.handle now payload).bytesFor c.id = [] := by simp [Action.bytesFor, hdata]
    simp only [take, accept, insert]
    by_cases h : r.isOpen id = true
    · rw [if_pos h]
      exact feeds_of_eq rfl rfl hc hnone
    · rw [if_neg h]
      exact feeds_insert hc (by simpa using h) rfl rfl hnone
  | data bytes =>
    exact feeds_receive inv _ hc (by simp [Action.bytesFor, hdata])
  | close =>
    exact feeds_remove inv _ hc (by simp [Action.bytesFor, hdata])

end feeds

theorem Move.about {w : Bool} {action : Action} {r base : Relay} {g : Nat} {c : Connection}
    {stage : Stage} {effects : List Effect} (h : Move w r g c action base stage effects) :
    ∀ effect ∈ effects, effect.connection = g := by
  intro effect hmem
  cases h with
  | announced => rw [List.mem_singleton.mp hmem]; rfl
  | reportedSetup => rw [(mem_attempt.mp hmem).2]; rfl
  | reported => rw [(mem_attempt.mp hmem).2]; rfl
  | forwarded => rw [List.mem_singleton.mp hmem]; rfl
  | wrote => rw [List.mem_singleton.mp hmem]; rfl
  | shut => rw [List.mem_singleton.mp hmem]; rfl
  | _ => cases hmem

theorem bytesFor_of_mover {action : Action} {g : Nat} (id : UInt32) (h : action.mover? = some g) :
    action.bytesFor id = [] := by
  cases action with
  | handle now payload => cases h
  | _ => rfl

/-- A step that is not the connection's own feeds it, and lets nothing out on its behalf. -/
theorem fed_of_step {owed g : Nat} {w : Bool} {action : Action} {r r' : Relay} {c : Connection}
    {effects : List Effect} (inv : Inv owed r) (hc : r.connections[g]? = some c)
    (hmover : action.mover? ≠ some g) (h : r.step w action = some (r', effects)) :
    (∀ effect ∈ effects, effect.connection ≠ g) ∧
      ∃ chunks, r'.connections[g]? = some (c.feed chunks) ∧ Feeds c.id g action r r' chunks := by
  cases hother : action.mover? with
  | some k =>
    rw [hother] at hmover
    have hk : k ≠ g := fun hk => hmover (congrArg some hk)
    obtain ⟨d, base, stage, -, hmove, rfl⟩ := moves_of_step hother h
    obtain ⟨hget, htable⟩ := hmove.apart hk
    refine ⟨fun effect hmem => ?_, [], ?_, .nothing ?_ fun _ => bytesFor_of_mover c.id hother⟩
    · rw [hmove.about effect hmem]
      exact hk
    · rw [getElem?_enter_ne _ _ hk, hget, hc, Connection.feed_nil]
    · rw [enter_table]
      exact htable c.id
  | none =>
    refine ⟨by rw [(arrival_of_step hother h).2]; simp, ?_⟩
    cases action with
    | handle now payload =>
      simp only [step, handle] at h
      cases hdata : SocketData.format.decode payload with
      | ok data =>
        rw [hdata] at h
        cases h
        exact feeds_take inv hc hdata
      | error fault =>
        rw [hdata] at h
        cases h
        exact feeds_of_eq rfl rfl hc (by simp [Action.bytesFor, hdata])
    | remove id => cases h; exact feeds_remove inv _ hc rfl
    | shutdown => cases h; exact feeds_shutdown inv _ hc rfl
    | closePool => cases h; exact feeds_of_eq rfl rfl hc rfl
    | openLocal now => cases h; exact feeds_of_eq rfl rfl hc rfl
    | request opening now lasts =>
      obtain ⟨a, due, -, -, rfl⟩ := request_eq (quiet_eq_some h).1
      exact feeds_of_eq (by simp) (by simp) hc rfl
    | adopt opening =>
      obtain ⟨id, localCounter, -, hfree, rfl⟩ := adopt_eq (quiet_eq_some h).1
      exact feeds_insert hc hfree rfl rfl rfl
    | _ => cases hother

/-- A connection as the step that makes it leaves it. -/
structure Born (g : Nat) (r' : Relay) (c : Connection) : Prop where
  empty : c.queue = []
  stage : (∃ a due, c.stage = .acquiring a due) ∨ c.stage = .announcing
  owner : r'.table.lookup c.id = some g

theorem born_of_step {g : Nat} {w : Bool} {action : Action} {r r' : Relay} {c : Connection}
    {effects : List Effect} (h : r.step w action = some (r', effects))
    (hold : r.connections[g]? = none) (hnew : r'.connections[g]? = some c) :
    effects = [] ∧ Born g r' c := by
  have hinsert : ∀ {id : UInt32} {stage : Stage},
      r'.table = (id, r.nextGeneration) :: r.table →
      r'.connections = r.connections ++ [{ id, stage : Connection }] →
      (∃ a due, stage = .acquiring a due) ∨ stage = .announcing → Born g r' c := by
    intro id stage htable hconnections hstage
    rw [List.getElem?_eq_none_iff] at hold
    rw [hconnections, List.getElem?_append_right hold, List.getElem?_singleton] at hnew
    split at hnew
    · rename_i hlast
      cases hnew
      have hg : g = r.nextGeneration := Nat.le_antisymm (Nat.sub_eq_zero_iff_le.mp hlast) hold
      refine ⟨rfl, hstage, ?_⟩
      rw [htable, hg]
      exact List.lookup_cons_self
    · cases hnew
  -- Of all steps, only those that insert make a connection that was not there.
  have hgrown : r'.nextGeneration ≠ r.nextGeneration := by
    intro hsame
    obtain ⟨hlt, -⟩ := List.getElem?_eq_some_iff.mp hnew
    rw [List.getElem?_eq_none_iff] at hold
    exact absurd (Nat.le_trans (Nat.le_of_eq hsame) hold) (Nat.not_le.mpr hlt)
  rcases step_cases h with ⟨harrival, rfl⟩ | ⟨k, d, base, stage, -, hmove, rfl⟩
  · refine ⟨rfl, ?_⟩
    cases harrival with
    | accepted id now _ => exact hinsert rfl rfl (.inl ⟨_, _, rfl⟩)
    | adopted opening id localCounter _ _ => exact hinsert rfl rfl (.inr rfl)
    | ignored => exact absurd rfl hgrown
    | received id k bytes _ => exact absurd (post_nextGeneration ..) hgrown
    | removed id => exact absurd (remove_nextGeneration ..) hgrown
    | shutdown => exact absurd (closeAll_nextGeneration ..) hgrown
    | poolClosed => exact absurd rfl hgrown
    | opened now => exact absurd rfl hgrown
    | requested opening now lasts a due _ _ => exact absurd (by simp [nextGeneration]) hgrown
  · rw [enter_nextGeneration] at hgrown
    exact absurd hmove.base.2.1 hgrown

theorem run_snoc {steps : List (Bool × Action)} {w : Bool} {action : Action} {start r r' : Relay}
    {effects more : List Effect} (hrun : start.run steps = some (r, effects))
    (hstep : r.step w action = some (r', more)) :
    start.run (steps ++ [(w, action)]) = some (r', effects ++ more) :=
  run_append hrun (run_one hstep)

theorem run_split {first rest : List (Bool × Action)} {start r : Relay} {effects : List Effect}
    (h : start.run (first ++ rest) = some (r, effects)) :
    ∃ s now later, start.run first = some (s, now) ∧ s.run rest = some (r, later) ∧
      effects = now ++ later := by
  induction first generalizing start effects with
  | nil => exact ⟨start, [], effects, rfl, h, rfl⟩
  | cons step first ih =>
    obtain ⟨w, action⟩ := step
    obtain ⟨t, here, later, hstep, htail, rfl⟩ := run_cons.mp h
    obtain ⟨s, now, last, hfirst, hrest, rfl⟩ := ih htail
    exact ⟨s, here ++ now, last, run_cons.mpr ⟨t, here, now, hstep, hfirst, rfl⟩, hrest,
      (List.append_assoc ..).symm⟩

/-- Induction on a run from its end. -/
theorem run_induction {start : Relay} {P : List (Bool × Action) → Relay → List Effect → Prop}
    (nil : P [] start [])
    (snoc : ∀ {steps r effects w action r' more}, start.run steps = some (r, effects) →
      P steps r effects → r.step w action = some (r', more) →
      P (steps ++ [(w, action)]) r' (effects ++ more))
    {steps : List (Bool × Action)} {r : Relay} {effects : List Effect}
    (h : start.run steps = some (r, effects)) : P steps r effects := by
  -- A run goes on from its front, so what has been run is generalised and grows by one step.
  have hrest : ∀ {rest first : List (Bool × Action)} {s : Relay} {now later : List Effect},
      start.run first = some (s, now) → P first s now → s.run rest = some (r, later) →
      P (first ++ rest) r (now ++ later) := by
    intro rest
    induction rest with
    | nil =>
      intro first s now later _ hfirst hrun
      cases hrun
      rwa [List.append_nil, List.append_nil]
    | cons step rest ih =>
      intro first s now later hfirst hP hrun
      obtain ⟨w, action⟩ := step
      obtain ⟨t, here, later, hstep, htail, rfl⟩ := run_cons.mp hrun
      rw [List.append_cons, ← List.append_assoc]
      exact ih (run_snoc hfirst hstep) (snoc hfirst hP hstep) htail
  exact hrest rfl nil h

section tenure
variable {start r r' : Relay} {steps : List (Bool × Action)} {effects more : List Effect}
  {id : UInt32} {g first last : Nat} {w : Bool} {action : Action}

theorem Tenure.last_eq (h : Tenure start steps id g first last)
    (hrun : start.run steps = some (r, effects)) (howner : r.table.lookup id = some g) :
    last = steps.length := by
  rw [← List.take_length (l := steps)] at hrun
  obtain ⟨-, hle⟩ := (h.owner (Nat.le_refl _) hrun).mp howner
  exact Nat.le_antisymm h.bound hle

/-- After one more step the tenure has grown by it, or is what it was. -/
theorem Tenure.step (h : Tenure start steps id g first last)
    (hrun : start.run steps = some (r, effects)) (hstep : r.step w action = some (r', more))
    (hback : r'.table.lookup id = some g → r.table.lookup id = some g) :
    Tenure start (steps ++ [(w, action)]) id g first
      (if r'.table.lookup id = some g then steps.length + 1 else last) := by
  have hlength : (steps ++ [(w, action)]).length = steps.length + 1 := by simp
  have hfirst : first ≤ steps.length := Nat.le_trans h.ordered h.bound
  have hbound := h.bound
  refine ⟨?_, ?_, ?_⟩
  · split
    · exact Nat.le_succ_of_le hfirst
    · exact h.ordered
  · split <;> omega
  · intro n s later hn hs
    rw [hlength] at hn
    rcases Nat.lt_or_eq_of_le hn with hlt | rfl
    · have hle : n ≤ steps.length := Nat.le_of_lt_succ hlt
      rw [List.take_append_of_le_length hle] at hs
      rw [h.owner hle hs]
      split
      · rename_i howner
        have hlast := h.last_eq hrun (hback howner)
        omega
      · exact Iff.rfl
    · rw [← hlength, List.take_length, run_snoc hrun hstep] at hs
      cases hs
      split
      · rename_i howner
        exact iff_of_true howner ⟨by omega, by omega⟩
      · rename_i hother
        simp only [hother, false_iff]
        omega

theorem step_bound (h : r.step w action = some (r', effects)) :
    r.nextGeneration ≤ r'.nextGeneration := by
  rcases step_cases h with ⟨harrival, -⟩ | ⟨k, d, base, stage, -, hmove, rfl⟩
  · exact harrival.extends.bound
  · exact Nat.le_of_eq ((enter_nextGeneration ..).trans hmove.base.2.1).symm

theorem run_bound (h : r.run steps = some (r', effects)) : r.nextGeneration ≤ r'.nextGeneration :=
  (run_preserves (P := fun s => r.nextGeneration ≤ s.nextGeneration) (Q := fun _ => True)
    (fun hle hstep => ⟨Nat.le_trans hle (step_bound hstep), fun _ _ => trivial⟩)
    (Nat.le_refl _) h).1

/-- A connection that has its id after a step had it before, or the step has made it. -/
theorem owner_back (h : r.step w action = some (r', effects)) (hold : g < r.nextGeneration)
    (howner : r'.table.lookup id = some g) : r.table.lookup id = some g := by
  rcases step_cases h with ⟨harrival, -⟩ | ⟨k, d, base, stage, -, hmove, rfl⟩
  · exact harrival.extends.owner hold howner
  · rw [enter_table] at howner
    exact hmove.base.2.2 id g howner

/-- A new connection has had its id for no step yet. -/
theorem Tenure.begin {owed : Nat} (inv : Inv owed start)
    (hrun : start.run steps = some (r, effects)) (hstep : r.step w action = some (r', more))
    (hnew : r.nextGeneration ≤ g) (howner : r'.table.lookup id = some g) :
    Tenure start (steps ++ [(w, action)]) id g (steps.length + 1) (steps.length + 1) := by
  have hlength : (steps ++ [(w, action)]).length = steps.length + 1 := by simp
  refine ⟨Nat.le_refl _, Nat.le_of_eq hlength.symm, ?_⟩
  intro n s later hn hs
  rw [hlength] at hn
  rcases Nat.lt_or_eq_of_le hn with hlt | rfl
  · have hle : n ≤ steps.length := Nat.le_of_lt_succ hlt
    rw [List.take_append_of_le_length hle] at hs
    rw [← List.take_append_drop n steps] at hrun
    obtain ⟨t, now, rest, hfirst, hrest, -⟩ := run_split hrun
    rw [hs] at hfirst
    cases hfirst
    have hearly : s.table.lookup id ≠ some g := by
      intro h
      obtain ⟨c, hc, -⟩ := (inv.run hs).owner h
      obtain ⟨hg, -⟩ := List.getElem?_eq_some_iff.mp hc
      exact absurd (Nat.le_trans (run_bound hrest) hnew) (Nat.not_le.mpr hg)
    simp only [hearly, false_iff]
    omega
  · rw [← hlength, List.take_length, run_snoc hrun hstep] at hs
    cases hs
    simp [howner]

end tenure

/-- What a run of steps from `start` has been for connection `g`, now `c`: the step that made it,
and its own moves among the steps that fed it. -/
inductive Course (owed : Nat) (start : Relay) (g : Nat) :
    List (Bool × Action) → List Effect → Relay → Connection → Nat → Nat → Prop where
  | born {steps effects r w action r' c} (run : start.run steps = some (r, effects))
      (step : r.step w action = some (r', [])) (absent : r.nextGeneration ≤ g)
      (others : ∀ effect ∈ effects, effect.connection ≠ g) (born : Born g r' c) :
      Course owed start g (steps ++ [(w, action)]) effects r' c
        (steps.length + 1) (steps.length + 1)
  | fed {steps effects r c first last w action r' more chunks}
      (past : Course owed start g steps effects r c first last)
      (run : start.run steps = some (r, effects)) (inv : Inv owed r)
      (here : r.connections[g]? = some c) (mover : action.mover? ≠ some g)
      (step : r.step w action = some (r', more))
      (others : ∀ effect ∈ more, effect.connection ≠ g) (feeds : Feeds c.id g action r r' chunks) :
      Course owed start g (steps ++ [(w, action)]) (effects ++ more) r' (c.feed chunks) first
        (if r'.table.lookup c.id = some g then steps.length + 1 else last)
  | moved {steps effects r c first last w action base stage more d}
      (past : Course owed start g steps effects r c first last)
      (run : start.run steps = some (r, effects)) (inv : Inv owed r)
      (here : r.connections[g]? = some c) (mover : action.mover? = some g)
      (step : r.step w action = some (base.enter g stage, more))
      (move : Move w r g c action base stage more) (next : base.connections[g]? = some d)
      (same : d.id = c.id) :
      Course owed start g (steps ++ [(w, action)]) (effects ++ more) (base.enter g stage)
        { d with stage } first (if base.table.lookup c.id = some g then steps.length + 1 else last)

theorem effects_bound {start r : Relay} {steps : List (Bool × Action)} {effects : List Effect}
    (h : start.run steps = some (r, effects)) :
    ∀ effect ∈ effects, effect.connection < r.nextGeneration := by
  refine run_induction
    (P := fun _ r effects => ∀ effect ∈ effects, effect.connection < r.nextGeneration)
    (by simp) ?_ h
  intro steps r effects w action r' more _ ih hstep effect hmem
  rcases List.mem_append.mp hmem with hmem | hmem
  · exact Nat.lt_of_lt_of_le (ih effect hmem) (step_bound hstep)
  · rcases step_cases hstep with ⟨-, rfl⟩ | ⟨g, c, base, stage, hc, hmove, rfl⟩
    · cases hmem
    · obtain ⟨hlt, -⟩ := List.getElem?_eq_some_iff.mp hc
      rw [hmove.about effect hmem]
      exact Nat.lt_of_lt_of_le hlt (step_bound hstep)

theorem Move.next {w : Bool} {action : Action} {r base : Relay} {g : Nat} {c : Connection}
    {stage : Stage} {effects : List Effect} (h : Move w r g c action base stage effects)
    (hc : r.connections[g]? = some c) :
    ∃ d, base.connections[g]? = some d ∧ d.id = c.id := by
  obtain ⟨d, hd, hid, -⟩ := (h.base.1 g).connection hc
  exact ⟨d, hd, hid⟩

theorem course_of_run {owed : Nat} {start r : Relay} {steps : List (Bool × Action)}
    {effects : List Effect} {g : Nat} {c : Connection} (inv : Inv owed start)
    (hempty : start.connections = []) (hrun : start.run steps = some (r, effects))
    (hc : r.connections[g]? = some c) :
    ∃ first last, Course owed start g steps effects r c first last := by
  refine run_induction (P := fun steps r effects => ∀ {c}, r.connections[g]? = some c →
    ∃ first last, Course owed start g steps effects r c first last) ?_ ?_ hrun hc
  · intro c hc
    rw [hempty] at hc
    cases hc
  · intro steps r effects w action r' more hrun ih hstep c' hc'
    cases hold : r.connections[g]? with
    | none =>
      obtain ⟨rfl, hborn⟩ := born_of_step hstep hold hc'
      have habsent : r.nextGeneration ≤ g := List.getElem?_eq_none_iff.mp hold
      rw [List.append_nil]
      refine ⟨_, _, .born hrun hstep habsent ?_ hborn⟩
      intro effect hmem
      exact Nat.ne_of_lt (Nat.lt_of_lt_of_le (effects_bound hrun effect hmem) habsent)
    | some c =>
      obtain ⟨first, last, past⟩ := ih hold
      by_cases hmover : action.mover? = some g
      · obtain ⟨d, base, stage, hd, hmove, rfl⟩ := moves_of_step hmover hstep
        rw [hold, Option.some.injEq] at hd
        subst hd
        obtain ⟨d, hnext, hid⟩ := hmove.next hold
        rw [getElem?_enter_self stage hnext, Option.some.injEq] at hc'
        subst hc'
        exact ⟨_, _, .moved past hrun (inv.run hrun) hold hmover hstep hmove hnext hid⟩
      · obtain ⟨hothers, chunks, hfed, hfeeds⟩ := fed_of_step (inv.run hrun) hold hmover hstep
        rw [hfed, Option.some.injEq] at hc'
        subst hc'
        exact ⟨_, _, .fed past hrun (inv.run hrun) hold hmover hstep hothers hfeeds⟩

theorem Course.tenure {owed : Nat} {start r : Relay} {steps : List (Bool × Action)}
    {effects : List Effect} {g first last : Nat} {c : Connection} (inv : Inv owed start)
    (h : Course owed start g steps effects r c first last) :
    Tenure start steps c.id g first last := by
  induction h with
  | born run step absent _ born => exact .begin inv run step absent born.owner
  | fed past run _ here _ step _ _ ih =>
    obtain ⟨hlt, -⟩ := List.getElem?_eq_some_iff.mp here
    rw [Connection.feed_id]
    exact ih.step run step (owner_back step hlt)
  | moved past run _ here _ step move next same ih =>
    obtain ⟨hlt, -⟩ := List.getElem?_eq_some_iff.mp here
    have htenure := ih.step run step (owner_back step hlt)
    rw [enter_table] at htenure
    simp only [same]
    exact htenure

end TunnelAgent.Relay
