import TunnelAgent.Proofs.Relay.Course
import TunnelAgent.Proofs.Relay.Reuse

/-! # When the gateway is told that a connection is over

A connection loses its id to the gateway, to `remove`, to `shutdown`, or to its own tasks. Only in
the last case does it report: one CLOSE, its last frame. Whoever takes the id out of the table
decides, so an account of the frames is kept together with the step that took it out. -/

namespace TunnelAgent.Relay

/-- The frames queued on behalf of connection `g`, in order. -/
def frames (g : Nat) (effects : List Effect) : List SocketData :=
  effects.filterMap fun effect => match effect with
    | .queued k data => if k = g then some data else none
    | _ => none

/-- CLOSE is still to be sent. -/
def Stage.reports : Stage → Bool
  | withdrawing _ => true
  | forwarding .reporting _ => true
  | _ => false

/-- Nothing is left to be sent. -/
def Stage.spent : Stage → Bool
  | abandoned => true
  | forwarding .ended _ => true
  | _ => false

/-- The steps that take `id` from connection `g`. -/
inductive Removes (id : UInt32) (g : Nat) (writerOpen : Bool) : Action → Prop where
  | closed (now : Nat) (payload : Bytes)
      (frame : SocketData.format.decode payload = .ok ⟨id, .close⟩) :
      Removes id g writerOpen (.handle now payload)
  | removed : Removes id g writerOpen (.remove id)
  | shutdown : Removes id g writerOpen .shutdown
  | unannounced (refused : ¬ Sendable writerOpen ⟨id, .start⟩) :
      Removes id g writerOpen (.announce g)
  | detached : Removes id g writerOpen (.detach g)

/-- What the gateway sends takes an id out of the table only as a `close` for it. -/
theorem close_of_take {r : Relay} {now g : Nat} {data : SocketData} {id : UInt32}
    (howner : r.table.lookup id = some g) (hlost : (r.take now data).table.lookup id ≠ some g) :
    data = ⟨id, .close⟩ := by
  obtain ⟨k, event⟩ := data
  cases event with
  | start =>
    refine absurd ?_ hlost
    simp only [take, accept, insert]
    by_cases h : r.isOpen k = true
    · rw [if_pos h]
      exact howner
    · rw [if_neg h]
      exact lookup_insert (by simpa using h) howner
  | data bytes =>
    refine absurd ?_ hlost
    simp only [take, receive]
    split
    · exact howner
    · rw [post_table]
      exact howner
  | close =>
    simp only [take, lookup_remove] at hlost
    by_cases h : id = k
    · rw [h]
    · rw [if_neg h] at hlost
      exact absurd howner hlost

theorem removes_of_step {owed g : Nat} {w : Bool} {action : Action} {r r' : Relay} {id : UInt32}
    {effects : List Effect} (inv : Inv owed r) (h : r.step w action = some (r', effects))
    (howner : r.table.lookup id = some g) (hlost : r'.table.lookup id ≠ some g) :
    Removes id g w action := by
  cases hmover : action.mover? with
  | some k =>
    obtain ⟨c, base, stage, hc, hmove, rfl⟩ := moves_of_step hmover h
    rw [enter_table] at hlost
    by_cases hk : k = g
    · subst hk
      have hid : c.id = id := inv.id_of_owner hc howner
      cases hmove with
      | unannounced _ refused => exact .unannounced (hid ▸ refused)
      | withdrew => exact .detached
      | detached => exact .detached
      | _ => exact absurd howner hlost
    · exact absurd (((hmove.apart hk).2 id).mpr howner) hlost
  | none =>
    cases action with
    | handle now payload =>
      simp only [step, handle] at h
      cases hdata : SocketData.format.decode payload with
      | ok data =>
        rw [hdata] at h
        cases h
        obtain rfl := close_of_take howner hlost
        exact .closed now payload hdata
      | error fault =>
        rw [hdata] at h
        cases h
        exact absurd howner hlost
    | remove k =>
      cases h
      rw [lookup_remove] at hlost
      by_cases hk : id = k
      · rw [← hk]
        exact .removed
      · rw [if_neg hk] at hlost
        exact absurd howner hlost
    | shutdown => exact .shutdown
    | closePool => cases h; exact absurd howner hlost
    | openLocal now => cases h; exact absurd howner hlost
    | request opening now lasts =>
      obtain ⟨a, due, -, -, rfl⟩ := request_eq (quiet_eq_some h).1
      rw [polledOpening_table] at hlost
      exact absurd howner hlost
    | adopt opening =>
      obtain ⟨k, localCounter, -, hfree, rfl⟩ := adopt_eq (quiet_eq_some h).1
      exact absurd (lookup_insert hfree howner) hlost
    | _ => cases hmover

/-- Frames under `id`, none of them CLOSE. -/
def Talk (id : UInt32) (said : List SocketData) : Prop :=
  ∀ data ∈ said, data.connectionId = id ∧ data.event ≠ .close

theorem Talk.append {id : UInt32} {said more : List SocketData} (h : Talk id said)
    (h' : Talk id more) : Talk id (said ++ more) := by
  intro data hmem
  rcases List.mem_append.mp hmem with hmem | hmem
  · exact h data hmem
  · exact h' data hmem

theorem talk_one {id : UInt32} {event : SocketEvent} (h : event ≠ .close) :
    Talk id [⟨id, event⟩] := by
  intro data hmem
  rw [List.mem_singleton.mp hmem]
  exact ⟨rfl, h⟩

@[simp] theorem frames_append (g : Nat) (effects more : List Effect) :
    frames g (effects ++ more) = frames g effects ++ frames g more :=
  List.filterMap_append

@[simp] theorem frames_queued (g : Nat) (data : SocketData) :
    frames g [.queued g data] = [data] := by
  simp [frames]

theorem frames_of_others {g : Nat} {effects : List Effect}
    (h : ∀ effect ∈ effects, effect.connection ≠ g) : frames g effects = [] := by
  refine List.filterMap_eq_nil_iff.mpr fun effect hmem => ?_
  have hother := h effect hmem
  cases effect with
  | queued k data => exact if_neg hother
  | _ => rfl

/-- What a move of connection `c` is to its reporting: it takes the id out of the table and is to
report that, or it reports, or it goes on as before. `own` says that the action is the one that
takes the id out; the connection had the id before and has it afterwards. -/
inductive Turn (w : Bool) (c : Connection) (own had has : Prop) (stage : Stage) :
    List SocketData → Prop where
  | took (mine : own) (owner : had) (lost : ¬ has) (due : stage.reports = true) :
      Turn w c own had has stage []
  | reported (same : has ↔ had) (due : c.stage.reports = true) (silent : stage.spent = true) :
      Turn w c own had has stage (if w then [⟨c.id, .close⟩] else [])
  | kept {said : List SocketData} (other : had → ¬ has → ¬ own)
      (same : stage.reports = c.stage.reports) (spent : c.stage.spent = true → stage.spent = true)
      (talk : Talk c.id said) (still : c.stage.reports = true ∨ c.stage.spent = true → said = []) :
      Turn w c own had has stage said

theorem frames_attempt_close (w : Bool) (g : Nat) (id : UInt32) :
    frames g (attempt w g ⟨id, .close⟩) = if w then [⟨id, .close⟩] else [] := by
  cases w with
  | true =>
    have hsendable : Sendable true ⟨id, .close⟩ := sendable_small id (by decide)
    rw [attempt, send_eq_ok_iff.mpr ⟨hsendable, rfl⟩]
    simp
  | false =>
    obtain ⟨fault, hsend⟩ := send_eq_error g fun h : Sendable false ⟨id, .close⟩ =>
      Bool.false_ne_true h.1
    rw [attempt, hsend]
    rfl

theorem Move.turn {w : Bool} {action : Action} {r base : Relay} {g : Nat} {c : Connection}
    {stage : Stage} {more : List Effect} (h : Move w r g c action base stage more) :
    Turn w c (action = .detach g) (r.table.lookup c.id = some g) (base.table.lookup c.id = some g)
      stage (frames g more) := by
  have hlost : (r.remove c.id).2.table.lookup c.id ≠ some g := by
    rw [lookup_remove, if_pos rfl]
    simp
  have hquiet : Talk c.id [] := by simp [Talk]
  have hnone : frames g [] = [] := rfl
  have hdown : ∀ {own : Prop} {up : Uplink} {down down' : Downlink},
      c.stage = .forwarding up down → ¬ own →
      Turn w c own (r.table.lookup c.id = some g) (r.table.lookup c.id = some g)
        (.forwarding up down') [] := by
    intro own up down down' hstage hother
    refine .kept (fun _ _ => hother) ?_ ?_ hquiet fun _ => rfl
    · rw [hstage]
      cases up <;> rfl
    · rw [hstage]
      cases up <;> simp [Stage.spent]
  cases h with
  | withdrew holding hstage howner => exact .took rfl howner hlost rfl
  | detached down hstage howner => exact .took rfl howner hlost rfl
  | reportedSetup holding hstage =>
    rw [frames_attempt_close]
    exact .reported Iff.rfl (by rw [hstage]; rfl) rfl
  | reported down hstage =>
    rw [frames_attempt_close]
    exact .reported Iff.rfl (by rw [hstage]; rfl) rfl
  | announced hstage _ =>
    rw [frames_queued]
    exact .kept (by simp) (by rw [hstage]; rfl) (by rw [hstage]; simp [Stage.spent])
      (talk_one (by simp)) (by simp [hstage, Stage.reports, Stage.spent])
  | forwarded bytes down hstage _ _ _ =>
    rw [frames_queued]
    exact .kept (by simp) rfl id (talk_one (by simp)) (by simp [hstage, Stage.reports, Stage.spent])
  | polled a due now lasts hstage _ =>
    refine .kept (by simp) ?_ (by simp [hstage, Stage.spent]) hquiet fun _ => hnone
    rw [hstage]
    rcases poll_cases r.pool a with ⟨hpoll, -⟩ | ⟨e, hpoll⟩ | hpoll <;> rw [hpoll] <;> rfl
  | gaveUp holding hstage other =>
    exact .kept (fun howner => absurd howner other) (by rw [hstage]; rfl) (fun _ => rfl) hquiet
      fun _ => hnone
  | wasDetached down hstage other =>
    exact .kept (fun howner => absurd howner other) (by rw [hstage]; rfl) (fun _ => rfl) hquiet
      fun _ => hnone
  | wrote count rest up hstage => exact hdown hstage (by simp)
  | took bytes queue up hstage _ => exact hdown hstage (by simp)
  | tookClose queue up hstage _ => exact hdown hstage (by simp)
  | writeFailed rest up hstage => exact hdown hstage (by simp)
  | shut up hstage => exact hdown hstage (by simp)
  | _ =>
    exact .kept (by simp) (by simp [*, Stage.reports]) (by simp [*, Stage.spent]) hquiet
      fun _ => hnone

theorem Stage.reports_of_spent {stage : Stage} (h : stage.spent = true) :
    stage.reports = false := by
  cases stage with
  | forwarding up down => cases up <;> simp_all [spent, reports]
  | _ => simp_all [spent, reports]

/-- The frames of connection `g` accounted for by the step that took its id, if one has, and by
where it stands now; the writer was open or not in the steps after that one. -/
inductive Account (id : UInt32) (g : Nat) (said : List SocketData) (stage : Stage)
    (removal : Option (Bool × Action)) (later : List (Bool × Action)) : Prop where
  | silent (talk : Talk id said) (quiet : stage.reports = false)
      (other : ∀ w, removal ≠ some (w, .detach g))
  | due (talk : Talk id said) (due : stage.reports = true) (w : Bool)
      (own : removal = some (w, .detach g))
  | told (talk : List SocketData) (clean : Talk id talk) (said : said = talk ++ [⟨id, .close⟩])
      (silent : stage.spent = true) (w : Bool) (own : removal = some (w, .detach g))
  | missed (talk : Talk id said) (silent : stage.spent = true) (w : Bool)
      (own : removal = some (w, .detach g)) (closed : ∃ step ∈ later, step.1 = false)

section account
variable {g : Nat} {c : Connection} {said more : List SocketData} {stage : Stage} {w : Bool}
  {action : Action} {removal : Option (Bool × Action)} {later : List (Bool × Action)}
  {had has : Prop}

theorem Account.step [Decidable had] [Decidable has]
    (h : Account c.id g said c.stage removal later) (hlive : had → removal = none)
    (hback : has → had) (turn : Turn w c (action = .detach g) had has stage more) :
    Account c.id g (said ++ more) stage
      (if has then none else if had then some (w, action) else removal)
      (if had then [] else later ++ [(w, action)]) := by
  have hgone : ∀ {v : Bool}, removal = some (v, .detach g) → ¬ had := by
    intro v hown howner
    rw [hlive howner] at hown
    cases hown
  have hstays : ¬ had → ¬ has := fun hlost howner => hlost (hback howner)
  -- In all cases but the first the id is gone already: whoever took it has decided the account.
  cases h with
  | silent talk quiet other =>
    cases turn with
    | took mine owner lost due =>
      rw [if_neg lost, if_pos owner, List.append_nil, mine]
      exact .due talk due w rfl
    | reported same due silent =>
      rw [quiet] at due
      cases due
    | kept hother same spent hmore still =>
      refine .silent (talk.append hmore) (same.trans quiet) ?_
      intro v hv
      by_cases howner : has
      · rw [if_pos howner] at hv
        cases hv
      · by_cases hbefore : had
        · rw [if_neg howner, if_pos hbefore, Option.some.injEq, Prod.mk.injEq] at hv
          exact hother hbefore howner hv.2
        · rw [if_neg howner, if_neg hbefore] at hv
          exact other v hv
  | due talk due v own =>
    have hlost := hgone own
    rw [if_neg (hstays hlost), if_neg hlost, if_neg hlost]
    cases turn with
    | took mine owner lost due => exact absurd owner hlost
    | reported same due silent =>
      cases w with
      | true => exact .told said talk rfl silent v own
      | false =>
        refine .missed ?_ silent v own ⟨_, List.mem_append_right _ (List.mem_singleton_self _), rfl⟩
        simpa using talk
    | kept hother same spent hmore still =>
      rw [still (.inl due), List.append_nil]
      exact .due talk (same.trans due) v own
  | told talk clean hsaid silent v own =>
    have hlost := hgone own
    rw [if_neg (hstays hlost), if_neg hlost, if_neg hlost]
    cases turn with
    | took mine owner lost due => exact absurd owner hlost
    | reported same due silent' =>
      rw [Stage.reports_of_spent silent] at due
      cases due
    | kept hother same spent hmore still =>
      rw [still (.inr silent), List.append_nil]
      exact .told talk clean hsaid (spent silent) v own
  | missed talk silent v own closed =>
    have hlost := hgone own
    rw [if_neg (hstays hlost), if_neg hlost, if_neg hlost]
    cases turn with
    | took mine owner lost due => exact absurd owner hlost
    | reported same due silent' =>
      rw [Stage.reports_of_spent silent] at due
      cases due
    | kept hother same spent hmore still =>
      rw [still (.inr silent), List.append_nil]
      obtain ⟨step, hmem, hclosed⟩ := closed
      exact .missed talk (spent silent) v own ⟨step, List.mem_append_left _ hmem, hclosed⟩

end account

theorem Tenure.last_lt {start r : Relay} {steps : List (Bool × Action)} {effects : List Effect}
    {id : UInt32} {g first last : Nat} (h : Tenure start steps id g first last)
    (hrun : start.run steps = some (r, effects)) (hlost : r.table.lookup id ≠ some g) :
    last < steps.length := by
  rw [← List.take_length (l := steps)] at hrun
  refine Nat.lt_of_not_le fun hle => hlost ((h.owner (Nat.le_refl _) hrun).mpr ⟨?_, hle⟩)
  exact Nat.le_trans h.ordered h.bound

/-- The step at the end of a tenure takes the id. -/
theorem Tenure.removal {owed : Nat} {start r : Relay} {steps : List (Bool × Action)}
    {effects : List Effect} {id : UInt32} {g first last : Nat} {w : Bool} {action : Action}
    (inv : Inv owed start) (h : Tenure start steps id g first last)
    (hrun : start.run steps = some (r, effects)) (hlast : steps[last]? = some (w, action)) :
    Removes id g w action := by
  -- The run is cut on both sides of the step: before it the id is in hand, after it it is not.
  obtain ⟨hlt, hget⟩ := List.getElem?_eq_some_iff.mp hlast
  have htake : steps.take (last + 1) = steps.take last ++ [(w, action)] := by
    rw [List.take_succ_eq_append_getElem hlt, hget]
  rw [← List.take_append_drop (last + 1) steps, htake] at hrun
  obtain ⟨t, now, later, hnow, -, -⟩ := run_split hrun
  obtain ⟨s, before, here, hbefore, hhere, rfl⟩ := run_split hnow
  obtain ⟨t, effects, more, hstep, hnil, rfl⟩ := run_cons.mp hhere
  cases hnil
  have howner : s.table.lookup id = some g :=
    (h.owner h.bound hbefore).mpr ⟨h.ordered, Nat.le_refl _⟩
  refine removes_of_step (inv.run hbefore) hstep howner fun hkept => ?_
  rw [← htake] at hnow
  obtain ⟨-, hle⟩ := (h.owner hlt hnow).mp hkept
  exact absurd hle (Nat.not_succ_le_self last)

/-- What takes the id, and what comes after it, with one more step. -/
theorem removal_snoc {steps : List (Bool × Action)} {last : Nat} {had has : Prop} [Decidable had]
    [Decidable has] (step : Bool × Action) (hhad : had → last = steps.length)
    (hlost : ¬ had → last < steps.length) (hback : has → had) :
    (steps ++ [step])[if has then steps.length + 1 else last]? =
        (if has then none else if had then some step else steps[last]?) ∧
      (steps ++ [step]).drop ((if has then steps.length + 1 else last) + 1) =
        if had then [] else steps.drop (last + 1) ++ [step] := by
  by_cases hafter : has
  · rw [if_pos hafter, if_pos hafter, if_pos (hback hafter)]
    constructor
    · exact List.getElem?_eq_none (by simp)
    · exact List.drop_eq_nil_of_le (by simp)
  rw [if_neg hafter, if_neg hafter]
  by_cases hbefore : had
  · rw [if_pos hbefore, if_pos hbefore, hhad hbefore]
    constructor
    · simp
    · exact List.drop_eq_nil_of_le (by simp)
  · have hlt := hlost hbefore
    rw [if_neg hbefore, if_neg hbefore]
    constructor
    · exact List.getElem?_append_left hlt
    · exact List.drop_append_of_le_length hlt

theorem Course.account {owed : Nat} {start r : Relay} {steps : List (Bool × Action)}
    {effects : List Effect} {g first last : Nat} {c : Connection} (inv : Inv owed start)
    (h : Course owed start g steps effects r c first last) :
    Account c.id g (frames g effects) c.stage steps[last]? (steps.drop (last + 1)) := by
  induction h with
  | born run step absent others born =>
    have hquiet : ∀ {stage : Stage}, (∃ a due, stage = .acquiring a due) ∨ stage = .announcing →
        stage.reports = false := by
      rintro stage (⟨a, due, rfl⟩ | rfl) <;> rfl
    rw [frames_of_others others]
    refine .silent (by simp [Talk]) (hquiet born.stage) ?_
    rw [List.getElem?_eq_none (by simp)]
    simp
  | @fed steps effects r c first last w action r' more chunks past run _ here mover step others
      feeds ih =>
    obtain ⟨hlt, -⟩ := List.getElem?_eq_some_iff.mp here
    have htenure := past.tenure inv
    have hback : r'.table.lookup c.id = some g → r.table.lookup c.id = some g :=
      owner_back step hlt
    obtain ⟨hremoval, hlater⟩ := removal_snoc (w, action) (htenure.last_eq run)
      (htenure.last_lt run) hback
    have hother : action ≠ .detach g := fun hown => mover (by rw [hown]; rfl)
    rw [Connection.feed_id, Connection.feed_stage, frames_append, frames_of_others others, hremoval,
      hlater]
    refine ih.step (fun howner => ?_) hback
      (.kept (fun _ _ => hother) rfl id (by simp [Talk]) fun _ => rfl)
    exact List.getElem?_eq_none (Nat.le_of_eq (htenure.last_eq run howner).symm)
  | @moved steps effects r c first last w action base stage more d past run _ here mover step move
      next same ih =>
    obtain ⟨hlt, -⟩ := List.getElem?_eq_some_iff.mp here
    have htenure := past.tenure inv
    have hback : base.table.lookup c.id = some g → r.table.lookup c.id = some g := by
      intro howner
      refine owner_back step hlt ?_
      rwa [enter_table]
    obtain ⟨hremoval, hlater⟩ := removal_snoc (w, action) (htenure.last_eq run)
      (htenure.last_lt run) hback
    simp only [same]
    rw [frames_append, hremoval, hlater]
    refine ih.step (fun howner => ?_) hback move.turn
    exact List.getElem?_eq_none (Nat.le_of_eq (htenure.last_eq run howner).symm)

theorem report_queues {r : Relay} {g : Nat} {c : Connection} (hc : r.connections[g]? = some c)
    (hdue : c.stage.reports = true) :
    ∃ r', r.step true (.report g) = some (r', [.queued g ⟨c.id, .close⟩]) := by
  have hsendable : Sendable true ⟨c.id, .close⟩ := sendable_small c.id (by decide)
  have hattempt : attempt true g ⟨c.id, .close⟩ = [.queued g ⟨c.id, .close⟩] := by
    rw [attempt, send_eq_ok_iff.mpr ⟨hsendable, rfl⟩]
  rw [← hattempt]
  cases hstage : c.stage with
  | withdrawing holding => exact ⟨_, step_of_move hc (.reportedSetup holding hstage)⟩
  | forwarding up down =>
    cases up with
    | reporting => exact ⟨_, step_of_move hc (.reported down hstage)⟩
    | _ =>
      rw [hstage] at hdue
      cases hdue
  | _ =>
    rw [hstage] at hdue
    cases hdue

theorem start_again {r : Relay} {id : UInt32} {payload : Bytes} (w : Bool) (now : Nat)
    (hstart : SocketData.format.decode payload = .ok ⟨id, .start⟩) (hlive : r.isOpen id = true) :
    r.step w (.handle now payload) = some (r, []) := by
  simp [step, handle, hstart, take, accept, insert, hlive]

/-- In every run the frames of a connection are START and CONTINUE under its id, and behind them at
most one CLOSE. There is none while it has the id, nor if something else than its own tasks took
it: the gateway's CLOSE, `remove`, `shutdown`, or a START that could not be queued. If its own tasks
took it and the writer is open after that, there is one, or it is the next thing they do. A START
for a live id does nothing. -/
theorem reported_once {pool : Pool} {bufferSize g : Nat} {steps : List (Bool × Action)} {r : Relay}
    {effects : List Effect} {c : Connection} (hpool : pool.available ≤ pool.capacity)
    (hrun : Relay.run steps { pool, bufferSize } = some (r, effects))
    (hc : r.connections[g]? = some c) :
    ∃ first last talk, Tenure { pool, bufferSize } steps c.id g first last ∧
      (∀ data ∈ talk, data.connectionId = c.id ∧ data.event ≠ .close) ∧
      (frames g effects = talk ∨ frames g effects = talk ++ [⟨c.id, .close⟩]) ∧
      (∀ w action, steps[last]? = some (w, action) → Removes c.id g w action) ∧
      ((∀ w, steps[last]? ≠ some (w, .detach g)) → frames g effects = talk) ∧
      (∀ w, steps[last]? = some (w, .detach g) →
        (∀ step ∈ steps.drop (last + 1), step.1 = true) →
          frames g effects = talk ++ [⟨c.id, .close⟩] ∨
          frames g effects = talk ∧
            ∃ r', r.step true (.report g) = some (r', [.queued g ⟨c.id, .close⟩])) ∧
      ∀ id w now payload, SocketData.format.decode payload = .ok ⟨id, .start⟩ →
        r.isOpen id = true → r.step w (.handle now payload) = some (r, []) := by
  have inv : Inv (pool.capacity - pool.available) { pool, bufferSize } :=
    .fresh (Nat.add_sub_cancel' hpool)
  obtain ⟨first, last, hcourse⟩ := course_of_run inv rfl hrun hc
  have htenure := hcourse.tenure inv
  have hremoves : ∀ w action, steps[last]? = some (w, action) → Removes c.id g w action :=
    fun _ _ => htenure.removal inv hrun
  have hagain : ∀ id w now payload, SocketData.format.decode payload = .ok ⟨id, .start⟩ →
      r.isOpen id = true → r.step w (.handle now payload) = some (r, []) :=
    fun id w now payload hstart hlive => start_again w now hstart hlive
  cases hcourse.account inv with
  | silent talk quiet other =>
    refine ⟨first, last, _, htenure, talk, .inl rfl, hremoves, fun _ => rfl, ?_, hagain⟩
    intro w hown
    exact absurd hown (other w)
  | due talk due w own =>
    refine ⟨first, last, _, htenure, talk, .inl rfl, hremoves, fun _ => rfl, ?_, hagain⟩
    intro _ _ _
    exact .inr ⟨rfl, report_queues hc due⟩
  | told talk clean said silent w own =>
    refine ⟨first, last, talk, htenure, clean, .inr said, hremoves, ?_, fun _ _ _ => .inl said,
      hagain⟩
    intro hother
    exact absurd own (hother w)
  | missed talk silent w own closed =>
    refine ⟨first, last, _, htenure, talk, .inl rfl, hremoves, fun _ => rfl, ?_, hagain⟩
    intro _ _ hopen
    obtain ⟨step, hmem, hclosed⟩ := closed
    rw [hopen step hmem] at hclosed
    cases hclosed

theorem reported_once_after_both_close :
    ∃ steps r effects talk,
      steps = [(true, .handle 0 (SocketData.format.write ⟨7, .start⟩)), (true, .poll 0 0 1),
        (true, .dialed 0 true), (true, .handle 0 (SocketData.format.write ⟨7, .start⟩)),
        (true, .readLocal 0 [5]), (true, .localEnded 0), (true, .detach 0),
        (true, .handle 0 (SocketData.format.write ⟨7, .close⟩)), (true, .report 0), (true, .next 0),
        (true, .shutLocal 0)] ∧
      Relay.run steps
        { pool := { capacity := 8, retryAttempts := 0, retryInterval := 1 }, bufferSize := 1024 } =
          some (r, effects) ∧
      Talk 7 talk ∧ frames 0 effects = talk ++ [⟨7, .close⟩] := by
  have hrun : Relay.run
      [(true, .handle 0 (SocketData.format.write ⟨7, .start⟩)), (true, .poll 0 0 1),
        (true, .dialed 0 true), (true, .handle 0 (SocketData.format.write ⟨7, .start⟩)),
        (true, .readLocal 0 [5]), (true, .localEnded 0), (true, .detach 0),
        (true, .handle 0 (SocketData.format.write ⟨7, .close⟩)), (true, .report 0), (true, .next 0),
        (true, .shutLocal 0)]
      { pool := { capacity := 8, retryAttempts := 0, retryInterval := 1 }, bufferSize := 1024 } =
        some (_, _) := rfl
  obtain ⟨first, last, talk, -, hclean, hframes, -⟩ :=
    reported_once (g := 0) (c := ⟨7, [], .forwarding .ended .ended⟩) (Nat.le_refl _) hrun rfl
  refine ⟨_, _, _, talk, rfl, hrun, hclean, hframes.resolve_left fun htalk => ?_⟩
  obtain ⟨-, hevent⟩ := hclean ⟨7, .close⟩ (by rw [← htalk]; decide)
  exact hevent rfl

end TunnelAgent.Relay
