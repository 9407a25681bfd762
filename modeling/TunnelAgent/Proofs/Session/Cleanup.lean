import TunnelAgent.Proofs.Relay.Sharing
import TunnelAgent.Proofs.Session.Cause

/-! # What a session leaves behind

However a session ends, it is neither live nor to be found afterwards, its transport is closed, and
its relay has no live ids: every connection that had one has been sent its `close`. -/

namespace TunnelAgent

namespace Relay

variable {r r' : Relay} {action : Action} {writerOpen : Bool} {effects : List Effect}

/-- The table holds the connections by age, the latest first, and nothing is about to come in that
the gateway has not started. -/
structure Orderly (r : Relay) : Prop where
  generations : r.table.Pairwise fun entry older => older.2 < entry.2
  bound : ∀ entry ∈ r.table, entry.2 < r.nextGeneration
  openings : r.openings = []

theorem Orderly.of_sublist (h : r.Orderly) (htable : r'.table.Sublist r.table)
    (hbound : r.nextGeneration ≤ r'.nextGeneration) (hopenings : r'.openings = r.openings) :
    r'.Orderly := by
  refine ⟨h.generations.sublist htable, ?_, hopenings.trans h.openings⟩
  intro entry hentry
  exact Nat.lt_of_lt_of_le (h.bound entry (htable.subset hentry)) hbound

theorem remove_sublist (r : Relay) (id : UInt32) : (r.remove id).2.table.Sublist r.table := by
  rw [remove_table]
  exact List.filter_sublist

theorem Move.table {g : Nat} {c : Connection} {base : Relay} {stage : Stage}
    (h : Move writerOpen r g c action base stage effects) : base.table.Sublist r.table := by
  cases h with
  | unannounced =>
    rw [removeOwn_eq]
    split
    · exact remove_sublist r c.id
    · exact .refl _
  | withdrew | detached => exact remove_sublist r c.id
  | _ => exact .refl _

/-- The relay's own steps only take ids out of the table. -/
theorem Orderly.step (h : r.Orderly) (hown : Session.isRelays action = true)
    (hstep : r.step writerOpen action = some (r', effects)) :
    r'.Orderly ∧ r'.table.Sublist r.table := by
  cases hmover : action.mover? with
  | some g =>
    obtain ⟨c, base, stage, -, hmove, rfl⟩ := moves_of_step hmover hstep
    have htable : (base.enter g stage).table.Sublist r.table := by
      rw [enter_table]
      exact hmove.table
    refine ⟨h.of_sublist htable (step_bound hstep) ?_, htable⟩
    rw [enter_openings, hmove.openings]
  | none =>
    cases action with
    | closePool =>
      cases hstep
      exact ⟨⟨h.generations, h.bound, h.openings⟩, .refl _⟩
    | request opening now lasts =>
      obtain ⟨hrequest, -⟩ := quiet_eq_some hstep
      simp [request, h.openings] at hrequest
    | adopt opening =>
      obtain ⟨hadopt, -⟩ := quiet_eq_some hstep
      simp [adopt, h.openings] at hadopt
    | handle | remove | shutdown | openLocal => cases hown
    | _ => cases hmover

theorem Orderly.take (h : r.Orderly) (now : Nat) (data : SocketData) : (r.take now data).Orderly := by
  have hopenings := take_openings r now data
  obtain ⟨id, event⟩ := data
  cases event with
  | start =>
    simp only [Relay.take, accept, insert] at hopenings ⊢
    split
    · exact h
    · refine ⟨List.pairwise_cons.mpr ⟨h.bound, h.generations⟩, ?_, h.openings⟩
      intro entry hentry
      simp only [Option.getD_some, nextGeneration, List.length_append, List.length_singleton] at hentry ⊢
      rcases List.mem_cons.mp hentry with rfl | hentry
      · exact Nat.lt_succ_self _
      · exact Nat.lt_succ_of_lt (h.bound entry hentry)
  | data bytes =>
    simp only [Relay.take, receive] at hopenings ⊢
    split
    · exact h
    · exact h.of_sublist (.refl _) (Nat.le_of_eq (post_nextGeneration ..).symm) rfl
  | close =>
    exact h.of_sublist (remove_sublist r id) (Nat.le_of_eq (remove_nextGeneration r id).symm) hopenings

/-- A `close` for each connection that has an id, and nothing for the others. -/
theorem Orderly.getElem?_shutdown (h : r.Orderly) (k : Nat) :
    r.shutdown.connections[k]? = r.connections[k]?.map
      (Connection.feed (if k ∈ r.table.map (·.2) then [.close] else [])) := by
  have hnodup : (r.table.map (·.2)).Nodup := by
    refine List.pairwise_map.mpr (h.generations.imp fun hlt => ?_)
    exact Nat.ne_of_gt hlt
  have hcount : r.table.countP (·.2 = k) = if k ∈ r.table.map (·.2) then 1 else 0 := by
    rw [← hnodup.count, List.count, List.countP_map]
    congr 1
  rw [shutdown_eq, getElem?_closeAll, hcount]
  split <;> rfl

theorem orderly_shutdown (h : r.Orderly) : r.shutdown.Orderly ∧ r.shutdown.table = [] := by
  have htable : r.shutdown.table = [] := by rw [shutdown_eq, closeAll_table]
  have hopenings : r.shutdown.openings = r.openings := by rw [shutdown_eq, closeAll_openings]
  refine ⟨⟨?_, ?_, hopenings.trans h.openings⟩, htable⟩ <;> rw [htable]
  · exact .nil
  · exact nofun

end Relay

namespace Session

variable {settings : Settings} {s s' : Session} {d d' : Diary} {event : Event}
  {met : Option (Except Setback Frame)} {result : Except SessionFault Unit}

/-! ## The relay of a session -/

/-- Ids are live only while the session dispatches. -/
structure Tidy (s : Session) : Prop where
  relay : s.relay.Orderly
  idle : s.point ≠ .dispatching → s.relay.table = []

theorem Tidy.same (h : Tidy s) (hrelay : s'.relay = s.relay)
    (hpoint : s.point = .dispatching → s'.point = .dispatching) : Tidy s' := by
  refine ⟨hrelay ▸ h.relay, ?_⟩
  intro hother
  rw [hrelay]
  exact h.idle fun hdisp => hother (hpoint hdisp)

theorem tidy_leave {t : Session} (h : t.relay.Orderly) (fault : TransportFault) :
    Tidy (t.leave fault) := by
  obtain ⟨horderly, htable⟩ := Relay.orderly_shutdown h
  exact ⟨horderly, fun _ => htable⟩

theorem orderly_dispatch {frame : Frame} {reader : Reader} {t : Session}
    {outcome : Except TransportFault Unit} (h : s.relay.Orderly)
    (hdispatch : handlers.dispatch frame { s with reader } = (outcome, t)) : t.relay.Orderly := by
  rcases (tended_of_dispatch hdispatch).relay with hsame | ⟨data, htake⟩
  · exact hsame ▸ h
  · exact htake ▸ h.take _ _

theorem not_dispatching_of_early (h : s.point.isEarly = true) : s.point ≠ .dispatching := by
  intro hpoint
  rw [hpoint] at h
  cases h

theorem Tidy.turn (h : Tidy s) (hturn : Turn s event met s') : Tidy s' := by
  cases hturn with
  | relayed hreached hown hstep =>
    obtain ⟨horderly, hsub⟩ := h.relay.step hown hstep
    refine ⟨horderly, ?_⟩
    intro hother
    exact List.sublist_nil.mp (h.idle hother ▸ hsub)
  | left => exact tidy_leave h.relay _
  | @lost _ _ fault reader => exact tidy_leave (t := { s with reader }) h.relay _
  | unhandled _ _ _ hdispatch => exact tidy_leave (orderly_dispatch h.relay hdispatch) _
  | handled hpoint _ _ hdispatch =>
    refine ⟨orderly_dispatch h.relay hdispatch, ?_⟩
    intro hother
    exact absurd ((handled_of_dispatch hdispatch).point.trans hpoint) hother
  | opened => exact h.same rfl fun _ => rfl
  | connected hpoint | unconnected hpoint | greeted hpoint | put hpoint | unwritten hpoint
  | admitted hpoint | refused hpoint | accepted hpoint | declined hpoint =>
    refine h.same rfl fun hdisp => ?_
    cases hpoint.symm.trans hdisp
  | asked hasks | oversized hasks | stranded hasks =>
    exact h.same rfl fun hdisp => absurd hdisp (not_dispatching_of_early hasks.early)
  | shut hawaits | unread hawaits =>
    exact h.same rfl fun hdisp => absurd hdisp (not_dispatching_of_early hawaits.early)
  | _ => exact h.same rfl id

/-- When a session ends, every connection that has an id gets its `close`, and no other does. -/
theorem Tidy.close (h : Tidy s) (hmanned : s.outgoing.Manned) (hturn : Turn s event met s')
    (hgoing : s.result? = none) (hended : s'.result? ≠ none) (k : Nat) :
    s'.relay.connections[k]? = s.relay.connections[k]?.map (Relay.Connection.feed
      (if k ∈ s.relay.table.map (·.2) then [.close] else [])) := by
  have hidle : s.point ≠ .dispatching → s.relay.connections[k]? = s.relay.connections[k]?.map
      (Relay.Connection.feed (if k ∈ s.relay.table.map (·.2) then [.close] else [])) := by
    intro hother
    rw [h.idle hother]
    cases s.relay.connections[k]? <;> simp
  cases hmain : event.action.isMain with
  | false =>
    obtain ⟨-, haside⟩ := hturn.aside hmain
    rw [result?, haside.point] at hended
    exact absurd hgoing hended
  | true =>
    cases hturn with
    | left | lost => exact h.relay.getElem?_shutdown k
    | @unhandled _ _ frame reader _ _ hpoint hopen _ hdispatch =>
      rcases dispatch_of_open (s := { s with reader }) frame (hmanned.writing hopen) with
        ⟨-, text, hfail⟩ | ⟨-, hok⟩
      · cases hdispatch.symm.trans hfail
        exact h.relay.getElem?_shutdown k
      · rw [hdispatch] at hok
        cases hok
    | handled hpoint _ _ hdispatch =>
      have hpoint' : s'.point = .dispatching := (handled_of_dispatch hdispatch).point.trans hpoint
      simp [result?, hpoint'] at hended
    | connected hpoint | unconnected hpoint | greeted hpoint | put hpoint | unwritten hpoint
    | admitted hpoint | refused hpoint | accepted hpoint | declined hpoint | opened hpoint =>
      refine hidle fun hdisp => ?_
      cases hpoint.symm.trans hdisp
    | asked hasks | oversized hasks | stranded hasks =>
      exact hidle (not_dispatching_of_early hasks.early)
    | shut hawaits | unread hawaits => exact hidle (not_dispatching_of_early hawaits.early)
    | renewed haction | unrenewed haction =>
      rw [haction] at hmain
      cases hmain
    | _ => cases hmain

/-! ## When a session is live -/

/-- A session is live while it dispatches and is well. -/
def Lively (s : Session) (d : Diary) : Prop :=
  s.shared.live = true ↔ s.point = .dispatching ∧ d.unwell = false

theorem lively_conclude (fault : SessionFault) : Lively (s.conclude fault) d :=
  iff_of_false nofun nofun

/-- A step of the main task that has nothing to do with dispatching. -/
theorem Lively.same (h : Lively s d) (hlive : s'.shared.live = s.shared.live)
    (hbefore : s.point ≠ .dispatching) (hafter : s'.point ≠ .dispatching) : Lively s' d' :=
  iff_of_false (fun hyes => hbefore (h.mp (hlive.symm.trans hyes)).1) fun hyes => hafter hyes.1

theorem Lively.turn (h : Lively s d) (hcourse : Course settings s d)
    (hturn : Turn s event met s') : Lively s' (d.enter event met s s') := by
  cases hmain : event.action.isMain with
  | false =>
    obtain ⟨rfl, haside⟩ := hturn.aside hmain
    simp only [Lively, haside.live, haside.point, Diary.enter, Bool.and_eq_true, Bool.or_eq_false_iff,
      Bool.not_eq_true'] at h ⊢
    rw [h, and_assoc]
  | true =>
    cases hturn with
    | unconnected | unwritten | oversized | stranded | shut | unread | refused | declined | left | lost
    | unhandled => exact lively_conclude _
    | opened hpoint =>
      obtain ⟨frames, sent, -, houtset, -⟩ := hcourse.at hpoint rfl
      exact iff_of_true rfl ⟨rfl, houtset.well_enter⟩
    | handled _ _ _ hdispatch =>
      have hlive : s'.shared.live = s.shared.live := (tended_of_dispatch hdispatch).live
      have hsame : s'.point = s.point := (handled_of_dispatch hdispatch).point
      simp only [Lively, hlive, hsame, Diary.enter, fails_of_main hmain, Bool.or_false]
      exact h
    | connected hpoint | greeted hpoint | put hpoint | admitted hpoint | accepted hpoint =>
      refine h.same rfl (fun hdisp => ?_) fun hdisp => ?_
      · cases hpoint.symm.trans hdisp
      · cases hdisp
    | asked hasks =>
      refine h.same rfl (not_dispatching_of_early hasks.early) ?_
      intro hdisp
      cases hasks <;> cases hdisp
    | renewed haction | unrenewed haction =>
      rw [haction] at hmain
      cases hmain
    | _ => cases hmain

/-! ## The end -/

theorem Course.reached (h : Course settings s d) : s.reachedDispatching = d.entered := by
  cases h with
  | outset _ houtset => exact houtset.unreached.trans houtset.entered.symm
  | barred _ _ houtset => exact houtset.unreached.trans houtset.entered.symm
  | dispatching hdisp => exact hdisp.underway.reached.trans hdisp.underway.entered.symm
  | left _ hunderway => exact hunderway.reached.trans hunderway.entered.symm

theorem closed_iff_ok (h : s.phase = .ending result) :
    (s.phase = .closed ↔ result = .ok ()) ∧ (s.phase = .failed ↔ result ≠ .ok ()) := by
  rw [h]
  cases result <;> simp [Phase.ending]

/-- Every end of a session cleans up, whatever the gateway has sent in whatever phase, and whatever
has happened beside: what the result and the state are, that nothing shared still shows the session,
and that the connections it leaves behind have been sent their `close`. -/
theorem every_end_cleans_up {settings : Settings} {shared : Shared} {now : Duration}
    {capacity : Nat} {events : List Event}
    (hrun : Diary.run (.own (.connect (.ok ())) :: events) (start settings shared now capacity) {} =
      some (s, d)) :
    (∀ result, s.result? = some result →
      (s.phase = .closed ↔ result = .ok ()) ∧ (s.phase = .failed ↔ result ≠ .ok ()) ∧
      (result = .ok () ↔ d.setback = some .closed ∧ d.unwell = false ∧ d.stopping = true) ∧
      s.shared.live = false ∧ s.published = false ∧ s.outgoing.closed = true ∧
      s.relay.table = []) ∧
    s.reachedDispatching = d.entered ∧
    (∀ event t, s.next event = some t → s.result? = none → t.result? ≠ none →
      ∀ k, t.relay.connections[k]? = s.relay.connections[k]?.map (Relay.Connection.feed
        (if k ∈ s.relay.table.map (·.2) then [.close] else []))) ∧
    (shared.live = false →
      (s.shared.live = true ↔ s.point = .dispatching ∧ d.unwell = false)) := by
  have hstart : Tidy (connected settings shared now capacity) := by
    refine ⟨⟨.nil, ?_, rfl⟩, fun _ => rfl⟩
    intro entry hentry
    cases hentry
  obtain ⟨⟨hmanned, hcourse⟩, htidy⟩ := preserved_on_course (P := fun s _ => Tidy s) hrun hstart
    fun _ _ h hturn => h.turn hturn
  refine ⟨?_, hcourse.reached, ?_, ?_⟩
  · intro result hresult
    obtain ⟨hsettled, hends⟩ := hcourse.settled hresult
    obtain ⟨hclosed, hfailed⟩ := closed_iff_ok hsettled.phase
    refine ⟨hclosed, hfailed, hends.ok_iff.trans and_assoc, hsettled.live, hsettled.published,
      hsettled.closed, htidy.idle ?_⟩
    rw [hsettled.point]
    exact nofun
  · intro event t hnext hgoing hended
    exact htidy.close hmanned (turn_of_next hnext) hgoing hended
  · intro hbefore
    have hquiet : Lively (connected settings shared now capacity) { stopping := shared.shutdown } :=
      iff_of_false (fun hlive => Bool.false_ne_true (hbefore.symm.trans hlive)) nofun
    exact (preserved_on_course hrun hquiet fun _ hcourse h hturn => h.turn hcourse hturn).2

/-- The gateway opens a connection, and the agent is asked to stop. -/
def stoppedInUse : List Event :=
  letIn ++ [.own (.deliver (Envelope.encode 2 .socketData (SocketData.format.write ⟨7, .start⟩))),
    .own (.main [] 0), .own .shutdown, .own .watch, .own (.main [] 0)]

theorem every_end_cleans_up_stopped :
    ∃ s d, Diary.run (.own (.connect (.ok ())) :: stoppedInUse)
        (start plainSettings plainShared 0 4096) {} = some (s, d) ∧
      s.result? = some (.ok ()) ∧ s.phase = .closed ∧ s.shared.live = false ∧ s.published = false ∧
      s.relay.connections.map (·.queue) = [[.close]] := by
  have hrun : Diary.run (.own (.connect (.ok ())) :: stoppedInUse)
      (start plainSettings plainShared 0 4096) {} = some (_, _) := rfl
  obtain ⟨hends, -, -, -⟩ := every_end_cleans_up hrun
  obtain ⟨hclosed, -, -, hlive, hpublished, -⟩ := hends _ rfl
  exact ⟨_, _, hrun, rfl, hclosed.mpr rfl, hlive, hpublished, rfl⟩

end Session

end TunnelAgent
