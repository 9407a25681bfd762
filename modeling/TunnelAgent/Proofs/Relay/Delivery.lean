import TunnelAgent.Proofs.Relay.Course

/-! # What reaches a local socket

The bytes that the gateway sends for a connection wait in its queue, in the order of their frames,
until the downlink writes them; the `close` comes behind them all, since it is queued as the id is
lost. So what has been written, what is being written and what waits are together what has arrived,
and a downlink that ends at the `close` has written everything. -/

namespace TunnelAgent.Relay

/-- The bytes that an effect writes to the socket of connection `g`. -/
def Effect.bytesTo (g : Nat) : Effect → Bytes
  | wrote k bytes => if k = g then bytes else []
  | _ => []

/-- The bytes written to the socket of connection `g`. -/
def written (g : Nat) (effects : List Effect) : Bytes := effects.flatMap (Effect.bytesTo g)

/-- The downlink of a connection; before there is one, what arrives waits as it will wait for it. -/
def Stage.downlink? : Stage → Option Downlink
  | forwarding _ down => some down
  | abandoned => none
  | _ => some .receiving

theorem Stage.listens_iff (stage : Stage) :
    stage.listens = true ↔
      stage.downlink? = some .receiving ∨ ∃ rest, stage.downlink? = some (.writing rest) := by
  cases stage with
  | forwarding up down => cases down <;> simp [listens, downlink?]
  | _ => simp [listens, downlink?]

/-- Of the bytes that have arrived, all but those taken are in the queue, and behind them the
`close` once the id is lost. -/
def Queued (owned : Prop) (come taken : Bytes) (queue : List Chunk) : Prop :=
  ∃ data : List Bytes, come = taken ++ data.flatten ∧
    (owned ∧ queue = data.map .data ∨ ¬ owned ∧ queue = data.map .data ++ [.close])

/-- How the bytes that have come for a connection and those written to its socket stand to each
other. A downlink that is over has written them all, and no more can come, unless a write of it has
failed. -/
def Flow (owned broken : Prop) (come out : Bytes) (queue : List Chunk) : Option Downlink → Prop
  | some .receiving => Queued owned come out queue
  | some (.writing rest) => Queued owned come (out ++ rest) queue
  | some .shutting => out <+: come ∧ (¬ broken → ¬ owned ∧ out = come)
  | some .ended => out <+: come ∧ (¬ broken → ¬ owned ∧ out = come)
  | none => out <+: come

section flow
variable {owned owned' broken broken' : Prop} {come out taken more : Bytes} {queue : List Chunk}
  {down : Option Downlink}

theorem Queued.part (h : Queued owned come taken queue) : taken <+: come := by
  obtain ⟨data, rfl, -⟩ := h
  exact List.prefix_append _ _

theorem Queued.bytes (h : Queued owned come taken queue) (howned : owned) :
    Queued owned (come ++ more) taken (queue ++ [.data more]) := by
  obtain ⟨data, rfl, ⟨-, rfl⟩ | ⟨hlost, -⟩⟩ := h
  · exact ⟨data ++ [more], by simp, .inl ⟨howned, by simp⟩⟩
  · exact absurd howned hlost

theorem Queued.close (h : Queued owned come taken queue) (howned : owned) (hlost : ¬ owned') :
    Queued owned' come taken (queue ++ [.close]) := by
  obtain ⟨data, rfl, ⟨-, rfl⟩ | ⟨hother, -⟩⟩ := h
  · exact ⟨data, rfl, .inr ⟨hlost, rfl⟩⟩
  · exact absurd howned hother

theorem Queued.took (h : Queued owned come taken (.data more :: queue)) :
    Queued owned come (taken ++ more) queue := by
  obtain ⟨data, rfl, hqueue⟩ := h
  cases data with
  | nil => simp at hqueue
  | cons first data =>
    simp only [List.map_cons, List.cons_append, List.cons.injEq, Chunk.data.injEq] at hqueue
    obtain rfl : more = first := by
      rcases hqueue with ⟨-, rfl, -⟩ | ⟨-, rfl, -⟩ <;> rfl
    refine ⟨data, by simp, ?_⟩
    rcases hqueue with ⟨howned, -, hrest⟩ | ⟨hlost, -, hrest⟩
    · exact .inl ⟨howned, hrest⟩
    · exact .inr ⟨hlost, hrest⟩

/-- At the `close` everything has been taken. -/
theorem Queued.tookClose (h : Queued owned come taken (.close :: queue)) :
    ¬ owned ∧ taken = come := by
  obtain ⟨data, rfl, hqueue⟩ := h
  cases data with
  | nil =>
    rcases hqueue with ⟨-, hqueue⟩ | ⟨hlost, -⟩
    · cases hqueue
    · exact ⟨hlost, by simp⟩
  | cons first data => simp at hqueue

theorem Flow.part (h : Flow owned broken come out queue down) : out <+: come := by
  match down with
  | some .receiving => exact Queued.part h
  | some (.writing rest) => exact (List.prefix_append out rest).trans (Queued.part h)
  | some .shutting => exact h.1
  | some .ended => exact h.1
  | none => exact h

theorem Flow.whole (h : Flow owned broken come out queue (some .ended)) (hbroken : ¬ broken) :
    out = come :=
  (h.2 hbroken).2

theorem Flow.congr (h : Flow owned broken come out queue down) (howned : owned' ↔ owned)
    (hbroken : broken → broken') : Flow owned' broken' come out queue down := by
  rw [← propext howned] at h
  match down with
  | some .receiving => exact h
  | some (.writing rest) => exact h
  | some .shutting => exact ⟨h.1, fun hwhole => h.2 fun hb => hwhole (hbroken hb)⟩
  | some .ended => exact ⟨h.1, fun hwhole => h.2 fun hb => hwhole (hbroken hb)⟩
  | none => exact h

theorem Connection.feed_of_not_listens {c : Connection} (chunks : List Chunk)
    (h : c.stage.listens = false) : c.feed chunks = c := by
  rw [feed, if_neg (by simp [h])]

/-- While it has its id, the connection may be fed a frame's bytes. -/
theorem Flow.bytes {c : Connection} (h : Flow owned broken come out c.queue c.stage.downlink?)
    (howned : owned) :
    Flow owned broken (come ++ more) out (c.feed [.data more]).queue c.stage.downlink? := by
  have hlistens := c.stage.listens_iff
  cases hdown : c.stage.downlink? with
  | none =>
    rw [hdown] at h hlistens
    rw [c.feed_of_not_listens _ (by simpa using hlistens)]
    exact h.trans (List.prefix_append _ _)
  | some down =>
    rw [hdown] at h hlistens
    cases down with
    | receiving =>
      rw [Connection.feed_queue _ (by simpa using hlistens)]
      exact Queued.bytes h howned
    | writing rest =>
      rw [Connection.feed_queue _ (by simpa using hlistens)]
      exact Queued.bytes h howned
    | shutting =>
      rw [c.feed_of_not_listens _ (by simpa using hlistens)]
      exact ⟨h.1.trans (List.prefix_append _ _), fun hb => absurd howned (h.2 hb).1⟩
    | ended =>
      rw [c.feed_of_not_listens _ (by simpa using hlistens)]
      exact ⟨h.1.trans (List.prefix_append _ _), fun hb => absurd howned (h.2 hb).1⟩

/-- As it loses its id, the connection is fed the `close`. -/
theorem Flow.close {c : Connection} (h : Flow owned broken come out c.queue c.stage.downlink?)
    (howned : owned) (hlost : ¬ owned') :
    Flow owned' broken come out (c.feed [.close]).queue c.stage.downlink? := by
  have hlistens := c.stage.listens_iff
  cases hdown : c.stage.downlink? with
  | none => exact h.part
  | some down =>
    rw [hdown] at h hlistens
    cases down with
    | receiving =>
      rw [Connection.feed_queue _ (by simpa using hlistens)]
      exact Queued.close h howned hlost
    | writing rest =>
      rw [Connection.feed_queue _ (by simpa using hlistens)]
      exact Queued.close h howned hlost
    | shutting => exact ⟨h.1, fun hb => absurd howned (h.2 hb).1⟩
    | ended => exact ⟨h.1, fun hb => absurd howned (h.2 hb).1⟩

end flow

theorem Flow.fed {g : Nat} {action : Action} {r r' : Relay} {c : Connection} {chunks : List Chunk}
    {broken : Prop} {come out : Bytes}
    (h : Flow (r.table.lookup c.id = some g) broken come out c.queue c.stage.downlink?)
    (hfeeds : Feeds c.id g action r r' chunks) :
    Flow (r'.table.lookup c.id = some g) broken
      (come ++ if r'.table.lookup c.id = some g then action.bytesFor c.id else []) out
      (c.feed chunks).queue c.stage.downlink? := by
  cases hfeeds with
  | nothing same none =>
    have hempty : (if r'.table.lookup c.id = some g then action.bytesFor c.id else []) = [] := by
      split
      · rename_i howner
        exact none (same.mp howner)
      · rfl
    rw [hempty, List.append_nil, Connection.feed_nil]
    exact h.congr same id
  | bytes owner kept =>
    rw [if_pos kept]
    have hboth : r'.table.lookup c.id = some g ↔ r.table.lookup c.id = some g :=
      ⟨fun _ => owner, fun _ => kept⟩
    exact (h.congr hboth id).bytes kept
  | close owner lost =>
    rw [if_neg lost, List.append_nil]
    exact h.close owner lost

@[simp] theorem written_nil (g : Nat) : written g [] = [] := rfl

@[simp] theorem written_append (g : Nat) (effects more : List Effect) :
    written g (effects ++ more) = written g effects ++ written g more :=
  List.flatMap_append

theorem written_of_frames {g : Nat} {effects : List Effect}
    (h : ∀ effect ∈ effects, ∃ k data, effect = .queued k data) : written g effects = [] := by
  refine List.flatMap_eq_nil_iff.mpr fun effect hmem => ?_
  obtain ⟨k, data, rfl⟩ := h effect hmem
  rfl

theorem written_of_others {g : Nat} {effects : List Effect}
    (h : ∀ effect ∈ effects, effect.connection ≠ g) : written g effects = [] := by
  refine List.flatMap_eq_nil_iff.mpr fun effect hmem => ?_
  have hother := h effect hmem
  cases effect with
  | wrote k bytes => exact if_neg hother
  | _ => rfl

theorem frames_of_attempt {w : Bool} {g : Nat} {data : SocketData} :
    ∀ effect ∈ attempt w g data, ∃ k data, effect = .queued k data :=
  fun _ hmem => ⟨g, data, (mem_attempt.mp hmem).2⟩

theorem Flow.moved {w : Bool} {action : Action} {r base : Relay} {g : Nat} {c d : Connection}
    {stage : Stage} {more : List Effect} {broken broken' : Prop} {come out : Bytes}
    (h : Flow (r.table.lookup c.id = some g) broken come out c.queue c.stage.downlink?)
    (hc : r.connections[g]? = some c) (hmove : Move w r g c action base stage more)
    (hd : base.connections[g]? = some d) (hbroken : broken → broken')
    (hfailed : action = .writeFailed g → broken') :
    Flow (base.table.lookup c.id = some g) broken' come (out ++ written g more) d.queue
      stage.downlink? := by
  have hsame : r.connections[g]? = some d → d = c := by
    intro hd
    rw [hc, Option.some.injEq] at hd
    exact hd.symm
  have hkept : r.connections[g]? = some d → stage.downlink? = c.stage.downlink? →
      written g more = [] →
      Flow (r.table.lookup c.id = some g) broken' come (out ++ written g more) d.queue
        stage.downlink? := by
    intro hd hdown hmore
    rw [hmore, List.append_nil, hdown, hsame hd]
    exact h.congr Iff.rfl hbroken
  have hremoved : r.table.lookup c.id = some g → (r.remove c.id).2.connections[g]? = some d →
      stage.downlink? = c.stage.downlink? →
      Flow ((r.remove c.id).2.table.lookup c.id = some g) broken' come (out ++ []) d.queue
        stage.downlink? := by
    intro howner hd hdown
    rw [getElem?_remove, if_pos howner, hc, Option.map_some, Option.some.injEq] at hd
    rw [List.append_nil, hdown, ← hd]
    refine (h.congr Iff.rfl hbroken).close howner ?_
    rw [lookup_remove, if_pos rfl]
    simp
  have hframe : ∀ {data : SocketData}, ∀ effect ∈ [Effect.queued g data],
      ∃ k data, effect = .queued k data := fun effect hmem => ⟨g, _, List.mem_singleton.mp hmem⟩
  cases hmove with
  | polled a due now lasts hstage _ =>
    refine hkept hd ?_ rfl
    rw [hstage]
    rcases poll_cases r.pool a with ⟨hpoll, -⟩ | ⟨e, hpoll⟩ | hpoll <;> rw [hpoll] <;> rfl
  | dialed hstage => exact hkept hd (by rw [hstage]; rfl) rfl
  | undialed hstage => exact hkept hd (by rw [hstage]; rfl) rfl
  | announced hstage _ => exact hkept hd (by rw [hstage]; rfl) (written_of_frames hframe)
  | unannounced _ _ =>
    rw [written_nil, List.append_nil]
    exact h.part
  | withdrew holding hstage howner => exact hremoved howner hd (by rw [hstage]; rfl)
  | gaveUp =>
    rw [written_nil, List.append_nil]
    exact h.part
  | detached down hstage howner => exact hremoved howner hd (by rw [hstage]; rfl)
  | wasDetached down hstage _ => exact hkept hd (by rw [hstage]; rfl) rfl
  | reportedSetup =>
    rw [written_of_frames frames_of_attempt, List.append_nil]
    exact h.part
  | reported down hstage =>
    exact hkept hd (by rw [hstage]; rfl) (written_of_frames frames_of_attempt)
  | forwarded bytes down _ _ _ _ => exact hkept hd rfl (written_of_frames hframe)
  | refused bytes down hstage _ _ _ => exact hkept hd (by rw [hstage]; rfl) rfl
  | localEnded down hstage => exact hkept hd (by rw [hstage]; rfl) rfl
  | cancelled hstage => exact hkept hd (by rw [hstage]; rfl) rfl
  | took bytes queue up hstage hfront =>
    rw [getElem?_update, if_pos rfl, hc, Option.map_some, Option.some.injEq] at hd
    rw [hstage, hfront] at h
    rw [written_nil, List.append_nil, ← hd]
    exact Queued.took h
  | tookClose queue up hstage hfront =>
    rw [hstage, hfront] at h
    rw [written_nil, List.append_nil]
    exact ⟨h.part, fun _ => Queued.tookClose h⟩
  | wrote count rest up hstage =>
    rw [hstage] at h
    have hout : written g [.wrote g (rest.take count)] = rest.take count := by
      simp [written, Effect.bytesTo]
    rw [hout, hsame hd]
    by_cases hrest : rest.drop count = []
    · rw [if_pos hrest]
      have hall : rest.take count = rest := by
        rw [← List.append_nil (rest.take count), ← hrest, List.take_append_drop]
      rw [hall]
      exact h
    · rw [if_neg hrest]
      show Queued _ come (out ++ rest.take count ++ rest.drop count) c.queue
      rw [List.append_assoc, List.take_append_drop]
      exact h
  | writeFailed rest up hstage =>
    have hpart := h.part
    rw [written_nil, List.append_nil]
    exact ⟨hpart, fun hwhole => absurd (hfailed rfl) hwhole⟩
  | shut up hstage =>
    rw [hstage] at h
    have hout : written g [.shut g] = [] := rfl
    rw [hout, List.append_nil]
    exact ⟨h.1, fun hwhole => h.2 fun hb => hwhole (hbroken hb)⟩

@[simp] theorem arrived_append (id : UInt32) (steps more : List (Bool × Action)) :
    arrived id (steps ++ more) = arrived id steps ++ arrived id more :=
  List.flatMap_append

/-- What one more step adds to what has arrived in a tenure that is still open. -/
theorem arrived_during {steps : List (Bool × Action)} {first last : Nat} {id : UInt32} {P : Prop}
    [Decidable P] (w : Bool) (action : Action) (hordered : first ≤ last)
    (hbound : last ≤ steps.length) (hlast : P → last = steps.length) :
    arrived id (during first (if P then steps.length + 1 else last) (steps ++ [(w, action)])) =
      arrived id (during first last steps) ++ if P then action.bytesFor id else [] := by
  by_cases h : P
  · obtain rfl := hlast h
    rw [if_pos h, if_pos h, during, during, List.take_of_length_le (by simp), List.take_length,
      List.drop_append_of_le_length hordered, arrived_append]
    simp [arrived]
  · rw [if_neg h, if_neg h, during, List.take_append_of_le_length hbound, List.append_nil, during]

theorem Course.flow {owed : Nat} {start r : Relay} {steps : List (Bool × Action)}
    {effects : List Effect} {g first last : Nat} {c : Connection} (inv : Inv owed start)
    (h : Course owed start g steps effects r c first last) :
    Flow (r.table.lookup c.id = some g) (∃ w, (w, .writeFailed g) ∈ steps)
      (arrived c.id (during first last steps)) (written g effects) c.queue c.stage.downlink? := by
  induction h with
  | born run step absent others born =>
    have hdown : ∀ {stage : Stage}, (∃ a due, stage = .acquiring a due) ∨ stage = .announcing →
        stage.downlink? = some .receiving := by
      rintro stage (⟨a, due, rfl⟩ | rfl) <;> rfl
    rw [hdown born.stage, born.empty, written_of_others others]
    refine ⟨[], ?_, .inl ⟨born.owner, rfl⟩⟩
    simp [arrived, during]
  | @fed steps effects r c first last w action r' more chunks past run _ here _ step others feeds
      ih =>
    obtain ⟨hlt, -⟩ := List.getElem?_eq_some_iff.mp here
    have htenure := past.tenure inv
    rw [Connection.feed_id, Connection.feed_stage, written_append, written_of_others others,
      List.append_nil, arrived_during w action htenure.ordered htenure.bound
        fun howner => htenure.last_eq run (owner_back step hlt howner)]
    have hbroken : (∃ w, (w, Action.writeFailed g) ∈ steps) →
        ∃ v, (v, Action.writeFailed g) ∈ steps ++ [(w, action)] := by
      rintro ⟨v, hmem⟩
      exact ⟨v, List.mem_append_left _ hmem⟩
    exact (ih.congr Iff.rfl hbroken).fed feeds
  | @moved steps effects r c first last w action base stage more d past run _ here mover step move
      next same ih =>
    obtain ⟨hlt, -⟩ := List.getElem?_eq_some_iff.mp here
    have htenure := past.tenure inv
    have hback : base.table.lookup c.id = some g → last = steps.length := by
      intro howner
      refine htenure.last_eq run (owner_back step hlt ?_)
      rwa [enter_table]
    simp only [same, enter_table]
    rw [written_append, arrived_during w action htenure.ordered htenure.bound hback,
      bytesFor_of_mover c.id mover, ite_self, List.append_nil]
    refine ih.moved here move next ?_ ?_
    · rintro ⟨v, hmem⟩
      exact ⟨v, List.mem_append_left _ hmem⟩
    · intro hfailed
      exact ⟨w, by simp [hfailed]⟩

/-- A move shuts the socket as it ends the downlink; otherwise the downlink has ended after it
exactly if it had before, and then the move writes nothing. -/
theorem Move.shut_cases {w : Bool} {action : Action} {r base : Relay} {g : Nat} {c : Connection}
    {stage : Stage} {more : List Effect} (h : Move w r g c action base stage more) :
    (∃ up, c.stage = .forwarding up .shutting ∧ stage = .forwarding up .ended ∧ more = [.shut g]) ∨
      (.shut g ∉ more ∧
        (stage.downlink? = some .ended ↔ c.stage.downlink? = some .ended) ∧
        (c.stage.downlink? = some .ended → written g more = [])) := by
  have hattempt : ∀ {data : SocketData}, .shut g ∉ attempt w g data := by
    intro data hmem
    cases (mem_attempt.mp hmem).2
  have hnothing : written g [] = [] := rfl
  cases h with
  | shut up hstage => exact .inl ⟨up, hstage, rfl, rfl⟩
  | polled a due now lasts hstage _ =>
    refine .inr ⟨by simp, ?_, fun _ => hnothing⟩
    rw [hstage]
    rcases poll_cases r.pool a with ⟨hpoll, -⟩ | ⟨e, hpoll⟩ | hpoll <;>
      rw [hpoll] <;> simp [polledStage, Stage.downlink?]
  | reportedSetup holding hstage =>
    exact .inr ⟨hattempt, by simp [hstage, Stage.downlink?],
      fun _ => written_of_frames frames_of_attempt⟩
  | reported down hstage =>
    exact .inr ⟨hattempt, by simp [hstage, Stage.downlink?],
      fun _ => written_of_frames frames_of_attempt⟩
  | wrote count rest up hstage =>
    refine .inr ⟨by simp, ?_, ?_⟩
    · split <;> simp [hstage, Stage.downlink?]
    · simp [hstage, Stage.downlink?]
  | announced hstage _ => exact .inr ⟨by simp, by simp [hstage, Stage.downlink?], fun _ => rfl⟩
  | forwarded bytes down _ _ _ _ => exact .inr ⟨by simp, Iff.rfl, fun _ => rfl⟩
  | _ => exact .inr ⟨by simp, by simp [*, Stage.downlink?], fun _ => hnothing⟩

/-- The write side of the socket of connection `g` is shut once, and nothing is written after
that. -/
def ShutOnce (g : Nat) (effects : List Effect) : Prop :=
  ∃ before after, effects = before ++ .shut g :: after ∧ .shut g ∉ before ∧ .shut g ∉ after ∧
    written g after = []

theorem ShutOnce.append {g : Nat} {effects more : List Effect} (h : ShutOnce g effects)
    (hshut : .shut g ∉ more) (hwritten : written g more = []) : ShutOnce g (effects ++ more) := by
  obtain ⟨before, after, rfl, hbefore, hafter, hnothing⟩ := h
  refine ⟨before, after ++ more, by simp, hbefore, ?_, by simp [hnothing, hwritten]⟩
  simp [hafter, hshut]

theorem Course.shut {owed : Nat} {start r : Relay} {steps : List (Bool × Action)}
    {effects : List Effect} {g first last : Nat} {c : Connection}
    (h : Course owed start g steps effects r c first last) :
    if c.stage.downlink? = some .ended then ShutOnce g effects else .shut g ∉ effects := by
  have hothers : ∀ {effects : List Effect}, (∀ effect ∈ effects, effect.connection ≠ g) →
      .shut g ∉ effects := fun hne hmem => hne _ hmem rfl
  induction h with
  | born run step absent others born =>
    have hdown : ∀ {stage : Stage}, (∃ a due, stage = .acquiring a due) ∨ stage = .announcing →
        stage.downlink? ≠ some .ended := by
      rintro stage (⟨a, due, rfl⟩ | rfl) <;> simp [Stage.downlink?]
    rw [if_neg (hdown born.stage)]
    exact hothers others
  | @fed _ _ _ c _ _ _ _ _ more _ past run _ here _ step others feeds ih =>
    rw [Connection.feed_stage]
    by_cases hended : c.stage.downlink? = some .ended
    · rw [if_pos hended] at ih ⊢
      exact ih.append (hothers others) (written_of_others others)
    · rw [if_neg hended] at ih ⊢
      simp [ih, hothers others]
  | @moved _ effects _ c _ _ _ _ base stage more d past run _ here mover step move next same ih =>
    rcases move.shut_cases with ⟨up, hbefore, rfl, rfl⟩ | ⟨hshut, hsame, hnothing⟩
    · rw [if_neg (by simp [hbefore, Stage.downlink?])] at ih
      refine (if_pos rfl).mpr ?_
      exact ⟨effects, [], rfl, ih, by simp, rfl⟩
    · simp only [hsame]
      by_cases hended : c.stage.downlink? = some .ended
      · rw [if_pos hended] at ih ⊢
        exact ih.append hshut (hnothing hended)
      · rw [if_neg hended] at ih ⊢
        simp [ih, hshut]

/-- An id has one connection at a time. -/
theorem Tenure.disjoint {start r : Relay} {steps : List (Bool × Action)} {effects : List Effect}
    {id : UInt32} {g k first last first' last' : Nat} (hrun : start.run steps = some (r, effects))
    (h : Tenure start steps id g first last) (h' : Tenure start steps id k first' last')
    (hother : k ≠ g) : last < first' ∨ last' < first := by
  -- After a number of steps that lies in both tenures the id would have two connections.
  have hshared : ∀ {n : Nat}, n ≤ steps.length → first ≤ n → n ≤ last → first' ≤ n → n ≤ last' →
      False := by
    intro n hn hfirst hlast hfirst' hlast'
    rw [← List.take_append_drop n steps] at hrun
    obtain ⟨s, now, later, hs, -, -⟩ := run_split hrun
    have howner := (h.owner hn hs).mpr ⟨hfirst, hlast⟩
    rw [(h'.owner hn hs).mpr ⟨hfirst', hlast'⟩, Option.some.injEq] at howner
    exact hother howner
  have hordered := h.ordered
  have hordered' := h'.ordered
  rcases Nat.lt_or_ge last first' with hbefore | hlast
  · exact .inl hbefore
  rcases Nat.lt_or_ge last' first with hafter | hlast'
  · exact .inr hafter
  rcases Nat.le_total first first' with hle | hle
  · exact (hshared (Nat.le_trans hordered' h'.bound) hle hlast (Nat.le_refl _) hordered').elim
  · exact (hshared (Nat.le_trans hordered h.bound) (Nat.le_refl _) hordered hle hlast').elim

/-- In every run, what has been written to the socket of a connection is the first part of what the
gateway has sent for its id in the connection's tenure of it. A downlink that has ended without a
failed write has written all of that, and then shut the write side, once. Another connection under
the same id has it at another time. -/
theorem delivered_in_order {pool : Pool} {bufferSize g : Nat} {steps : List (Bool × Action)}
    {r : Relay} {effects : List Effect} {c : Connection} (hpool : pool.available ≤ pool.capacity)
    (hrun : Relay.run steps { pool, bufferSize } = some (r, effects))
    (hc : r.connections[g]? = some c) :
    ∃ first last, Tenure { pool, bufferSize } steps c.id g first last ∧
      written g effects <+: arrived c.id (during first last steps) ∧
      (∀ up, c.stage = .forwarding up .ended → (∀ w, (w, .writeFailed g) ∉ steps) →
        ∃ before after, effects = before ++ .shut g :: after ∧ .shut g ∉ before ∧
          .shut g ∉ after ∧ written g before = arrived c.id (during first last steps) ∧
          written g after = []) ∧
      ∀ k first' last', k ≠ g → Tenure { pool, bufferSize } steps c.id k first' last' →
        last < first' ∨ last' < first := by
  have inv : Inv (pool.capacity - pool.available) { pool, bufferSize } :=
    .fresh (Nat.add_sub_cancel' hpool)
  obtain ⟨first, last, hcourse⟩ := course_of_run inv rfl hrun hc
  have hflow := hcourse.flow inv
  refine ⟨first, last, hcourse.tenure inv, hflow.part, ?_, ?_⟩
  · intro up hstage hwhole
    have hended : c.stage.downlink? = some .ended := by rw [hstage]; rfl
    have hshut := hcourse.shut
    rw [if_pos hended] at hshut
    rw [hended] at hflow
    have hall := hflow.whole fun ⟨w, hmem⟩ => hwhole w hmem
    obtain ⟨before, after, rfl, hbefore, hafter, hnothing⟩ := hshut
    refine ⟨before, after, rfl, hbefore, hafter, ?_, hnothing⟩
    have hlater : written g (.shut g :: after) = written g after := rfl
    rwa [written_append, hlater, hnothing, List.append_nil] at hall
  · intro k first' last' hother htenure
    exact Tenure.disjoint hrun (hcourse.tenure inv) htenure hother

theorem delivered_in_order_reused_id :
    ∃ steps r effects first last before after,
      steps = [(true, .handle 0 (SocketData.format.write ⟨7, .start⟩)),
        (true, .handle 0 (SocketData.format.write ⟨7, .data [1, 2]⟩)),
        (true, .handle 0 (SocketData.format.write ⟨7, .start⟩)), (true, .poll 0 0 1),
        (true, .dialed 0 true), (true, .next 0), (true, .writeLocal 0 1),
        (true, .handle 0 (SocketData.format.write ⟨7, .close⟩)),
        (true, .handle 0 (SocketData.format.write ⟨7, .start⟩)),
        (true, .handle 0 (SocketData.format.write ⟨7, .data [3]⟩)), (true, .writeLocal 0 1),
        (true, .next 0), (true, .shutLocal 0), (true, .poll 1 0 1)] ∧
      Relay.run steps
        { pool := { capacity := 8, retryAttempts := 0, retryInterval := 1 }, bufferSize := 1024 } =
          some (r, effects) ∧
      Tenure
        { pool := { capacity := 8, retryAttempts := 0, retryInterval := 1 }, bufferSize := 1024 }
        steps 7 0 first last ∧
      effects = before ++ .shut 0 :: after ∧
      written 0 before = arrived 7 (during first last steps) ∧ written 0 effects = [1, 2] := by
  have hrun : Relay.run
      [(true, .handle 0 (SocketData.format.write ⟨7, .start⟩)),
        (true, .handle 0 (SocketData.format.write ⟨7, .data [1, 2]⟩)),
        (true, .handle 0 (SocketData.format.write ⟨7, .start⟩)), (true, .poll 0 0 1),
        (true, .dialed 0 true), (true, .next 0), (true, .writeLocal 0 1),
        (true, .handle 0 (SocketData.format.write ⟨7, .close⟩)),
        (true, .handle 0 (SocketData.format.write ⟨7, .start⟩)),
        (true, .handle 0 (SocketData.format.write ⟨7, .data [3]⟩)), (true, .writeLocal 0 1),
        (true, .next 0), (true, .shutLocal 0), (true, .poll 1 0 1)]
      { pool := { capacity := 8, retryAttempts := 0, retryInterval := 1 }, bufferSize := 1024 } =
        some (_, _) := rfl
  obtain ⟨first, last, htenure, -, hended, -⟩ :=
    delivered_in_order (g := 0) (c := ⟨7, [], .forwarding .reading .ended⟩) (Nat.le_refl _) hrun rfl
  obtain ⟨before, after, heffects, -, -, hall, -⟩ := hended .reading rfl (by simp)
  exact ⟨_, _, _, first, last, before, after, rfl, hrun, htenure, heffects, hall, rfl⟩

end TunnelAgent.Relay
