import TunnelAgent.Proofs.Pool.History

/-! # The polls of an acquisition

An acquisition polls when it begins and then after each sleep of the retry interval, once more than
there are retries. How long such a sleep takes is the clock's affair; it takes as long every time.
The first poll that finds the pool closed, or enough of it free, ends it; if there is none, the last
one does. Only a poll that ends it well takes slots, and then all that were asked for. -/

namespace TunnelAgent.Pool

open Timeline

/-- What a holder has done, its release apart. -/
def pollsOf (i : Nat) (entries : List Entry) : List Entry :=
  entries.filter fun e => e.holder = i ∧ e.happening ≠ some .released

/-- Poll number `j` of an acquisition that may be retried so often: what is found decides what comes
of it and what is left. -/
structure Entry.Polls (slots retries : UInt32) (j : Nat) (e : Entry) : Prop where
  closed : e.found.closed = true → e.happening = some (.refused .closed) ∧ e.left = e.found
  room : e.found.closed = false → slots.toNat ≤ e.found.available →
    e.happening = some (.acquired slots) ∧ e.left = e.found.take slots
  full : e.found.closed = false → e.found.available < slots.toNat → e.left = e.found ∧
    e.happening = if j < retries.toNat then none else some (.refused (.exhausted slots (retries + 1)))

/-- The polls of an acquisition that has begun at `start`, each `wait` after the one before. -/
structure Polling (start wait : Nat) (slots retries : UInt32) (polls : List Entry) : Prop where
  time : ∀ j (e : Entry), polls[j]? = some e → e.time = start + j * wait
  poll : ∀ j (e : Entry), polls[j]? = some e → e.Polls slots retries j
  few : polls.length ≤ retries.toNat + 1
  last : ∀ j (e : Entry), polls[j]? = some e → e.happening ≠ none → polls.length = j + 1

/-- Where the holder stands when these are its polls: it waits for the first or for the next, or it
has ended. -/
inductive Stands (start wait hold : Nat) (slots retries : UInt32) : List Entry → Holder → Prop
  | beginning : Stands start wait hold slots retries [] (.start start (.acquire slots hold))
  | waiting {polls : List Entry} (vain : ∀ e ∈ polls, e.happening = none)
      (few : polls.length ≤ retries.toNat) :
      Stands start wait hold slots retries polls
        (.polling (start + polls.length * wait) ⟨slots, retries + 1, polls.length⟩ hold)
  | ended {polls : List Entry} {h : Holder} (decided : ∃ e ∈ polls, e.happening ≠ none)
      (rests : h.appointment? = none) : Stands start wait hold slots retries polls h

theorem pollsOf_append (i : Nat) (entries more : List Entry) :
    pollsOf i (entries ++ more) = pollsOf i entries ++ pollsOf i more := List.filter_append ..

theorem pollsOf_other {i : Nat} {e : Entry} (h : e.holder ≠ i) : pollsOf i [e] = [] := by
  simp [pollsOf, h]

theorem pollsOf_release {i : Nat} {e : Entry} (h : e.happening = some .released) :
    pollsOf i [e] = [] := by
  simp [pollsOf, h]

theorem pollsOf_poll {i : Nat} {e : Entry} (hi : e.holder = i) (h : e.happening ≠ some .released) :
    pollsOf i [e] = [e] := by
  simp [pollsOf, hi, h]

theorem toNat_add_one {n : UInt32} (h : n.toNat < 2 ^ 32 - 1) : (n + 1).toNat = n.toNat + 1 := by
  rw [UInt32.toNat_add]
  exact Nat.mod_eq_of_lt (Nat.add_lt_of_lt_sub h)

theorem toNat_lt_iff {retries : UInt32} :
    retries.toNat < 2 ^ 32 - 1 ↔ retries ≠ 4294967295 := by
  have hmax : retries = 4294967295 ↔ retries.toNat = 2 ^ 32 - 1 := by
    rw [← UInt32.toNat_inj]
    rfl
  have hlt : retries.toNat < 2 ^ 32 := retries.toNat_lt
  rw [Ne, hmax]
  omega

/-- Where nothing overflows every request is made. -/
theorem request?_of_lt {p : Pool} (overflow : Overflow) (slots : UInt32)
    (h : p.retryAttempts.toNat < 2 ^ 32 - 1) :
    p.request? overflow slots = some (p.request slots) := by
  cases overflow with
  | wraps => rfl
  | panics => rw [request?, Overflow.succ?, if_neg (toNat_lt_iff.mp h)]; rfl

section
variable {start wait hold : Nat} {slots retries : UInt32} {polls : List Entry} {e : Entry}

/-- One poll more. -/
theorem Polling.snoc (h : Polling start wait slots retries polls)
    (hvain : ∀ e ∈ polls, e.happening = none) (hfew : polls.length ≤ retries.toNat)
    (htime : e.time = start + polls.length * wait) (he : e.Polls slots retries polls.length) :
    Polling start wait slots retries (polls ++ [e]) := by
  have hlast : ∀ {P : Nat → Entry → Prop}, (∀ j (e : Entry), polls[j]? = some e → P j e) →
      P polls.length e → ∀ j e', (polls ++ [e])[j]? = some e' → P j e' := by
    intro P hpolls he j e' hj
    rcases Nat.lt_trichotomy j polls.length with hlt | rfl | hgt
    · rw [List.getElem?_append_left hlt] at hj
      exact hpolls j e' hj
    · rw [List.getElem?_concat_length] at hj
      cases hj
      exact he
    · rw [List.getElem?_eq_none (by rw [List.length_append, List.length_singleton]; omega)] at hj
      cases hj
  refine ⟨hlast h.time htime, hlast h.poll he, ?_, hlast (fun j e' hj hsome => ?_) fun _ => ?_⟩
  · rw [List.length_append, List.length_singleton]
    omega
  · exact absurd (hvain e' (List.mem_of_getElem? hj)) hsome
  · rw [List.length_append, List.length_singleton]

/-- What a poll finds decides what is done. -/
theorem polls_pollAt (rt : Runtime) (p : Pool) (now i hold : Nat) (slots : UInt32) {j : Nat}
    (hretries : retries.toNat < 2 ^ 32 - 1) (hj : j ≤ retries.toNat) :
    let r := p.pollAt rt now ⟨slots, retries + 1, j⟩ hold
    Entry.Polls slots retries j ⟨now, i, p, r.1, r.2.2⟩ ∧ r.1 ≠ some .released ∧
      (r.1 = none ∧ j < retries.toNat ∧
          r.2.1 = .polling (now + rt.lasts p.retryInterval) ⟨slots, retries + 1, j + 1⟩ hold ∨
        r.1 ≠ none ∧ r.2.1.appointment? = none) := by
  have hattempts := toNat_add_one hretries
  have hmade : j < (retries + 1).toNat := by omega
  rw [pollAt_eq _ _ _ _ _ hmade]
  cases hclosed : p.closed with
  | true =>
    exact ⟨⟨fun _ => ⟨rfl, rfl⟩, fun hopen => absurd (hclosed.symm.trans hopen) (by decide),
      fun hopen => absurd (hclosed.symm.trans hopen) (by decide)⟩, by simp, .inr ⟨by simp, rfl⟩⟩
  | false =>
    have hopen : p.closed ≠ true := by simp [hclosed]
    by_cases hroom : slots.toNat ≤ p.available
    · simp only [if_pos hroom]
      exact ⟨⟨fun h => absurd h hopen, fun _ _ => ⟨rfl, rfl⟩,
        fun _ hfull => absurd hroom (Nat.not_le.mpr hfull)⟩, by simp, .inr ⟨by simp, rfl⟩⟩
    simp only [if_neg hroom]
    by_cases hmore : j < retries.toNat
    · simp only [if_pos (show j + 1 < (retries + 1).toNat by omega)]
      exact ⟨⟨fun h => absurd h hopen, fun _ h => absurd h hroom,
        fun _ _ => ⟨rfl, (if_pos hmore).symm⟩⟩, by simp, .inl ⟨rfl, hmore, rfl⟩⟩
    · simp only [if_neg (show ¬ j + 1 < (retries + 1).toNat by omega)]
      exact ⟨⟨fun h => absurd h hopen, fun _ h => absurd h hroom,
        fun _ _ => ⟨rfl, (if_neg hmore).symm⟩⟩, by simp, .inr ⟨by simp, rfl⟩⟩

variable {rt : Runtime} {t t₀ : Timeline} {entries : List Entry} {interval now i : Nat} {h : Holder}

/-- A holder that waits for now polls now, and waits on or has ended. -/
theorem stands_pollAt {p : Pool} (hretries : retries.toNat < 2 ^ 32 - 1)
    (hinterval : p.retryInterval = interval)
    (hpolling : Polling start (rt.lasts interval) slots retries polls)
    (hvain : ∀ e ∈ polls, e.happening = none) (hfew : polls.length ≤ retries.toNat)
    (hnow : now = start + polls.length * rt.lasts interval) :
    let r := p.pollAt rt now ⟨slots, retries + 1, polls.length⟩ hold
    let polls' := polls ++ pollsOf i [⟨now, i, p, r.1, r.2.2⟩]
    Polling start (rt.lasts interval) slots retries polls' ∧
      Stands start (rt.lasts interval) hold slots retries polls' r.2.1 := by
  intro r polls'
  obtain ⟨hpolls, hrelease, hr⟩ :=
    polls_pollAt rt p now i hold slots hretries hfew
  have hone : polls' = polls ++ [⟨now, i, p, r.1, r.2.2⟩] := by
    rw [← pollsOf_poll (e := ⟨now, i, p, r.1, r.2.2⟩) rfl hrelease]
  have hlength : polls'.length = polls.length + 1 := by
    rw [hone, List.length_append, List.length_singleton]
  have hmem : (⟨now, i, p, r.1, r.2.2⟩ : Entry) ∈ polls' := by
    rw [hone]
    exact List.mem_append_right _ (List.mem_singleton_self _)
  refine ⟨hone ▸ hpolling.snoc hvain hfew hnow hpolls, ?_⟩
  rcases hr with ⟨hnone, hmore, hnext⟩ | ⟨hsome, hover⟩
  · have hdue : now + rt.lasts p.retryInterval = start + polls'.length * rt.lasts interval := by
      rw [hinterval, hnow, hlength, Nat.succ_mul, Nat.add_assoc]
    have hstands : r.2.1 = .polling (start + polls'.length * rt.lasts interval)
        ⟨slots, retries + 1, polls'.length⟩ hold := by
      rw [← hdue, hlength]
      exact hnext
    rw [hstands]
    refine .waiting (fun e he => ?_) (hlength ▸ hmore)
    rw [hone] at he
    rcases List.mem_append.mp he with he | he
    · exact hvain e he
    · rw [List.mem_singleton.mp he]
      exact hnone
  · exact .ended ⟨_, hmem, hsome⟩ hover

/-- Whatever the holder may do, it waits on or has ended. -/
theorem stands_act (hretries : retries.toNat < 2 ^ 32 - 1) (hattempts : t.pool.retryAttempts = retries)
    (hinterval : t.pool.retryInterval = interval) (hready : t.Ready now i h)
    (hpolling : Polling start (rt.lasts interval) slots retries polls)
    (hstands : Stands start (rt.lasts interval) hold slots retries polls h) :
    let polls' := polls ++ pollsOf i [t.entry rt now i h]
    Polling start (rt.lasts interval) slots retries polls' ∧
      Stands start (rt.lasts interval) hold slots retries polls' (t.pool.act rt now h).2.1 := by
  cases hstands with
  | beginning =>
    have hnow : start = now := by
      rcases hready.due with hdue | ⟨due, slots, hholding⟩
      · exact Option.some.inj hdue
      · cases hholding
    have hrequest : t.pool.request? rt.overflow slots = some ⟨slots, retries + 1, 0⟩ := by
      rw [request?_of_lt _ _ (hattempts.symm ▸ hretries), request, hattempts]
    have hact : t.pool.act rt now (.start start (.acquire slots hold)) =
        t.pool.pollAt rt now ⟨slots, retries + 1, 0⟩ hold := by rw [act, hrequest]
    rw [entry, hact]
    refine stands_pollAt hretries hinterval hpolling (fun e he => ?_) (Nat.zero_le _) ?_
    · cases he
    · rw [List.length_nil, Nat.zero_mul, hnow, Nat.add_zero]
  | waiting vain few =>
    refine stands_pollAt hretries hinterval hpolling vain few ?_
    rcases hready.due with hdue | ⟨due, slots, hholding⟩
    · exact (Option.some.inj hdue).symm
    · cases hholding
  | ended decided rests =>
    rcases hready.due with hdue | ⟨due, slots, rfl⟩
    · exact absurd hdue (by simp [rests])
    · rw [pollsOf_release rfl, List.append_nil]
      exact ⟨hpolling, .ended decided rfl⟩

end

section
variable {rt : Runtime} {capacity interval : Nat} {retries : UInt32} {plans : List (Nat × Intent)}
  {entries : List Entry} {t : Timeline} {i start hold : Nat} {slots : UInt32}

/-- In every history a planned acquisition polls on time, and its holder waits or has ended. -/
theorem stands_history (hretries : retries.toNat < 2 ^ 32 - 1)
    (h : History rt (beginning capacity retries interval plans) entries t)
    (hplan : plans[i]? = some (start, .acquire slots hold)) :
    ∃ holder, t.holders[i]? = some holder ∧
      Polling start (rt.lasts interval) slots retries (pollsOf i entries) ∧
      Stands start (rt.lasts interval) hold slots retries (pollsOf i entries) holder := by
  induction h with
  | start =>
    refine ⟨.start start (.acquire slots hold), ?_, ⟨fun j e he => ?_, fun j e he => ?_, Nat.zero_le _,
      fun j e he => ?_⟩, .beginning⟩
    · show (plans.map _)[i]? = _
      rw [List.getElem?_map, hplan]
      rfl
    all_goals cases he
  | @act entries t now j h before later ready ih =>
    obtain ⟨holder, hholder, hpolling, hstands⟩ := ih
    obtain ⟨-, hattempts, hinterval⟩ := before.fixed
    rw [pollsOf_append]
    by_cases hj : j = i
    · subst hj
      have hsame : h = holder := Option.some.inj (ready.holder.symm.trans hholder)
      subst hsame
      have hlt : j < t.holders.length := (List.getElem?_eq_some_iff.mp hholder).1
      exact ⟨(t.pool.act rt now h).2.1, List.getElem?_set_self hlt,
        stands_act hretries hattempts hinterval ready hpolling hstands⟩
    · rw [pollsOf_other (e := t.entry rt now j h) hj, List.append_nil]
      exact ⟨holder, (List.getElem?_set_ne hj).trans hholder, hpolling, hstands⟩

section
variable {wait due : Nat} {polls : List Entry} {h : Holder}

/-- As long as nothing has come of its polls it waits for the next one, which is not the last but
for the retries. -/
theorem Stands.next (hstands : Stands start wait hold slots retries polls h)
    (hvain : ∀ e ∈ polls, e.happening = none) :
    polls.length ≤ retries.toNat ∧ h.appointment? = some (start + polls.length * wait) := by
  cases hstands with
  | beginning => exact ⟨Nat.zero_le _, by rw [List.length_nil, Nat.zero_mul]; rfl⟩
  | waiting vain few => exact ⟨few, rfl⟩
  | ended decided rests =>
    obtain ⟨e, he, hsome⟩ := decided
    exact absurd (hvain e he) hsome

/-- Something has come of the polls of a holder that does not wait. -/
theorem Stands.decided (hstands : Stands start wait hold slots retries polls h)
    (hover : h.appointment? = none) : ∃ e ∈ polls, e.happening ≠ none := by
  by_contra hnone
  have hvain : ∀ e ∈ polls, e.happening = none := by
    intro e he
    by_contra hsome
    exact hnone ⟨e, he, hsome⟩
  exact absurd (hstands.next hvain).2 (by simp [hover])

/-- No acquisition waits for longer than its retries take. -/
theorem Stands.due_le (hstands : Stands start wait hold slots retries polls h)
    (hdue : h.appointment? = some due) : due ≤ start + retries.toNat * wait := by
  have hlatest : ∀ {n}, n ≤ retries.toNat → start + n * wait ≤ start + retries.toNat * wait :=
    fun hn => Nat.add_le_add_left (Nat.mul_le_mul_right wait hn) start
  cases hstands with
  | beginning => exact Option.some.inj hdue ▸ Nat.le_add_right ..
  | waiting vain few => exact Option.some.inj hdue ▸ hlatest few
  | ended decided rests => exact absurd hdue (by simp [rests])

end

/-- In every history of a pool all slots are free or held. Each acquisition polls when it begins and
then after each sleep, as long as it finds the pool open and full and there are retries left; while
it does, no time passes its next poll, and the history can go on in which it ends. -/
theorem acquisitions_poll_on_time (hretries : retries.toNat < 2 ^ 32 - 1)
    (h : History rt (beginning capacity retries interval plans) entries t) :
    t.pool.available + t.held = capacity ∧
      ∀ i start slots hold, plans[i]? = some (start, .acquire slots hold) →
        let wait := rt.lasts interval
        Polling start wait slots retries (pollsOf i entries) ∧
          ((∀ e ∈ pollsOf i entries, e.happening = none) →
            (pollsOf i entries).length ≤ retries.toNat ∧
              ∀ e ∈ entries, e.time ≤ start + (pollsOf i entries).length * wait) ∧
          ∃ more t', History rt (beginning capacity retries interval plans) (entries ++ more) t' ∧
            (∀ e ∈ more, e.time ≤ start + retries.toNat * wait) ∧
            ∃ e ∈ pollsOf i (entries ++ more), e.happening ≠ none := by
  refine ⟨?_, fun i start slots hold hplan => ?_⟩
  · rw [h.conserves, held_beginning]
    rfl
  obtain ⟨holder, hholder, hpolling, hstands⟩ := stands_history hretries h hplan
  refine ⟨hpolling, fun hvain => ?_, ?_⟩
  · obtain ⟨hfew, hdue⟩ := hstands.next hvain
    exact ⟨hfew, fun e he => h.punctual e he holder (List.mem_of_getElem? hholder) _ hdue⟩
  · have hlimit : ∀ entries t, History rt (beginning capacity retries interval plans) entries t →
        ∀ h, t.holders[i]? = some h → ∀ due ∈ h.appointment?,
          due ≤ start + retries.toNat * rt.lasts interval := by
      intro entries t h holder hholder due hdue
      obtain ⟨holder', hholder', -, hstands⟩ := stands_history hretries h hplan
      cases hholder.symm.trans hholder'
      exact hstands.due_le hdue
    obtain ⟨more, t', hmore, hearly, hserved⟩ := h.served hlimit
    obtain ⟨holder, hholder, -, hstands⟩ := stands_history hretries hmore hplan
    exact ⟨more, t', hmore, hearly, hstands.decided (hserved holder hholder)⟩

/-- Retries end in time: two acquisitions of the only slot, the second of which gets it when it polls
for the second time. -/
theorem second_poll_finds_room :
    let rt : Runtime := { lasts := id }
    let t₀ := beginning 1 1 10 [(0, .acquire 1 5), (3, .acquire 1 0)]
    (t₀.run rt).1 = [⟨0, 0, .acquired 1, 0⟩, ⟨5, 0, .released, 1⟩, ⟨13, 1, .acquired 1, 0⟩,
        ⟨13, 1, .released, 1⟩] ∧
      ∃ entries, History rt t₀ entries (t₀.run rt).2 ∧
        (t₀.run rt).2.pool.available + (t₀.run rt).2.held = 1 ∧
        Polling 3 10 1 1 (pollsOf 1 entries) := by
  intro rt t₀
  obtain ⟨entries, hhistory, -, -⟩ := run_history rt 1 1 10 [(0, .acquire 1 5), (3, .acquire 1 0)]
  obtain ⟨hsum, hall⟩ := acquisitions_poll_on_time (by decide) hhistory
  exact ⟨by decide, entries, hhistory, hsum, (hall 1 3 1 0 rfl).1⟩

/-- A clock that does not come to the end of the longest interval of all, and for that one sleeps
thirty years. -/
def shortClock : Runtime where
  lasts ms := if ms = 18446744073709551615 then 946080000000 else ms

/-- Where a sleep does not take as long as was asked for, neither do the retries. -/
theorem long_interval_cut_short :
    let t₀ := beginning 1 2 18446744073709551615 [(0, .acquire 2 0)]
    (t₀.run shortClock).1 = [⟨1892160000000, 0, .refused (.exhausted 2 3), 1⟩] ∧
      ∃ entries, History shortClock t₀ entries (t₀.run shortClock).2 ∧
        ¬ Polling 0 18446744073709551615 2 2 (pollsOf 0 entries) := by
  intro t₀
  have hrun : (t₀.run shortClock).1 = [⟨1892160000000, 0, .refused (.exhausted 2 3), 1⟩] := by decide
  obtain ⟨entries, hhistory, hevents, -⟩ :=
    run_history shortClock 1 2 18446744073709551615 [(0, .acquire 2 0)]
  refine ⟨hrun, entries, hhistory, fun hpolling => ?_⟩
  have hmem : (⟨1892160000000, 0, .refused (.exhausted 2 3), 1⟩ : Event) ∈
      entries.filterMap Entry.event? := by
    rw [← hevents]
    exact hrun ▸ List.mem_singleton_self _
  obtain ⟨e, he, hevent⟩ := List.mem_filterMap.mp hmem
  obtain ⟨happening, hhappening, hsame⟩ := Option.map_eq_some_iff.mp hevent
  simp only [Event.mk.injEq] at hsame
  obtain ⟨htime, hholder, rfl, -⟩ := hsame
  have hpoll : e ∈ pollsOf 0 entries := by simp [pollsOf, he, hholder, hhappening]
  obtain ⟨j, hj⟩ := List.getElem?_of_mem hpoll
  have := hpolling.time j e hj
  omega

/-- In the run of a timeline every acquisition is decided by its polls. -/
theorem run_decides (rt : Runtime) (hretries : retries.toNat < 2 ^ 32 - 1) :
    let t₀ := beginning capacity retries interval plans
    ∃ entries, History rt t₀ entries (t₀.run rt).2 ∧ (t₀.run rt).1 = entries.filterMap Entry.event? ∧
      ∀ i start slots hold, plans[i]? = some (start, .acquire slots hold) →
        Polling start (rt.lasts interval) slots retries (pollsOf i entries) ∧
          ∃ e ∈ pollsOf i entries, e.happening ≠ none := by
  intro t₀
  obtain ⟨entries, hhistory, hevents, hover⟩ := run_history rt capacity retries interval plans
  refine ⟨entries, hhistory, hevents, fun i start slots hold hplan => ?_⟩
  obtain ⟨holder, hholder, hpolling, hstands⟩ := stands_history hretries hhistory hplan
  refine ⟨hpolling, hstands.decided ?_⟩
  have hdone : holder.due? = none := hover holder (List.mem_of_getElem? hholder)
  by_contra hwaits
  obtain ⟨due, hdue⟩ := Option.ne_none_iff_exists'.mp hwaits
  exact absurd (Holder.due?_of_appointment hdue) (by simp [hdone])

end

end TunnelAgent.Pool
