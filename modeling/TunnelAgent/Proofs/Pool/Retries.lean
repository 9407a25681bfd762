import TunnelAgent.Proofs.Config.Validity
import TunnelAgent.Proofs.Pool.Acquiring

/-! # The number of retries

An acquisition polls once more than there are retries, and that number is counted in 32 bits. With
any setting but the largest an open pool grants what it has room for, and a refusal for want of room
reports the polls that were made. With the largest there is no poll at all: every acquisition is
refused in wrapping arithmetic, and is lost where an overflow is checked. A configuration may hold
any of these settings. -/

namespace TunnelAgent.Pool

open Timeline

/-- The first poll of an acquisition that is polled for at all. -/
theorem poll_request {p : Pool} (slots : UInt32) (hretries : p.retryAttempts.toNat < 2 ^ 32 - 1)
    (hopen : p.closed = false) (hroom : slots.toNat ≤ p.available) :
    p.poll (p.request slots) = (.granted, p.take slots) := by
  have hmade : (p.request slots).made < (p.request slots).attempts.toNat := by
    show 0 < (p.retryAttempts + 1).toNat
    rw [toNat_add_one hretries]
    exact Nat.succ_pos _
  rw [poll_eq hmade, if_neg (by simp [hopen])]
  exact if_pos hroom

/-- Where the number of polls overflows a request either asks for none, or is not made. -/
theorem request?_of_max {p : Pool} (slots : UInt32) (hmax : p.retryAttempts = 4294967295) :
    p.request? .wraps slots = some ⟨slots, 0, 0⟩ ∧ p.request? .panics slots = none := by
  rw [request?, request?, hmax]
  exact ⟨rfl, rfl⟩

theorem poll_of_no_attempts (p : Pool) (slots : UInt32) :
    p.poll ⟨slots, 0, 0⟩ = (.refused (.exhausted slots 0), p) := if_pos (Nat.le_refl 0)

section
variable {rt : Runtime} {capacity interval : Nat} {retries : UInt32} {plans : List (Nat × Intent)}
  {entries : List Entry} {t : Timeline}

/-- An acquisition has been planned for this holder. -/
def Acquires (plans : List (Nat × Intent)) (i : Nat) : Prop :=
  ∃ start slots hold, plans[i]? = some (start, .acquire slots hold)

/-- Those for whom no acquisition has been planned do nothing but close the pool. -/
theorem acquires_history (h : History rt (beginning capacity retries interval plans) entries t) :
    (∀ i h, t.holders[i]? = some h → Acquires plans i ∨ h = .done ∨ ∃ due, h = .start due .close) ∧
      ∀ e ∈ entries, Acquires plans e.holder ∨ e.happening = some .closed := by
  induction h with
  | start =>
    refine ⟨fun i h hh => ?_, fun e he => ?_⟩
    · rw [beginning, List.getElem?_map, Option.map_eq_some_iff] at hh
      obtain ⟨⟨start, intent⟩, hplan, rfl⟩ := hh
      cases intent with
      | acquire slots hold => exact .inl ⟨start, slots, hold, hplan⟩
      | close => exact .inr (.inr ⟨start, rfl⟩)
    · cases he
  | @act entries t now j h before later ready ih =>
    obtain ⟨hholders, hentries⟩ := ih
    have hact : Acquires plans j ∨ t.pool.act rt now h = (some .closed, .done, t.pool.close) := by
      rcases hholders j h ready.holder with hacquires | rfl | ⟨due, rfl⟩
      · exact .inl hacquires
      · exact absurd rfl ready.ne_done
      · exact .inr rfl
    refine ⟨fun i h' hh' => ?_, fun e he => ?_⟩
    · by_cases hj : j = i
      · subst hj
        rcases hact with hacquires | hact
        · exact .inl hacquires
        · obtain ⟨hlt, -⟩ := List.getElem?_eq_some_iff.mp ready.holder
          rw [acted, hact, List.getElem?_set_self hlt] at hh'
          exact .inr (.inl (Option.some.inj hh').symm)
      · exact hholders i h' ((List.getElem?_set_ne hj).symm.trans hh')
    · rcases List.mem_append.mp he with he | he
      · exact hentries e he
      · rw [List.mem_singleton.mp he, entry]
        exact hact.imp_right fun hact => by rw [hact]

/-- A poll finds the pool closed, or takes the slots, or has found the pool open and too full. -/
theorem Entry.Polls.cases {slots : UInt32} {j : Nat} {e : Entry} (h : e.Polls slots retries j) :
    e.happening = some (.refused .closed) ∨ e.happening = some (.acquired slots) ∨
      (e.found.closed = false ∧ e.found.available < slots.toNat ∧
        e.happening =
          if j < retries.toNat then none else some (.refused (.exhausted slots (retries + 1)))) := by
  cases hclosed : e.found.closed with
  | true => exact .inl (h.closed hclosed).1
  | false =>
    by_cases hroom : slots.toNat ≤ e.found.available
    · exact .inr (.inl (h.room hclosed hroom).1)
    · have hfull := Nat.not_le.mp hroom
      exact .inr (.inr ⟨rfl, hfull, (h.full hclosed hfull).2⟩)

/-- A poll of which nothing has come has found the pool open and too full. -/
theorem Entry.Polls.full_of_vain {slots : UInt32} {j : Nat} {e : Entry} (h : e.Polls slots retries j)
    (hvain : e.happening = none) : e.found.closed = false ∧ e.found.available < slots.toNat := by
  rcases h.cases with hcase | hcase | ⟨hopen, hfull, -⟩
  · rw [hvain] at hcase
    cases hcase
  · rw [hvain] at hcase
    cases hcase
  · exact ⟨hopen, hfull⟩

/-- So has the last poll of all, the one that reports how many there were. -/
theorem Entry.Polls.full_of_exhausted {asked slots polls : UInt32} {j : Nat} {e : Entry}
    (h : e.Polls asked retries j) (hexhausted : e.happening = some (.refused (.exhausted slots polls))) :
    (slots = asked ∧ polls = retries + 1 ∧ retries.toNat ≤ j) ∧
      e.found.closed = false ∧ e.found.available < asked.toNat := by
  rcases h.cases with hcase | hcase | ⟨hopen, hfull, hcase⟩ <;> rw [hexhausted] at hcase
  · cases hcase
  · cases hcase
  · by_cases hless : j < retries.toNat
    · rw [if_pos hless] at hcase
      cases hcase
    · rw [if_neg hless] at hcase
      cases hcase
      exact ⟨⟨rfl, rfl, Nat.not_lt.mp hless⟩, hopen, hfull⟩

/-- Of the polls of an acquisition only one decides. -/
theorem Polling.eq_of_decided {start wait : Nat} {slots : UInt32} {polls : List Entry}
    (h : Polling start wait slots retries polls) {e e' : Entry} (he : e ∈ polls) (he' : e' ∈ polls)
    (hdecides : e.happening ≠ none) (hdecides' : e'.happening ≠ none) : e' = e := by
  obtain ⟨j, hj⟩ := List.getElem?_of_mem he
  obtain ⟨k, hk⟩ := List.getElem?_of_mem he'
  have hsame : k = j := by
    have hlast := h.last j e hj hdecides
    have hlast' := h.last k e' hk hdecides'
    omega
  exact Option.some.inj (hk.symm.trans (hsame ▸ hj))

/-- An acquisition is refused for want of room after as many polls as are reported, all of which
have found the pool open and too full. -/
theorem polls_of_exhausted (hretries : retries.toNat < 2 ^ 32 - 1)
    (h : History rt (beginning capacity retries interval plans) entries t) {e : Entry} (he : e ∈ entries)
    {slots polls : UInt32} (hexhausted : e.happening = some (.refused (.exhausted slots polls))) :
    polls.toNat = (pollsOf e.holder entries).length ∧ 1 ≤ polls.toNat ∧
      ∀ p ∈ pollsOf e.holder entries, p.found.closed = false ∧ p.found.available < slots.toNat := by
  obtain ⟨start, asked, hold, hplan⟩ : Acquires plans e.holder := by
    rcases (acquires_history h).2 e he with hacquires | hclosed
    · exact hacquires
    · rw [hexhausted] at hclosed
      cases hclosed
  obtain ⟨-, -, hpolling, -⟩ := stands_history hretries h hplan
  have hmem : e ∈ pollsOf e.holder entries := by simp [pollsOf, he, hexhausted]
  have hdecides : e.happening ≠ none := by simp [hexhausted]
  obtain ⟨j, hj⟩ := List.getElem?_of_mem hmem
  obtain ⟨⟨rfl, rfl, hlast⟩, hfull⟩ := (hpolling.poll j e hj).full_of_exhausted hexhausted
  have hcount : (pollsOf e.holder entries).length = j + 1 := hpolling.last j e hj hdecides
  have hattempts := toNat_add_one hretries
  have hfew := hpolling.few
  refine ⟨by omega, by omega, fun p hp => ?_⟩
  by_cases hvain : p.happening = none
  · obtain ⟨k, hk⟩ := List.getElem?_of_mem hp
    exact (hpolling.poll k p hk).full_of_vain hvain
  · rw [hpolling.eq_of_decided hmem hp hdecides hvain]
    exact hfull

end

/-- An open pool with room never refuses, and exhaustion is reported with the polls that were made,
if and only if the retries are not the largest number of 32 bits, which a configuration may well
ask for. With that one no acquisition ever looks at the pool: in wrapping arithmetic all of them are
refused for no polls, and where an overflow is checked none of them gets an answer. -/
theorem open_pool_grants_iff (rt : Runtime) (c : Config) :
    (∀ n, Config.validate { c with relay := { c.relay with retryAttempts := n } } = c.validate) ∧
      ((∀ interval plans entries t,
          History rt (beginning c.pool.capacity c.pool.retryAttempts interval plans) entries t →
            (∀ slots : UInt32, t.pool.closed = false → slots.toNat ≤ t.pool.available →
              ∃ a, t.pool.request? rt.overflow slots = some a ∧
                t.pool.poll a = (.granted, t.pool.take slots)) ∧
            ∀ e ∈ entries, ∀ slots polls, e.happening = some (.refused (.exhausted slots polls)) →
              polls.toNat = (pollsOf e.holder entries).length ∧ 1 ≤ polls.toNat ∧
                ∀ p ∈ pollsOf e.holder entries,
                  p.found.closed = false ∧ p.found.available < slots.toNat) ↔
        c.relay.retryAttempts ≠ 4294967295) ∧
      (c.relay.retryAttempts = 4294967295 → ∀ interval plans entries t,
        History rt (beginning c.pool.capacity c.pool.retryAttempts interval plans) entries t →
          ∀ slots, match rt.overflow with
            | .wraps => ∃ a, t.pool.request? .wraps slots = some a ∧
                t.pool.poll a = (.refused (.exhausted slots 0), t.pool)
            | .panics => t.pool.request? .panics slots = none) := by
  have hmax : c.relay.retryAttempts = 4294967295 → ∀ interval plans entries t,
      History rt (beginning c.pool.capacity c.pool.retryAttempts interval plans) entries t →
        ∀ slots, match rt.overflow with
          | .wraps => ∃ a, t.pool.request? .wraps slots = some a ∧
              t.pool.poll a = (.refused (.exhausted slots 0), t.pool)
          | .panics => t.pool.request? .panics slots = none := by
    intro hmax _ _ _ t h slots
    obtain ⟨hwraps, hpanics⟩ := request?_of_max slots (h.fixed.2.1.trans hmax)
    cases rt.overflow with
    | wraps => exact ⟨_, hwraps, poll_of_no_attempts t.pool slots⟩
    | panics => exact hpanics
  refine ⟨fun n => rfl, ⟨fun hgrants hlargest => ?_, fun hretries interval plans entries t h => ?_⟩, hmax⟩
  · obtain ⟨a, hrequest, hgranted⟩ := (hgrants 0 [] [] _ .start).1 0 rfl (Nat.zero_le _)
    have hnever := hmax hlargest 0 [] [] _ .start 0
    cases hoverflow : rt.overflow with
    | wraps =>
      rw [hoverflow] at hrequest hnever
      obtain ⟨a', hrequest', hrefused⟩ := hnever
      obtain rfl := Option.some.inj (hrequest.symm.trans hrequest')
      rw [hrefused] at hgranted
      cases hgranted
    | panics =>
      rw [hoverflow] at hrequest hnever
      rw [hnever] at hrequest
      cases hrequest
  · have hfew : c.pool.retryAttempts.toNat < 2 ^ 32 - 1 := toNat_lt_iff.mpr hretries
    refine ⟨fun slots hopen hroom => ?_, fun e he slots polls hexhausted =>
      polls_of_exhausted hfew h he hexhausted⟩
    have hfixed : t.pool.retryAttempts.toNat < 2 ^ 32 - 1 := h.fixed.2.1 ▸ hfew
    exact ⟨_, request?_of_lt rt.overflow slots hfixed, poll_request slots hfixed hopen hroom⟩

/-- An accepted configuration whose pool, all of it free, refuses in wrapping arithmetic; where an
overflow is checked, whoever asks it for slots ends over that. -/
theorem free_pool_refuses :
    let c := { Agent.bareConfig with relay := { retryAttempts := 4294967295 } }
    let t₀ := beginning c.pool.capacity c.pool.retryAttempts 200 [(0, .acquire 2 5)]
    c.validate = .ok () ∧ t₀.pool.closed = false ∧ t₀.pool.available = 512 ∧
      t₀.pool.poll (t₀.pool.request 2) = (.refused (.exhausted 2 0), t₀.pool) ∧
      (t₀.run { overflow := .wraps, lasts := id }).1 = [⟨0, 0, .refused (.exhausted 2 0), 512⟩] ∧
      (t₀.run { overflow := .panics, lasts := id }).1 = [⟨0, 0, .panicked, 512⟩] :=
  ⟨rfl, rfl, rfl, by decide, by decide, by decide⟩

end TunnelAgent.Pool
