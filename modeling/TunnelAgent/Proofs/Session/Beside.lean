import TunnelAgent.Proofs.Health.Window
import TunnelAgent.Proofs.Transport.Writer
import TunnelAgent.Session.Step

/-! # What goes on beside the main task of a session

Every step but the main task's own leaves the main task where it stands: its point and phase, the
access table, the settings in force and the reader, which only gets bytes or its end. And no step
of a session, its main task included, ever opens a transport that has been closed. -/

namespace TunnelAgent

namespace Outgoing

theorem closed_of_enqueue (frames : List Outbound) (o : Outgoing) :
    (o.enqueue frames).closed = o.closed := by
  unfold enqueue
  split <;> rfl

/-- The writer never opens what has been closed. -/
theorem closed_of_step {o o' : Outgoing} (h : o.step = some o') (hclosed : o.closed = true) :
    o'.closed = true := by
  cases writes_of_step h with
  | start _ hopen =>
    rw [hclosed] at hopen
    cases hopen
  | lose => rfl
  | shut | skip | count | put => exact hclosed

end Outgoing

namespace HealthMonitor

theorem config_of_sendPing (w : Bool) (m : HealthMonitor) : (m.sendPing w).2.config = m.config := by
  unfold sendPing
  split <;> rfl

theorem config_of_tick (now : Duration) (w : Bool) (t : Ticking) (m : HealthMonitor) :
    (m.tick now w t).2.config = m.config := by
  rw [tick_eq]
  split
  · rfl
  · exact config_of_sendPing w _

theorem config_of_handleRequest (w : Bool) (payload : Bytes) (m : HealthMonitor) :
    (m.handleRequest w payload).2.config = m.config := by
  unfold handleRequest
  split
  · rfl
  simp only
  split <;> rfl

theorem config_of_handleResponse (payload : Bytes) (m : HealthMonitor) :
    (m.handleResponse payload).2.config = m.config := by
  unfold handleResponse
  split
  · rfl
  simp only
  split <;> rfl

end HealthMonitor

namespace Session

/-- The bytes that the gateway sends with an action. -/
def Action.bytes : Action → Bytes
  | deliver bytes => bytes
  | _ => []

/-- The gateway's stream comes to its end, unless it has one. -/
def Action.endsStream : Action → Bool
  | gatewayEnds finish => finish != .pending
  | _ => false

def Action.isMain : Action → Bool
  | connect _ => true
  | main .. => true
  | _ => false

structure Beside (action : Action) (s s' : Session) : Prop where
  settings : s'.settings = s.settings
  point : s'.point = s.point
  phase : s'.phase = s.phase
  reachedDispatching : s'.reachedDispatching = s.reachedDispatching
  access : s'.shared.access = s.shared.access
  config : s'.monitor.config = s.monitor.config
  published : s'.published = s.published
  decoder : s'.reader.decoder = s.reader.decoder
  bytes : s'.reader.source.bytes = s.reader.source.bytes ++ action.bytes
  finish : action.endsStream = false → s'.reader.source.finish = s.reader.source.finish
  closed : s.outgoing.closed = true → s'.outgoing.closed = true

/-- A step that leaves the reader alone, too. -/
theorem beside_of_same {action : Action} {s s' : Session} (hbytes : action.bytes = [])
    (hsettings : s'.settings = s.settings) (hpoint : s'.point = s.point) (hphase : s'.phase = s.phase)
    (hreached : s'.reachedDispatching = s.reachedDispatching)
    (haccess : s'.shared.access = s.shared.access) (hconfig : s'.monitor.config = s.monitor.config)
    (hpublished : s'.published = s.published) (hreader : s'.reader = s.reader)
    (hclosed : s.outgoing.closed = true → s'.outgoing.closed = true) : Beside action s s' := by
  refine ⟨hsettings, hpoint, hphase, hreached, haccess, hconfig, hpublished, ?_, ?_, ?_, hclosed⟩
  · rw [hreader]
  · rw [hreader, hbytes, List.append_nil]
  · rw [hreader]
    exact fun _ => rfl

theorem beside_of_write {s s' : Session} (h : s.write = some s') : Beside .write s s' := by
  unfold write at h
  split at h
  · obtain ⟨outgoing, hstep, rfl⟩ := Option.map_eq_some_iff.mp h
    exact beside_of_same rfl rfl rfl rfl rfl rfl rfl rfl rfl (Outgoing.closed_of_step hstep)
  · cases h

theorem beside_of_watch {s s' : Session} (h : s.watch = some s') : Beside .watch s s' := by
  unfold watch at h
  split at h <;> cases h
  exact beside_of_same rfl rfl rfl rfl rfl rfl rfl rfl rfl fun _ => rfl

/-- A tick that is due pings, finds the writer gone, or fails the session. -/
theorem tick_cases {s s' : Session} (h : s.tick = some s') :
    ∃ t, s.monitor.ticking = some t ∧ t.due ≤ s.now ∧
      ((∃ frame monitor, s.monitor.tick s.now s.writerOpen t = (.ping frame, monitor) ∧
          s' = { s with monitor }.enqueue [frame]) ∨
        (∃ monitor, s.monitor.tick s.now s.writerOpen t = (.stopped, monitor) ∧
          s' = { s with monitor }) ∨
        ∃ monitor, s.monitor.tick s.now s.writerOpen t = (.failed, monitor) ∧
          s' = { s with
            monitor, healthFailed := true, shared := { s.shared with live := false } }.close) := by
  unfold tick at h
  split at h
  · cases h
  rename_i t hticking
  split at h
  · cases h
  rename_i hdue
  refine ⟨t, hticking, Nat.le_of_not_lt hdue, ?_⟩
  split at h <;> rename_i htick <;> cases h
  · exact .inl ⟨_, _, htick, rfl⟩
  · exact .inr (.inl ⟨_, htick, rfl⟩)
  · exact .inr (.inr ⟨_, htick, rfl⟩)

theorem beside_of_tick {s s' : Session} (h : s.tick = some s') : Beside .tick s s' := by
  obtain ⟨t, -, -, hcases⟩ := tick_cases h
  have hconfig := s.monitor.config_of_tick s.now s.writerOpen t
  rcases hcases with ⟨frame, monitor, htick, rfl⟩ | ⟨monitor, htick, rfl⟩ | ⟨monitor, htick, rfl⟩ <;>
    rw [htick] at hconfig
  · refine beside_of_same rfl rfl rfl rfl rfl rfl hconfig rfl rfl fun hclosed => ?_
    exact (Outgoing.closed_of_enqueue _ _).trans hclosed
  · exact beside_of_same rfl rfl rfl rfl rfl rfl hconfig rfl rfl id
  · exact beside_of_same rfl rfl rfl rfl rfl rfl hconfig rfl rfl fun _ => rfl

theorem beside_of_relayStep {s s' : Session} {action : Relay.Action}
    (h : s.relayStep action = some s') : Beside (.relay action) s s' := by
  unfold relayStep at h
  split at h <;> cases h
  refine beside_of_same rfl rfl rfl rfl rfl rfl rfl rfl rfl fun hclosed => ?_
  exact (Outgoing.closed_of_enqueue _ _).trans hclosed

theorem beside_of_reregister {s s' : Session} {rules : List Rule} {draws : List UInt64}
    {result : Except TransportFault Unit} (h : s.reregister rules draws = some (result, s')) :
    Beside (.reregister rules draws) s s' := by
  unfold reregister at h
  split at h
  case isFalse => cases h
  split at h
  · cases h
  split at h <;> cases h
  · refine beside_of_same rfl rfl rfl rfl rfl rfl rfl rfl rfl fun hclosed => ?_
    exact (Outgoing.closed_of_enqueue _ _).trans hclosed
  · exact beside_of_same rfl rfl rfl rfl rfl rfl rfl rfl rfl id

theorem beside_of_step {s s' : Session} {action : Action} (hmain : action.isMain = false)
    (h : s.step action = some s') : Beside action s s' := by
  cases action with
  | connect outcome => cases hmain
  | main draws nonce => cases hmain
  | write => exact beside_of_write h
  | watch => exact beside_of_watch h
  | tick => exact beside_of_tick h
  | relay action =>
    rw [step] at h
    split at h
    · exact beside_of_relayStep h
    · cases h
  | advance now =>
    rw [step] at h
    split at h <;> cases h
    exact beside_of_same rfl rfl rfl rfl rfl rfl rfl rfl rfl id
  | deliver bytes =>
    cases h
    exact ⟨rfl, rfl, rfl, rfl, rfl, rfl, rfl, rfl, rfl, fun _ => rfl, id⟩
  | gatewayEnds finish =>
    cases h
    have hbytes : (s.reader.endWith finish).source.bytes = s.reader.source.bytes := by
      unfold Reader.endWith
      split <;> rfl
    have hdecoder : (s.reader.endWith finish).decoder = s.reader.decoder := by
      unfold Reader.endWith
      split <;> rfl
    have hsame : (Action.gatewayEnds finish).endsStream = false →
        (s.reader.endWith finish).source.finish = s.reader.source.finish := by
      intro hends
      obtain rfl : finish = .pending := by simpa [Action.endsStream] using hends
      unfold Reader.endWith
      split
      · exact Eq.symm ‹_›
      · rfl
    exact ⟨rfl, rfl, rfl, rfl, rfl, rfl, rfl, hdecoder, hbytes.trans (List.append_nil _).symm,
      hsame, id⟩
  | gatewayReads count =>
    cases h
    exact beside_of_same rfl rfl rfl rfl rfl rfl rfl rfl rfl id
  | gatewayGone =>
    cases h
    exact beside_of_same rfl rfl rfl rfl rfl rfl rfl rfl rfl id
  | shutdown =>
    cases h
    exact beside_of_same rfl rfl rfl rfl rfl rfl rfl rfl rfl id
  | setRules rules =>
    cases h
    exact beside_of_same rfl rfl rfl rfl rfl rfl rfl rfl rfl id
  | reregister rules draws =>
    obtain ⟨⟨result, t⟩, hcall, rfl⟩ := Option.map_eq_some_iff.mp h
    exact beside_of_reregister hcall

end Session

end TunnelAgent
