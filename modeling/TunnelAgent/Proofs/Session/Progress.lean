import TunnelAgent.Proofs.Session.Diary
import TunnelAgent.Proofs.Session.History

/-! # How far a session has come

Session and diary agree at every point: up to dispatching, the point of the main task says what has
been read and sent; from there on both begin with a whole handshake; and a session that has ended
has a reason in its diary. -/

namespace TunnelAgent

/-- The writer is there as long as the transport has not been closed. -/
structure Outgoing.Manned (o : Outgoing) : Prop where
  handles : o.handles = true
  writing : o.closed = false → o.isOpen = true

namespace Outgoing.Manned
variable {o : Outgoing}

theorem enqueue (h : o.Manned) (frames : List Outbound) : (o.enqueue frames).Manned := by
  unfold Outgoing.enqueue
  split
  · exact ⟨h.handles, h.writing⟩
  · exact h

theorem step (h : o.Manned) {o' : Outgoing} (hstep : o.step = some o') : o'.Manned := by
  cases writes_of_step hstep with
  | shut _ hwhy =>
    refine ⟨h.handles, fun hopen => ?_⟩
    rcases hwhy with hclosed | ⟨-, hhandles⟩
    · exact absurd (hclosed.symm.trans hopen) nofun
    · exact absurd (hhandles.symm.trans h.handles) nofun
  | lose => exact ⟨h.handles, nofun⟩
  | start | skip | count | put => exact ⟨h.handles, fun _ => rfl⟩

theorem close (h : o.Manned) : o.close.Manned := ⟨h.handles, nofun⟩

end Outgoing.Manned

namespace Session
open Envelope

theorem manned_of_turn {s s' : Session} {event : Event} {met : Option (Except Setback Frame)}
    (h : s.outgoing.Manned) (hturn : Turn s event met s') : s'.outgoing.Manned := by
  have hanswered : ∀ {frame : Frame} {reader : Reader} {result : Except TransportFault Unit}
      {t : Session}, handlers.dispatch frame { s with reader } = (result, t) →
      t.outgoing.Manned := by
    intro frame reader result t hdispatch
    rcases (tended_of_dispatch hdispatch).outgoing with hsame | ⟨nonce, hanswer⟩
    · exact hsame ▸ h
    · exact hanswer ▸ h.enqueue _
  cases hturn with
  | connected | greeted | admitted | accepted | opened | unpinged | advanced | delivered | finished
  | stopped | ruled | unrenewed => exact h
  | put | taken | deserted => exact ⟨h.handles, h.writing⟩
  | asked | pinged | relayed | renewed => exact h.enqueue _
  | unconnected | unwritten | oversized | stranded | shut | unread | refused | declined | left | lost
  | watched | failed => exact h.close
  | written _ hstep => exact h.step hstep
  | handled _ _ _ hdispatch => exact hanswered hdispatch
  | unhandled _ _ _ hdispatch => exact (hanswered hdispatch).close

def authorization (settings : Settings) : Outbound := .ofMessage (.authorization settings.credentials)

/-- Nothing that has been read gives reason to end the session. -/
structure Favourable (frames : List Frame) : Prop where
  first : ∀ frame, frames[0]? = some frame → Admitted frame
  second : ∀ frame, frames[1]? = some frame → Accepted frame
  later : ∀ frame ∈ frames.drop 2, ¬ Garbled frame

/-- Both sides of the handshake, and what has been sent since. -/
inductive Tunnels (settings : Settings) (rules : List Rule) : List Frame → List Outbound → Prop
  | intro {first second : Frame} {more : List Frame} {resources : List Resource}
      {later : List Outbound} : Admitted first → Accepted second →
      resources.map (·.rule) = rules → (∀ frame ∈ later, Tunnelled frame) →
      Tunnels settings rules (first :: second :: more)
        (authorization settings :: Registrar.frame resources :: later)

/-- What may have been sent when these frames have been read. -/
inductive Sends (settings : Settings) (rules : List Rule) : List Frame → List Outbound → Prop
  | nothing {frames : List Frame} : Sends settings rules frames []
  | request {frames : List Frame} : Sends settings rules frames [authorization settings]
  | manifest {first : Frame} {more : List Frame} {resources : List Resource} : Admitted first →
      resources.map (·.rule) = rules →
      Sends settings rules (first :: more) [authorization settings, Registrar.frame resources]
  | tunnel {frames : List Frame} {sent : List Outbound} : Tunnels settings rules frames sent →
      Sends settings rules frames sent

/-- Where the main task stands in the handshake when this has been read and sent. -/
inductive Handshake (settings : Settings) (rules : List Rule) :
    Point → List Frame → List Outbound → Prop
  | greeting {rest : Bytes} : Handshake settings rules (.greeting rest) [] []
  | authorizing : Handshake settings rules .authorizing [] []
  | awaitingAuthorization :
      Handshake settings rules .awaitingAuthorization [] [authorization settings]
  | registering {first : Frame} : Admitted first →
      Handshake settings rules .registering [first] [authorization settings]
  | awaitingRegistration {first : Frame} {resources : List Resource} : Admitted first →
      resources.map (·.rule) = rules →
      Handshake settings rules (.awaitingRegistration resources) [first]
        [authorization settings, Registrar.frame resources]
  | opening {first second : Frame} {resources : List Resource} {health : HealthConfig} :
      Admitted first → Accepted second → resources.map (·.rule) = rules →
      Handshake settings rules (.opening health) [first, second]
        [authorization settings, Registrar.frame resources]

/-- The session has not come to dispatch. -/
structure Outset (settings : Settings) (frames : List Frame) (sent : List Outbound) (s : Session)
    (d : Diary) : Prop where
  settings : s.settings = settings
  frames : d.frames = frames
  sent : d.sent = sent
  unreached : s.reachedDispatching = false
  unpublished : s.published = false
  still : s.monitor.ticking = none
  well : s.healthFailed = false
  unwell : d.unwell = false
  phase : s.phase ≠ .dispatching
  entered : d.entered = false

/-- The session has come to dispatch. -/
structure Underway (settings : Settings) (s : Session) (d : Diary) : Prop where
  reached : s.reachedDispatching = true
  entered : d.entered = true
  unwell : d.unwell = s.healthFailed
  tunnels : Tunnels settings d.rules d.frames d.sent

/-- What a fault that the main task has met makes the result. -/
def outcome (fault : SessionFault) (stopping : Bool) : Except SessionFault Unit :=
  if fault = .closed ∧ stopping then .ok () else .error fault

/-- The fault that a setback is taken for. -/
inductive Leads : Setback → SessionFault → Prop
  | unwritten {text : String} : Leads .unwritten (.transport text)
  | oversized {text : String} : Leads .oversized (.framing text)
  | stranded {text : String} : Leads .stranded (.transport text)
  | unread {fault : FrameFault} : Leads (.unread fault) (.ofTransport (.frame fault))
  | closed : Leads .closed .closed

/-- The result of a session, and what in its diary leads to it. -/
inductive Ends (d : Diary) : Except SessionFault Unit → Prop
  | hindered {setback : Setback} {fault : SessionFault} : d.setback = some setback →
      Leads setback fault → d.unwell = false → Favourable d.frames →
      Ends d (outcome fault d.stopping)
  | unwell {deadline : Duration} : d.setback = some .closed → d.unwell = true →
      Favourable d.frames → Ends d (.error (.healthCheck deadline))
  | refused {frame : Frame} {text : String} : d.setback = none → d.unwell = false →
      d.frames = [frame] → ¬ Admitted frame → Ends d (.error (.authentication text))
  | declined {first second : Frame} {text : String} : d.setback = none → d.unwell = false →
      d.frames = [first, second] → Admitted first → ¬ Accepted second →
      Ends d (.error (.registration text))
  | spoiled {frames : List Frame} {frame : Frame} {text : String} : d.setback = none →
      d.unwell = false → d.frames = frames ++ [frame] → 2 ≤ frames.length → Favourable frames →
      Garbled frame → Ends d (.error (.transport text))

/-- What a session leaves behind when it ends. -/
structure Settled (s : Session) (result : Except SessionFault Unit) : Prop where
  point : s.point = .ended result
  phase : s.phase = .ending result
  live : s.shared.live = false
  closed : s.outgoing.closed = true
  published : s.published = false
  still : s.monitor.ticking = none

/-- The session is dispatching. A failed monitor has closed it. -/
structure Dispatches (settings : Settings) (s : Session) (d : Diary) : Prop where
  point : s.point = .dispatching
  underway : Underway settings s d
  unhindered : d.setback = none
  favourable : Favourable d.frames
  closed : s.healthFailed = true → s.outgoing.closed = true

inductive Course (settings : Settings) (s : Session) (d : Diary) : Prop
  | outset {frames : List Frame} {sent : List Outbound} :
      Handshake settings d.rules s.point frames sent → Outset settings frames sent s d →
      d.setback = none → Course settings s d
  | dispatching : Dispatches settings s d → Course settings s d
  | barred {frames : List Frame} {sent : List Outbound} {result : Except SessionFault Unit} :
      Settled s result → Sends settings d.rules frames sent →
      Outset settings frames sent s d → Ends d result → Course settings s d
  | left {result : Except SessionFault Unit} : Settled s result → Underway settings s d →
      Ends d result → Course settings s d

variable {settings : Settings} {rules : List Rule} {frames frames' : List Frame}
  {sent sent' : List Outbound} {point : Point} {s s' : Session} {d d' : Diary} {event : Event}
  {met : Option (Except Setback Frame)} {result : Except SessionFault Unit}

theorem Favourable.nil : Favourable [] := ⟨nofun, nofun, nofun⟩

theorem Favourable.one {first : Frame} (h : Admitted first) : Favourable [first] := by
  refine ⟨fun frame hframe => ?_, nofun, nofun⟩
  cases hframe
  exact h

theorem Favourable.two {first second : Frame} (h : Admitted first) (h' : Accepted second) :
    Favourable [first, second] := by
  refine ⟨fun frame hframe => ?_, fun frame hframe => ?_, nofun⟩ <;> cases hframe <;> assumption

/-- Behind the handshake any frame is fine that can be read. -/
theorem Favourable.concat (h : Favourable frames) (hlength : 2 ≤ frames.length) {frame : Frame}
    (hframe : ¬ Garbled frame) : Favourable (frames ++ [frame]) := by
  refine ⟨?_, ?_, ?_⟩
  · rw [List.getElem?_append_left (by omega)]
    exact h.first
  · rw [List.getElem?_append_left (by omega)]
    exact h.second
  · rw [List.drop_append_of_le_length hlength]
    intro later hlater
    rcases List.mem_append.mp hlater with hlater | hlater
    · exact h.later later hlater
    · rwa [List.mem_singleton.mp hlater]

theorem Tunnels.hear (h : Tunnels settings rules frames sent) (more : List Frame) :
    Tunnels settings rules (frames ++ more) sent := by
  cases h with
  | intro hadmitted haccepted hrules hlater => exact .intro hadmitted haccepted hrules hlater

theorem Tunnels.send (h : Tunnels settings rules frames sent) {later : List Outbound}
    (hlater : ∀ frame ∈ later, Tunnelled frame) : Tunnels settings rules frames (sent ++ later) := by
  cases h with
  | intro hadmitted haccepted hrules hbefore =>
    refine .intro hadmitted haccepted hrules fun frame hframe => ?_
    rcases List.mem_append.mp hframe with hframe | hframe
    · exact hbefore frame hframe
    · exact hlater frame hframe

theorem Tunnels.two_le (h : Tunnels settings rules frames sent) : 2 ≤ frames.length := by
  cases h
  simp

theorem Sends.hear (h : Sends settings rules frames sent) (more : List Frame) :
    Sends settings rules (frames ++ more) sent := by
  cases h with
  | nothing => exact .nothing
  | request => exact .request
  | manifest hadmitted hrules => exact .manifest hadmitted hrules
  | tunnel htunnels => exact .tunnel (htunnels.hear more)

theorem Handshake.sends (h : Handshake settings rules point frames sent) :
    Sends settings rules frames sent := by
  cases h with
  | greeting | authorizing => exact .nothing
  | awaitingAuthorization | registering => exact .request
  | awaitingRegistration hadmitted hrules => exact .manifest hadmitted hrules
  | opening hadmitted _ hrules => exact .manifest hadmitted hrules

/-- The main task is on its way to dispatching. -/
def Point.isEarly : Point → Bool
  | .dispatching => false
  | .ended _ => false
  | _ => true

theorem result?_of_early (h : s.point.isEarly = true) : s.result? = none := by
  unfold result?
  split
  · rename_i hpoint
    rw [hpoint] at h
    cases h
  · rfl

theorem Handshake.early (h : Handshake settings rules point frames sent) :
    point.isEarly = true := by
  cases h <;> rfl

theorem Handshake.favourable (h : Handshake settings rules point frames sent) :
    Favourable frames := by
  cases h with
  | greeting | authorizing | awaitingAuthorization => exact .nil
  | registering hadmitted | awaitingRegistration hadmitted => exact .one hadmitted
  | opening hadmitted haccepted => exact .two hadmitted haccepted

/-- Of all the points only that of the manifest settles the rules. -/
theorem rules_of_other (h : s.point ≠ .registering) : (d.enter event met s s').rules = d.rules := by
  simp only [Diary.enter]

/-- The rules of the manifest are settled when it has been made. -/
theorem Handshake.enter (h : Handshake settings d.rules s.point frames sent) :
    Handshake settings (d.enter event met s s').rules s.point frames sent := by
  by_cases hpoint : s.point = .registering
  · rw [hpoint] at h ⊢
    cases h with
    | registering hadmitted => exact .registering hadmitted
  · rwa [rules_of_other hpoint]

theorem Ends.congr (h : Ends d result) (hsetback : d'.setback = d.setback)
    (hunwell : d'.unwell = d.unwell) (hframes : d'.frames = d.frames)
    (hstopping : d'.stopping = d.stopping) : Ends d' result := by
  cases h with
  | hindered h hleads hwell hfav =>
    rw [← hstopping]
    exact .hindered (hsetback.trans h) hleads (hunwell.trans hwell) (hframes ▸ hfav)
  | unwell h hwell hfav => exact .unwell (hsetback.trans h) (hunwell.trans hwell) (hframes ▸ hfav)
  | refused h hwell hread hbad =>
    exact .refused (hsetback.trans h) (hunwell.trans hwell) (hframes.trans hread) hbad
  | declined h hwell hread hadmitted hbad =>
    exact .declined (hsetback.trans h) (hunwell.trans hwell) (hframes.trans hread) hadmitted hbad
  | spoiled h hwell hread hlength hfav hbad =>
    exact .spoiled (hsetback.trans h) (hunwell.trans hwell) (hframes.trans hread) hlength hfav hbad

theorem sent_of_queue_eq (h : s'.outgoing.queue = s.outgoing.queue) : sent = sent ++ queued s s' := by
  rw [queued_of_queue_eq h, List.append_nil]

theorem Outset.well_enter (h : Outset settings frames sent s d) :
    (d.enter event met s s').unwell = false := by
  simp only [Diary.enter, h.unwell, fails_of_still event h.still, Bool.or_false]

/-- Before dispatching, and as long as nothing starts it. -/
theorem Outset.enter (h : Outset settings frames sent s d) (hframes : frames' = frames ++ heard met)
    (hsent : sent' = sent ++ queued s s') (hsettings : s'.settings = s.settings)
    (hreached : s'.reachedDispatching = s.reachedDispatching)
    (hpublished : s'.published = s.published) (hstill : s'.monitor.ticking = none)
    (hwell : s'.healthFailed = s.healthFailed) (hphase : s'.phase ≠ .dispatching) :
    Outset settings frames' sent' s' (d.enter event met s s') := by
  subst hframes hsent
  refine ⟨hsettings.trans h.settings, by rw [← h.frames]; rfl, by rw [← h.sent]; rfl,
    hreached.trans h.unreached, hpublished.trans h.unpublished, hstill, hwell.trans h.well, ?_,
    hphase, ?_⟩
  · exact h.well_enter
  · simp only [Diary.enter, h.entered, decide_eq_false hphase, Bool.or_false]

/-! ## Beside the main task -/

theorem Outset.aside (h : Outset settings frames sent s d) (haside : Aside event s s') :
    Outset settings frames sent s' (d.enter event none s s') := by
  have hhealth : s'.healthFailed = s.healthFailed := by
    rw [haside.health, fails_of_still event h.still, Bool.or_false]
  refine h.enter (List.append_nil _).symm ?_ haside.settings haside.reached haside.published
    (haside.still h.still) hhealth (haside.phase ▸ h.phase)
  rw [haside.silent h.unreached h.unpublished h.still, List.append_nil]

/-- A session in its last phase stays what it was, whatever comes. -/
theorem Underway.enter {t : Session} (h : Underway settings s d)
    (hreached : t.reachedDispatching = s.reachedDispatching)
    (hhealth : t.healthFailed = (s.healthFailed || fails event s)) (hpoint : s.point ≠ .registering)
    (hsent : ∀ frame ∈ queued s s', Tunnelled frame) :
    Underway settings t (d.enter event met s s') := by
  refine ⟨hreached.trans h.reached, ?_, ?_, ?_⟩
  · simp only [Diary.enter, h.entered, Bool.true_or]
  · simp only [Diary.enter, h.unwell, hhealth]
  · rw [rules_of_other hpoint]
    exact (h.tunnels.hear _).send hsent

theorem Dispatches.settled (h : Dispatches settings s d) : s.point ≠ .registering := by
  rw [h.point]
  exact nofun

theorem Dispatches.well (h : Dispatches settings s d) (hopen : s.outgoing.closed = false) :
    s.healthFailed = false := by
  refine Bool.eq_false_iff.mpr fun hfailed => ?_
  rw [h.closed hfailed] at hopen
  cases hopen

theorem Ends.aside (h : Ends d result) (hmain : event.action.isMain = false)
    (hfails : fails event s = false) : Ends (d.enter event none s s') result := by
  refine h.congr rfl ?_ (List.append_nil _) ?_
  · simp only [Diary.enter, hfails, Bool.or_false]
  · simp only [Diary.enter, hmain, Bool.false_eq_true, if_false]

theorem Settled.result? (h : Settled s result) : s.result? = some result := by
  simp only [Session.result?, h.point]

theorem Settled.aside (h : Settled s result) (haside : Aside event s s') : Settled s' result := by
  refine ⟨haside.point.trans h.point, haside.phase.trans h.phase, ?_, haside.closed (.inl h.closed),
    haside.published.trans h.published, haside.still h.still⟩
  rw [haside.live, h.live, Bool.false_and]

theorem Settled.registered (h : Settled s result) : s.point ≠ .registering := by
  rw [h.point]
  exact nofun

theorem settled_conclude (fault : SessionFault) (hpublished : s.published = false)
    (hstill : s.monitor.ticking = none) :
    Settled (s.conclude fault) (outcome fault s.shared.shutdown) := by
  obtain ⟨result, hpoint, hphase⟩ := conclude_ending fault s
  cases hpoint
  exact ⟨rfl, hphase, rfl, rfl, hpublished, hstill⟩

theorem Course.aside (h : Course settings s d) (hmain : event.action.isMain = false)
    (haside : Aside event s s') : Course settings s' (d.enter event none s s') := by
  cases h with
  | outset hshake houtset hnone =>
    refine .outset ?_ (houtset.aside haside) hnone
    rw [haside.point]
    exact hshake.enter
  | dispatching hdisp =>
    refine .dispatching ⟨haside.point.trans hdisp.point, hdisp.underway.enter haside.reached
      haside.health hdisp.settled haside.sent, hdisp.unhindered, ?_, fun hfailed => ?_⟩
    · exact (congrArg Favourable (List.append_nil d.frames)).mpr hdisp.favourable
    · rw [haside.health, Bool.or_eq_true] at hfailed
      exact haside.closed (hfailed.imp_left hdisp.closed)
  | barred hsettled hsends houtset hends =>
    refine .barred (hsettled.aside haside) ?_ (houtset.aside haside)
      (hends.aside hmain (fails_of_still event hsettled.still))
    rwa [rules_of_other hsettled.registered]
  | left hsettled hunderway hends =>
    exact .left (hsettled.aside haside)
      (hunderway.enter haside.reached haside.health hsettled.registered haside.sent)
      (hends.aside hmain (fails_of_still event hsettled.still))

/-! ## The main task -/

variable {draws : List UInt64} {nonce : UInt64}

/-- Up to dispatching a session ends when its main task does. -/
theorem Outset.conclude (h : Outset settings frames sent s d)
    (hshake : Handshake settings d.rules s.point frames sent) (reader : Reader)
    (fault : SessionFault) (event : Event) (met : Option (Except Setback Frame))
    (hends : Ends (d.enter event met s ({ s with reader }.conclude fault))
      (outcome fault s.shared.shutdown)) :
    Course settings ({ s with reader }.conclude fault)
      (d.enter event met s ({ s with reader }.conclude fault)) := by
  have hsettled := settled_conclude (s := { s with reader }) fault h.unpublished h.still
  refine .barred hsettled (hshake.enter.sends.hear (heard met))
    (h.enter rfl (sent_of_queue_eq rfl) rfl rfl rfl h.still rfl ?_) hends
  rw [hsettled.phase]
  cases outcome fault s.shared.shutdown <;> exact nofun

/-- A setback up to dispatching. -/
theorem Outset.hindered (h : Outset settings frames sent s d)
    (hshake : Handshake settings d.rules s.point frames sent) (reader : Reader) {setback : Setback}
    {fault : SessionFault} (hleads : Leads setback fault) :
    Course settings ({ s with reader }.conclude fault)
      (d.enter (.own (.main draws nonce)) (some (.error setback)) s
        ({ s with reader }.conclude fault)) := by
  refine h.conclude hshake reader fault _ _ (.hindered rfl hleads h.well_enter ?_)
  have hframes : (d.frames ++ [] : List Frame) = frames := (List.append_nil _).trans h.frames
  exact (congrArg Favourable hframes).mpr hshake.favourable

theorem Course.early (h : Course settings s d) (hearly : s.point.isEarly = true) :
    ∃ frames sent, Handshake settings d.rules s.point frames sent ∧
      Outset settings frames sent s d ∧ d.setback = none := by
  cases h with
  | outset hshake houtset hnone => exact ⟨_, _, hshake, houtset, hnone⟩
  | dispatching hdisp =>
    rw [hdisp.point] at hearly
    cases hearly
  | barred hsettled | left hsettled =>
    rw [hsettled.point] at hearly
    cases hearly

theorem Course.at (h : Course settings s d) (hpoint : s.point = point)
    (hearly : point.isEarly = true) :
    ∃ frames sent, Handshake settings d.rules point frames sent ∧
      Outset settings frames sent s d ∧ d.setback = none := by
  subst hpoint
  exact h.early hearly

theorem Course.dispatches (h : Course settings s d) (hpoint : s.point = .dispatching) :
    Dispatches settings s d := by
  cases h with
  | outset hshake =>
    rw [hpoint] at hshake
    cases hshake
  | dispatching hdisp => exact hdisp
  | barred hsettled | left hsettled => cases hpoint.symm.trans hsettled.point

theorem Course.settled (h : Course settings s d) (hresult : s.result? = some result) :
    Settled s result ∧ Ends d result := by
  cases h with
  | outset hshake =>
    rw [result?_of_early hshake.early] at hresult
    cases hresult
  | dispatching hdisp =>
    simp [result?, hdisp.point] at hresult
  | barred hsettled _ _ hends | left hsettled _ hends =>
    cases hsettled.result?.symm.trans hresult
    exact ⟨hsettled, hends⟩

theorem Asks.early {frame : Outbound} {next : Point} (h : s.Asks draws frame next) :
    s.point.isEarly = true := by
  cases h with
  | authorization hpoint | registration hpoint =>
    rw [hpoint]
    rfl

theorem Point.AwaitsReply.early (h : point.AwaitsReply) : point.isEarly = true := by
  rcases h with rfl | ⟨resources, rfl⟩ <;> rfl

/-- The dispatching session ends. -/
theorem Dispatches.leave {t : Session} (h : Dispatches settings s d)
    (hmain : event.action.isMain = true) (fault : TransportFault)
    (hreached : t.reachedDispatching = s.reachedDispatching)
    (hhealth : t.healthFailed = s.healthFailed) (hqueue : t.outgoing.queue = s.outgoing.queue)
    (hends : Ends (d.enter event met s (t.leave fault)) (outcome
      (if t.healthFailed then .healthCheck t.monitor.config.deadline else .ofTransport fault)
      t.shared.shutdown)) : Course settings (t.leave fault) (d.enter event met s (t.leave fault)) := by
  have hfails : fails event s = false := fails_of_main hmain
  have hnone : queued s (t.leave fault) = [] := queued_of_queue_eq hqueue
  have henter : Underway settings t (d.enter event met s (t.leave fault)) := by
    refine h.underway.enter hreached ?_ h.settled ?_
    · rw [hfails, Bool.or_false, hhealth]
    · rw [hnone]
      exact nofun
  exact .left (settled_conclude _ rfl rfl)
    ⟨henter.reached, henter.entered, henter.unwell, henter.tunnels⟩ hends

/-- A frame that its handler takes. -/
theorem Dispatches.handle (h : Dispatches settings s d) (hmanned : s.outgoing.Manned)
    (hopen : s.outgoing.closed = false) {frame : Frame} {reader : Reader}
    (hdispatch : handlers.dispatch frame { s with reader } = (.ok (), s')) :
    Dispatches settings s' (d.enter (.own (.main draws nonce)) (some (.ok frame)) s s') := by
  have hwell := h.well hopen
  have htended := tended_of_dispatch hdispatch
  have hhandled := handled_of_dispatch hdispatch
  have hclean : ¬ Garbled frame := by
    rcases dispatch_of_open (s := { s with reader }) frame (hmanned.writing hopen) with
      ⟨-, text, hfail⟩ | ⟨hclean, -⟩
    · cases hdispatch.symm.trans hfail
    · exact hclean
  have hsent : ∀ out ∈ queued s s', Tunnelled out := by
    rcases htended.outgoing with hsame | ⟨nonce, hanswer⟩
    · have hqueue : s'.outgoing.queue = s.outgoing.queue := congrArg Outgoing.queue hsame
      rw [queued_of_queue_eq hqueue]
      exact nofun
    · refine tunnelled_of_enqueue hanswer fun out hout => ?_
      rw [List.mem_singleton.mp hout]
      exact tunnelled_answer nonce
  refine ⟨hhandled.point.trans h.point, h.underway.enter hhandled.reachedDispatching ?_ h.settled
    hsent, h.unhindered, h.favourable.concat h.underway.tunnels.two_le hclean, fun hfailed => ?_⟩
  · exact htended.healthFailed.trans (Bool.or_false _).symm
  · cases (htended.healthFailed.trans hwell).symm.trans hfailed

/-- A frame that its handler cannot read. -/
theorem Dispatches.spoil (h : Dispatches settings s d) (hmanned : s.outgoing.Manned)
    (hopen : s.outgoing.closed = false) {frame : Frame} {reader : Reader} {fault : TransportFault}
    {t : Session} (hdispatch : handlers.dispatch frame { s with reader } = (.error fault, t)) :
    Course settings (t.leave fault)
      (d.enter (.own (.main draws nonce)) (some (.ok frame)) s (t.leave fault)) := by
  have hwell := h.well hopen
  rcases dispatch_of_open (s := { s with reader }) frame (hmanned.writing hopen) with
    ⟨hgarbled, text, hfail⟩ | ⟨-, hok⟩
  · cases hdispatch.symm.trans hfail
    refine h.leave rfl _ rfl rfl rfl ?_
    rw [hwell]
    exact .spoiled h.unhindered ((Bool.or_false _).trans (h.underway.unwell.trans hwell)) rfl
      h.underway.tunnels.two_le h.favourable hgarbled
  · rw [hdispatch] at hok
    cases hok

/-- The main task queues its request. -/
theorem Outset.ask (h : Outset settings frames sent s d)
    (hshake : Handshake settings d.rules s.point frames sent) (hnone : d.setback = none)
    {frame : Outbound} {next : Point} (hasks : s.Asks draws frame next)
    (hopen : s.writerOpen = true) :
    Course settings { s with outgoing := s.outgoing.enqueue [frame], point := next }
      (d.enter (.own (.main draws nonce)) none s
        { s with outgoing := s.outgoing.enqueue [frame], point := next }) := by
  have hqueued : queued s { s with outgoing := s.outgoing.enqueue [frame], point := next } =
      [frame] := by
    rw [queued_of_enqueue rfl]
    exact if_pos hopen
  have henter : Outset settings frames (sent ++ [frame])
      { s with outgoing := s.outgoing.enqueue [frame], point := next } (d.enter
        (.own (.main draws nonce)) none s
        { s with outgoing := s.outgoing.enqueue [frame], point := next }) :=
    h.enter (List.append_nil _).symm (by rw [hqueued]) rfl rfl rfl h.still rfl h.phase
  refine .outset ?_ henter hnone
  cases hasks with
  | authorization hpoint =>
    rw [hpoint] at hshake
    cases hshake
    rw [h.settings]
    exact .awaitingAuthorization
  | registration hpoint hkeys =>
    rw [hpoint] at hshake
    cases hshake with
    | registering hadmitted =>
    refine .awaitingRegistration hadmitted ?_
    rw [assignKeys_rules hkeys]
    simp only [Diary.enter, hpoint]

/-- The session comes to dispatch. -/
theorem Outset.opens {health : HealthConfig} (h : Outset settings frames sent s d)
    (hshake : Handshake settings d.rules (.opening health) frames sent)
    (hpoint : s.point = .opening health) (hnone : d.setback = none) :
    Dispatches settings (s.openTunnel health nonce)
      (d.enter (.own (.main draws nonce)) none s (s.openTunnel health nonce)) := by
  cases hshake with
  | opening hadmitted haccepted hrules =>
  have hqueued : queued s (s.openTunnel health nonce) = [] := queued_of_queue_eq rfl
  have hframes : d.frames ++ heard none = _ := (List.append_nil _).trans h.frames
  have hsent : d.sent ++ queued s (s.openTunnel health nonce) = _ :=
    (congrArg _ hqueued).trans ((List.append_nil _).trans h.sent)
  refine ⟨rfl, ⟨rfl, Bool.or_true _, h.well_enter.trans h.well.symm, ?_⟩, hnone, ?_,
    fun hfailed => ?_⟩
  · rw [rules_of_other (by rw [hpoint]; exact nofun)]
    simp only [Diary.enter, hframes, hsent]
    exact .intro hadmitted haccepted hrules nofun
  · simp only [Diary.enter, hframes]
    exact .two hadmitted haccepted
  · cases h.well.symm.trans hfailed

/-- The dispatching session finds its transport closed. -/
theorem Dispatches.left (h : Dispatches settings s d) : Course settings (s.leave .aborted)
    (d.enter (.own (.main draws nonce)) (some (.error .closed)) s (s.leave .aborted)) := by
  have hfav : Favourable (d.frames ++ []) := (List.append_nil d.frames).symm ▸ h.favourable
  have hunwell : (d.unwell || false) = s.healthFailed :=
    (Bool.or_false _).trans h.underway.unwell
  refine h.leave rfl .aborted rfl rfl rfl ?_
  cases hfailed : s.healthFailed with
  | true => exact .unwell rfl (hunwell.trans hfailed) hfav
  | false => exact .hindered rfl .closed (hunwell.trans hfailed) hfav

/-- The stream of the dispatching session yields a fault. -/
theorem Dispatches.lose (h : Dispatches settings s d) (hopen : s.outgoing.closed = false)
    (reader : Reader) (fault : FrameFault) :
    Course settings ({ s with reader }.leave (.frame fault))
      (d.enter (.own (.main draws nonce)) (some (.error (.unread fault))) s
        ({ s with reader }.leave (.frame fault))) := by
  have hfav : Favourable (d.frames ++ []) := (List.append_nil d.frames).symm ▸ h.favourable
  have hwell := h.well hopen
  refine h.leave rfl _ rfl rfl rfl ?_
  rw [hwell]
  exact .hindered rfl .unread ((Bool.or_false _).trans (h.underway.unwell.trans hwell)) hfav

theorem Course.main (h : Course settings s d) (hmanned : s.outgoing.Manned)
    (hmain : event.action.isMain = true) (hturn : Turn s event met s') :
    Course settings s' (d.enter event met s s') := by
  cases hturn with
  | connected hpoint | unconnected hpoint =>
    obtain ⟨frames, sent, hshake, -⟩ := h.at hpoint rfl
    cases hshake
  | greeted hpoint =>
    obtain ⟨frames, sent, hshake, houtset, hnone⟩ := h.at hpoint rfl
    cases hshake
    exact .outset .authorizing
      (houtset.enter rfl (sent_of_queue_eq rfl) rfl rfl rfl houtset.still rfl nofun) hnone
  | put hpoint =>
    obtain ⟨frames, sent, hshake, houtset, hnone⟩ := h.at hpoint rfl
    cases hshake
    exact .outset .greeting
      (houtset.enter rfl (sent_of_queue_eq rfl) rfl rfl rfl houtset.still rfl houtset.phase) hnone
  | unwritten hpoint =>
    obtain ⟨frames, sent, hshake, houtset, -⟩ := h.early (by rw [hpoint]; rfl)
    exact houtset.hindered hshake s.reader .unwritten
  | asked hasks _ hopen =>
    obtain ⟨frames, sent, hshake, houtset, hnone⟩ := h.early hasks.early
    exact houtset.ask hshake hnone hasks hopen
  | oversized hasks =>
    obtain ⟨frames, sent, hshake, houtset, -⟩ := h.early hasks.early
    exact houtset.hindered hshake s.reader .oversized
  | stranded hasks =>
    obtain ⟨frames, sent, hshake, houtset, -⟩ := h.early hasks.early
    exact houtset.hindered hshake s.reader .stranded
  | shut hawaits =>
    obtain ⟨frames, sent, hshake, houtset, -⟩ := h.early hawaits.early
    exact houtset.hindered hshake s.reader .closed
  | unread hawaits =>
    obtain ⟨frames, sent, hshake, houtset, -⟩ := h.early hawaits.early
    exact houtset.hindered hshake _ .unread
  | admitted hpoint _ _ hadmitted =>
    obtain ⟨frames, sent, hshake, houtset, hnone⟩ := h.at hpoint rfl
    cases hshake
    exact .outset (.registering hadmitted)
      (houtset.enter rfl (sent_of_queue_eq rfl) rfl rfl rfl houtset.still rfl nofun) hnone
  | refused hpoint _ _ hrefused =>
    obtain ⟨frames, sent, hshake, houtset, hnone⟩ := h.early (by rw [hpoint]; rfl)
    refine houtset.conclude hshake _ _ _ _ (.refused hnone houtset.well_enter ?_ hrefused)
    rw [hpoint] at hshake
    cases hshake
    exact congrArg (· ++ [_]) houtset.frames
  | accepted hpoint _ _ htype haccepts =>
    obtain ⟨frames, sent, hshake, houtset, hnone⟩ := h.at hpoint rfl
    cases hshake with
    | awaitingRegistration hadmitted hrules =>
    refine .outset (.opening hadmitted ⟨htype, _, haccepts⟩ ?_)
      (houtset.enter rfl (sent_of_queue_eq rfl) rfl rfl rfl houtset.still rfl nofun) hnone
    rwa [rules_of_other (by rw [hpoint]; exact nofun)]
  | declined hpoint _ _ hdeclined =>
    obtain ⟨frames, sent, hshake, houtset, hnone⟩ := h.early (by rw [hpoint]; rfl)
    have hat := hshake
    rw [hpoint] at hat
    cases hat with
    | awaitingRegistration hadmitted =>
    exact houtset.conclude hshake _ _ _ _ (.declined hnone houtset.well_enter
      (congrArg (· ++ [_]) houtset.frames) hadmitted hdeclined)
  | opened hpoint =>
    obtain ⟨frames, sent, hshake, houtset, hnone⟩ := h.at hpoint rfl
    exact .dispatching (houtset.opens hshake hpoint hnone)
  | left hpoint => exact (h.dispatches hpoint).left
  | lost hpoint hopen => exact (h.dispatches hpoint).lose hopen _ _
  | handled hpoint hopen _ hdispatch =>
    exact .dispatching ((h.dispatches hpoint).handle hmanned hopen hdispatch)
  | unhandled hpoint hopen _ hdispatch =>
    exact (h.dispatches hpoint).spoil hmanned hopen hdispatch
  | renewed haction | unrenewed haction =>
    rw [haction] at hmain
    cases hmain
  | _ => cases hmain

theorem Course.turn (h : Course settings s d) (hmanned : s.outgoing.Manned)
    (hturn : Turn s event met s') : Course settings s' (d.enter event met s s') := by
  cases hmain : event.action.isMain with
  | true => exact h.main hmanned hmain hturn
  | false =>
    obtain ⟨rfl, haside⟩ := hturn.aside hmain
    exact h.aside hmain haside

/-! ## From the first byte on -/

/-- A session that has just got its connection. -/
def connected (settings : Settings) (shared : Shared) (now : Duration) (capacity : Nat) : Session :=
  { start settings shared now capacity with
    phase := .connected, point := .greeting (Utf8.encode preamble) }

theorem run_connected (settings : Settings) (shared : Shared) (now : Duration) (capacity : Nat)
    (events : List Event) :
    Diary.run (.own (.connect (.ok ())) :: events) (start settings shared now capacity) {} =
      Diary.run events (connected settings shared now capacity) { stopping := shared.shutdown } :=
  rfl

section

variable {shared : Shared} {now : Duration} {capacity : Nat} {events : List Event}

/-- What every turn of a session on its course preserves, a run preserves. -/
theorem preserved_on_course {P : Session → Diary → Prop}
    (hrun : Diary.run (.own (.connect (.ok ())) :: events) (start settings shared now capacity) {} =
      some (s, d))
    (hstart : P (connected settings shared now capacity) { stopping := shared.shutdown })
    (hturn : ∀ {event met s s' d}, s.outgoing.Manned → Course settings s d → P s d →
      Turn s event met s' → P s' (d.enter event met s s')) :
    (s.outgoing.Manned ∧ Course settings s d) ∧ P s d := by
  rw [run_connected] at hrun
  refine Diary.preserved_of_run
    (P := fun s d => (s.outgoing.Manned ∧ Course settings s d) ∧ P s d) ?_
    ⟨⟨⟨rfl, fun _ => rfl⟩, ?_⟩, hstart⟩ hrun
  · rintro event met s s' d ⟨⟨hmanned, hcourse⟩, hP⟩ h
    exact ⟨⟨manned_of_turn hmanned h, hcourse.turn hmanned h⟩, hturn hmanned hcourse hP h⟩
  · exact .outset .greeting ⟨rfl, rfl, rfl, rfl, rfl, rfl, rfl, rfl, nofun, rfl⟩ rfl

theorem course_of_run
    (hrun : Diary.run (.own (.connect (.ok ())) :: events) (start settings shared now capacity) {} =
      some (s, d)) : s.outgoing.Manned ∧ Course settings s d :=
  (preserved_on_course (P := fun _ _ => True) hrun trivial fun _ _ _ _ => trivial).1

end

/-! ## A session that is let in -/

def plainSettings : Settings where
  credentials := ⟨"a", "u", "", "v"⟩
  health := .ofParts 1 1
  bufferSize := 1024

def plainShared : Shared where
  rules := []
  pool := { capacity := 8, retryAttempts := 0, retryInterval := 1 }

/-- The session comes to dispatch. -/
def letIn : List Event :=
  [.own (.main [] 0), .own (.main [] 0), .own (.main [] 0),
    .own (.deliver (Envelope.encode 0 .authorizationResponse
      (AuthorizationResponse.format.write ⟨.ok, none⟩))),
    .own (.main [] 0), .own (.main [] 0),
    .own (.deliver (Envelope.encode 1 .registrationResponse
      (RegistrationResponse.format.write ⟨.ok, none, none⟩))),
    .own (.main [] 0), .own (.main [] 9)]

end Session

end TunnelAgent
