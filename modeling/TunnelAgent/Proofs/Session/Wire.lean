import TunnelAgent.Agent
import TunnelAgent.Proofs.Session.Progress
import TunnelAgent.Proofs.Transport.Writing

/-! # What a session puts on the wire

The bytes that the gateway reads, and those still in the pipe, are the preamble and the envelopes of
the frames queued, in their order and numbered from zero, up to wherever the stream has come. The
frames are the two requests of the handshake, each once the reply to the one before has been read,
and those of a tunnel. -/

namespace TunnelAgent

/-- These frames have been put behind those in the queue; nothing has been written. -/
structure Outgoing.Grows (o o' : Outgoing) (frames : List Outbound) : Prop where
  queue : o'.queue = o.queue ++ frames
  stage : o'.stage = o.stage
  encoder : o'.encoder = o.encoder
  held : o'.pipe.held = o.pipe.held
  closed : o.closed = true → o'.closed = true
  handles : o'.handles = o.handles
  accepting : o.stage = .ended → frames = []

namespace Outgoing

variable {o o' : Outgoing} {frames done later : List Outbound} {part : Bytes}

theorem Grows.refl (o : Outgoing) : o.Grows o [] :=
  ⟨(List.append_nil _).symm, rfl, rfl, rfl, id, rfl, fun _ => rfl⟩

theorem Grows.close (h : o.Grows o' frames) : o.Grows o'.close frames :=
  ⟨h.queue, h.stage, h.encoder, h.held, fun _ => rfl, h.handles, h.accepting⟩

theorem grows_enqueue (o : Outgoing) (frames : List Outbound) :
    o.Grows (o.enqueue frames) (if o.isOpen then frames else []) := by
  unfold enqueue
  split
  · rename_i hopen
    refine ⟨rfl, rfl, rfl, rfl, id, rfl, ?_⟩
    intro hended
    rw [isOpen, hended] at hopen
    cases hopen
  · exact .refl o

theorem Grows.stands (h : o.Grows o' frames) (hstands : o.Stands done later part) :
    o'.Stands done (later ++ frames) part :=
  hstands.grow h.stage h.encoder h.queue h.accepting
    (Or.imp h.closed fun hlast => ⟨h.handles.trans hlast.1, hlast.2⟩)

end Outgoing

namespace Session
open Envelope

variable {settings : Settings} {s s' : Session} {d : Diary} {event : Event}
  {met : Option (Except Setback Frame)} {begun part : Bytes} {done later : List Outbound}

/-! ## The queue and the pipe -/

/-- What a turn does to the outgoing side, except that it may write some of the preamble. -/
inductive Stirs (event : Event) (s s' : Session) : Prop
  | grows : s.outgoing.Grows s'.outgoing (queued s s') → event.action.taken s = [] → Stirs event s s'
  | writes : s.outgoing.step = some s'.outgoing → event.action.taken s = [] → Stirs event s s'
  | reads {count : Nat} : event.action.taken s = (s.outgoing.read count).1 →
      s'.outgoing = (s.outgoing.read count).2.2 → Stirs event s s'

theorem grows_of_same (h : s'.outgoing = s.outgoing) : s.outgoing.Grows s'.outgoing (queued s s') := by
  rw [queued_of_queue_eq (congrArg _ h), h]
  exact .refl _

theorem grows_of_close (h : s'.outgoing = s.outgoing.close) :
    s.outgoing.Grows s'.outgoing (queued s s') := by
  have hqueue : s'.outgoing.queue = s.outgoing.queue := congrArg (·.queue) h
  rw [queued_of_queue_eq hqueue, h]
  exact (Outgoing.Grows.refl _).close

theorem grows_of_enqueue {frames : List Outbound} (h : s'.outgoing = s.outgoing.enqueue frames) :
    s.outgoing.Grows s'.outgoing (queued s s') := by
  rw [queued_of_enqueue h, h]
  exact Outgoing.grows_enqueue _ _

theorem grows_of_dispatch {frame : Frame} {reader : Reader} {outcome : Except TransportFault Unit}
    (h : handlers.dispatch frame { s with reader } = (outcome, s')) :
    s.outgoing.Grows s'.outgoing (queued s s') := by
  rcases (tended_of_dispatch h).outgoing with hsame | ⟨nonce, hanswer⟩
  · exact grows_of_same hsame
  · exact grows_of_enqueue hanswer

/-- Every turn but one that writes some of the preamble. -/
theorem Turn.stirs (h : Turn s event met s')
    (hgreeting : ∀ rest, s.point = .greeting rest → event.action.isMain = false) :
    Stirs event s s' := by
  cases h with
  | put hpoint => cases hgreeting _ hpoint
  | taken => exact .reads rfl rfl
  | written _ hstep => exact .writes hstep rfl
  | handled _ _ _ hdispatch => exact .grows (grows_of_dispatch hdispatch) rfl
  | unhandled _ _ _ hdispatch => exact .grows (grows_of_dispatch hdispatch).close rfl
  | asked | pinged | relayed => exact .grows (grows_of_enqueue rfl) rfl
  | renewed haction =>
    refine .grows (grows_of_enqueue rfl) ?_
    rw [haction]
    rfl
  | unrenewed haction =>
    refine .grows (grows_of_same rfl) ?_
    rw [haction]
    rfl
  | deserted =>
    have hnone : queued s { s with outgoing := s.outgoing.dropReader } = [] := queued_of_queue_eq rfl
    refine .grows ?_ rfl
    rw [hnone]
    exact ⟨(List.append_nil _).symm, rfl, rfl, rfl, id, rfl, fun _ => rfl⟩
  | unconnected | unwritten | oversized | stranded | shut | unread | refused | declined | left | lost
  | watched | failed => exact .grows (grows_of_close rfl) rfl
  | connected | greeted | admitted | accepted | opened | unpinged | advanced | delivered | finished
  | stopped | ruled => exact .grows (grows_of_same rfl) rfl

/-- Only what can be framed is queued. -/
theorem Turn.fits (h : Turn s event met s') : ∀ frame ∈ queued s s', fits frame.payload := by
  have hnone : ∀ {t : Session}, t.outgoing.queue = s.outgoing.queue →
      ∀ frame ∈ queued s t, Envelope.fits frame.payload := by
    intro t hqueue
    rw [queued_of_queue_eq hqueue]
    exact nofun
  have hone : ∀ {t : Session} {out : Outbound}, t.outgoing = s.outgoing.enqueue [out] →
      Envelope.fits out.payload → ∀ frame ∈ queued s t, Envelope.fits frame.payload := by
    intro t out henqueue hfits
    rw [queued_of_enqueue henqueue]
    split
    · intro frame hframe
      rwa [List.mem_singleton.mp hframe]
    · exact nofun
  have hanswered : ∀ {frame : Frame} {reader : Reader} {outcome : Except TransportFault Unit}
      {t : Session}, handlers.dispatch frame { s with reader } = (outcome, t) →
      ∀ frame ∈ queued s t, Envelope.fits frame.payload := by
    intro frame reader outcome t hdispatch
    rcases (tended_of_dispatch hdispatch).outgoing with hsame | ⟨nonce, hanswer⟩
    · exact hnone (congrArg _ hsame)
    · exact hone hanswer (HealthMonitor.fits_answer nonce)
  cases hmain : event.action.isMain with
  | false =>
    obtain ⟨-, haside⟩ := h.aside hmain
    exact fun frame hframe => (haside.sent frame hframe).fits
  | true =>
    cases h with
    | asked _ hfits => exact hone rfl hfits
    | handled _ _ _ hdispatch => exact hanswered hdispatch
    | unhandled _ _ _ hdispatch =>
      have hqueued := hanswered hdispatch
      exact hqueued
    | renewed haction | unrenewed haction =>
      rw [haction] at hmain
      cases hmain
    | written | watched | pinged | unpinged | failed | relayed | advanced | delivered | finished | taken
    | deserted | stopped | ruled => cases hmain
    | _ => exact hnone rfl

/-! ## The account of the wire -/

/-- What has been put on the wire, of the frames that have been sent: `done` behind the bytes of the
preamble, and a part of the next one. -/
structure Laid (begun : Bytes) (done later : List Outbound) (part : Bytes) (s : Session)
    (d : Diary) : Prop where
  output : d.received ++ s.outgoing.pipe.held = begun ++ ((Outbound.envelopes done).flatten ++ part)
  stands : s.outgoing.Stands done later part
  sent : d.sent = done ++ later
  fits : ∀ frame ∈ d.sent, Envelope.fits frame.payload

/-- Nothing but bytes of the preamble is on the wire, and no frame has been sent. -/
def Bare (begun : Bytes) (s : Session) (d : Diary) : Prop := Laid begun [] [] [] s d

theorem Laid.stir (h : Laid begun done later part s d) (hstirs : Stirs event s s')
    (hfits : ∀ frame ∈ queued s s', Envelope.fits frame.payload) :
    ∃ done later part, Laid begun done later part s' (d.enter event met s s') := by
  have hall : ∀ frame ∈ (d.enter event met s s').sent, Envelope.fits frame.payload := by
    intro frame hframe
    rcases List.mem_append.mp hframe with hframe | hframe
    · exact h.fits frame hframe
    · exact hfits frame hframe
  cases hstirs with
  | grows hgrows htaken =>
    refine ⟨done, later ++ queued s s', part, ?_, hgrows.stands h.stands, ?_, hall⟩
    · simp only [Diary.enter, htaken, List.append_nil, hgrows.held]
      exact h.output
    · simp only [Diary.enter, h.sent, List.append_assoc]
  | writes hstep htaken =>
    have hlater : ∀ frame ∈ later, Envelope.fits frame.payload := by
      intro frame hframe
      exact h.fits frame (h.sent ▸ List.mem_append_right _ hframe)
    obtain ⟨done', later', part', written, hstands, hframes, hheld, houtput, -⟩ :=
      h.stands.write hlater hstep
    refine ⟨done', later', part', ?_, hstands, ?_, hall⟩
    · simp only [Diary.enter, htaken, List.append_nil, hheld, houtput]
      rw [← List.append_assoc, h.output, List.append_assoc]
    · simp only [Diary.enter, queued_of_write hstep, List.append_nil, h.sent, hframes]
  | reads htaken houtgoing =>
    have hsplit : s.outgoing.pipe.held = event.action.taken s ++ s'.outgoing.pipe.held := by
      rw [htaken, houtgoing]
      exact (List.take_append_drop _ _).symm
    have hnone : queued s s' = [] := queued_of_queue_eq (by rw [houtgoing]; rfl)
    refine ⟨done, later, part, ?_, ?_, ?_, hall⟩
    · simp only [Diary.enter, List.append_assoc, ← hsplit]
      exact h.output
    · rw [houtgoing]
      exact h.stands.congr rfl rfl rfl id
    · simp only [Diary.enter, hnone, List.append_nil, h.sent]

theorem Laid.isPrefix (h : Laid begun done later part s d) :
    d.received ++ s.outgoing.pipe.held <+: begun ++ (Outbound.envelopes d.sent).flatten := by
  rw [h.output, h.sent]
  exact (List.prefix_append_right_inj begun).mpr h.stands.isPrefix

/-- Without frames nothing but the preamble is on the wire. -/
theorem Laid.bare (h : Laid begun done later part s d) (hsent : d.sent = []) : Bare begun s d := by
  obtain ⟨rfl, rfl⟩ := List.append_eq_nil_iff.mp (h.sent.symm.trans hsent)
  obtain rfl := h.stands.part_of_nil
  exact h

theorem Tunnels.sent_ne_nil {rules : List Rule} {frames : List Frame} {sent : List Outbound}
    (h : Tunnels settings rules frames sent) : sent ≠ [] := by
  cases h
  exact List.cons_ne_nil _ _

/-- A session that has sent nothing is not one that sends beside its main task. -/
theorem Course.silent (h : Course settings s d) (hsent : d.sent = []) (haside : Aside event s s') :
    queued s s' = [] := by
  have htunnels : ¬ Underway settings s d := fun hunderway => hunderway.tunnels.sent_ne_nil hsent
  cases h with
  | outset _ houtset => exact haside.silent houtset.unreached houtset.unpublished houtset.still
  | barred _ _ houtset => exact haside.silent houtset.unreached houtset.unpublished houtset.still
  | dispatching hdisp => exact absurd hdisp.underway htunnels
  | left _ hunderway => exact absurd hunderway htunnels

/-! ## The preamble -/

/-- How far the preamble has come: the main task is writing it, or has been cut off while doing so,
or has written it. -/
inductive Wired (s : Session) (d : Diary) : Prop
  | greeting {begun rest : Bytes} : s.point = .greeting rest → begun ++ rest = Utf8.encode preamble →
      Bare begun s d → Wired s d
  | cut {begun : Bytes} : s.result? ≠ none → begun <+: Utf8.encode preamble → Bare begun s d →
      Wired s d
  | framed {done later : List Outbound} {part : Bytes} : s.framed = true →
      Laid (Utf8.encode preamble) done later part s d → Wired s d

theorem Wired.isPrefix (h : Wired s d) : d.received ++ s.outgoing.pipe.held <+:
    Utf8.encode preamble ++ (Outbound.envelopes d.sent).flatten := by
  have hcut : ∀ {begun}, begun <+: Utf8.encode preamble → Bare begun s d →
      d.received ++ s.outgoing.pipe.held <+:
        Utf8.encode preamble ++ (Outbound.envelopes d.sent).flatten := by
    intro begun hbegun hbare
    rw [hbare.output, hbare.sent]
    simpa [Outbound.envelopes, Encoder.envelopes] using hbegun
  cases h with
  | greeting _ hrest hbare => exact hcut (hrest ▸ List.prefix_append _ _) hbare
  | cut _ hbegun hbare => exact hcut hbegun hbare
  | framed _ hlaid => exact hlaid.isPrefix

theorem Wired.fits (h : Wired s d) : ∀ frame ∈ d.sent, Envelope.fits frame.payload := by
  cases h with
  | greeting _ _ hbare | cut _ _ hbare => exact Laid.fits hbare
  | framed _ hlaid => exact hlaid.fits

theorem Bare.turn (h : Bare begun s d) (hturn : Turn s event met s')
    (hstirs : Stirs event s s') (hnone : queued s s' = []) : Bare begun s' (d.enter event met s s') := by
  obtain ⟨done, later, part, hlaid⟩ := h.stir hstirs hturn.fits
  exact hlaid.bare (by simp only [Diary.enter, h.sent, hnone, List.append_nil])

/-- More of the preamble goes into the pipe. -/
theorem Bare.put {bytes : Bytes} (h : Bare begun s d) (htaken : event.action.taken s = [])
    (hput : s'.outgoing = { s.outgoing with
      pipe := { s.outgoing.pipe with held := s.outgoing.pipe.held ++ bytes } }) :
    Bare (begun ++ bytes) s' (d.enter event met s s') := by
  have hqueue : s'.outgoing.queue = s.outgoing.queue := congrArg (·.queue) hput
  have hsent : (d.enter event met s s').sent = [] := by
    simp only [Diary.enter, h.sent, queued_of_queue_eq hqueue, List.append_nil]
  refine ⟨?_, ?_, hsent, ?_⟩
  · have houtput : d.received ++ s.outgoing.pipe.held = begun := h.output.trans (List.append_nil _)
    simp only [Diary.enter, htaken, List.append_nil, hput, ← houtput, List.append_assoc]
    rw [show bytes ++ (Outbound.envelopes []).flatten = bytes from List.append_nil bytes]
  · rw [hput]
    exact h.stands.congr rfl rfl rfl id
  · rw [hsent]
    intro frame hframe
    cases hframe

/-- The main task writes all of the preamble, or some more of it, or cannot go on. -/
theorem Wired.greet {rest : Bytes} (hpoint : s.point = .greeting rest)
    (hrest : begun ++ rest = Utf8.encode preamble) (h : Bare begun s d)
    (hmain : event.action.isMain = true) (hturn : Turn s event met s') :
    Wired s' (d.enter event met s s') := by
  have hother : ∀ {point : Point}, s.point = point → (∀ rest, point ≠ .greeting rest) → False :=
    fun hown hne => hne rest (hown.symm.trans hpoint)
  cases hturn with
  | greeted hwritten =>
    cases hwritten.symm.trans hpoint
    rw [List.append_nil] at hrest
    exact .framed rfl (hrest ▸ h.turn (.greeted hwritten) (.grows (grows_of_same rfl) rfl)
      (queued_of_queue_eq rfl))
  | unwritten hwriting =>
    exact .cut nofun (hrest ▸ List.prefix_append _ _)
      (h.turn (.unwritten hwriting) (.grows (grows_of_close rfl) rfl) (queued_of_queue_eq rfl))
  | put hwriting =>
    cases hwriting.symm.trans hpoint
    refine .greeting rfl ?_ (h.put rfl rfl)
    rw [List.append_assoc, List.take_append_drop, hrest]
  | renewed haction | unrenewed haction =>
    rw [haction] at hmain
    cases hmain
  | connected hown | unconnected hown | admitted hown | refused hown | accepted hown | declined hown
  | opened hown | left hown | lost hown | handled hown | unhandled hown =>
    exact (hother hown nofun).elim
  | asked hasks | oversized hasks | stranded hasks =>
    cases hasks with
    | authorization hown | registration hown => exact (hother hown nofun).elim
  | shut hawaits | unread hawaits =>
    rcases hawaits with hown | ⟨resources, hown⟩ <;> exact (hother hown nofun).elim
  | _ => cases hmain

theorem framed_of_turn (h : Turn s event met s') (hframed : s.framed = true) : s'.framed = true := by
  cases hmain : event.action.isMain with
  | false =>
    obtain ⟨-, haside⟩ := h.aside hmain
    rwa [framed, haside.point]
  | true =>
    cases h with
    | put hpoint | connected hpoint =>
      rw [framed, hpoint] at hframed
      cases hframed
    | handled hpoint _ _ hdispatch =>
      rw [framed, (handled_of_dispatch hdispatch).point.trans hpoint]
    | asked hasks => cases hasks <;> rfl
    | renewed haction | unrenewed haction =>
      rw [haction] at hmain
      cases hmain
    | written | watched | pinged | unpinged | failed | relayed | advanced | delivered | finished | taken
    | deserted | stopped | ruled => cases hmain
    | _ => rfl

theorem Wired.turn (h : Wired s d) (hcourse : Course settings s d) (hturn : Turn s event met s') :
    Wired s' (d.enter event met s s') := by
  cases hmain : event.action.isMain with
  | false =>
    obtain ⟨rfl, haside⟩ := hturn.aside hmain
    have hstirs := hturn.stirs fun _ _ => hmain
    cases h with
    | greeting hpoint hrest hbare =>
      exact .greeting (haside.point.trans hpoint) hrest
        (hbare.turn hturn hstirs (hcourse.silent hbare.sent haside))
    | cut hended hbegun hbare =>
      refine .cut ?_ hbegun (hbare.turn hturn hstirs (hcourse.silent hbare.sent haside))
      rwa [result?, haside.point]
    | framed hframed hlaid =>
      obtain ⟨done, later, part, hlaid⟩ := hlaid.stir hstirs hturn.fits
      exact .framed (framed_of_turn hturn hframed) hlaid
  | true =>
    cases h with
    | greeting hpoint hrest hbare => exact .greet hpoint hrest hbare hmain hturn
    | cut hended => exact absurd (hturn.going hmain) hended
    | framed hframed hlaid =>
      have hstirs : Stirs event s s' := by
        refine hturn.stirs fun rest hpoint => ?_
        rw [Session.framed, hpoint] at hframed
        cases hframed
      obtain ⟨done, later, part, hlaid⟩ := hlaid.stir hstirs hturn.fits
      exact .framed (framed_of_turn hturn hframed) hlaid

/-! ## The frames -/

section

variable {rules : List Rule} {frames : List Frame} {sent : List Outbound}

theorem Course.sends (h : Course settings s d) : Sends settings d.rules d.frames d.sent := by
  cases h with
  | outset hshake houtset =>
    rw [houtset.frames, houtset.sent]
    exact hshake.sends
  | barred _ hsends houtset =>
    rw [houtset.frames, houtset.sent]
    exact hsends
  | dispatching hdisp => exact .tunnel hdisp.underway.tunnels
  | left _ hunderway => exact .tunnel hunderway.tunnels

theorem Sends.first (h : Sends settings rules frames sent) {frame : Outbound}
    (hframe : sent[0]? = some frame) : frame = authorization settings := by
  cases h with
  | nothing => cases hframe
  | request | manifest => exact (Option.some.inj hframe).symm
  | tunnel htunnels =>
    cases htunnels
    exact (Option.some.inj hframe).symm

theorem Sends.second (h : Sends settings rules frames sent) {frame : Outbound}
    (hframe : sent[1]? = some frame) : ∃ first resources, frames[0]? = some first ∧
      Admitted first ∧ resources.map (·.rule) = rules ∧ frame = Registrar.frame resources := by
  cases h with
  | nothing | request => cases hframe
  | manifest hadmitted hrules =>
    exact ⟨_, _, rfl, hadmitted, hrules, (Option.some.inj hframe).symm⟩
  | tunnel htunnels =>
    cases htunnels with
    | intro hadmitted _ hrules =>
      exact ⟨_, _, rfl, hadmitted, hrules, (Option.some.inj hframe).symm⟩

theorem Sends.tunnelled (h : Sends settings rules frames sent) {frame : Outbound}
    (hframe : frame ∈ sent.drop 2) :
    frame.type ∈ tunnelTypes ∧ ∃ second, frames[1]? = some second ∧ Accepted second := by
  cases h with
  | nothing | request | manifest => cases hframe
  | tunnel htunnels =>
    cases htunnels with
    | intro _ haccepted _ hlater => exact ⟨(hlater frame hframe).type, _, rfl, haccepted⟩

/-- There is one request for authorization. -/
theorem Sends.once (h : Sends settings rules frames sent) {frame : Outbound}
    (hframe : frame ∈ sent.drop 1) : frame.type ≠ .authorization := by
  obtain ⟨k, hk⟩ := List.getElem?_of_mem hframe
  rw [List.getElem?_drop] at hk
  cases k with
  | zero =>
    obtain ⟨first, resources, -, -, -, rfl⟩ := h.second hk
    exact nofun
  | succ k =>
    have hmem : frame ∈ sent.drop 2 := by
      refine List.mem_of_getElem? (i := k) ?_
      rw [List.getElem?_drop, ← hk]
      congr 1
      omega
    have htype := (h.tunnelled hmem).1
    intro hauthorization
    rw [hauthorization] at htype
    revert htype
    decide

end

/-- What a session puts on the wire, whatever the gateway does and whatever happens beside: the
preamble and the envelopes of the frames that it has sent, as far as they have come. A frame is sent
when it is queued, so at that moment the replies it needs have been read. -/
theorem wire_follows_handshake {c : Config} {shared : Shared} {now : Duration} {capacity : Nat}
    {events : List Event}
    (hrun : Diary.run (.own (.connect (.ok ())) :: events)
      (start (Agent.sessionSettings c) shared now capacity) {} = some (s, d)) :
    d.received ++ s.outgoing.pipe.held <+: Utf8.encode "GATELINK/1.0\n" ++
      (d.sent.mapIdx fun i frame => encode (.ofNat i) frame.type frame.payload).flatten ∧
    (∀ frame ∈ d.sent, Envelope.fits frame.payload) ∧
    (∀ frame, d.sent[0]? = some frame → frame = .ofMessage (.authorization
      ⟨c.agentId, c.credentials.username, c.credentials.secret, Agent.version⟩)) ∧
    (∀ frame ∈ d.sent.drop 1, frame.type ≠ .authorization) ∧
    (∀ frame, d.sent[1]? = some frame →
      (∃ first, d.frames[0]? = some first ∧ Admitted first) ∧
      ∃ resources, frame = .ofMessage (.registration ⟨resources⟩) ∧
        resources.map (·.rule) = d.rules ∧
        RegistrationRequest.format.decode frame.payload = .ok ⟨resources⟩) ∧
    (∀ frame ∈ d.sent.drop 2,
      (∃ second, d.frames[1]? = some second ∧ Accepted second) ∧
      frame.type ∈ [.healthCheck, .healthCheckResponse, .registration, .socketData]) := by
  have hstart : Wired (connected (Agent.sessionSettings c) shared now capacity)
      { stopping := shared.shutdown } :=
    .greeting rfl rfl ⟨rfl, .idle rfl rfl rfl rfl, rfl, nofun⟩
  obtain ⟨⟨-, hcourse⟩, hwired⟩ := preserved_on_course hrun hstart
    fun _ hcourse hwired hturn => hwired.turn hcourse hturn
  have hsends := hcourse.sends
  rw [← Outbound.envelopes_eq_mapIdx]
  refine ⟨hwired.isPrefix, hwired.fits, fun frame hframe => hsends.first hframe,
    fun frame hframe => hsends.once hframe, ?_, ?_⟩
  · intro frame hframe
    obtain ⟨first, resources, hfirst, hadmitted, hrules, rfl⟩ := hsends.second hframe
    have hfits := hwired.fits _ (List.mem_of_getElem? hframe)
    exact ⟨⟨first, hfirst, hadmitted⟩, resources, rfl, hrules, Registrar.decode_frame hfits⟩
  · intro frame hframe
    exact (hsends.tunnelled hframe).symm

def plainConfig : Config where
  agentId := "a"
  gateway := { host := "h" }
  credentials := { username := "u" }
  resources := [{ name := "r", pattern := "p", host := "h", port := 1 }]

/-- The gateway accepts the credentials and reads slowly. -/
def unhurried : List Event :=
  [.own (.main [] 0), .own (.main [] 0), .own (.main [] 0), .own .write, .own .write,
    .own (.deliver (Envelope.encode 0 .authorizationResponse
      (AuthorizationResponse.format.write ⟨.ok, none⟩))),
    .own (.main [] 0), .own (.main [7] 0), .own (.gatewayReads 30), .own .write]

theorem wire_follows_handshake_unhurried :
    ∃ s d, Diary.run (.own (.connect (.ok ())) :: unhurried)
        (start (Agent.sessionSettings plainConfig) (Agent.shared plainConfig) 0 40) {} =
        some (s, d) ∧
      d.received.length = 30 ∧ d.sent.length = 2 ∧
      d.received ++ s.outgoing.pipe.held <+: Utf8.encode "GATELINK/1.0\n" ++
        (d.sent.mapIdx fun i frame => encode (.ofNat i) frame.type frame.payload).flatten ∧
      ∃ resources, d.sent[1]? = some (.ofMessage (.registration ⟨resources⟩)) ∧
        resources.map (·.rule) = plainConfig.resources := by
  have hrun : Diary.run (.own (.connect (.ok ())) :: unhurried)
      (start (Agent.sessionSettings plainConfig) (Agent.shared plainConfig) 0 40) {} =
      some (_, _) := rfl
  obtain ⟨hwritten, -, -, -, hregistration, -⟩ := wire_follows_handshake hrun
  obtain ⟨-, resources, hframe, hrules, -⟩ := hregistration _ rfl
  exact ⟨_, _, hrun, rfl, rfl, hwritten, resources, congrArg some hframe, hrules⟩

end Session

end TunnelAgent
