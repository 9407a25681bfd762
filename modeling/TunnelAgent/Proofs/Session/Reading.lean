import TunnelAgent.Proofs.Frame.RoundTrip
import TunnelAgent.Proofs.Frame.Schedules
import TunnelAgent.Proofs.Session.Diary

/-! # The diary holds what the stream holds

What a session has read, with the fault that kept it from reading on, is what a fresh decoder finds
at the head of the gateway's stream, call by call. -/

namespace TunnelAgent

/-- The bytes that a frame came in. -/
def Frame.envelope (frame : Frame) : Bytes :=
  Envelope.encode frame.sequence frame.type frame.payload

namespace Decoder
open Envelope

/-- Frames as they can stand in a stream one behind the other, between these two sequences. -/
inductive Chained : UInt64 → List Frame → UInt64 → Prop
  | nil {sequence : UInt64} : Chained sequence [] sequence
  | cons {frame : Frame} {frames : List Frame} {next : UInt64} : fits frame.payload →
      Chained (frame.sequence + 1) frames next → Chained frame.sequence (frame :: frames) next

theorem Chained.concat {sequence next : UInt64} {frames : List Frame}
    (h : Chained sequence frames next) {frame : Frame} (hfits : fits frame.payload)
    (hsequence : frame.sequence = next) : Chained sequence (frames ++ [frame]) (next + 1) := by
  induction h with
  | nil =>
    subst hsequence
    exact .cons hfits .nil
  | cons hfirst _ ih => exact .cons hfirst (ih hsequence)

/-- A decoder finds the frames whose envelopes head the stream, and goes on behind them. -/
theorem readings_of_chained {sequence next : UInt64} {frames : List Frame}
    (h : Chained sequence frames next) {s : Source} {rest : Bytes}
    (hbytes : s.bytes = (frames.map (·.envelope)).flatten ++ rest) :
    ∃ u : Source, u.bytes = rest ∧ u.finish = s.finish ∧ ∀ n,
      (readings false (frames.length + n) ⟨sequence⟩ s).map (·.decoded) =
        frames.map .frame ++ (readings false n ⟨next⟩ u).map (·.decoded) := by
  induction h generalizing s with
  | nil => exact ⟨s, hbytes, rfl, fun n => by rw [List.length_nil, Nat.zero_add]; rfl⟩
  | @cons frame frames next hfits _ ih =>
    rw [List.map_cons, List.flatten_cons, List.append_assoc] at hbytes
    obtain ⟨t, hread, hrest, hfinish, -⟩ :=
      readFrame_of_envelope (d := ⟨frame.sequence⟩) hbytes hfits
    obtain ⟨u, hu, hufinish, hlater⟩ := ih (s := t) (by rw [hrest, hbytes]; exact List.drop_left)
    refine ⟨u, hu, hufinish.trans hfinish, fun n => ?_⟩
    rw [List.length_cons, Nat.add_right_comm, readings_of_frame _ hread, hlater]
    rfl

end Decoder

namespace Session
open Envelope Decoder

/-- The frames that the main task has read, and the fault behind them. -/
def Diary.decoded (d : Diary) : List Decoded :=
  d.frames.map .frame ++
    match d.setback with
    | some (.unread fault) => [.fault fault]
    | _ => []

variable {s s' : Session} {d : Diary} {event : Event} {met : Option (Except Setback Frame)}

/-- What the turns do to the reader, by what the main task meets in them. -/
inductive Learns (event : Event) (s s' : Session) : Option (Except Setback Frame) → Prop
  | nothing : s'.reader.decoder = s.reader.decoder →
      s'.reader.source.bytes = s.reader.source.bytes ++ event.action.bytes →
      s'.reader.source.finish = (if s.reader.source.finish = .pending then event.action.finish
        else s.reader.source.finish) → Learns event s s' none
  | frame {frame : Frame} : event.action.isMain = true →
      s.reader.decoder.readFrame s.reader.source =
        (.frame frame, s'.reader.decoder, s'.reader.source) → Learns event s s' (some (.ok frame))
  | setback {setback : Setback} : event.action.isMain = true → s'.result? ≠ none →
      (∀ fault, setback = .unread fault →
        ∃ d u, s.reader.decoder.readFrame s.reader.source = (.fault fault, d, u)) →
      Learns event s s' (some (.error setback))

theorem Turn.learns (h : Turn s event met s') : Learns event s s' met := by
  have hkept : s.reader.source.finish = if s.reader.source.finish = .pending then StreamEnd.pending
      else s.reader.source.finish := by
    split
    · assumption
    · rfl
  have hsame : ∀ {t : Session}, event.action.bytes = [] → event.action.finish = .pending →
      t.reader = s.reader → Learns event s t none := by
    intro t hbytes hfinish hreader
    refine .nothing (by rw [hreader]) (by rw [hreader, hbytes, List.append_nil]) ?_
    rw [hreader, hfinish]
    exact hkept
  cases h with
  | unwritten | oversized | stranded | shut | left => exact .setback rfl nofun nofun
  | unread _ _ hread | lost _ _ hread =>
    refine .setback rfl nofun ?_
    rintro fault heq
    cases heq
    exact ⟨_, _, hread⟩
  | admitted _ _ hread | refused _ _ hread | accepted _ _ hread | declined _ _ hread =>
    exact .frame rfl hread
  | handled _ _ hread hdispatch =>
    refine .frame rfl (hread.trans ?_)
    rw [(tended_of_dispatch hdispatch).reader]
  | @unhandled _ _ frame reader fault t _ _ hread hdispatch =>
    have hreader : (t.leave fault).reader = reader := (tended_of_dispatch hdispatch).reader
    refine .frame rfl (hread.trans ?_)
    rw [hreader]
  | delivered => exact .nothing rfl rfl hkept
  | finished =>
    simp only [Reader.endWith]
    by_cases hpending : s.reader.source.finish = .pending
    · rw [if_pos hpending]
      exact .nothing rfl (List.append_nil _).symm (if_pos hpending).symm
    · rw [if_neg hpending]
      exact .nothing rfl (List.append_nil _).symm (if_neg hpending).symm
  | renewed haction | unrenewed haction =>
    exact hsame (by rw [haction]; rfl) (by rw [haction]; rfl) rfl
  | _ => exact hsame rfl rfl rfl

/-- The main task goes on, and the bytes behind what it has read are still to be read. -/
structure Follows (s : Session) (d : Diary) : Prop where
  setback : d.setback = none
  finish : d.finish = s.reader.source.finish
  stream : d.stream = (d.frames.map (·.envelope)).flatten ++ s.reader.source.bytes
  chained : Chained 0 d.frames s.reader.decoder.expected

structure Reads (s : Session) (d : Diary) : Prop where
  follows : s.result? = none → Follows s d
  readings : (readings false d.decoded.length {} { bytes := d.stream, finish := d.finish }).map
    (·.decoded) = d.decoded

theorem Follows.reads (h : Follows s d) : Reads s d := by
  obtain ⟨u, -, -, hlater⟩ := readings_of_chained h.chained
    (s := { bytes := d.stream, finish := d.finish }) h.stream
  have hdecoded : d.decoded = d.frames.map .frame := by
    rw [Diary.decoded, h.setback]
    exact List.append_nil _
  refine ⟨fun _ => h, ?_⟩
  rw [hdecoded, List.length_map]
  exact (hlater 0).trans (List.append_nil _)

/-- The main task's own steps add nothing to the stream. -/
theorem stream_of_main (met : Option (Except Setback Frame)) (s s' : Session) (d : Diary)
    (hmain : event.action.isMain = true) :
    (d.enter event met s s').stream = d.stream ∧ (d.enter event met s s').finish = d.finish := by
  have hquiet : event.action.bytes = [] ∧ event.action.finish = .pending := by
    cases haction : event.action with
    | connect | main => exact ⟨rfl, rfl⟩
    | _ =>
      rw [haction] at hmain
      cases hmain
  simp only [Diary.enter, hquiet.1, hquiet.2, List.append_nil, ite_self, true_and]
  split
  · rfl
  · rename_i hnot
    exact (Decidable.not_not.mp (not_or.mp hnot).2).symm

theorem Follows.turn (h : Follows s d) (hgoing : s.result? = none) (hturn : Turn s event met s') :
    Reads s' (d.enter event met s s') := by
  cases hturn.learns with
  | nothing hdecoder hbytes hend =>
    have hframes : (d.enter event none s s').frames = d.frames := List.append_nil _
    refine Follows.reads ⟨h.setback, ?_, ?_, ?_⟩
    · by_cases hpending : s.reader.source.finish = .pending <;>
        simp [Diary.enter, hgoing, h.finish, hend, hpending]
    · rw [hframes, hbytes, ← List.append_assoc, ← h.stream]
      simp only [Diary.enter, hgoing, Option.isSome_none, Bool.false_eq_true, if_false]
    · rw [hdecoder, hframes]
      exact h.chained
  | @frame frame hmain hread =>
    obtain ⟨hstream, hfinish⟩ := stream_of_main (some (.ok frame)) s s' d hmain
    obtain ⟨hfits, hsequence, hdecoder, hend, hbehind⟩ := envelope_of_readFrame hread
    have hframes : (d.enter event (some (.ok frame)) s s').frames = d.frames ++ [frame] := rfl
    have henvelope : frame.envelope =
        encode s.reader.decoder.expected frame.type frame.payload := by
      rw [Frame.envelope, hsequence]
    refine Follows.reads ⟨h.setback, hfinish.trans (h.finish.trans hend.symm), ?_, ?_⟩
    · rw [hstream, h.stream, hframes, hbehind, ← henvelope, List.map_append, List.flatten_append,
        List.append_assoc]
      simp
    · rw [hdecoder, hframes]
      exact h.chained.concat hfits hsequence
  | @setback setback hmain hended hfault =>
    obtain ⟨hstream, hfinish⟩ := stream_of_main (some (.error setback)) s s' d hmain
    obtain ⟨u, hu, hufinish, hlater⟩ := readings_of_chained h.chained
      (s := { bytes := d.stream, finish := d.finish }) h.stream
    have hframes : (d.enter event (some (.error setback)) s s').frames = d.frames := List.append_nil _
    have hsetback : (d.enter event (some (.error setback)) s s').setback = some setback := rfl
    refine ⟨fun hnone => absurd hnone hended, ?_⟩
    rw [hstream, hfinish, Diary.decoded, hframes, hsetback]
    cases setback with
    | unread fault =>
      obtain ⟨d', u', hread⟩ := hfault fault rfl
      have hsame : (s.reader.decoder.readFrame u).1 = .fault fault :=
        (decoded_congr _ ⟨hu, hufinish.trans h.finish⟩).trans (congrArg Prod.fst hread)
      rw [List.length_append, List.length_map, List.length_singleton, hlater 1]
      exact congrArg _ (readings_of_fault 1 (Prod.ext hsame rfl))
    | _ =>
      simp only [List.append_nil, List.length_map]
      exact (hlater 0).trans (List.append_nil _)

theorem Reads.turn (h : Reads s d) (hturn : Turn s event met s') :
    Reads s' (d.enter event met s s') := by
  cases hgoing : s.result? with
  | none => exact (h.follows hgoing).turn hgoing hturn
  | some result =>
    have hmain : event.action.isMain = false := by
      refine Bool.eq_false_iff.mpr fun hmain => ?_
      rw [hturn.going hmain] at hgoing
      cases hgoing
    obtain ⟨rfl, haside⟩ := hturn.aside hmain
    have hresult : s'.result? = some result := by
      rw [← hgoing, result?, result?, haside.point]
    refine ⟨fun hnone => ?_, ?_⟩
    · rw [hresult] at hnone
      cases hnone
    · have hdecoded : (d.enter event none s s').decoded = d.decoded :=
        congrArg (fun frames => List.map Decoded.frame frames ++ _) (List.append_nil d.frames)
      have hstream : (d.enter event none s s').stream = d.stream := by
        simp only [Diary.enter, hgoing, Option.isSome_some, if_true]
      have hfinish : (d.enter event none s s').finish = d.finish := by
        simp only [Diary.enter, hgoing, Option.isSome_some, true_or, if_true]
      rw [hdecoded, hstream, hfinish]
      exact h.readings

theorem reads_of_run {settings : Settings} {shared : Shared} {now : Duration} {capacity : Nat}
    {events : List Event}
    (hrun : Diary.run (.own (.connect (.ok ())) :: events) (start settings shared now capacity) {} =
      some (s, d)) : Reads s d :=
  Diary.preserved_of_run (P := Reads) (fun h hturn => h.turn hturn)
    (Follows.reads ⟨rfl, rfl, rfl, .nil⟩) hrun

end Session

end TunnelAgent
