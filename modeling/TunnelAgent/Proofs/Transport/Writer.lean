import TunnelAgent.Proofs.Frame.Grammar
import TunnelAgent.Transport.Outgoing

/-! # The steps of a writer

What one step of a writer can be, why it waits, and that it cannot go on forever: each step leaves
less to write, where a byte in the pipe still counts for half. -/

namespace TunnelAgent.Outgoing
open Envelope

variable {o o' : Outgoing}

/-- All that a step of the writer can be. -/
inductive Writes (o : Outgoing) : Outgoing → Prop
  | shut : o.stage = .idle → o.closed = true ∨ o.queue = [] ∧ o.handles = false → Writes o o.finish
  | start {frame : Outbound} {queue : List Outbound} :
      o.stage = .idle → o.closed = false → o.queue = frame :: queue → fits frame.payload →
      Writes o { o with
        queue, encoder := ⟨o.encoder.next + 1⟩
        stage := .writing (encode o.encoder.next frame.type frame.payload)
          (encode o.encoder.next frame.type frame.payload).length }
  | skip {frame : Outbound} {queue : List Outbound} :
      o.stage = .idle → o.queue = frame :: queue → ¬ fits frame.payload →
      Writes o { o with queue, stage := .idle }
  | count {size : Nat} :
      o.stage = .writing [] size → Writes o { o with stage := .idle, bytesSent := o.bytesSent + size }
  | lose {rest : Bytes} {size : Nat} :
      o.stage = .writing rest size → rest ≠ [] → o.pipe.readerGone = true →
      Writes o { o with closed := true }.finish
  | put {rest : Bytes} {size : Nat} :
      o.stage = .writing rest size → rest ≠ [] → o.pipe.room ≠ 0 →
      Writes o { o with
        pipe := { o.pipe with held := o.pipe.held ++ rest.take o.pipe.room }
        stage := .writing (rest.drop o.pipe.room) size }

/-- Why a writer does not move: it has ended, or needs a frame, or needs room in the pipe. -/
inductive Waits (o : Outgoing) : Prop
  | ended : o.stage = .ended → Waits o
  | idle : o.stage = .idle → o.closed = false → o.queue = [] → o.handles = true → Waits o
  | full {rest : Bytes} {size : Nat} : o.stage = .writing rest size → o.pipe.room = 0 → Waits o

theorem writes_or_waits (o : Outgoing) :
    (∃ o', o.step = some o' ∧ Writes o o') ∨ o.step = none ∧ Waits o := by
  cases hstage : o.stage with
  | ended => exact .inr ⟨by simp only [step, hstage], .ended hstage⟩
  | writing rest size =>
    cases rest with
    | nil => exact .inl ⟨_, by simp only [step, hstage], .count hstage⟩
    | cons b rest =>
      have hrest : b :: rest ≠ [] := List.cons_ne_nil _ _
      by_cases hgone : o.pipe.readerGone = true
      · exact .inl ⟨_, by simp only [step, hstage, if_pos hgone], .lose hstage hrest hgone⟩
      by_cases hroom : o.pipe.room = 0
      · exact .inr ⟨by simp only [step, hstage, if_neg hgone, if_pos hroom], .full hstage hroom⟩
      · exact .inl ⟨_, by simp only [step, hstage, if_neg hgone, if_neg hroom],
          .put hstage hrest hroom⟩
  | idle =>
    by_cases hclosed : o.closed = true
    · exact .inl ⟨_, by simp only [step, hstage, if_pos hclosed], .shut hstage (.inl hclosed)⟩
    have hopen : o.closed = false := Bool.eq_false_iff.mpr hclosed
    cases hqueue : o.queue with
    | nil =>
      cases hhandles : o.handles with
      | true =>
        exact .inr ⟨by simp [step, hstage, hopen, hqueue, hhandles], .idle hstage hopen hqueue hhandles⟩
      | false =>
        exact .inl ⟨o.finish, by simp [step, hstage, hopen, hqueue, hhandles],
          .shut hstage (.inr ⟨hqueue, hhandles⟩)⟩
    | cons frame queue =>
      by_cases hfits : fits frame.payload
      · exact .inl ⟨_, by simp [step, hstage, hopen, hqueue, Encoder.encode, hfits],
          .start hstage hopen hqueue hfits⟩
      · exact .inl ⟨_, by simp [step, hstage, hopen, hqueue, Encoder.encode, hfits],
          .skip hstage hqueue hfits⟩

theorem writes_of_step (h : o.step = some o') : Writes o o' := by
  rcases writes_or_waits o with ⟨o'', hstep, hwrites⟩ | ⟨hstep, -⟩ <;> rw [h] at hstep <;> cases hstep
  exact hwrites

theorem waits_of_step (h : o.step = none) : Waits o := by
  rcases writes_or_waits o with ⟨o', hstep, -⟩ | ⟨-, hwaits⟩
  · rw [h] at hstep
    cases hstep
  · exact hwaits

theorem send_cases (frame : Outbound) (o : Outgoing) :
    (fits frame.payload ∧ o.stage ≠ .ended ∧
        o.send frame = (.ok (), { o with queue := o.queue ++ [frame] })) ∨
      ∃ fault, o.send frame = (.error fault, o) := by
  unfold send Outbound.offer
  by_cases hfits : fits frame.payload
  · rw [if_pos hfits]
    by_cases hopen : o.isOpen
    · rw [if_pos hopen]
      exact .inl ⟨hfits, bne_iff_ne.mp hopen, by simp only [enqueue, if_pos hopen]⟩
    · rw [if_neg hopen]
      exact .inr ⟨.writerClosed, rfl⟩
  · rw [if_neg hfits]
    exact .inr ⟨.frame (.payloadTooLarge frame.payload.length), rfl⟩

theorem send_eq_ok_iff (frame : Outbound) (o : Outgoing) :
    (o.send frame).1 = .ok () ↔ fits frame.payload ∧ o.stage ≠ .ended := by
  unfold send Outbound.offer
  by_cases hfits : fits frame.payload
  · by_cases hopen : o.isOpen
    · have hstage : o.stage ≠ .ended := bne_iff_ne.mp hopen
      simp [hfits, hopen, hstage]
    · have hstage : o.stage = .ended := by simpa [isOpen] using hopen
      simp [hfits, hopen, hstage]
  · simp [hfits]

def Stage.owed : Stage → Nat
  | idle => 1
  | writing rest _ => 2 * rest.length + 2
  | ended => 0

def owed : List Outbound → Nat
  | [] => 0
  | frame :: frames => 2 * size frame.payload + 2 + owed frames

/-- What is left to do until the stream has ended and the pipe is empty: a byte that is written
still has to be read. -/
def backlog (o : Outgoing) : Nat := owed o.queue + o.stage.owed + o.pipe.held.length

theorem backlog_of_step (h : o.step = some o') : o'.backlog < o.backlog := by
  cases writes_of_step h with
  | shut hstage hwhy =>
    simp only [backlog, finish, hstage, owed, Stage.owed]
    omega
  | start hstage hclosed hqueue hfits =>
    simp only [backlog, hstage, hqueue, owed, Stage.owed, length_encode, size, headerSize]
    omega
  | skip hstage hqueue hfits =>
    simp only [backlog, hstage, hqueue, owed]
    omega
  | count hstage =>
    simp only [backlog, hstage, Stage.owed, List.length_nil]
    omega
  | lose hstage hrest hgone =>
    simp only [backlog, finish, hstage, owed, Stage.owed]
    omega
  | @put rest size hstage hrest hroom =>
    have hlength := List.length_pos_iff.mpr hrest
    simp only [backlog, hstage, Stage.owed, List.length_append, List.length_take, List.length_drop]
    omega

end TunnelAgent.Outgoing
