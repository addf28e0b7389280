import Mozart.Lib.Transition

/-!
# The FIFO channel

What a queue between one producer and one consumer is for, with nothing of how it is built: the
producer sends lists of values, the consumer takes them out one at a time. The state keeps what
was ever sent and received, so that "nothing lost, duplicated or reordered" is one equation.
-/

namespace Fifo

open Transition

/-- What was sent, what is still in the channel, what was received; oldest first. -/
@[ext]
structure State (α : Type*) where
  sent : List α
  pending : List α
  received : List α

inductive Event (α : Type*) where
  | send (es : List α)
  | receive

variable {α : Type*}

/-- The channel: `send` appends at the back, `receive` moves the front out. -/
def channel (α : Type*) : System (State α) (Event α) where
  init s := s = ⟨[], [], []⟩
  step s
    | .send es => some { s with sent := s.sent ++ es, pending := s.pending ++ es }
    | .receive =>
      match s.pending with
      | [] => none
      | e :: rest => some { s with pending := rest, received := s.received ++ [e] }

/-- **The channel delivers.** What was received followed by what is pending is what was sent. -/
theorem received_append_pending {s : State α} (hs : Reachable (channel α) s) :
    s.received ++ s.pending = s.sent := by
  refine hs.invariant (I := fun s => s.received ++ s.pending = s.sent) ?_ ?_
  · rintro s rfl
    rfl
  · intro s a s' hI hstep
    cases a with
    | send es =>
      cases hstep
      simp [← hI]
    | receive =>
      simp only [channel] at hstep
      split at hstep
      · cases hstep
      · rename_i e rest hpending
        cases hstep
        simpa [hpending] using hI

end Fifo
