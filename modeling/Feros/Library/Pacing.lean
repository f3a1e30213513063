import Feros.Library.Run
import Feros.Library.Segments
/-! # A paced queue

Items come in pieces of any length; at each tick one frame of a fixed length goes out, if there is
enough for one.  A mark drops what is queued.

* **`delivered`**: since the last mark, what went out and what is queued is what came in.
* **`drained_iff`**: less than a frame is queued; it is nothing if and only if whole frames came in. -/

namespace Pacing

open Segments Run

variable {α : Type*} {n : ℕ}

inductive Input (α : Type*) where
  | piece (items : List α)
  | mark
  | tick
  /-- Something that has nothing to do with the queue. -/
  | other
  deriving DecidableEq, Repr

/-- What goes out at a tick, and what stays. -/
def take (n : ℕ) (queue : List α) : List (List α) × List α :=
  if n ≤ queue.length then ([queue.take n], queue.drop n) else ([], queue)

/-- The queue after an input. -/
def step (n : ℕ) (queue : List α) : Input α → List α
  | .piece items => queue ++ items
  | .mark => []
  | .tick => (take n queue).2
  | .other => queue

/-- What goes out at an input. -/
def out (n : ℕ) (queue : List α) : Input α → List (Item α)
  | .piece _ => []
  | .mark => [.mark]
  | .tick => (take n queue).1.map .piece
  | .other => []

/-- What comes in. -/
def Input.arrives : Input α → List (Item α)
  | .piece items => [.piece items]
  | .mark => [.mark]
  | .tick => []
  | .other => []

/-- The stream that came in, behind a queue that was there before. -/
def arrived (queue : List α) (inputs : List (Input α)) : List (Item α) :=
  .piece queue :: inputs.flatMap Input.arrives

/-- What arrives with one more input comes behind what arrived before. -/
theorem arrived_concat (queue : List α) (inputs : List (Input α)) (i : Input α) :
    arrived queue (inputs ++ [i]) = arrived queue inputs ++ i.arrives := by
  simp [arrived, List.flatMap_append]

/-- One piece is unclosed. -/
theorem unclosed_piece (items : List α) : unclosed [.piece items] = items := by
  have this := unclosed_concat_piece ([] : List (Item α)) items
  simpa using this

/-- **Since the last mark, what went out and what is queued is what came in.** -/
theorem delivered (n : ℕ) (queue : List α) (inputs : List (Input α)) :
    unclosed (outputs (step n) (out n) queue inputs) ++ run (step n) queue inputs =
      unclosed (arrived queue inputs) := by
  induction inputs using List.reverseRecOn with
  | nil => simp [outputs, arrived, unclosed_piece]
  | append_singleton inputs i ih =>
      rw [outputs_concat, run_append, arrived_concat]
      generalize run (step n) queue inputs = now at ih ⊢
      generalize outputs (step n) (out n) queue inputs = gone at ih ⊢
      cases i with
      | piece items =>
          rw [Input.arrives, unclosed_concat_piece, ← ih]
          simp [step, out]
      | mark => simp [step, out, Input.arrives]
      | tick =>
          rw [Input.arrives, List.append_nil, ← ih]
          by_cases enough : n ≤ now.length
          · simp [step, out, take, enough]
          · simp [step, out, take, enough]
      | other =>
          rw [Input.arrives, List.append_nil, ← ih]
          simp [step, out]

/-- What went out since the last mark is a whole number of frames. -/
theorem dvd_out (n : ℕ) (queue : List α) (inputs : List (Input α)) :
    n ∣ (unclosed (outputs (step n) (out n) queue inputs)).length := by
  induction inputs using List.reverseRecOn with
  | nil => simp [outputs]
  | append_singleton inputs i ih =>
      rw [outputs_concat]
      generalize run (step n) queue inputs = now
      cases i with
      | piece items => simpa [out] using ih
      | mark => simp [out]
      | tick =>
          by_cases enough : n ≤ now.length
          · have more := (Nat.dvd_add_left (Nat.dvd_refl n)).2 ih
            simpa [out, take, enough] using more
          · simpa [out, take, enough] using ih
      | other => simpa [out] using ih

/-- **Less than a frame is queued: it is nothing if and only if what came in since the last mark is a
whole number of frames.** -/
theorem drained_iff {queue : List α} {inputs : List (Input α)}
    (short : (run (step n) queue inputs).length < n) :
    run (step n) queue inputs = [] ↔ n ∣ (unclosed (arrived queue inputs)).length := by
  have whole := dvd_out n queue inputs
  rw [← delivered n queue inputs, List.length_append, Nat.dvd_add_right whole]
  constructor
  · intro empty
    simp [empty]
  · intro divides
    exact List.eq_nil_of_length_eq_zero (Nat.eq_zero_of_dvd_of_lt divides short)

end Pacing
