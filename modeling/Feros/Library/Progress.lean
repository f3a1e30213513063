import Feros.Library.Run
import Mathlib.Order.Monotone.Basic
/-!
# Infinite runs

A machine that is fed an infinite sequence of inputs.  A potential that falls again and again as long
as the goal is not reached shows that the goal is reached: `Run.reaches`.
-/

namespace Run

variable {σ ι : Type*} (step : σ → ι → σ)

/-- **The states of an infinite run.** -/
def states (start : σ) (inputs : ℕ → ι) : ℕ → σ
  | 0 => start
  | n + 1 => step (states start inputs n) (inputs n)

/-- The next state is the state after one more input. -/
@[simp] theorem states_succ (start : σ) (inputs : ℕ → ι) (n : ℕ) :
    states step start inputs (n + 1) = step (states step start inputs n) (inputs n) := rfl

variable {step}

/-- The invariant rule. -/
theorem states_invariant {inv : σ → Prop} (preserved : ∀ s i, inv s → inv (step s i)) {start : σ}
    (begins : inv start) (inputs : ℕ → ι) (n : ℕ) : inv (states step start inputs n) := by
  induction n with
  | zero => exact begins
  | succ n ih => exact preserved _ _ ih

/-- What holds once and is preserved holds from then on. -/
theorem states_stable (inv : σ → Prop) (preserved : ∀ s i, inv s → inv (step s i)) {start : σ} {inputs : ℕ → ι}
    {n : ℕ} (here : inv (states step start inputs n)) {m : ℕ} (later : n ≤ m) :
    inv (states step start inputs m) := by
  induction m, later using Nat.le_induction with
  | base => exact here
  | succ m _ ih => exact preserved _ _ ih

/-- **The potential rule.**  If, as long as the goal is not reached, a potential is lower at some later time,
the goal is reached. -/
theorem reaches (s : ℕ → σ) (goal : σ → Prop) (potential : σ → ℕ) (first : ℕ)
    (again : ∀ n, first ≤ n → ¬ goal (s n) → ∃ m, n ≤ m ∧ (goal (s m) ∨ potential (s m) < potential (s n))) :
    ∃ n, first ≤ n ∧ goal (s n) := by
  have reached : ∀ bound n, first ≤ n → potential (s n) ≤ bound → ∃ m, first ≤ m ∧ goal (s m) := by
    intro bound
    induction bound with
    | zero =>
        intro n late small
        by_cases here : goal (s n)
        · exact ⟨n, late, here⟩
        · obtain ⟨m, later, there | less⟩ := again n late here
          · exact ⟨m, late.trans later, there⟩
          · omega
    | succ bound ih =>
        intro n late small
        by_cases here : goal (s n)
        · exact ⟨n, late, here⟩
        · obtain ⟨m, later, there | less⟩ := again n late here
          · exact ⟨m, late.trans later, there⟩
          · exact ih m (late.trans later) (by omega)
  exact reached _ first le_rfl le_rfl

/-- A potential that does not rise is at most what it was. -/
theorem potential_le {s : ℕ → σ} (potential : σ → ℕ) {first : ℕ}
    (falls : ∀ n, first ≤ n → potential (s (n + 1)) ≤ potential (s n)) {n m : ℕ} (late : first ≤ n)
    (later : n ≤ m) : potential (s m) ≤ potential (s n) := by
  induction m, later using Nat.le_induction with
  | base => exact le_rfl
  | succ m there ih => exact (falls m (late.trans there)).trans ih

end Run
