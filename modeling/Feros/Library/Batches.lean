import Mathlib.Data.List.Forall2
/-! # Handing over in batches

Things arrive, are held, and are handed over in batches, each batch as one message.  `Conserved` says that
every thing that arrived is in exactly one batch or still held, and that all are in the order in which they
came. -/

namespace Batches

variable {α γ : Type*} {carries : List α → γ → Prop} {arrived held : List α} {made : List γ}

/-- **Nothing is lost, doubled or reordered**: the batches that the messages carry, one behind the other, and
what is held behind them, are what arrived. -/
def Conserved (carries : List α → γ → Prop) (arrived held : List α) (made : List γ) : Prop :=
  ∃ batches : List (List α), batches.flatten ++ held = arrived ∧ List.Forall₂ carries batches made

namespace Conserved

/-- Nothing has arrived yet. -/
theorem empty : Conserved carries [] [] [] := ⟨[], rfl, .nil⟩

/-- What arrives is held. -/
theorem hold (kept : Conserved carries arrived held made) (a : α) :
    Conserved carries (arrived ++ [a]) (held ++ [a]) made := by
  obtain ⟨batches, order, messages⟩ := kept
  refine ⟨batches, ?_, messages⟩
  rw [← List.append_assoc, order]

/-- What is held is handed over. -/
theorem release (kept : Conserved carries arrived held made) {message : γ} (carried : carries held message) :
    Conserved carries arrived [] (made ++ [message]) := by
  obtain ⟨batches, order, messages⟩ := kept
  refine ⟨batches ++ [held], ?_, ?_⟩
  · rw [List.flatten_append, List.flatten_singleton, List.append_nil, order]
  · exact List.rel_append messages (.cons carried .nil)

/-- A message that carries nothing. -/
theorem skip (kept : Conserved carries arrived held made) {message : γ} (nothing : carries [] message) :
    Conserved carries arrived held (made ++ [message]) := by
  obtain ⟨batches, order, messages⟩ := kept
  refine ⟨batches ++ [[]], ?_, ?_⟩
  · rw [List.flatten_append, List.flatten_singleton, List.append_nil, order]
  · exact List.rel_append messages (.cons nothing .nil)

end Conserved

end Batches
