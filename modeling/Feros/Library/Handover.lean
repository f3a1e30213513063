import Mathlib.Data.List.Basic
/-! # Handing things on

Things are made, wait in a queue, are taken from it into somebody's hands, and are passed on, all in
one order.  `Conserved` says that none is lost or doubled on the way.  What is held when it is
forgotten breaks it for good. -/

namespace Handover

variable {α β : Type*} {made passed held waiting : List α}

/-- **Nothing is lost**: what was made was passed on, is held, or waits. -/
def Conserved (made passed held waiting : List α) : Prop := made = passed ++ held ++ waiting

namespace Conserved

/-- Nothing was made yet. -/
theorem empty : Conserved ([] : List α) [] [] [] := rfl

/-- Something is made. -/
theorem make (kept : Conserved made passed held waiting) (a : α) :
    Conserved (made ++ [a]) passed held (waiting ++ [a]) := by
  unfold Conserved at kept ⊢
  rw [kept, List.append_assoc _ waiting]

/-- Something is made and held at once. -/
theorem makeHeld (kept : Conserved made passed [] []) (a : α) :
    Conserved (made ++ [a]) passed [a] [] := by
  unfold Conserved at kept ⊢
  rw [kept, List.append_nil, List.append_nil, List.append_nil]

/-- What waits first is taken. -/
theorem take {a : α} (kept : Conserved made passed [] (a :: waiting)) :
    Conserved made passed [a] waiting := by
  unfold Conserved at kept ⊢
  rw [kept, List.append_nil, List.append_assoc, List.singleton_append]

/-- What is held is passed on. -/
theorem pass {a : α} (kept : Conserved made passed [a] waiting) :
    Conserved made (passed ++ [a]) [] waiting := by
  unfold Conserved at kept ⊢
  rw [kept, List.append_nil]

/-- **What is held cannot be forgotten.** -/
theorem not_forget {other : List α} (kept : Conserved made passed held waiting) (holds : held ≠ [])
    (same : other.length = passed.length) : ¬ Conserved made other [] waiting := by
  unfold Conserved at kept ⊢
  intro forgotten
  have lengths := congrArg List.length (kept.symm.trans forgotten)
  have positive := List.length_pos_iff.2 holds
  rw [List.length_append, List.length_append, List.length_append, List.length_append, same,
    List.length_nil] at lengths
  omega

end Conserved

end Handover
