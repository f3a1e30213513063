import Mathlib.Algebra.Order.Group.Defs
import Mathlib.Algebra.BigOperators.Group.List.Basic
import Mathlib.Tactic.Linarith
/-!
# Jobs that are done in order

Jobs arrive one after another, and each takes some time.  They are done in this order, a job from its
arrival on or from the end of the job before, whichever is later.  The time at which the last one is done
is a recursive maximum; `finishFrom_le_iff` resolves it into the bounds of which it is the least: the work
from each job on, counted from the arrival of the job.
-/

namespace InOrder

variable {α : Type*}

/-- A job: when it arrives, and how long it takes. -/
structure Job (α : Type*) where
  arrival : α
  length : α

section Work

variable [AddCommGroup α]

/-- How long some jobs take altogether. -/
def work (jobs : List (Job α)) : α := (jobs.map Job.length).sum

/-- No job is no work. -/
@[simp] theorem work_nil : work ([] : List (Job α)) = 0 := rfl

/-- The work of jobs is the work of the first and of the rest. -/
@[simp] theorem work_cons (job : Job α) (jobs : List (Job α)) :
    work (job :: jobs) = job.length + work jobs := List.sum_cons

/-- The work of two lists of jobs is the work of both. -/
@[simp] theorem work_append (first second : List (Job α)) :
    work (first ++ second) = work first + work second := by
  rw [work, List.map_append, List.sum_append]
  rfl

end Work

section Order

variable [AddCommGroup α] [LinearOrder α]

/-- **When the last job is done**, if nothing can be done before a certain time. -/
def finishFrom : α → List (Job α) → α
  | free, [] => free
  | free, job :: jobs => finishFrom (max free job.arrival + job.length) jobs

variable [IsOrderedAddMonoid α]

/-- **The bounds of the time at which the last job is done**: all the work from the beginning, and the work
from each job on. -/
theorem finishFrom_le_iff {free bound : α} {jobs : List (Job α)} :
    finishFrom free jobs ≤ bound ↔ free + work jobs ≤ bound ∧
      ∀ front job back, jobs = front ++ job :: back → job.arrival + work (job :: back) ≤ bound := by
  induction jobs generalizing free with
  | nil =>
      rw [finishFrom, work_nil, add_zero]
      refine ⟨fun done => ⟨done, ?_⟩, fun bounds => bounds.1⟩
      intro front job back split
      exact absurd split.symm (List.append_ne_nil_of_right_ne_nil _ (List.cons_ne_nil _ _))
  | cons first jobs ih =>
      rw [finishFrom, ih, add_assoc, max_add, max_le_iff, work_cons]
      constructor
      · rintro ⟨⟨fromStart, fromFirst⟩, later⟩
        refine ⟨fromStart, ?_⟩
        intro front job back split
        cases front with
        | nil =>
            obtain ⟨rfl, rfl⟩ := List.cons.inj split
            rw [work_cons]
            exact fromFirst
        | cons head front => exact later front job back (List.cons.inj split).2
      · rintro ⟨fromStart, each⟩
        have fromFirst := each [] first jobs rfl
        rw [work_cons] at fromFirst
        refine ⟨⟨fromStart, fromFirst⟩, ?_⟩
        intro front job back split
        exact each (first :: front) job back (congrArg (first :: ·) split)

end Order

end InOrder
