import Mathlib.Data.List.Induction
import Mathlib.Order.Lattice
import Feros.Library.Run
/-!
# Leases

A table of leases: every entry has an end, writing an entry replaces what its key held, and each
write first drops the entries that have ended by its own clock.  Nothing else drops an entry, so a
reader has to check the end again.  Clock readings are arbitrary: they need not grow.

`Leases.held_iff` says what a table holds after any run of writes: the last entry written under the
key, unless a later write has dropped it.
-/

namespace Leases

open Run

variable {κ α τ : Type*} [DecidableEq κ] [LinearOrder τ]

/-- An entry and the clock reading at which it ends. -/
structure Lease (α τ : Type*) where
  value : α
  ends : τ
  deriving DecidableEq, Repr

/-- A lease that is written under a key at a clock reading. -/
structure Write (κ α τ : Type*) where
  key : κ
  lease : Lease α τ
  clock : τ

/-- The leases by key. -/
abbrev Table (κ α τ : Type*) := κ → Option (Lease α τ)

/-- The table without the leases that have ended at `clock`. -/
def evict (table : Table κ α τ) (clock : τ) : Table κ α τ :=
  fun key => (table key).filter fun lease => clock < lease.ends

/-- Drop what has ended, then write. -/
def write (table : Table κ α τ) (w : Write κ α τ) : Table κ α τ :=
  Function.update (evict table w.clock) w.key (some w.lease)

/-- A key that was written holds its lease. -/
@[simp] theorem write_same (table : Table κ α τ) (w : Write κ α τ) :
    write table w w.key = some w.lease := Function.update_self ..

/-- A write leaves the other keys, but for what it evicts. -/
theorem write_other (table : Table κ α τ) {w : Write κ α τ} {key : κ} (h : key ≠ w.key) :
    write table w key = evict table w.clock key := Function.update_of_ne h ..

omit [DecidableEq κ] in
/-- **What is not evicted is there and has not ended.** -/
theorem evict_eq_some {table : Table κ α τ} {clock : τ} {key : κ} {lease : Lease α τ} :
    evict table clock key = some lease ↔ table key = some lease ∧ clock < lease.ends := by
  unfold evict
  rw [Option.filter_eq_some_iff, decide_eq_true_iff]

/-- **The write is the last under its key**, and no later one drops it. -/
def Lasting (key : κ) (lease : Lease α τ) (writes : List (Write κ α τ)) : Prop :=
  ∃ before w after, writes = before ++ w :: after ∧ w.key = key ∧ w.lease = lease ∧
    ∀ later ∈ after, later.key ≠ key ∧ later.clock < lease.ends

omit [DecidableEq κ] in
/-- A lease that lasts through one more write was just written or lasted before. -/
theorem lasting_append {key : κ} {lease : Lease α τ} {writes : List (Write κ α τ)}
    {w : Write κ α τ} :
    Lasting key lease (writes ++ [w]) ↔
      (w.key = key ∧ w.lease = lease) ∨
        (Lasting key lease writes ∧ w.key ≠ key ∧ w.clock < lease.ends) := by
  constructor
  · rintro ⟨before, written, after, split, sameKey, sameLease, lasts⟩
    rcases List.eq_nil_or_concat after with rfl | ⟨front, last, rfl⟩
    · obtain ⟨-, rfl⟩ := List.append_inj' split rfl |>.imp_right List.singleton_inj.1
      exact .inl ⟨sameKey, sameLease⟩
    · rw [List.concat_eq_append] at split lasts
      rw [← List.cons_append, ← List.append_assoc] at split
      obtain ⟨rfl, same⟩ := List.append_inj' split rfl
      obtain rfl := List.singleton_inj.1 same
      refine .inr ⟨⟨before, written, front, rfl, sameKey, sameLease, fun later held => ?_⟩, ?_⟩
      · exact lasts later (List.mem_append_left _ held)
      · exact lasts w (List.mem_append_right _ List.mem_cons_self)
  · rintro (⟨sameKey, sameLease⟩ | ⟨⟨before, written, after, rfl, sameKey, sameLease, lasts⟩, last⟩)
    · exact ⟨writes, w, [], rfl, sameKey, sameLease, fun _ held => absurd held List.not_mem_nil⟩
    · refine ⟨before, written, after ++ [w], by simp, sameKey, sameLease, fun later held => ?_⟩
      rcases List.mem_append.1 held with earlier | newest
      · exact lasts later earlier
      · obtain rfl := List.mem_singleton.1 newest
        exact last

/-- **What a table holds** after a run of writes into an empty one. -/
theorem held_iff {key : κ} {lease : Lease α τ} (writes : List (Write κ α τ)) :
    run write (fun _ => none) writes key = some lease ↔ Lasting key lease writes := by
  induction writes using List.reverseRecOn with
  | nil =>
    constructor
    · intro held
      cases held
    · rintro ⟨before, w, after, split, -⟩
      exact absurd split.symm (List.append_ne_nil_of_right_ne_nil _ (List.cons_ne_nil _ _))
  | append_singleton writes w ih =>
    rw [run_append, run_cons, run_nil, lasting_append]
    by_cases same : key = w.key
    · subst same
      rw [write_same, Option.some_inj]
      constructor
      · intro written
        exact .inl ⟨rfl, written⟩
      · rintro (⟨-, written⟩ | ⟨-, other, -⟩)
        · exact written
        · exact absurd rfl other
    · rw [write_other _ same, evict_eq_some, ih]
      constructor
      · rintro ⟨lasts, live⟩
        exact .inr ⟨lasts, Ne.symm same, live⟩
      · rintro (⟨written, -⟩ | ⟨lasts, -, live⟩)
        · exact absurd written.symm same
        · exact ⟨lasts, live⟩

end Leases
