import Mathlib.Data.Nat.Find
/-! # Bursts in a sequence of yes and no

A burst goes from a yes to a yes; between two neighbouring yeses of it there are fewer than `gap` noes, and
before and behind it there are at least `gap` of them, or the sequence begins or ends there.

* **`IsBurst`** says this of the first `count` places; a burst is *closed* if `gap` noes have followed it by
  then, and may still grow if not.
* **`closed_succ_iff`** says which bursts are closed one place later, for a reader that goes through the
  sequence once and remembers only the burst it is in. -/

namespace Bursts

variable {v : ℕ → Bool} {gap count a b : ℕ}

/-- **A burst** among the first places of a sequence, from its first to its last yes. -/
structure IsBurst (v : ℕ → Bool) (gap count a b : ℕ) : Prop where
  first : v a = true
  last : v b = true
  order : a ≤ b
  inside : b < count
  fresh : ∀ c < a, v c = true → c + gap < a
  joined : ∀ c, a ≤ c → c < b → v c = true → ∃ d, c < d ∧ d ≤ c + gap ∧ d ≤ b ∧ v d = true
  rests : ∀ d, b < d → d < count → v d = true → b + gap < d

/-- A burst that `gap` noes have followed. -/
def Closed (v : ℕ → Bool) (gap count a b : ℕ) : Prop := IsBurst v gap count a b ∧ b + gap < count

/-- A burst that may still grow. -/
def Open (v : ℕ → Bool) (gap count a b : ℕ) : Prop := IsBurst v gap count a b ∧ count ≤ b + gap

/-- No burst may still grow. -/
def Quiet (v : ℕ → Bool) (gap count : ℕ) : Prop := ∀ c < count, v c = true → c + gap < count

/-- A burst has ended, or it is still going on. -/
theorem closed_or_open (burst : IsBurst v gap count a b) : Closed v gap count a b ∨ Open v gap count a b :=
  (Nat.lt_or_ge (b + gap) count).imp (⟨burst, ·⟩) (⟨burst, ·⟩)

/-- A burst has one beginning. -/
theorem IsBurst.start_unique {a' : ℕ} (burst : IsBurst v gap count a b) (other : IsBurst v gap count a' b) :
    a' ≤ a := by
  by_contra later
  -- The last yes before the later beginning would be followed by a yes too soon.
  let c := Nat.findGreatest (fun c => a ≤ c ∧ v c = true) (a' - 1)
  have here : a ≤ a' - 1 := by omega
  obtain ⟨behind, isYes⟩ : a ≤ c ∧ v c = true :=
    Nat.findGreatest_spec (P := fun c => a ≤ c ∧ v c = true) here ⟨Nat.le_refl a, burst.first⟩
  have before : c ≤ a' - 1 := Nat.findGreatest_le _
  have order := other.order
  obtain ⟨d, after, soon, -, next⟩ := burst.joined c behind (by omega) isYes
  have gapBefore := other.fresh c (by omega) isYes
  have stillBefore : d ≤ a' - 1 := by omega
  have greatest := Nat.le_findGreatest (P := fun c => a ≤ c ∧ v c = true) stillBefore ⟨by omega, next⟩
  omega

/-- Two bursts lie apart. -/
theorem IsBurst.before {a' b' : ℕ} (earlier : IsBurst v gap count a' b') (burst : IsBurst v gap count a b)
    (less : b' < b) : b' + gap < a := by
  have inside := burst.inside
  rcases Nat.lt_or_ge b' a with apart | overlaps
  · exact burst.fresh b' apart earlier.last
  · obtain ⟨d, after, soon, within, next⟩ := burst.joined b' overlaps less earlier.last
    have tooLate := earlier.rests d after (by omega) next
    omega

/-- One burst at most may still grow. -/
theorem Open.unique {a' b' : ℕ} (burst : Open v gap count a b) (other : Open v gap count a' b') :
    a = a' ∧ b = b' := by
  obtain ⟨burst, grows⟩ := burst
  obtain ⟨other, grows'⟩ := other
  have last : b = b' := by
    rcases Nat.lt_trichotomy b b' with less | same | more
    · have after := burst.rests b' less other.inside other.last
      have inside := other.inside
      omega
    · exact same
    · have after := other.rests b more burst.inside burst.last
      have inside := burst.inside
      omega
  subst last
  exact ⟨Nat.le_antisymm (other.start_unique burst) (burst.start_unique other), rfl⟩

/-- Where nothing may grow, a yes begins a burst. -/
theorem Quiet.begins (quiet : Quiet v gap count) (positive : 0 < gap) (yes : v count = true) :
    Open v gap (count + 1) count count := by
  refine ⟨⟨yes, yes, Nat.le_refl _, Nat.lt_succ_self _, quiet, ?_, ?_⟩, Nat.add_le_add_left positive count⟩
  · intro c behind before
    omega
  · intro d behind before
    omega

/-- A yes makes the burst longer that may grow. -/
theorem Open.extends (burst : Open v gap count a b) (positive : 0 < gap) (yes : v count = true) :
    Open v gap (count + 1) a count := by
  obtain ⟨burst, grows⟩ := burst
  have inside := burst.inside
  have order := burst.order
  refine ⟨⟨burst.first, yes, by omega, Nat.lt_succ_self _, burst.fresh, ?_, ?_⟩,
    Nat.add_le_add_left positive count⟩
  · intro c behind before isYes
    rcases Nat.lt_trichotomy c b with earlier | rfl | later
    · obtain ⟨d, after, soon, within, next⟩ := burst.joined c behind earlier isYes
      exact ⟨d, after, soon, by omega, next⟩
    · exact ⟨count, before, by omega, Nat.le_refl _, yes⟩
    · have tooLate := burst.rests c later before isYes
      omega
  · intro d behind before
    omega

/-- After a no a burst may grow on. -/
theorem Open.waits (burst : Open v gap count a b) (no : v count = false) (grows : count + 1 ≤ b + gap) :
    Open v gap (count + 1) a b := by
  obtain ⟨burst, -⟩ := burst
  refine ⟨⟨burst.first, burst.last, burst.order, Nat.lt_succ_of_lt burst.inside, burst.fresh, burst.joined, ?_⟩, grows⟩
  intro d behind before isYes
  rcases Nat.lt_succ_iff_lt_or_eq.1 before with earlier | rfl
  · exact burst.rests d behind earlier isYes
  · cases no.symm.trans isYes

/-- After a no it stays quiet. -/
theorem Quiet.waits (quiet : Quiet v gap count) (no : v count = false) : Quiet v gap (count + 1) := by
  intro c before isYes
  rcases Nat.lt_succ_iff_lt_or_eq.1 before with earlier | rfl
  · exact Nat.lt_succ_of_lt (quiet c earlier isYes)
  · cases no.symm.trans isYes

/-- When a burst is closed it is quiet. -/
theorem Open.quiet (burst : Open v gap count a b) (no : v count = false) (closes : b + gap = count) :
    Quiet v gap (count + 1) := by
  intro c before isYes
  rcases Nat.lt_succ_iff_lt_or_eq.1 before with earlier | rfl
  · rcases Nat.lt_or_ge b c with later | soon
    · have tooLate := burst.1.rests c later earlier isYes
      omega
    · omega
  · cases no.symm.trans isYes

/-- **A burst that has ended stays so** when a window follows. -/
theorem Closed.succ (closed : Closed v gap count a b) : Closed v gap (count + 1) a b := by
  obtain ⟨burst, done⟩ := closed
  refine ⟨⟨burst.first, burst.last, burst.order, Nat.lt_succ_of_lt burst.inside, burst.fresh, burst.joined, ?_⟩,
    Nat.lt_succ_of_lt done⟩
  intro d behind before isYes
  rcases Nat.lt_succ_iff_lt_or_eq.1 before with earlier | rfl
  · exact burst.rests d behind earlier isYes
  · exact done

/-- **The bursts that are closed one place later**: those that were, and one that could still grow if it has
waited long enough. -/
theorem closed_succ_iff (positive : 0 < gap) :
    Closed v gap (count + 1) a b ↔
      Closed v gap count a b ∨ Open v gap count a b ∧ b + gap = count ∧ v count = false := by
  constructor
  · rintro ⟨burst, done⟩
    have earlier : IsBurst v gap count a b :=
      ⟨burst.first, burst.last, burst.order, by omega, burst.fresh, burst.joined,
        fun d behind before isYes => burst.rests d behind (Nat.lt_succ_of_lt before) isYes⟩
    rcases closed_or_open earlier with closed | opened
    · exact .inl closed
    · have grows := opened.2
      refine .inr ⟨opened, by omega, Bool.eq_false_iff.2 fun isYes => ?_⟩
      have tooLate := burst.rests count (by omega) (Nat.lt_succ_self _) isYes
      omega
  · rintro (closed | ⟨⟨burst, -⟩, closes, no⟩)
    · exact closed.succ
    · refine ⟨⟨burst.first, burst.last, burst.order, Nat.lt_succ_of_lt burst.inside, burst.fresh, burst.joined, ?_⟩,
        by omega⟩
      intro d behind before isYes
      rcases Nat.lt_succ_iff_lt_or_eq.1 before with earlier | rfl
      · exact burst.rests d behind earlier isYes
      · cases no.symm.trans isYes

/-- It is quiet exactly where no burst may still grow. -/
theorem Quiet.not_open (quiet : Quiet v gap count) : ¬ Open v gap count a b := by
  rintro ⟨burst, grows⟩
  have done := quiet b burst.inside burst.last
  omega

end Bursts
