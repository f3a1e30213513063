import Mathlib.Data.List.Basic
import Mathlib.Data.List.Induction
import Mathlib.Data.List.Range
/-! # Stretches of positions

Half-open stretches of positions in a list.  Stretches that come in the order of their starts are merged by
one pass, which joins a stretch to the one before it if they touch; the merged stretches cover the same
positions, and lie apart.  Cutting stretches that lie apart out of a list, one after another, is the same as
keeping the positions they cover. -/

/-- The positions from `start` on and before `stop`. -/
structure Stretch where
  start : ℕ
  stop : ℕ
  deriving DecidableEq, Repr

namespace Stretch

/-- A position in a stretch. -/
def Contains (seg : Stretch) (i : ℕ) : Prop := seg.start ≤ i ∧ i < seg.stop

instance decidableContains (seg : Stretch) (i : ℕ) : Decidable (seg.Contains i) :=
  inferInstanceAs (Decidable (_ ∧ _))

/-- A position in one of several stretches. -/
def Covers (segs : List Stretch) (i : ℕ) : Prop := ∃ seg ∈ segs, seg.Contains i

instance decidableCovers (segs : List Stretch) (i : ℕ) : Decidable (Covers segs i) :=
  inferInstanceAs (Decidable (∃ seg ∈ segs, seg.Contains i))

/-- Stretches in the order of their starts, none of them turned round. -/
def Ordered (segs : List Stretch) : Prop :=
  segs.Pairwise (fun first second => first.start ≤ second.start) ∧ ∀ seg ∈ segs, seg.start ≤ seg.stop

/-- Stretches in order that do not touch. -/
def Apart (segs : List Stretch) : Prop := segs.Pairwise fun first second => first.stop < second.start

/-- No stretch covers nothing. -/
theorem covers_nil (i : ℕ) : ¬ Covers [] i := nofun

/-- A list covers what its first stretch contains and what the rest covers. -/
theorem covers_cons {seg : Stretch} {segs : List Stretch} {i : ℕ} :
    Covers (seg :: segs) i ↔ seg.Contains i ∨ Covers segs i := by
  unfold Covers
  simp only [List.mem_cons, exists_eq_or_imp]

/-! ## Merging -/

/-- Join a stretch to the last one if they touch, or put it behind it. -/
def join (merged : List Stretch × Stretch) (seg : Stretch) : List Stretch × Stretch :=
  if seg.start ≤ merged.2.stop then (merged.1, { merged.2 with stop := max merged.2.stop seg.stop })
  else (merged.1 ++ [merged.2], seg)

/-- **Merge stretches** in one pass. -/
def merge : List Stretch → List Stretch
  | [] => []
  | first :: rest =>
    let merged := rest.foldl join ([], first)
    merged.1 ++ [merged.2]

/-- What one pass keeps: the last stretch may still grow, the others are done. -/
structure Merging (segs : List Stretch) (merged : List Stretch × Stretch) : Prop where
  covers : ∀ i, Covers (merged.1 ++ [merged.2]) i ↔ Covers segs i
  apart : Apart (merged.1 ++ [merged.2])
  /-- The last stretch starts no later than what comes. -/
  starts : ∃ seg ∈ segs, merged.2.start ≤ seg.start
  proper : ∀ seg ∈ merged.1 ++ [merged.2], seg.start ≤ seg.stop

/-- A list covers what its parts cover. -/
theorem covers_append {first second : List Stretch} {i : ℕ} :
    Covers (first ++ second) i ↔ Covers first i ∨ Covers second i := by
  unfold Covers
  simp only [List.mem_append, or_and_right, exists_or]

/-- One stretch covers what it contains. -/
theorem covers_singleton {seg : Stretch} {i : ℕ} : Covers [seg] i ↔ seg.Contains i := by
  rw [covers_cons]
  exact or_iff_left (covers_nil i)

/-- **A stretch that starts behind the others is joined to them.** -/
theorem Merging.join {segs : List Stretch} {merged : List Stretch × Stretch} (merging : Merging segs merged)
    {seg : Stretch} (proper : seg.start ≤ seg.stop) (behind : ∀ earlier ∈ segs, earlier.start ≤ seg.start) :
    Merging (segs ++ [seg]) (Stretch.join merged seg) := by
  obtain ⟨done, last⟩ := merged
  obtain ⟨covers, apart, ⟨witness, held, before⟩, propers⟩ := merging
  dsimp only at covers apart before propers
  have order : last.start ≤ seg.start := before.trans (behind witness held)
  have lastProper : last.start ≤ last.stop := propers last (by simp)
  unfold Stretch.join
  dsimp only
  -- The new stretch touches the last one, which grows.
  by_cases touch : seg.start ≤ last.stop
  · rw [if_pos touch]
    refine ⟨fun i => ?_, ?_, ⟨witness, List.mem_append_left _ held, before⟩, ?_⟩
    · rw [@covers_append _ [seg] i, ← covers i, covers_append, covers_append, covers_singleton,
        covers_singleton, covers_singleton, or_assoc]
      refine or_congr_right ?_
      unfold Contains
      dsimp only
      omega
    · rw [Apart, List.pairwise_append] at apart ⊢
      exact ⟨apart.1, List.pairwise_singleton _ _, fun earlier done later held => by
        rw [List.mem_singleton.1 held]
        exact apart.2.2 earlier done last (List.mem_singleton_self last)⟩
    · intro other held
      rcases List.mem_append.1 held with done | last
      · exact propers other (List.mem_append_left _ done)
      · rw [List.mem_singleton.1 last]
        exact lastProper.trans (Nat.le_max_left _ _)
  -- It lies behind the last one, with a gap.
  · rw [if_neg touch]
    refine ⟨fun i => ?_, ?_, ⟨seg, by simp, Nat.le_refl _⟩, ?_⟩
    · rw [covers_append, covers i, covers_append]
    · rw [Apart, List.pairwise_append] at apart ⊢
      refine ⟨List.pairwise_append.2 apart, List.pairwise_singleton _ _, fun earlier held later here => ?_⟩
      rw [List.mem_singleton.1 here]
      rcases List.mem_append.1 held with isDone | isLast
      · have gap := apart.2.2 earlier isDone last (List.mem_singleton_self last)
        dsimp only
        omega
      · rw [List.mem_singleton.1 isLast]
        dsimp only
        omega
    · intro other held
      rcases List.mem_append.1 held with done | last
      · exact propers other done
      · rw [List.mem_singleton.1 last]
        exact proper

/-- **Merging covers the same positions, by stretches that lie apart.** -/
theorem merge_spec {segs : List Stretch} (ordered : Ordered segs) :
    (∀ i, Covers (merge segs) i ↔ Covers segs i) ∧ Apart (merge segs) := by
  cases segs with
  | nil => exact ⟨fun _ => Iff.rfl, .nil⟩
  | cons first rest =>
      have merging : ∀ before after : List Stretch, rest = before ++ after →
          Merging (first :: before) (before.foldl join ([], first)) := by
        intro before
        induction before using List.reverseRecOn with
        | nil =>
            intro _ _
            refine ⟨fun i => Iff.rfl, List.pairwise_singleton _ _, ⟨first, by simp, Nat.le_refl _⟩, ?_⟩
            intro seg held
            rw [List.mem_singleton.1 held]
            exact ordered.2 first List.mem_cons_self
        | append_singleton before seg ih =>
            intro after split
            rw [List.append_assoc] at split
            have merging := ih _ split
            rw [List.foldl_append, ← List.cons_append]
            have held : seg ∈ first :: rest := by
              rw [split]
              simp
            refine merging.join (ordered.2 seg held) fun earlier isEarlier => ?_
            have sorted := ordered.1
            rw [split, ← List.cons_append, List.pairwise_append] at sorted
            exact sorted.2.2 earlier isEarlier seg (by simp)
      have all := merging rest [] (List.append_nil rest).symm
      exact ⟨all.covers, all.apart⟩

/-! ## Cutting out -/

variable {α : Type*}

/-- The elements of a list at the positions of a stretch. -/
def slice (xs : List α) (seg : Stretch) : List α := (xs.take seg.stop).drop seg.start

/-- The elements of a list at the positions that meet a condition. -/
def keep (xs : List α) (wanted : ℕ → Prop) [DecidablePred wanted] : List α :=
  (xs.zipIdx.filter fun item => wanted item.2).map Prod.fst

/-- What is taken from a numbered list are the numbers below. -/
theorem take_zipIdx (xs : List α) (from_ count : ℕ) :
    (xs.zipIdx from_).take count = (xs.zipIdx from_).filter fun item => item.2 < from_ + count := by
  induction xs generalizing from_ count with
  | nil => simp
  | cons x xs ih =>
      cases count with
      | zero =>
          symm
          rw [List.take_zero, List.filter_eq_nil_iff]
          intro item held
          have behind := List.le_snd_of_mem_zipIdx held
          simpa using behind
      | succ count =>
          rw [List.zipIdx_cons, List.take_succ_cons, ih, List.filter_cons_of_pos (by simp)]
          congr 2
          funext item
          rw [Nat.add_right_comm, Nat.add_assoc]

/-- What is dropped from a numbered list are the numbers from there on. -/
theorem drop_zipIdx (xs : List α) (from_ count : ℕ) :
    (xs.zipIdx from_).drop count = (xs.zipIdx from_).filter fun item => from_ + count ≤ item.2 := by
  induction xs generalizing from_ count with
  | nil => simp
  | cons x xs ih =>
      cases count with
      | zero =>
          symm
          rw [List.drop_zero, List.filter_eq_self]
          intro item held
          have behind := List.le_snd_of_mem_zipIdx held
          simpa using behind
      | succ count =>
          rw [List.zipIdx_cons, List.drop_succ_cons, ih, List.filter_cons_of_neg (by simp)]
          congr 1
          funext item
          rw [Nat.add_right_comm, Nat.add_assoc]

/-- What is taken is numbered as before. -/
theorem zipIdx_take (xs : List α) (from_ count : ℕ) :
    (xs.take count).zipIdx from_ = (xs.zipIdx from_).take count := by
  induction xs generalizing from_ count with
  | nil => simp
  | cons x xs ih =>
      cases count with
      | zero => rfl
      | succ count => rw [List.take_succ_cons, List.zipIdx_cons, List.zipIdx_cons, List.take_succ_cons, ih]

/-- Cutting out a stretch keeps its positions. -/
theorem slice_eq (xs : List α) (seg : Stretch) : slice xs seg = keep xs seg.Contains := by
  have first : (xs.take seg.stop).zipIdx = xs.zipIdx.filter fun item => item.2 < seg.stop := by
    have cut := take_zipIdx xs 0 seg.stop
    rw [Nat.zero_add] at cut
    rw [zipIdx_take, cut]
  calc slice xs seg
      = (((xs.take seg.stop).zipIdx.drop seg.start).map Prod.fst) := by
        rw [List.map_drop, List.zipIdx_map_fst]
        rfl
    _ = keep xs seg.Contains := by
        rw [drop_zipIdx, first, List.filter_filter, keep]
        congr 2
        funext item
        rw [Nat.zero_add, ← Bool.decide_and]
        rfl

/-- Elements of two kinds in a list, all of the one kind before all of the other. -/
theorem filter_or_of_pairwise {first second : α → Bool} {xs : List α}
    (sorted : xs.Pairwise fun a b => ¬ (second a = true ∧ first b = true))
    (apart : ∀ a, ¬ (first a = true ∧ second a = true)) :
    xs.filter (fun a => first a || second a) = xs.filter first ++ xs.filter second := by
  induction xs with
  | nil => rfl
  | cons x xs ih =>
      obtain ⟨here, rest⟩ := List.pairwise_cons.1 sorted
      cases isFirst : first x with
      | true =>
        have notSecond : ¬ second x = true := fun isSecond => apart x ⟨isFirst, isSecond⟩
        rw [List.filter_cons_of_pos (by simp [isFirst]), List.filter_cons_of_pos isFirst,
          List.filter_cons_of_neg notSecond, ih rest, List.cons_append]
      | false =>
        cases isSecond : second x with
        | true =>
          have none : xs.filter first = [] :=
            List.filter_eq_nil_iff.2 fun b held isFirst => here b held ⟨isSecond, isFirst⟩
          have all := ih rest
          rw [none, List.nil_append] at all
          rw [List.filter_cons_of_pos (by simp [isSecond]), List.filter_cons_of_neg (by simp [isFirst]),
            List.filter_cons_of_pos isSecond, all, none, List.nil_append]
        | false =>
          rw [List.filter_cons_of_neg (by simp [isFirst, isSecond]), List.filter_cons_of_neg (by simp [isFirst]),
            List.filter_cons_of_neg (by simp [isSecond]), ih rest]

/-- **Cutting out stretches that lie apart keeps the positions they cover.** -/
theorem flatMap_slice {segs : List Stretch} (apart : Apart segs) (xs : List α) :
    segs.flatMap (slice xs) = keep xs (Covers segs) := by
  induction segs with
  | nil =>
      rw [keep, List.filter_eq_nil_iff.2 fun item _ => by simp [covers_nil]]
      rfl
  | cons seg segs ih =>
      obtain ⟨here, rest⟩ := List.pairwise_cons.1 apart
      rw [List.flatMap_cons, ih rest, slice_eq, keep, keep, keep, ← List.map_append]
      have positions : xs.zipIdx.Pairwise fun a b => a.2 < b.2 := by
        have increasing : (xs.zipIdx.map Prod.snd).Pairwise (· < ·) := by
          rw [List.zipIdx_map_snd]
          exact List.pairwise_lt_range'
        exact List.pairwise_map.1 increasing
      rw [← filter_or_of_pairwise]
      · congr 2
        funext item
        rw [← Bool.decide_or]
        exact decide_eq_decide.2 covers_cons.symm
      · refine positions.imp fun {a b} before => ?_
        rintro ⟨later, earlier⟩
        obtain ⟨other, held, inside⟩ := of_decide_eq_true later
        have gap := here other held
        have within := of_decide_eq_true earlier
        unfold Contains at inside within
        omega
      · rintro item ⟨inFirst, inRest⟩
        obtain ⟨other, held, inside⟩ := of_decide_eq_true inRest
        have gap := here other held
        have within := of_decide_eq_true inFirst
        unfold Contains at inside within
        omega

/-- What is kept depends on the positions of the list only. -/
theorem keep_congr {wanted wanted' : ℕ → Prop} [DecidablePred wanted] [DecidablePred wanted'] {xs : List α}
    (same : ∀ i < xs.length, wanted i ↔ wanted' i) : keep xs wanted = keep xs wanted' := by
  unfold keep
  congr 1
  refine List.filter_congr fun item held => ?_
  have inside := List.snd_lt_of_mem_zipIdx held
  exact decide_eq_decide.2 (same item.2 inside)

end Stretch
