import Feros.Library.Frames
/-!
# Machines that work on frames

* **`feed`** runs a machine over its inputs, one after the other.
* **`pump`** is the loop that drains whole frames off a buffer: `pump_spec` says that it feeds the machine
  with the frames of the buffer, and keeps what is left.
* **`deliver`** hands out as many items as are asked for, or none.
* **`refused`** says which demands get nothing if each brings as many items as it asks for and only whole
  frames are passed on; `lagAfter_le` bounds how far the items handed out fall behind.
-/

namespace Frames

variable {σ ι α β : Type*}

/-- **Run a machine over inputs**: all of its outputs, and where it ends. -/
def feed (work : σ → ι → List β × σ) : σ → List ι → List β × σ
  | s, [] => ([], s)
  | s, i :: inputs => ((work s i).1 ++ (feed work (work s i).2 inputs).1, (feed work (work s i).2 inputs).2)

/-- **A machine that is fed twice goes on from where it stopped.** -/
theorem feed_append (work : σ → ι → List β × σ) (s : σ) (first second : List ι) :
    feed work s (first ++ second) =
      ((feed work s first).1 ++ (feed work (feed work s first).2 second).1,
        (feed work (feed work s first).2 second).2) := by
  induction first generalizing s with
  | nil => rfl
  | cons i first ih =>
      rw [List.cons_append, feed, ih, feed]
      simp only [List.append_assoc]

/-- `while buf.len() >= n { work(buf.drain(..n)) }`: the outputs, the machine, and what is left.  Every round
drains a frame, so there are no more rounds than items. -/
def pump (n : ℕ) (work : σ → List α → List β × σ) : ℕ → σ → List α → List β × σ × List α
  | 0, s, buf => ([], s, buf)
  | rounds + 1, s, buf =>
    if n ≤ buf.length then
      let (out, s) := work s (buf.take n)
      let (later, s, rest) := pump n work rounds s (buf.drop n)
      (out ++ later, s, rest)
    else ([], s, buf)

/-- **The loop works through the frames of the buffer.** -/
theorem pump_spec {n rounds : ℕ} (pos : 0 < n) (work : σ → List α → List β × σ) (s : σ) {buf : List α}
    (enough : buf.length ≤ rounds) :
    ∃ frames, Framed n buf frames (pump n work rounds s buf).2.2 ∧
      (pump n work rounds s buf).1 = (feed work s frames).1 ∧
      (pump n work rounds s buf).2.1 = (feed work s frames).2 := by
  induction rounds generalizing s buf with
  | zero =>
      have empty : buf = [] := List.eq_nil_of_length_eq_zero (Nat.le_zero.1 enough)
      subst empty
      exact ⟨[], Framed.of_short pos, rfl, rfl⟩
  | succ rounds ih =>
      unfold pump
      by_cases complete : n ≤ buf.length
      · rw [if_pos complete]
        dsimp only
        have fewer : (buf.drop n).length ≤ rounds := by
          rw [List.length_drop]
          omega
        obtain ⟨frames, framed, outs, machine⟩ := ih (work s (buf.take n)).2 fewer
        refine ⟨buf.take n :: frames, ⟨?_, ?_, framed.short⟩, ?_, ?_⟩
        · rw [List.flatten_cons, List.append_assoc, framed.whole, List.take_append_drop]
        · intro frame held
          rcases List.mem_cons.1 held with rfl | held
          · exact List.length_take_of_le complete
          · exact framed.length_eq frame held
        · rw [outs, feed]
        · rw [machine, feed]
      · rw [if_neg complete]
        exact ⟨[], Framed.of_short (Nat.lt_of_not_le complete), rfl, rfl⟩

/-! ## Handing out on demand -/

/-- **Hand out exactly `n` items**, or none and keep them all. -/
def deliver (n : ℕ) (held : List β) : Option (List β) × List β :=
  if n ≤ held.length then (some (held.take n), held.drop n) else (none, held)

/-- What was delivered and what was kept is what was held. -/
theorem deliver_kept (n : ℕ) (held : List β) :
    ((deliver n held).1.toList.flatten) ++ (deliver n held).2 = held := by
  unfold deliver
  split
  · rw [Option.toList_some, List.flatten_singleton, List.take_append_drop]
  · rfl

/-- What is delivered is a whole frame. -/
theorem deliver_length {n : ℕ} {held given : List β} (gives : (deliver n held).1 = some given) :
    given.length = n := by
  unfold deliver at gives
  split at gives
  · next enough =>
    cases gives
    exact List.length_take_of_le enough
  · cases gives

/-- Something is handed out if there is enough of it. -/
theorem deliver_isSome (n : ℕ) (held : List β) : (deliver n held).1.isSome ↔ n ≤ held.length := by
  unfold deliver
  split
  · next enough => exact iff_of_true rfl enough
  · next few => exact iff_of_false Bool.false_ne_true few

/-! ## How far it falls behind -/

/-- **Which demands get nothing**: each brings as many items as it asks for, whole frames of `n` items are passed
on, and what was handed out is `lag` items behind the `fed` ones. -/
def refused (n : ℕ) : (fed lag : ℕ) → List ℕ → List Bool
  | _, _, [] => []
  | fed, lag, demand :: demands =>
    if lag < (fed + demand) % n then true :: refused n (fed + demand) (lag + demand) demands
    else false :: refused n (fed + demand) lag demands

/-- How far behind it is in the end. -/
def lagAfter (n : ℕ) : (fed lag : ℕ) → List ℕ → ℕ
  | _, lag, [] => lag
  | fed, lag, demand :: demands =>
    if lag < (fed + demand) % n then lagAfter n (fed + demand) (lag + demand) demands
    else lagAfter n (fed + demand) lag demands

variable {n fed lag most : ℕ} {demands : List ℕ}

/-- **It falls behind by less than a frame and a demand.** -/
theorem lagAfter_le (pos : 0 < n) (few : ∀ demand ∈ demands, demand ≤ most) (behind : lag ≤ n - 2 + most) :
    lagAfter n fed lag demands ≤ n - 2 + most := by
  induction demands generalizing fed lag with
  | nil => exact behind
  | cons demand demands ih =>
      have small := few demand List.mem_cons_self
      have rest := fun other held => few other (List.mem_cons_of_mem demand held)
      have below := Nat.mod_lt (fed + demand) pos
      unfold lagAfter
      split
      · next short => exact ih rest (by omega)
      · exact ih rest behind

/-- Demands of whole frames do not make it fall behind. -/
theorem lagAfter_of_dvd (aligned : n ∣ fed) (whole : ∀ demand ∈ demands, n ∣ demand) :
    lagAfter n fed lag demands = lag := by
  induction demands generalizing fed with
  | nil => rfl
  | cons demand demands ih =>
      have next := Nat.dvd_add aligned (whole demand List.mem_cons_self)
      unfold lagAfter
      rw [if_neg (by rw [Nat.mod_eq_zero_of_dvd next]; exact Nat.not_lt_zero lag)]
      exact ih next fun other held => whole other (List.mem_cons_of_mem _ held)

end Frames
