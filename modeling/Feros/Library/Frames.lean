import Mathlib.Data.List.Basic
/-!
# Cutting a stream into frames

A stream is cut into frames of one length; what is left at its end is shorter than a frame.

* **`Framed n stream frames rest`** says that `frames` and `rest` are such a cut.
* **`Framed.append`** goes on with more of the stream: only the rest counts.
* **`Framed.unique`**: there is one cut, so it does not matter in which pieces the stream came.
-/

namespace Frames

variable {α : Type*} {n : ℕ} {stream rest : List α} {frames : List (List α)}

/-- **The stream is cut into frames of `n` items**, and what is left. -/
structure Framed (n : ℕ) (stream : List α) (frames : List (List α)) (rest : List α) : Prop where
  whole : frames.flatten ++ rest = stream
  length_eq : ∀ frame ∈ frames, frame.length = n
  short : rest.length < n

/-- An incomplete frame. -/
theorem Framed.of_short (short : rest.length < n) : Framed n rest [] rest :=
  ⟨rfl, nofun, short⟩

/-- **More of the stream** is put behind the rest. -/
theorem Framed.append {more rest' : List α} {frames' : List (List α)}
    (first : Framed n stream frames rest) (second : Framed n (rest ++ more) frames' rest') :
    Framed n (stream ++ more) (frames ++ frames') rest' := by
  refine ⟨?_, ?_, second.short⟩
  · rw [List.flatten_append, List.append_assoc, second.whole, ← List.append_assoc, first.whole]
  · intro frame held
    rcases List.mem_append.1 held with held | held
    · exact first.length_eq frame held
    · exact second.length_eq frame held

/-- All frames together. -/
theorem length_flatten (length_eq : ∀ frame ∈ frames, frame.length = n) :
    frames.flatten.length = n * frames.length := by
  induction frames with
  | nil => rfl
  | cons frame frames ih =>
      have here := length_eq frame List.mem_cons_self
      have later := ih fun other held => length_eq other (List.mem_cons_of_mem _ held)
      rw [List.flatten_cons, List.length_append, here, later, List.length_cons, Nat.mul_succ,
        Nat.add_comm]

/-- What is left is the remainder. -/
theorem Framed.length_rest (framed : Framed n stream frames rest) :
    rest.length = stream.length % n := by
  rw [← framed.whole, List.length_append, length_flatten framed.length_eq, Nat.mul_add_mod,
    Nat.mod_eq_of_lt framed.short]

/-- **A stream is cut in one way.** -/
theorem Framed.unique {rest' : List α} {frames' : List (List α)} (first : Framed n stream frames rest)
    (second : Framed n stream frames' rest') : frames = frames' ∧ rest = rest' := by
  induction frames generalizing stream frames' with
  | nil =>
      cases frames' with
      | nil => exact ⟨rfl, first.whole.trans second.whole.symm⟩
      | cons frame' frames' =>
          have long := congrArg List.length (first.whole.trans second.whole.symm)
          have here := second.length_eq frame' List.mem_cons_self
          have short := first.short
          simp only [List.flatten_nil, List.nil_append, List.flatten_cons, List.length_append] at long
          omega
  | cons frame frames ih =>
      have here := first.length_eq frame List.mem_cons_self
      cases frames' with
      | nil =>
          have long := congrArg List.length (first.whole.trans second.whole.symm)
          have short := second.short
          simp only [List.flatten_nil, List.nil_append, List.flatten_cons, List.length_append] at long
          omega
      | cons frame' frames' =>
          have here' := second.length_eq frame' List.mem_cons_self
          have whole := first.whole.trans second.whole.symm
          rw [List.flatten_cons, List.flatten_cons, List.append_assoc, List.append_assoc] at whole
          obtain ⟨rfl, later⟩ := List.append_inj whole (here.trans here'.symm)
          obtain ⟨rfl, rfl⟩ := ih
            ⟨rfl, fun other held => first.length_eq other (List.mem_cons_of_mem _ held), first.short⟩
            ⟨later.symm, fun other held => second.length_eq other (List.mem_cons_of_mem _ held),
              second.short⟩
          exact ⟨rfl, rfl⟩

end Frames
