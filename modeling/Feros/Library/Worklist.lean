import Mathlib.Logic.Relation
/-! # Searching a graph with a worklist

A search has visited some places, and has others still to look at.  Whatever the order in which it takes
them, it keeps `Explored`, and when nothing is left it has visited what can be reached. -/

namespace Worklist

open Relation

variable {α : Type*} {edge : α → α → Prop} {start : α}

/-- **The invariant of a search.** -/
structure Explored (edge : α → α → Prop) (start : α) (visited frontier : List α) : Prop where
  started : start ∈ visited ∨ start ∈ frontier
  sound : ∀ x, x ∈ visited ∨ x ∈ frontier → ReflTransGen edge start x
  closed : ∀ x ∈ visited, ∀ y, edge x y → y ∈ visited ∨ y ∈ frontier

/-- Nothing was explored, the start is pending. -/
theorem Explored.init : Explored edge start [] [start] := by
  refine ⟨.inr List.mem_cons_self, ?_, nofun⟩
  rintro x (impossible | here)
  · cases impossible
  · rw [List.mem_singleton.1 here]

variable {visited frontier frontier' : List α} {x : α}

/-- A place that was visited before. -/
theorem Explored.skip (explored : Explored edge start visited (x :: frontier)) (old : x ∈ visited) :
    Explored edge start visited frontier := by
  have still : ∀ y, y ∈ visited ∨ y ∈ x :: frontier → y ∈ visited ∨ y ∈ frontier := by
    rintro y (before | later)
    · exact .inl before
    · rcases List.mem_cons.1 later with rfl | later
      · exact .inl old
      · exact .inr later
  refine ⟨still _ explored.started, fun y held => explored.sound y ?_, fun y held z next => ?_⟩
  · exact held.imp_right (List.mem_cons_of_mem x)
  · exact still z (explored.closed y held z next)

/-- **A place is visited**, and what is next to it is to be looked at. -/
theorem Explored.visit (explored : Explored edge start visited (x :: frontier))
    (more : ∀ y, y ∈ frontier' ↔ y ∈ frontier ∨ edge x y ∧ y ∉ x :: visited) :
    Explored edge start (x :: visited) frontier' := by
  have still : ∀ y, y ∈ visited ∨ y ∈ x :: frontier → y ∈ x :: visited ∨ y ∈ frontier' := by
    rintro y (before | later)
    · exact .inl (List.mem_cons_of_mem x before)
    · rcases List.mem_cons.1 later with rfl | later
      · exact .inl List.mem_cons_self
      · exact .inr ((more y).2 (.inl later))
  have here : ReflTransGen edge start x := explored.sound x (.inr List.mem_cons_self)
  refine ⟨still _ explored.started, ?_, ?_⟩
  · rintro y (held | held)
    · rcases List.mem_cons.1 held with rfl | before
      · exact here
      · exact explored.sound y (.inl before)
    · rcases (more y).1 held with later | ⟨next, -⟩
      · exact explored.sound y (.inr (List.mem_cons_of_mem x later))
      · exact here.tail next
  · intro y held z next
    rcases List.mem_cons.1 held with rfl | before
    · by_cases old : z ∈ y :: visited
      · exact .inl old
      · exact .inr ((more z).2 (.inr ⟨next, old⟩))
    · exact still z (explored.closed y before z next)

/-- **When nothing is left to look at, what can be reached has been visited.** -/
theorem Explored.mem_iff (explored : Explored edge start visited []) :
    x ∈ visited ↔ ReflTransGen edge start x := by
  constructor
  · intro held
    exact explored.sound x (.inl held)
  · intro reached
    induction reached with
    | refl => exact explored.started.resolve_right nofun
    | tail _ next ih => exact (explored.closed _ ih _ next).resolve_right nofun

end Worklist
