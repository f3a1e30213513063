import Mathlib.Data.List.Basic
/-!
# Runs of a deterministic machine

A machine is a step function `step : σ → ι → σ`; the nondeterminism of its environment sits in
the inputs.  A *run* feeds it a finite list of inputs.  `Along` says that every step of a run,
seen as the pair of the state it starts from and the input it takes, meets a guard; a guard may
be a hypothesis on the environment or the exact condition under which an invariant survives.

The one induction over runs is `Run.invariant`; the results about a program are its instances.
-/

namespace Run

variable {σ ι : Type*} (step : σ → ι → σ)

/-- **The state a run ends in.** -/
def run (s : σ) (inputs : List ι) : σ :=
  inputs.foldl step s

/-- **Every step of the run meets the guard**, taken at the state the step starts from. -/
def Along (guard : σ → ι → Prop) : σ → List ι → Prop
  | _, [] => True
  | s, i :: inputs => guard s i ∧ Along guard (step s i) inputs

/-- **What a run puts out**, step by step. -/
def outputs {α : Type*} (out : σ → ι → List α) : σ → List ι → List α
  | _, [] => []
  | s, i :: inputs => out s i ++ outputs out (step s i) inputs

/-- No input leaves the state. -/
@[simp] theorem run_nil (s : σ) : run step s [] = s := rfl

/-- A run is its first step and the rest. -/
@[simp] theorem run_cons (s : σ) (i : ι) (inputs : List ι) :
    run step s (i :: inputs) = run step (step s i) inputs := rfl

/-- **A longer run runs on from where the shorter one ended.** -/
theorem run_append (s : σ) (first second : List ι) :
    run step s (first ++ second) = run step (run step s first) second :=
  List.foldl_append

/-- The outputs of one more input are those of its step. -/
theorem outputs_concat {α : Type*} (out : σ → ι → List α) (s : σ) (inputs : List ι) (i : ι) :
    outputs step out s (inputs ++ [i]) = outputs step out s inputs ++ out (run step s inputs) i := by
  induction inputs generalizing s with
  | nil => simp [outputs]
  | cons j inputs ih => simp [outputs, ih]

section Simulation

variable {τ κ : Type*} {step} {step' : τ → κ → τ} {inv : σ → Prop} {abs : σ → τ} {input : ι → κ}

/-- **The simulation rule.**  If every step does to the abstract state what the abstract step does, so
does every run. -/
theorem run_simulates (preserved : ∀ s i, inv s → inv (step s i))
    (agree : ∀ s i, inv s → abs (step s i) = step' (abs s) (input i)) {s : σ} (start : inv s)
    (inputs : List ι) : abs (run step s inputs) = run step' (abs s) (inputs.map input) := by
  induction inputs generalizing s with
  | nil => rfl
  | cons i inputs ih =>
      have rest := ih (preserved s i start)
      rw [agree s i start] at rest
      exact rest

/-- A simulated run puts out the same. -/
theorem outputs_simulates {α : Type*} {out : σ → ι → List α} {out' : τ → κ → List α}
    (preserved : ∀ s i, inv s → inv (step s i))
    (agree : ∀ s i, inv s → abs (step s i) = step' (abs s) (input i))
    (puts : ∀ s i, inv s → out s i = out' (abs s) (input i)) {s : σ} (start : inv s) (inputs : List ι) :
    outputs step out s inputs = outputs step' out' (abs s) (inputs.map input) := by
  induction inputs generalizing s with
  | nil => rfl
  | cons i inputs ih =>
      have rest := ih (preserved s i start)
      rw [agree s i start] at rest
      simp only [outputs, List.map_cons, puts s i start, rest]

end Simulation

/-- No input is guarded. -/
@[simp] theorem along_nil (guard : σ → ι → Prop) (s : σ) : Along step guard s [] := trivial

/-- A run is guarded where its first input is, and the rest. -/
@[simp] theorem along_cons (guard : σ → ι → Prop) (s : σ) (i : ι) (inputs : List ι) :
    Along step guard s (i :: inputs) ↔ guard s i ∧ Along step guard (step s i) inputs := Iff.rfl

/-- A longer run is guarded where both its parts are. -/
theorem along_append (guard : σ → ι → Prop) (s : σ) (first second : List ι) :
    Along step guard s (first ++ second) ↔
      Along step guard s first ∧ Along step guard (run step s first) second := by
  induction first generalizing s with
  | nil => exact (and_iff_right trivial).symm
  | cons i first ih => rw [List.cons_append, along_cons, along_cons, ih, and_assoc, run_cons]

/-- A decidable guard can be checked along a concrete run. -/
instance decidableAlong (guard : σ → ι → Prop) [∀ s i, Decidable (guard s i)] :
    (s : σ) → (inputs : List ι) → Decidable (Along step guard s inputs)
  | _, [] => inferInstanceAs (Decidable True)
  | s, i :: inputs =>
    have := decidableAlong guard (step s i) inputs
    inferInstanceAs (Decidable (guard s i ∧ Along step guard (step s i) inputs))

variable {step}

/-- **The invariant rule.**  What the start state has and every guarded step preserves, the run
ends with. -/
theorem invariant {inv : σ → Prop} {guard : σ → ι → Prop}
    (preserved : ∀ s i, inv s → guard s i → inv (step s i)) {s : σ} {inputs : List ι}
    (start : inv s) (guarded : Along step guard s inputs) : inv (run step s inputs) := by
  induction inputs generalizing s with
  | nil => exact start
  | cons i inputs ih => exact ih (preserved s i start guarded.1) guarded.2

/-- The invariant rule for an invariant that every step preserves. -/
theorem invariant_of_step {inv : σ → Prop} (preserved : ∀ s i, inv s → inv (step s i))
    {s : σ} (start : inv s) (inputs : List ι) : inv (run step s inputs) := by
  induction inputs generalizing s with
  | nil => exact start
  | cons i inputs ih => exact ih (preserved s i start)

/-- Guards that agree on every step agree along every run. -/
theorem along_congr {guard guard' : σ → ι → Prop} (h : ∀ s i, guard s i ↔ guard' s i) {s : σ}
    {inputs : List ι} : Along step guard s inputs ↔ Along step guard' s inputs := by
  induction inputs generalizing s with
  | nil => rfl
  | cons i inputs ih => exact and_congr (h s i) ih

/-- Two guards are met along a run if each of them is. -/
theorem along_and {guard guard' : σ → ι → Prop} {s : σ} {inputs : List ι} :
    Along step (fun s i => guard s i ∧ guard' s i) s inputs ↔
      Along step guard s inputs ∧ Along step guard' s inputs := by
  induction inputs generalizing s with
  | nil => exact (and_iff_left trivial).symm
  | cons i inputs ih => rw [along_cons, along_cons, along_cons, ih, and_and_and_comm]

/-- A guard that is met along a run is met along its front. -/
theorem Along.of_prefix {guard : σ → ι → Prop} {s : σ} {front inputs : List ι} (along : Along step guard s inputs)
    (here : front <+: inputs) : Along step guard s front := by
  obtain ⟨rest, rfl⟩ := here
  exact ((along_append step guard s front rest).1 along).1

/-- Guards that agree wherever an invariant holds agree along a run that keeps it. -/
theorem along_congr_of_invariant {inv : σ → Prop} {assumed guard guard' : σ → ι → Prop}
    (preserved : ∀ s i, inv s → assumed s i → guard' s i → inv (step s i))
    (agree : ∀ s i, inv s → assumed s i → (guard s i ↔ guard' s i)) {s : σ} {inputs : List ι} (start : inv s)
    (holds : Along step assumed s inputs) : Along step guard s inputs ↔ Along step guard' s inputs := by
  induction inputs generalizing s with
  | nil => rfl
  | cons i inputs ih =>
    have here := agree s i start holds.1
    constructor
    · rintro ⟨met, rest⟩
      have met' := here.1 met
      exact ⟨met', (ih (preserved s i start holds.1 met') holds.2).1 rest⟩
    · rintro ⟨met', rest⟩
      exact ⟨here.2 met', (ih (preserved s i start holds.1 met') holds.2).2 rest⟩

/-- A guard that looks only at the inputs is met by every run of inputs that meet it. -/
theorem along_of_inputs {allowed : ι → Prop} {inputs : List ι} (all : ∀ i ∈ inputs, allowed i) (s : σ) :
    Along step (fun _ i => allowed i) s inputs := by
  induction inputs generalizing s with
  | nil => trivial
  | cons i inputs ih =>
    exact ⟨all i List.mem_cons_self, ih (fun j held => all j (List.mem_cons_of_mem i held)) (step s i)⟩

/-- **The exact rule.**  If a step makes `bad` true exactly where it misses the guard, and nothing
makes it false again, a run stays clear of `bad` exactly if all its steps meet the guard. -/
theorem clear_iff_along (bad : σ → Prop) {inv : σ → Prop} {guard : σ → ι → Prop}
    (preserved : ∀ s i, inv s → inv (step s i))
    (turns : ∀ s i, inv s → (bad (step s i) ↔ bad s ∨ ¬ guard s i)) {s : σ} (start : inv s)
    (clear : ¬ bad s) (inputs : List ι) :
    ¬ bad (run step s inputs) ↔ Along step guard s inputs := by
  have stays : ∀ {s} (inputs : List ι), inv s → bad s → bad (run step s inputs) := by
    intro s inputs
    induction inputs generalizing s with
    | nil => exact fun _ isBad => isBad
    | cons i inputs ih =>
      exact fun start isBad => ih (preserved s i start) ((turns s i start).2 (.inl isBad))
  induction inputs generalizing s with
  | nil => exact ⟨fun _ => trivial, fun _ => clear⟩
  | cons i inputs ih =>
    have next := preserved s i start
    by_cases met : guard s i
    · have stillClear : ¬ bad (step s i) := by
        rw [turns s i start]
        rintro (isBad | missed)
        · exact clear isBad
        · exact missed met
      have rest := ih next stillClear
      exact rest.trans (and_iff_right met).symm
    · have isBad : bad (step s i) := (turns s i start).2 (.inr met)
      exact ⟨fun h => absurd (stays inputs next isBad) h, fun h => absurd h.1 met⟩

/-- **The exact rule for what has to be kept up.**  If a step keeps `good` exactly where it meets the
guard, `good` holds all along a run exactly if all its steps meet the guard. -/
theorem kept_iff_along (good : σ → Prop) {inv : σ → Prop} {guard : σ → ι → Prop}
    (preserved : ∀ s i, inv s → inv (step s i))
    (keeps : ∀ s i, inv s → good s → (good (step s i) ↔ guard s i)) {s : σ} (start : inv s)
    (isGood : good s) (inputs : List ι) :
    (∀ front, front <+: inputs → good (run step s front)) ↔ Along step guard s inputs := by
  induction inputs generalizing s with
  | nil =>
    refine ⟨fun _ => trivial, fun _ front h => ?_⟩
    rw [List.prefix_nil.1 h]
    exact isGood
  | cons i inputs ih =>
    have next := preserved s i start
    constructor
    · intro kept
      have after : good (step s i) := kept [i] ⟨inputs, rfl⟩
      refine ⟨(keeps s i start isGood).1 after, (ih next after).1 fun front h => ?_⟩
      exact kept (i :: front) (List.cons_prefix_cons.2 ⟨rfl, h⟩)
    · rintro ⟨met, rest⟩ front h
      have after : good (step s i) := (keeps s i start isGood).2 met
      rcases List.prefix_cons_iff.1 h with rfl | ⟨front, rfl, shorter⟩
      · exact isGood
      · exact (ih next after).2 rest front shorter

/-- **The exact rule for an invariant**, over inputs of some kind: if guarded steps keep an invariant that
gives `good`, and a step that misses the guard loses `good`, then `good` holds all along a run exactly if
all its steps meet the guard. -/
theorem good_iff_along_of_inputs {good inv : σ → Prop} {guard : σ → ι → Prop} {allowed : ι → Prop}
    (gives : ∀ s, inv s → good s) (preserved : ∀ s i, allowed i → inv s → guard s i → inv (step s i))
    (breaks : ∀ s i, allowed i → inv s → ¬ guard s i → ¬ good (step s i)) {s : σ} (start : inv s)
    {inputs : List ι} (all : ∀ i ∈ inputs, allowed i) :
    (∀ front, front <+: inputs → good (run step s front)) ↔ Along step guard s inputs := by
  induction inputs generalizing s with
  | nil =>
    refine ⟨fun _ => trivial, fun _ front h => ?_⟩
    rw [List.prefix_nil.1 h]
    exact gives s start
  | cons i inputs ih =>
    have here := all i List.mem_cons_self
    have rest : ∀ j ∈ inputs, allowed j := fun j held => all j (List.mem_cons_of_mem i held)
    constructor
    · intro kept
      have after : good (step s i) := kept [i] ⟨inputs, rfl⟩
      have met : guard s i := by
        by_contra missed
        exact breaks s i here start missed after
      refine ⟨met, (ih (preserved s i here start met) rest).1 fun front h => ?_⟩
      exact kept (i :: front) (List.cons_prefix_cons.2 ⟨rfl, h⟩)
    · rintro ⟨met, guarded⟩ front h
      rcases List.prefix_cons_iff.1 h with rfl | ⟨front, rfl, shorter⟩
      · exact gives s start
      · exact (ih (preserved s i here start met) rest).2 guarded front shorter

/-- The exact rule for an invariant, over all inputs. -/
theorem good_iff_along {good inv : σ → Prop} {guard : σ → ι → Prop} (gives : ∀ s, inv s → good s)
    (preserved : ∀ s i, inv s → guard s i → inv (step s i))
    (breaks : ∀ s i, inv s → ¬ guard s i → ¬ good (step s i)) {s : σ} (start : inv s)
    (inputs : List ι) :
    (∀ front, front <+: inputs → good (run step s front)) ↔ Along step guard s inputs :=
  good_iff_along_of_inputs gives (fun s i _ => preserved s i)
    (fun s i _ => breaks s i) start fun _ _ => trivial

end Run
