import Mathlib.Tactic.TypeStar
/-!
# Calls that suspend

A call on a machine with states `σ` returns a result, or waits at a *point* `π` that holds its local
variables; an input `ω` of the world resumes it.  The state is shared: it changes while the call
waits, and it stays when the caller drops the call, which loses the point.

* **`Call.drive`** runs a call under a list of inputs.
* **`Call.drive_rule`** is the one induction: what holds when a call is entered and at each point
  holds when it returns.
* **`Call.Delivers`** is what a caller gets that calls again and again.
* **`Call.DropSafe`** says that dropping a call at a point makes no difference to the caller; it does
  not where a call entered anew comes to the same point, which is **`Call.Resumes`**.
-/

namespace Suspension

/-- **Where a call is.** -/
inductive Status (π ε : Type*) where
  | ready (result : ε)
  | pending (point : π)
  deriving DecidableEq, Repr

/-- A call of a machine: how it begins, and how it goes on from a point. -/
structure Call (σ π ω ε : Type*) where
  enter : σ → σ × Status π ε
  resume : σ → π → ω → σ × Status π ε

variable {σ π ω ε : Type*}

namespace Call

variable (call : Call σ π ω ε)

/-- Resume a call that waits until it returns or the inputs are used up. -/
def resumeAll (s : σ) (point : π) : List ω → σ × Status π ε
  | [] => (s, .pending point)
  | input :: inputs =>
    match call.resume s point input with
    | (s, .pending point) => resumeAll s point inputs
    | (s, .ready result) => (s, .ready result)

/-- **A call** under a list of inputs; what is left of them when it returns is ignored. -/
def drive (inputs : List ω) (s : σ) : σ × Status π ε :=
  match call.enter s with
  | (s, .pending point) => call.resumeAll s point inputs
  | (s, .ready result) => (s, .ready result)

/-- Every resumption meets the guard. -/
def AlongFrom (guard : σ → π → ω → Prop) (s : σ) (point : π) : List ω → Prop
  | [] => True
  | input :: inputs =>
    guard s point input ∧
      match call.resume s point input with
      | (s, .pending point) => AlongFrom guard s point inputs
      | (_, .ready _) => True

/-- A decidable guard can be checked along a concrete call. -/
instance decidableAlongFrom (guard : σ → π → ω → Prop)
    [∀ s point input, Decidable (guard s point input)] (s : σ) (point : π) :
    (inputs : List ω) → Decidable (call.AlongFrom guard s point inputs)
  | [] => inferInstanceAs (Decidable True)
  | input :: inputs =>
    have : Decidable (match call.resume s point input with
        | (s, .pending point) => call.AlongFrom guard s point inputs
        | (_, .ready _) => True) :=
      match call.resume s point input with
      | (s, .pending point) => decidableAlongFrom guard s point inputs
      | (_, .ready _) => inferInstanceAs (Decidable True)
    inferInstanceAs (Decidable (guard s point input ∧ _))

/-- Every resumption of a call meets the guard. -/
def Along (guard : σ → π → ω → Prop) (inputs : List ω) (s : σ) : Prop :=
  match call.enter s with
  | (s, .pending point) => call.AlongFrom guard s point inputs
  | (_, .ready _) => True

instance decidableAlong (guard : σ → π → ω → Prop)
    [∀ s point input, Decidable (guard s point input)] (inputs : List ω) (s : σ) :
    Decidable (call.Along guard inputs s) :=
  match h : call.enter s with
  | (t, .pending point) => decidable_of_iff (call.AlongFrom guard t point inputs) (by rw [Along, h])
  | (t, .ready _) => decidable_of_iff True (by rw [Along, h])

end Call

/-- One condition for the calls that wait, and one for those that have returned. -/
def Holds (waiting : σ → π → Prop) (returned : σ → ε → Prop) : σ × Status π ε → Prop
  | (s, .pending point) => waiting s point
  | (s, .ready result) => returned s result

namespace Call

variable {call : Call σ π ω ε} {waiting : σ → π → Prop} {returned : σ → ε → Prop}

/-- **A call keeps what its points keep**: the rule for `resumeAll`. -/
theorem resumeAll_rule {guard : σ → π → ω → Prop}
    (resumes : ∀ s point input, waiting s point → guard s point input →
      Holds waiting returned (call.resume s point input)) {s : σ} {point : π}
    (start : waiting s point) {inputs : List ω} (guarded : call.AlongFrom guard s point inputs) :
    Holds waiting returned (call.resumeAll s point inputs) := by
  induction inputs generalizing s point with
  | nil => exact start
  | cons input inputs ih =>
    have next := resumes s point input start guarded.1
    have rest := guarded.2
    rw [resumeAll]
    rcases result : call.resume s point input with ⟨t, status⟩
    rw [result] at next rest
    cases status with
    | pending later => exact ih next rest
    | ready value => exact next

/-- **The rule for a call.** -/
theorem drive_rule {rest : σ → Prop} {guard : σ → π → ω → Prop}
    (enters : ∀ s, rest s → Holds waiting returned (call.enter s))
    (resumes : ∀ s point input, waiting s point → guard s point input →
      Holds waiting returned (call.resume s point input)) {s : σ} (start : rest s)
    {inputs : List ω} (guarded : call.Along guard inputs s) :
    Holds waiting returned (call.drive inputs s) := by
  have first := enters s start
  unfold Along at guarded
  rw [drive]
  rcases result : call.enter s with ⟨t, status⟩
  rw [result] at first guarded
  cases status with
  | pending point => exact resumeAll_rule resumes first guarded
  | ready value => exact first

/-- What always holds is a guard of every call. -/
theorem alongFrom_of_forall {guard : σ → π → ω → Prop} (always : ∀ s point input, guard s point input)
    (s : σ) (point : π) (inputs : List ω) : call.AlongFrom guard s point inputs := by
  induction inputs generalizing s point with
  | nil => trivial
  | cons input inputs ih =>
    refine ⟨always s point input, ?_⟩
    rcases call.resume s point input with ⟨t, status⟩
    cases status with
    | pending later => exact ih t later
    | ready value => trivial

/-- What always holds is a guard of every run of calls. -/
theorem along_of_forall {guard : σ → π → ω → Prop} (always : ∀ s point input, guard s point input)
    (inputs : List ω) (s : σ) : call.Along guard inputs s := by
  unfold Along
  rcases call.enter s with ⟨t, status⟩
  cases status with
  | pending point => exact alongFrom_of_forall always t point inputs
  | ready value => trivial

/-! ## Dropping a call -/

/-- **A call entered anew comes to the same point.** -/
def Resumes (call : Call σ π ω ε) (s : σ) (point : π) : Prop := call.enter s = (s, .pending point)

/-- **What a caller gets** that calls again after each result: the results, and the state in which a
call waits with no input left or returns `none`. -/
inductive Delivers (call : Call σ π ω (Option ε)) :
    List ω → σ × Status π (Option ε) → List ε → σ → Prop
  | waits (s : σ) (point : π) : Delivers call [] (s, .pending point) [] s
  | ends (inputs : List ω) (s : σ) : Delivers call inputs (s, .ready none) [] s
  | wakes {input : ω} {inputs : List ω} {s t : σ} {point : π} {results : List ε} :
      Delivers call inputs (call.resume s point input) results t →
        Delivers call (input :: inputs) (s, .pending point) results t
  | calls {inputs : List ω} {s t : σ} {result : ε} {results : List ε} :
      Delivers call inputs (call.enter s) results t →
        Delivers call inputs (s, .ready (some result)) (result :: results) t

/-- A caller gets one thing. -/
theorem Delivers.unique {call : Call σ π ω (Option ε)} {inputs : List ω}
    {start : σ × Status π (Option ε)} {results results' : List ε} {t t' : σ}
    (first : call.Delivers inputs start results t) (second : call.Delivers inputs start results' t') :
    results = results' ∧ t = t' := by
  induction first generalizing results' t' with
  | waits s point =>
    cases second
    exact ⟨rfl, rfl⟩
  | ends inputs s =>
    cases second
    exact ⟨rfl, rfl⟩
  | wakes _ ih =>
    cases second with
    | wakes rest => exact ih rest
  | calls _ ih =>
    cases second with
    | calls rest =>
      obtain ⟨rfl, rfl⟩ := ih rest
      exact ⟨rfl, rfl⟩

/-- If a call that waits returns, the caller goes on from there. -/
theorem Delivers.of_resumeAll {call : Call σ π ω (Option ε)} {inputs : List ω} {s t u : σ} {point : π}
    {results : List ε} {result : ε} (delivers : call.Delivers inputs (s, .pending point) results t)
    (returns : call.resumeAll s point inputs = (u, .ready (some result))) :
    ∃ left rest, results = result :: rest ∧ call.Delivers left (call.enter u) rest t := by
  induction inputs generalizing s point with
  | nil =>
    rw [resumeAll] at returns
    cases returns
  | cons input inputs ih =>
    cases delivers with
    | wakes delivers =>
      rw [resumeAll] at returns
      rcases next : call.resume s point input with ⟨v, later | value⟩
      · rw [next] at returns delivers
        cases returns
        cases delivers with
        | calls delivers => exact ⟨inputs, _, rfl, delivers⟩
      · rw [next] at returns delivers
        exact ih delivers returns

/-- **Dropping the call at this point changes nothing**: under all inputs with which it would have
returned, a new call delivers the same results and leaves the same in `view`. -/
def DropSafe {κ : Type*} (call : Call σ π ω (Option ε)) (view : σ → κ) (s : σ) (point : π) : Prop :=
  ∀ (inputs : List ω) (kept again : List ε) (t u : σ),
    (∃ result, (call.resumeAll s point inputs).2 = .ready result) →
    call.Delivers inputs (s, .pending point) kept t → call.Delivers inputs (call.enter s) again u →
      kept = again ∧ view t = view u

/-- Where a new call comes to the same point, dropping the old one is safe. -/
theorem Resumes.dropSafe {κ : Type*} {call : Call σ π ω (Option ε)} {s : σ} {point : π}
    (resumes : call.Resumes s point) (view : σ → κ) : call.DropSafe view s point := by
  intro inputs kept again t u _ first second
  rw [resumes] at second
  obtain ⟨same, rfl⟩ := first.unique second
  exact ⟨same, rfl⟩

end Call

end Suspension
