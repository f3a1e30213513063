import Feros.Library.Suspension
/-!
# Calls that are recorded

A recorder stands beside a machine and writes something down whenever a call of it is entered or
resumed: where a value came from, what was handed out.  It reads the machine and never changes it.

* **`Call.recorded`** is the call under a recorder, on pairs of a state and a record.
* **`Call.drive_recorded`**: the machine does what it does without the recorder.
* **`Call.along_recorded`**: a guard that looks at the machine is met with the recorder exactly if it
  is met without.
-/

namespace Suspension

variable {σ τ π ω ε : Type*}

/-- **A recorder**: the record after a call is entered, and after it is resumed. -/
structure Recorder (σ τ π ω ε : Type*) where
  entered : σ → τ → σ × Status π ε → τ
  resumed : σ → τ → π → ω → σ × Status π ε → τ

namespace Call

variable (call : Call σ π ω ε) (recorder : Recorder σ τ π ω ε)

/-- **The call under a recorder.** -/
def recorded : Call (σ × τ) π ω ε where
  enter s :=
    let result := call.enter s.1
    ((result.1, recorder.entered s.1 s.2 result), result.2)
  resume s point input :=
    let result := call.resume s.1 point input
    ((result.1, recorder.resumed s.1 s.2 point input result), result.2)

/-- Where a recorded call is, without the record. -/
def unrecorded (result : (σ × τ) × Status π ε) : σ × Status π ε := (result.1.1, result.2)

/-- A call that is recorded enters as it would, and the recorder sees it. -/
theorem recorded_enter (s : σ × τ) : (call.recorded recorder).enter s =
    (((call.enter s.1).1, recorder.entered s.1 s.2 (call.enter s.1)), (call.enter s.1).2) := rfl

/-- A call that is recorded resumes as it would, and the recorder sees it. -/
theorem recorded_resume (s : σ × τ) (point : π) (input : ω) : (call.recorded recorder).resume s point input =
    (((call.resume s.1 point input).1, recorder.resumed s.1 s.2 point input (call.resume s.1 point input)),
      (call.resume s.1 point input).2) := rfl

/-- **Recording changes no call.** -/
theorem resumeAll_recorded (s : σ × τ) (point : π) (inputs : List ω) :
    unrecorded ((call.recorded recorder).resumeAll s point inputs) = call.resumeAll s.1 point inputs := by
  induction inputs generalizing s point with
  | nil => rfl
  | cons input inputs ih =>
      rw [resumeAll, resumeAll, recorded_resume]
      rcases call.resume s.1 point input with ⟨t, later | result⟩
      · rfl
      · exact ih _ result

/-- **Recording a call does not change it.** -/
theorem drive_recorded (inputs : List ω) (s : σ × τ) :
    unrecorded ((call.recorded recorder).drive inputs s) = call.drive inputs s.1 := by
  rw [drive, drive, recorded_enter]
  rcases call.enter s.1 with ⟨t, result | point⟩
  · rfl
  · exact call.resumeAll_recorded recorder _ point inputs

/-- A guard that does not look at the record is a guard of the call. -/
theorem alongFrom_recorded (guard : σ → π → ω → Prop) (s : σ × τ) (point : π) (inputs : List ω) :
    (call.recorded recorder).AlongFrom (fun s point input => guard s.1 point input) s point inputs ↔
      call.AlongFrom guard s.1 point inputs := by
  induction inputs generalizing s point with
  | nil => rfl
  | cons input inputs ih =>
      rw [AlongFrom, AlongFrom, recorded_resume]
      refine and_congr_right fun _ => ?_
      rcases call.resume s.1 point input with ⟨t, result | later⟩
      · rfl
      · exact ih _ later

/-- **What a guard reads off the machine** is the same with the recorder. -/
theorem along_recorded (guard : σ → π → ω → Prop) (inputs : List ω) (s : σ × τ) :
    (call.recorded recorder).Along (fun s point input => guard s.1 point input) inputs s ↔
      call.Along guard inputs s.1 := by
  rw [Along, Along, recorded_enter]
  rcases call.enter s.1 with ⟨t, result | point⟩
  · rfl
  · exact call.alongFrom_recorded recorder guard _ point inputs

end Call

end Suspension
