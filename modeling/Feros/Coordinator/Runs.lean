import Feros.Coordinator.Outcome
import Feros.Coordinator.Refinement
import Feros.Coordinator.Specs
/-! # Invariants of the coordinator along runs of the reactor

A run of the reactor is read through its coordinator: an invariant that holds of every opened
coordinator, survives a change of the world and is kept by every outcome holds in every state the
reactor reaches. -/

namespace Feros

/-! ## What a session says -/

/-- The text of the user message an effect adds, if it does. -/
def Effect.said : Effect → Option String
  | .backend _ (.addUserMessage text) => some text
  | _ => none

/-- The effect starts an LLM turn. -/
def Effect.startsTurn : Effect → Bool
  | .backend _ .startTurn => true
  | _ => false

/-- The text of the user message a mark stands for. -/
def Mark.said : Mark → Option String
  | .userMessage text => some text
  | _ => none

/-- The mark stands for the start of an LLM turn. -/
def Mark.startsTurn : Mark → Bool
  | .startTurn _ => true
  | _ => false

/-- The user messages of a trail, in order. -/
def userMessages (trail : List Mark) : List String := trail.filterMap Mark.said

/-- How many LLM turns were started. -/
def turnStarts (trail : List Mark) : ℕ := trail.countP Mark.startsTurn

/-- The user's messages of a longer trail are those of its parts. -/
@[simp] theorem userMessages_append (first second : List Mark) :
    userMessages (first ++ second) = userMessages first ++ userMessages second :=
  List.filterMap_append

/-- The turns that a longer trail starts are those of its parts. -/
@[simp] theorem turnStarts_append (first second : List Mark) :
    turnStarts (first ++ second) = turnStarts first + turnStarts second :=
  List.countP_append

/-- The start of a turn says nothing. -/
@[simp] theorem userMessages_turnMarks (speaking active : Bool) :
    userMessages (Coordinator.turnMarks speaking active) = [] := by
  cases speaking <;> rfl

/-- An effect says the user's message that its mark says. -/
theorem Effect.said_mark (effect : Effect) : effect.mark.bind Mark.said = effect.said := by
  cases effect with
  | received input =>
    cases input with
    | sttEvent event => cases event <;> rfl
    | vadEvent event | llmEvent event | ttsEvent event | timerFired key => rfl
  | event speaking event => cases event <;> rfl
  | backend active call => cases call <;> rfl
  | startTtsForTurn _ | tts _ | sttFinalize | transportClose | bargeInRejected _
  | lateTranscriptDropped _ => rfl

/-- An effect starts the turns that its mark starts. -/
theorem Effect.startsTurn_mark (effect : Effect) :
    (effect.mark.map Mark.startsTurn).getD false = effect.startsTurn := by
  cases effect with
  | received input =>
    cases input with
    | sttEvent event => cases event <;> rfl
    | vadEvent event | llmEvent event | ttsEvent event | timerFired key => rfl
  | event speaking event => cases event <;> rfl
  | backend active call => cases call <;> rfl
  | startTtsForTurn _ | tts _ | sttFinalize | transportClose | bargeInRejected _
  | lateTranscriptDropped _ => rfl

/-- The messages of a log are those of its trail. -/
theorem userMessages_marks (log : List Effect) :
    userMessages (log.filterMap Effect.mark) = log.filterMap Effect.said := by
  unfold userMessages
  rw [List.filterMap_filterMap]
  exact congrArg (fun f => log.filterMap f) (funext Effect.said_mark)

/-- So are the turns it starts. -/
theorem turnStarts_marks (log : List Effect) :
    turnStarts (log.filterMap Effect.mark) = log.countP Effect.startsTurn := by
  unfold turnStarts
  rw [List.countP_filterMap]
  exact congrArg (fun p => log.countP p) (funext Effect.startsTurn_mark)

namespace Reactor

variable {β : Type} [AgentBackend β]

/-- A step of a session that is over does nothing. -/
theorem step_of_shouldExit {r : Reactor β} (h : r.shouldExit = true) (m : Moment β) :
    r.step m = r :=
  if_pos h

/-- A step of a session that goes on is a step of the machine. -/
theorem step_core {r : Reactor β} (h : r.shouldExit = false) (m : Moment β) :
    (r.step m).core = (r.core.setWorld m.world).handle m.input
      (r.playback.remainingPlayback m.world.now) := by
  rw [core_step]
  exact if_neg (by rw [show r.core.shouldExit = false from h]; exact Bool.false_ne_true)

/-- **What a step does to the coordinator** is one of the outcomes. -/
theorem step_outcome {r : Reactor β} (h : r.shouldExit = false) (m : Moment β) :
    (r.core.setWorld m.world).Outcome m.input (r.step m).core := by
  rw [step_core h]
  exact Coordinator.handle_outcome m.input _ _

/-- An invariant that every outcome keeps is kept by every step. -/
theorem step_keeps {inv : Coordinator β → Prop} {r : Reactor β} {m : Moment β}
    (world : ∀ {c : Coordinator β} world, inv c → inv (c.setWorld world))
    (outcome : ∀ {d}, inv (r.core.setWorld m.world) →
      (r.core.setWorld m.world).Outcome m.input d → inv d)
    (h : inv r.core) : inv (r.step m).core := by
  cases exits : r.shouldExit with
  | true =>
    rw [step_of_shouldExit exits]
    exact h
  | false => exact outcome (world m.world h) (step_outcome exits m)

/-- **The invariant rule for sessions.** -/
theorem run_keeps {inv : Coordinator β → Prop}
    (opened : ∀ {c : Coordinator β}, c.Opened → inv c)
    (world : ∀ {c : Coordinator β} world, inv c → inv (c.setWorld world))
    (outcome : ∀ {c d : Coordinator β} {input}, inv c → c.Outcome input d → inv d)
    {r₀ : Reactor β} (started : Started r₀) (moments : List (Moment β)) :
    inv (Run.run step r₀ moments).core := by
  have preserved : ∀ (r : Reactor β) (m : Moment β), inv r.core → inv (r.step m).core :=
    fun r m => step_keeps world outcome
  exact Run.invariant_of_step preserved (opened started.opened) moments

/-- The invariant rule for sessions whose steps all meet a guard. -/
theorem run_keeps_along {inv : Coordinator β → Prop} {guard : Reactor β → Moment β → Prop}
    (opened : ∀ {c : Coordinator β}, c.Opened → inv c)
    (world : ∀ {c : Coordinator β} world, inv c → inv (c.setWorld world))
    (outcome : ∀ {r : Reactor β} {m : Moment β} {d}, guard r m →
      inv (r.core.setWorld m.world) → (r.core.setWorld m.world).Outcome m.input d → inv d)
    {r₀ : Reactor β} (started : Started r₀) {moments : List (Moment β)}
    (along : Run.Along step guard r₀ moments) : inv (Run.run step r₀ moments).core := by
  have preserved : ∀ (r : Reactor β) (m : Moment β), inv r.core → guard r m →
      inv (r.step m).core := fun r m h met => step_keeps world (outcome met) h
  exact Run.invariant preserved (opened started.opened) along

end Reactor

end Feros
