import Feros.Library.Run
import Feros.Stages
/-! # Turn spans

The events a tracer puts on the bus form spans: each opens with `TurnStarted`, closes with the
`TurnEnded` of the same number, and holds at most one `TtsComplete` and one `TurnMetrics`.

* **`Spans n events`** says what `n` closed spans in a row look like, and **`Nested`** allows the last
  span to be still open.
* **`Tracer.Emitted`** relates the tracer to what it has emitted; every call keeps it. -/

namespace Feros

open Run

/-! ## What spans look like -/

namespace Event

/-- A boundary of a turn span. -/
def isBoundary : Event → Bool
  | turnStarted _ | turnEnded _ _ => true
  | _ => false

def isTtsComplete : Event → Bool
  | ttsComplete .. => true
  | _ => false

def isTurnMetrics : Event → Bool
  | turnMetrics _ => true
  | _ => false

/-- The event belongs to a turn span or is a boundary of one. -/
def ofTurn (event : Event) : Bool := event.isBoundary || event.isTtsComplete || event.isTurnMetrics

end Event

/-- **The inside of a span.** -/
structure Inside (body : List Event) : Prop where
  boundary : body.countP Event.isBoundary = 0
  spoken : body.countP Event.isTtsComplete ≤ 1
  metrics : body.countP Event.isTurnMetrics ≤ 1

/-- **`n` closed spans in a row**, numbered from 1, with nothing of a turn between them. -/
inductive Spans : ℕ → List Event → Prop
  | nil : Spans 0 []
  | between {n : ℕ} {events : List Event} {event : Event} (before : Spans n events)
      (other : event.ofTurn = false) : Spans n (events ++ [event])
  | span {n : ℕ} {events body : List Event} (before : Spans n events) (inside : Inside body)
      (interrupted : Bool) :
      Spans (n + 1) (events ++ .turnStarted (n + 1) :: (body ++ [.turnEnded (n + 1) interrupted]))

/-- **The spans of a stream of events**: closed ones, and then possibly one that is open. -/
def Nested (events : List Event) : Prop :=
  ∃ n closed, Spans n closed ∧
    (events = closed ∨ ∃ body, Inside body ∧ events = closed ++ .turnStarted (n + 1) :: body)

/-- Events of no turn may follow a row of spans. -/
theorem Spans.append {n : ℕ} {events others : List Event} (before : Spans n events)
    (other : ∀ event ∈ others, event.ofTurn = false) : Spans n (events ++ others) := by
  induction others generalizing events with
  | nil => rwa [List.append_nil]
  | cons event others ih =>
    rw [List.append_cons]
    refine ih (before.between (other event List.mem_cons_self)) fun e held => ?_
    exact other e (List.mem_cons_of_mem event held)

/-- Events of no turn are the inside of a span, also with one `TtsComplete` and one `TurnMetrics`. -/
theorem inside_of_others {body spoken metrics : List Event}
    (other : ∀ event ∈ body, event.ofTurn = false)
    (said : spoken = [] ∨ ∃ p m t v c, spoken = [.ttsComplete p m t v c])
    (measured : metrics = [] ∨ ∃ n, metrics = [.turnMetrics n]) :
    Inside (body ++ spoken ++ metrics) := by
  have boundary : body.countP Event.isBoundary = 0 := by
    rw [List.countP_eq_zero]
    intro event held isBoundary
    have := other event held
    simp [Event.ofTurn, isBoundary] at this
  have tts : body.countP Event.isTtsComplete = 0 := by
    rw [List.countP_eq_zero]
    intro event held isTts
    have := other event held
    simp [Event.ofTurn, isTts] at this
  have turnMetrics : body.countP Event.isTurnMetrics = 0 := by
    rw [List.countP_eq_zero]
    intro event held isMetrics
    have := other event held
    simp [Event.ofTurn, isMetrics] at this
  constructor <;> simp only [List.countP_append, boundary, tts, turnMetrics] <;>
    rcases said with rfl | ⟨_, _, _, _, _, rfl⟩ <;> rcases measured with rfl | ⟨_, rfl⟩ <;>
    simp [Event.isBoundary, Event.isTtsComplete, Event.isTurnMetrics]

namespace Tracer

/-! ## Calls -/

/-- **A call on a tracer** that concerns turns. -/
inductive Call where
  | startTurn (sttProvider sttModel transcript language : String) (vadEnabled : Bool)
  | appendTtsText (text : String)
  | finishTurn (wasInterrupted : Bool) (ttsProvider ttsModel voiceId : String)
  | cancelTurn
  | markSpeechEnded
  | markTtsTextFed
  | trace (label : String)
  deriving DecidableEq, Repr

/-- The call on a tracer, and the events it puts on the bus. -/
def call (t : Tracer) : Call → Tracer × List Event
  | .startTurn provider model transcript language vad =>
    t.startTurn provider model transcript language vad
  | .appendTtsText text => (t.appendTtsText text, [])
  | .finishTurn interrupted provider model voice => t.finishTurn interrupted provider model voice
  | .cancelTurn => t.cancelTurn
  | .markSpeechEnded => (t.markSpeechEnded, [])
  | .markTtsTextFed => (t.markTtsTextFed, [])
  | .trace label => t.trace label

/-- A tracer and all events it has emitted. -/
def observe (s : Tracer × List Event) (c : Call) : Tracer × List Event :=
  ((s.1.call c).1, s.2 ++ (s.1.call c).2)

/-- The events that calls on a fresh tracer put on the bus. -/
def emitted (calls : List Call) : List Event := (run observe (new, []) calls).2

/-! ## The invariant -/

/-- **What a tracer has emitted**: if a span is open, it holds nothing yet but events of no turn. -/
def Emitted (s : Tracer × List Event) : Prop :=
  match s.1.turnOpen with
  | false => Spans s.1.turnCount s.2
  | true => ∃ n closed body, Spans n closed ∧ (∀ event ∈ body, event.ofTurn = false) ∧
      s.1.turnCount = n + 1 ∧ s.2 = closed ++ .turnStarted (n + 1) :: body

/-- Closing the open span. -/
theorem spans_of_open {t : Tracer} {events spoken metrics : List Event} (open' : t.turnOpen = true)
    (sofar : Emitted (t, events)) (interrupted : Bool)
    (said : spoken = [] ∨ ∃ p m t v c, spoken = [.ttsComplete p m t v c])
    (measured : metrics = [] ∨ ∃ n, metrics = [.turnMetrics n]) :
    Spans t.turnCount (events ++ (spoken ++ metrics ++ [.turnEnded t.turnCount interrupted])) := by
  simp only [Emitted, open'] at sofar
  obtain ⟨n, closed, body, before, other, count, rfl⟩ := sofar
  have spans := before.span (inside_of_others other said measured) interrupted
  rw [count]
  simpa only [List.append_assoc, List.cons_append] using spans

/-- After `cancelTurn` no span is open. -/
theorem spans_cancelTurn {t : Tracer} {events : List Event} (sofar : Emitted (t, events)) :
    Spans t.turnCount (events ++ t.cancelTurn.2) := by
  unfold cancelTurn
  by_cases open' : t.turnOpen = true
  · have spans := spans_of_open open' sofar true (.inl rfl) (.inl rfl)
    simpa [resetPipeline, open'] using spans
  · rw [Bool.not_eq_true] at open'
    simp only [Emitted, open'] at sofar
    simpa [resetPipeline, open'] using sofar

/-- A cancelled turn is not counted. -/
theorem turnCount_cancelTurn (t : Tracer) : t.cancelTurn.1.turnCount = t.turnCount := by
  unfold cancelTurn
  by_cases open' : t.turnOpen = true <;> simp [resetPipeline, open']

/-- A cancelled turn is not open. -/
theorem turnOpen_cancelTurn (t : Tracer) : t.cancelTurn.1.turnOpen = false := by
  unfold cancelTurn
  by_cases open' : t.turnOpen = true <;> simp [resetPipeline, open']

/-- A span opens after the one that was open is closed. -/
theorem emitted_startTurn {t : Tracer} {events : List Event} (sofar : Emitted (t, events))
    (provider model transcript language : String) (vad : Bool) :
    Emitted ((t.startTurn provider model transcript language vad).1,
      events ++ (t.startTurn provider model transcript language vad).2) := by
  have result : ∃ text ended fed cancelled,
      (t.startTurn provider model transcript language vad).1 =
        ⟨t.traceSeq, text, t.turnCount + 1, true, ended, fed⟩ ∧
      (t.startTurn provider model transcript language vad).2 = cancelled ++
        [.turnStarted (t.turnCount + 1), .sttComplete provider model transcript true (some language) vad] ∧
      Spans t.turnCount (events ++ cancelled) := by
    by_cases open' : t.turnOpen = true
    · refine ⟨"", false, false, t.cancelTurn.2, ?_, ?_, spans_cancelTurn sofar⟩ <;>
        simp [startTurn, cancelTurn, resetPipeline, open']
    · rw [Bool.not_eq_true] at open'
      refine ⟨t.ttsText, t.speechEnded, t.ttsTextFed, [], ?_, ?_, ?_⟩
      · simp [startTurn, open']
      · simp [startTurn, open']
      · simp only [Emitted, open'] at sofar
        rwa [List.append_nil]
  obtain ⟨text, ended, fed, cancelled, state, out, before⟩ := result
  rw [state, out]
  refine ⟨t.turnCount, events ++ cancelled,
    [.sttComplete provider model transcript true (some language) vad], before, ?_, rfl, ?_⟩
  · intro event held
    rw [List.mem_singleton.1 held]
    rfl
  · rw [List.append_assoc]

/-- The open span is closed, with at most one `TtsComplete` and one `TurnMetrics` before its end. -/
theorem emitted_finishTurn {t : Tracer} {events : List Event} (sofar : Emitted (t, events))
    (interrupted : Bool) (provider model voice : String) :
    Emitted ((t.finishTurn interrupted provider model voice).1,
      events ++ (t.finishTurn interrupted provider model voice).2) := by
  by_cases open' : t.turnOpen = true
  · have said : (if t.ttsTextFed then
          [Event.ttsComplete provider model t.ttsText voice t.ttsText.length] else []) = [] ∨
        ∃ p m x v c, (if t.ttsTextFed then
          [Event.ttsComplete provider model t.ttsText voice t.ttsText.length] else []) =
            [Event.ttsComplete p m x v c] := by
      by_cases fed : t.ttsTextFed = true
      · exact .inr ⟨_, _, _, _, _, by rw [if_pos fed]⟩
      · exact .inl (by rw [if_neg fed])
    by_cases ended : t.speechEnded = true
    · have spans := spans_of_open open' sofar interrupted said (.inr ⟨t.turnCount, rfl⟩)
      simpa [finishTurn, open', ended, Emitted, resetPipeline] using spans
    · have spans := spans_of_open open' sofar interrupted said (.inl rfl)
      simpa [finishTurn, open', ended, Emitted] using spans
  · have unchanged : t.finishTurn interrupted provider model voice = (t, []) := by
      rw [finishTurn, if_pos (by simpa using open')]
    rw [unchanged, List.append_nil]
    exact sofar

/-- A call that leaves the span alone may emit events of no turn. -/
theorem emitted_of_others {t t' : Tracer} {events others : List Event} (sofar : Emitted (t, events))
    (sameSpan : t'.turnOpen = t.turnOpen) (sameCount : t'.turnCount = t.turnCount)
    (other : ∀ event ∈ others, event.ofTurn = false) : Emitted (t', events ++ others) := by
  by_cases open' : t.turnOpen = true
  · simp only [Emitted, sameSpan, open', sameCount] at sofar ⊢
    obtain ⟨n, closed, body, before, bodyOther, count, rfl⟩ := sofar
    refine ⟨n, closed, body ++ others, before, fun event held => ?_, count, ?_⟩
    · rcases List.mem_append.1 held with inBody | added
      · exact bodyOther event inBody
      · exact other event added
    · rw [List.append_assoc, List.cons_append]
  · rw [Bool.not_eq_true] at open'
    simp only [Emitted, sameSpan, open', sameCount] at sofar ⊢
    exact sofar.append other

/-- **Every call keeps the invariant.** -/
theorem emitted_observe (s : Tracer × List Event) (c : Call) (sofar : Emitted s) :
    Emitted (observe s c) := by
  have none : ∀ event ∈ ([] : List Event), event.ofTurn = false :=
    fun event held => absurd held List.not_mem_nil
  cases c with
  | startTurn provider model transcript language vad =>
    exact emitted_startTurn sofar provider model transcript language vad
  | appendTtsText text => exact emitted_of_others sofar rfl rfl none
  | finishTurn interrupted provider model voice =>
    exact emitted_finishTurn sofar interrupted provider model voice
  | cancelTurn =>
    have spans := spans_cancelTurn sofar
    rw [← turnCount_cancelTurn] at spans
    simpa only [Emitted, observe, call, turnOpen_cancelTurn] using spans
  | markSpeechEnded => exact emitted_of_others sofar rfl rfl none
  | markTtsTextFed => exact emitted_of_others sofar rfl rfl none
  | trace label =>
    refine emitted_of_others sofar rfl rfl fun event held => ?_
    rw [List.mem_singleton.1 held]
    rfl

/-- **Turn spans nest**: whatever is called on a fresh tracer, in whatever order. -/
theorem spans_nested (calls : List Call) : Nested (emitted calls) := by
  have fresh : Emitted (new, []) := Spans.nil
  have sofar : Emitted (run observe (new, []) calls) :=
    invariant_of_step emitted_observe fresh calls
  unfold Emitted at sofar
  split at sofar
  · exact ⟨_, _, sofar, .inl rfl⟩
  · obtain ⟨n, closed, body, before, other, -, eq⟩ := sofar
    have inside := inside_of_others other (.inl rfl) (.inl rfl)
    rw [List.append_nil, List.append_nil] at inside
    exact ⟨n, closed, before, .inr ⟨body, inside, eq⟩⟩

end Tracer

end Feros
