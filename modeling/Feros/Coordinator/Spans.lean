import Feros.Guarantees.TurnSpans
import Feros.Reactor.Loop
/-! # The turn span of a reactor

`SpanView` is what is left of a reactor when all but the open span, the text collected for it and the
events of spans are forgotten.  Of the operations of the pipeline, cancelling, opening a span, closing one
and speaking touch it; each other operation leaves it as it is. -/

namespace Feros

/-- The event opens or closes a span, or reports what was spoken. -/
def Event.ofSpan (event : Event) : Bool := event.isBoundary || event.isTtsComplete

/-- The span event that an effect puts on the bus. -/
def Effect.spanEvent : Effect → Option Event
  | .event _ emitted => if emitted.ofSpan then some emitted else none
  | _ => none

/-- **The span of a reactor**, and the span events it has emitted. -/
@[ext] structure SpanView where
  number : ℕ
  isOpen : Bool
  /-- The text collected for `TtsComplete`. -/
  text : String
  events : List Event

namespace SpanView

/-- Events go on the bus. -/
def emit (events : List Event) (v : SpanView) : SpanView := { v with events := v.events ++ events }

/-- Text is passed to `append_tts_text`. -/
def say (text : String) (v : SpanView) : SpanView := { v with text := v.text ++ text }

/-- What `cancel_turn` emits. -/
def cancelled (v : SpanView) : List Event := if v.isOpen then [.turnEnded v.number true] else []

/-- `cancel_turn`. -/
def cancel (v : SpanView) : SpanView :=
  { v with isOpen := false, text := "", events := v.events ++ v.cancelled }

/-- `start_turn`: an open span is cancelled first. -/
def start (v : SpanView) : SpanView :=
  { number := v.number + 1
    isOpen := true
    text := if v.isOpen then "" else v.text
    events := v.events ++ v.cancelled ++ [.turnStarted (v.number + 1)] }

/-- `finish_turn`; `report` is what the event says besides the text, if it is emitted. -/
def finish (report : Option (String × String × String)) (v : SpanView) : SpanView :=
  if v.isOpen then
    { v with
      isOpen := false
      text := ""
      events := v.events ++ (report.toList.map fun (provider, model, voice) =>
        Event.ttsComplete provider model v.text voice v.text.length) ++ [.turnEnded v.number false] }
  else v

/-- No event changes nothing. -/
@[simp] theorem emit_nil (v : SpanView) : v.emit [] = v := by
  unfold emit
  rw [List.append_nil]

/-- An empty text is not said. -/
@[simp] theorem say_empty (v : SpanView) : v.say "" = v := by
  unfold say
  rw [String.append_empty]

/-- A span is cancelled once. -/
@[simp] theorem cancel_cancel (v : SpanView) : v.cancel.cancel = v.cancel := by
  simp [cancel, cancelled]

/-- The view stays, or the span is cancelled. -/
inductive MayCancel (v : SpanView) : SpanView → Prop
  | stays : MayCancel v v
  | cancels : MayCancel v v.cancel

/-- What stays the same was at most cancelled. -/
theorem MayCancel.of_eq {v w : SpanView} (same : w = v) : MayCancel v w := by
  rw [same]
  exact .stays

/-- What was cancelled can only be cancelled again. -/
theorem MayCancel.eq_cancel {v w : SpanView} (may : MayCancel v.cancel w) : w = v.cancel := by
  cases may with
  | stays => rfl
  | cancels => exact v.cancel_cancel

/-- Text is spoken, or the span may be cancelled. -/
inductive Speaks (v : SpanView) (text : String) : SpanView → Prop
  | voiced : Speaks v text (v.say text)
  | cancels (silent : text = "") : Speaks v text v.cancel

/-- What was at most cancelled says nothing. -/
theorem MayCancel.speaks {v w : SpanView} (may : MayCancel v w) : Speaks v "" w := by
  cases may with
  | stays =>
      have said : Speaks v "" (v.say "") := .voiced
      rw [say_empty] at said
      exact said
  | cancels => exact .cancels rfl

end SpanView

namespace Reactor

variable {β : Type} [AgentBackend β]

/-- **The span of a reactor.** -/
def spans (r : Reactor β) : SpanView where
  number := r.tracer.turnCount
  isOpen := r.tracer.turnOpen
  text := r.tracer.ttsText
  events := r.log.filterMap Effect.spanEvent

/-- The view depends on the tracer and the log only. -/
theorem spans_congr {r s : Reactor β} (tracer : s.tracer = r.tracer) (log : s.log = r.log) : s.spans = r.spans := by
  unfold spans
  rw [tracer, log]

variable (r : Reactor β)

/-! ## Effects and assignments -/

/-- An effect is an event of the span, or none. -/
theorem spans_note (effect : Effect) : (r.note effect).spans = r.spans.emit effect.spanEvent.toList := by
  unfold spans note SpanView.emit
  rw [List.filterMap_append]
  rcases h : effect.spanEvent with _ | event <;> simp [h]

/-- Another effect leaves the spans alone. -/
theorem spans_note_other {effect : Effect} (other : effect.spanEvent = none) : (r.note effect).spans = r.spans := by
  rw [spans_note, other]
  exact SpanView.emit_nil _

/-- An event is one of the span, or none. -/
@[simp] theorem spans_emit (event : Event) :
    (r.emit event).spans = r.spans.emit (if event.ofSpan then [event] else []) := by
  unfold emit
  rw [spans_note, Effect.spanEvent]
  split <;> rfl

/-- Another event leaves the spans alone. -/
theorem spans_emit_other {event : Event} (other : event.ofSpan = false) : (r.emit event).spans = r.spans := by
  rw [spans_emit, if_neg (by rw [other]; exact Bool.false_ne_true)]
  exact SpanView.emit_nil _

/-- The events of the span are those that are emitted. -/
theorem spans_emitAll (events : List Event) :
    (r.emitAll events).spans = r.spans.emit (events.filter Event.ofSpan) := by
  unfold emitAll
  induction events generalizing r with
  | nil => exact r.spans.emit_nil.symm
  | cons event events ih =>
      rw [List.foldl_cons, ih, spans_emit]
      unfold SpanView.emit
      rw [List.append_assoc, List.filter_cons]
      split <;> rfl

/-- A method of the tracer changes the span, and its events go on the bus. -/
theorem spans_withTracer (method : Tracer → Tracer × List Event) :
    (r.withTracer method).spans =
      { number := (method r.tracer).1.turnCount
        isOpen := (method r.tracer).1.turnOpen
        text := (method r.tracer).1.ttsText
        events := r.spans.events ++ (method r.tracer).2.filter Event.ofSpan } := by
  unfold withTracer
  rw [spans_emitAll]
  rfl

/-- A label in the trace leaves the spans alone. -/
@[simp] theorem spans_trace (label : String) : (r.trace label).spans = r.spans := by
  unfold trace
  rw [spans_withTracer]
  exact congrArg (fun events => { r.spans with events := events }) (List.append_nil _)

/-- The span is cancelled. -/
theorem spans_cancelTurn : (r.withTracer Tracer.cancelTurn).spans = r.spans.cancel := by
  rw [spans_withTracer]
  unfold Tracer.cancelTurn SpanView.cancel SpanView.cancelled
  by_cases opened : r.tracer.turnOpen = true
  · simp [opened, Tracer.resetPipeline, spans, Event.ofSpan, Event.isBoundary]
  · simp [opened, Tracer.resetPipeline, spans]

/-- The span is started. -/
theorem spans_startTurnSpan (text : String) : (r.startTurnSpan text).spans = r.spans.start := by
  unfold startTurnSpan
  rw [spans_withTracer]
  unfold Tracer.startTurn Tracer.cancelTurn SpanView.start SpanView.cancelled
  by_cases opened : r.tracer.turnOpen = true
  · simp [opened, Tracer.resetPipeline, spans, Event.ofSpan, Event.isBoundary, Event.isTtsComplete]
  · simp [opened, spans, Event.ofSpan, Event.isBoundary, Event.isTtsComplete]

/-- The span is finished with what the tracer reports. -/
theorem spans_finishTurnSpan : ∃ report, r.finishTurnSpan.spans = r.spans.finish report := by
  refine ⟨if r.tracer.ttsTextFed then some (r.config.ttsProvider, r.config.ttsModel, r.config.voiceId) else none, ?_⟩
  unfold finishTurnSpan
  rw [spans_withTracer]
  unfold Tracer.finishTurn SpanView.finish
  by_cases opened : r.tracer.turnOpen = true
  · by_cases ended : r.tracer.speechEnded = true <;> by_cases fed : r.tracer.ttsTextFed = true <;>
      simp [opened, ended, fed, Tracer.resetPipeline, spans, Event.ofSpan, Event.isBoundary, Event.isTtsComplete]
  · simp [opened, spans]

/-- The state of the session leaves the spans alone. -/
@[simp] theorem spans_setState (newState : SessionState) : (r.setState newState).spans = r.spans := by
  unfold setState
  split
  · rw [spans_emit]
    exact SpanView.emit_nil _
  · rfl

/-- The state that is computed leaves the spans alone. -/
@[simp] theorem spans_computeAndEmitState : r.computeAndEmitState.spans = r.spans := r.spans_setState _

/-- Setting the LLM leaves the spans alone. -/
@[simp] theorem spans_setLlm (llm : β) : (r.setLlm llm).spans = r.spans := rfl

/-- Setting the TTS leaves the spans alone. -/
@[simp] theorem spans_setTts (tts : TtsStage) : (r.setTts tts).spans = r.spans := rfl

/-- Setting the timers leaves the spans alone. -/
@[simp] theorem spans_setTimers (timers : DelayQueue TimerKey) : (r.setTimers timers).spans = r.spans := rfl

/-- Setting the phase of the turn leaves the spans alone. -/
@[simp] theorem spans_setTurnPhase (phase : TurnPhase) : (r.setTurnPhase phase).spans = r.spans := rfl

/-- Setting the guard leaves the spans alone. -/
@[simp] theorem spans_setSeGuard (guard : SideEffectToolsGuard) : (r.setSeGuard guard).spans = r.spans := rfl

/-- Setting the phase of the LLM leaves the spans alone. -/
@[simp] theorem spans_setLlmTurn (phase : LlmTurnPhase) : (r.setLlmTurn phase).spans = r.spans := rfl

/-- Setting the reengagement leaves the spans alone. -/
@[simp] theorem spans_setReengagement (result : ReengagementTimer × DelayQueue TimerKey) :
    (r.setReengagement result).spans = r.spans := rfl

/-- Setting the hang-up leaves the spans alone. -/
@[simp] theorem spans_setHangUp (phase : HangUpPhase) : (r.setHangUp phase).spans = r.spans := rfl

/-- Setting the phase of the session leaves the spans alone. -/
@[simp] theorem spans_setSessionPhase (phase : SessionPhase) : (r.setSessionPhase phase).spans = r.spans := rfl

/-- Whether audio was sent does not matter to the spans. -/
@[simp] theorem spans_setBotAudioSent (sent : Bool) : (r.setBotAudioSent sent).spans = r.spans := rfl

/-- The text that is shown does not matter to the spans. -/
@[simp] theorem spans_clearTurnText : r.clearTurnText.spans = r.spans := rfl

/-- The end of the session leaves the spans alone. -/
@[simp] theorem spans_setShouldExit : r.setShouldExit.spans = r.spans := rfl

/-- The playback does not matter to the spans. -/
@[simp] theorem spans_resetPlayback : r.resetPlayback.spans = r.spans := rfl

/-- The end of speech leaves the spans alone. -/
@[simp] theorem spans_markSpeechEnded : r.markSpeechEnded.spans = r.spans := rfl

/-- Receiving an input leaves the spans alone. -/
@[simp] theorem spans_receive (input : ReactorInput) : (r.receive input).spans = r.spans :=
  r.spans_note_other rfl

/-! ## Calls on the stages -/

/-- A message of the user leaves the spans alone. -/
@[simp] theorem spans_addUserMessage (text : String) : (r.addUserMessage text).spans = r.spans :=
  spans_note_other _ rfl

/-- A message of the assistant leaves the spans alone. -/
@[simp] theorem spans_addAssistantMessage (text : String) : (r.addAssistantMessage text).spans = r.spans :=
  spans_note_other _ rfl

/-- Feeding the TTS leaves the spans alone. -/
@[simp] theorem spans_feedToken (token : String) : (r.feedToken token).spans = r.spans := by
  unfold feedToken
  split
  · exact r.spans_note_other rfl
  · rfl

/-- Flushing the TTS leaves the spans alone. -/
@[simp] theorem spans_flushTts : r.flushTts.spans = r.spans := by
  unfold flushTts
  split
  · exact r.spans_note_other rfl
  · rfl

/-- Cancelling the TTS leaves the spans alone. -/
@[simp] theorem spans_cancelTts : r.cancelTts.spans = r.spans :=
  spans_note_other _ rfl

/-- **Speaking**: the text is collected whether or not a span is open. -/
theorem spans_sendTtsToken (token : String) : (r.sendTtsToken token).spans = r.spans.say (cleanForTts token) := by
  unfold sendTtsToken
  dsimp only
  by_cases empty : (cleanForTts token).isEmpty = true
  · rw [if_pos empty, String.isEmpty_iff.1 empty, SpanView.say_empty]
  · rw [if_neg empty, spans_feedToken]
    rfl

/-- The request for a transcript leaves the spans alone. -/
@[simp] theorem spans_finalizeStt : r.finalizeStt.spans = r.spans :=
  r.spans_note_other rfl

/-- Closing the transport leaves the spans alone. -/
@[simp] theorem spans_closeTransport : r.closeTransport.spans = r.spans :=
  r.spans_note_other rfl

/-! ## The pipeline -/

/-- The idle timer leaves the spans alone. -/
@[simp] theorem spans_startIdleTimerInner (offset : Duration) (force : Bool) :
    (r.startIdleTimerInner offset force).spans = r.spans := by
  unfold startIdleTimerInner
  split
  · rfl
  · split <;> rfl

/-- The idle timer without an offset leaves the spans alone. -/
@[simp] theorem spans_startIdleTimer : r.startIdleTimer.spans = r.spans :=
  r.spans_startIdleTimerInner 0 false

/-- Removing a timer leaves the spans alone. -/
@[simp] theorem spans_removeTimer (key : Option Key) : (r.removeTimer key).spans = r.spans := by
  cases key <;> rfl

/-- Cancelling the reengagement leaves the spans alone. -/
@[simp] theorem spans_cancelReengagement : r.cancelReengagement.spans = r.spans := rfl

/-- Cancelling the LLM leaves the spans alone. -/
@[simp] theorem spans_cancelLlm : r.cancelLlm.spans = r.spans := by
  have noted : ((r.setLlm (LlmStage.cancel r.llm).2).note
      (.backend (AgentBackend.isActive r.llm) .cancel)).spans = r.spans :=
    spans_note_other _ rfl
  unfold cancelLlm
  dsimp only
  split
  · rw [spans_emit, noted]
    exact SpanView.emit_nil _
  · exact noted

/-- Cancelling the guard leaves the spans alone. -/
@[simp] theorem spans_cancelSeGuard : r.cancelSeGuard.spans = r.spans := by
  unfold cancelSeGuard SideEffectToolsGuard.cancel
  dsimp only
  rw [spans_emitAll, spans_removeTimer]
  -- the events of orphaned tools belong to no span
  have none : (List.map (fun tool : String × String => Event.toolActivity (some tool.1) tool.2 "orphaned" none)
      r.seGuard.toolIds).filter Event.ofSpan = [] := by
    rw [List.filter_eq_nil_iff]
    intro event held
    obtain ⟨tool, -, rfl⟩ := List.mem_map.1 held
    exact Bool.false_ne_true
  rw [none]
  exact SpanView.emit_nil _

/-- Removing the delay of a hang-up leaves the spans alone. -/
@[simp] theorem spans_removeHangUpDelay : r.removeHangUpDelay.spans = r.spans := by
  unfold removeHangUpDelay
  split
  · exact r.spans_removeTimer _
  · rfl

/-- Leaving the greeting leaves the spans alone. -/
@[simp] theorem spans_leaveGreeting : r.leaveGreeting.spans = r.spans := by
  unfold leaveGreeting
  split <;> rfl

/-- **Cancelling the pipeline cancels the span.** -/
theorem spans_cancelPipeline : r.cancelPipeline.spans = r.spans.cancel := by
  unfold cancelPipeline
  dsimp only
  rw [spans_setBotAudioSent, spans_cancelReengagement, spans_clearTurnText, spans_setHangUp, spans_setLlmTurn,
    spans_cancelTurn, spans_cancelSeGuard, spans_removeHangUpDelay, spans_emit, spans_leaveGreeting,
    spans_cancelTts, spans_cancelLlm]
  exact congrArg SpanView.cancel (SpanView.emit_nil _)

/-- A shutdown cancels the span. -/
theorem spans_initiateShutdown : r.initiateShutdown.spans = r.spans.cancel := by
  have ended : r.emitSessionEnded.spans = r.spans := by
    unfold emitSessionEnded
    split
    · rfl
    · exact r.spans_emit_other rfl
  unfold initiateShutdown
  dsimp only
  rw [spans_setShouldExit, spans_closeTransport, spans_cancelPipeline, ended]

/-- Opening the TTS leaves the spans alone. -/
@[simp] theorem spans_openTts : r.openTts.spans = r.spans := by
  unfold openTts
  split
  · exact spans_note_other _ rfl
  · split
    · exact spans_note_other _ rfl
    · rfl

open SpanView (MayCancel)

/-- A turn that starts while the user speaks is cancelled. -/
theorem mayCancel_startTtsForTurn : MayCancel r.spans r.startTtsForTurn.2.spans := by
  have noted : (r.note (.startTtsForTurn r.turnPhase.isSpeaking)).spans = r.spans :=
    r.spans_note_other rfl
  unfold startTtsForTurn
  dsimp only
  split
  · dsimp only
    rw [spans_cancelPipeline, noted]
    exact .cancels
  · apply MayCancel.of_eq
    dsimp only
    rw [spans_openTts]
    exact noted

/-- Running the LLM leaves the spans alone. -/
@[simp] theorem spans_runLlm : r.runLlm.spans = r.spans := by
  have started : r.startLlm.2.spans = r.spans := spans_note_other _ rfl
  unfold runLlm
  rcases answer : r.startLlm with ⟨_ | _, t⟩
  · rw [answer] at started
    rw [spans_startIdleTimer, spans_cancelTts]
    exact started
  · rw [answer] at started
    exact started

/-- A turn that starts cancels the span at most. -/
theorem mayCancel_startLlmTurn : MayCancel r.spans r.startLlmTurn.spans := by
  have opened := r.prepareTurn.mayCancel_startTtsForTurn
  have same : r.prepareTurn.spans = r.spans := rfl
  unfold startLlmTurn
  rcases answer : r.prepareTurn.startTtsForTurn with ⟨_ | _, t⟩
  · rw [answer, same] at opened
    rw [spans_runLlm]
    exact opened
  · rw [answer, same] at opened
    exact opened

/-- **Committing a turn opens a span.** -/
theorem mayCancel_commitTurnText (text : String) : MayCancel r.spans.start (r.commitTurnText text).spans := by
  have before : (((r.emit (.transcript "user" text)).addUserMessage text).setLastUserMessage text).spans = r.spans :=
    ((spans_addUserMessage _ _).trans (r.spans_emit _)).trans (SpanView.emit_nil _)
  unfold commitTurnText
  dsimp only
  rw [← before, ← spans_startTurnSpan]
  exact mayCancel_startLlmTurn _

/-- A replay cancels the span. -/
theorem spans_replayDeferred (text : String) : (r.replayDeferred text).spans = r.spans.cancel := by
  have before : ((r.cancelPipeline.addUserMessage text).emit (.transcript "user" text)).spans = r.spans.cancel := by
    rw [spans_emit, spans_addUserMessage, spans_cancelPipeline]
    exact SpanView.emit_nil _
  have started := mayCancel_startLlmTurn ((r.cancelPipeline.addUserMessage text).emit (.transcript "user" text))
  rw [before] at started
  exact started.eq_cancel

/-- **A nudge opens no span.** -/
theorem mayCancel_startNudgeTurn (nudge : String) : MayCancel r.spans (r.startNudgeTurn nudge).spans := by
  have started := mayCancel_startLlmTurn (r.addUserMessage nudge)
  rw [spans_addUserMessage] at started
  unfold startNudgeTurn skipMarkerCheck
  split
  · exact started
  · exact started

/-- The wait for the rest of a turn leaves the spans alone. -/
@[simp] theorem spans_armTurnCompletionWait (marker : TurnCompletion) :
    (r.armTurnCompletionWait marker).spans = r.spans :=
  (spans_cancelTts _).trans (r.spans_trace _)

/-- Showing a text leaves the spans alone. -/
@[simp] theorem spans_emitAssistant (text : String) : (r.emitAssistant text).spans = r.spans := by
  unfold emitAssistant
  dsimp only
  split
  · rfl
  · exact r.spans_emit_other rfl

/-- Saving a response leaves the spans alone. -/
@[simp] theorem spans_saveSuppressedResponse (content : Option String) :
    (r.saveSuppressedResponse content).spans = r.spans := by
  unfold saveSuppressedResponse
  cases content with
  | none => rfl
  | some text =>
      dsimp only
      split
      · rfl
      · exact r.spans_addAssistantMessage _

end Reactor

end Feros
