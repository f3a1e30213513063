import Feros.Coordinator.Outcome
/-! # What the reactor adds to the conversation for the agent

The reactor adds an assistant message in one place, `saveSuppressedResponse`; whatever else it does
leaves the list of these messages as it is.  Each operation has its lemma, in the order of the
definitions. -/

namespace Feros

/-- The text of the assistant message that an effect adds, if it does. -/
def Effect.answered : Effect → Option String
  | .backend _ (.addAssistantMessage text) => some text
  | _ => none

namespace Reactor

variable {β : Type} [AgentBackend β]

/-- **The assistant messages the reactor has added**, oldest first. -/
def answers (r : Reactor β) : List String := r.log.filterMap Effect.answered

variable (r : Reactor β)

/-! ## Effects and assignments -/

/-- **An effect that is noted answers what it answers.** -/
@[simp] theorem answers_note (effect : Effect) :
    (r.note effect).answers = r.answers ++ effect.answered.toList := by
  unfold answers note
  rw [List.filterMap_append]
  rcases answered : effect.answered with - | text <;> simp [answered]

/-- An event answers nothing. -/
@[simp] theorem answered_event (speaking : Bool) (event : Event) :
    (Effect.event speaking event).answered = none := rfl

/-- Emitting an event answers nothing. -/
@[simp] theorem answers_emit (event : Event) : (r.emit event).answers = r.answers := by
  unfold emit
  simp

/-- Emitting events answers nothing. -/
@[simp] theorem answers_emitAll (events : List Event) : (r.emitAll events).answers = r.answers := by
  unfold emitAll
  induction events generalizing r with
  | nil => rfl
  | cons event events ih => rw [List.foldl_cons, ih, answers_emit]

/-- The tracer answers nothing. -/
@[simp] theorem answers_withTracer (method : Tracer → Tracer × List Event) :
    (r.withTracer method).answers = r.answers := by
  unfold withTracer
  rw [answers_emitAll]
  rfl

/-- A trace answers nothing. -/
@[simp] theorem answers_trace (label : String) : (r.trace label).answers = r.answers := by
  unfold trace
  simp

/-- Setting the state answers nothing. -/
@[simp] theorem answers_setState (newState : SessionState) :
    (r.setState newState).answers = r.answers := by
  unfold setState
  split
  · rw [answers_emit]
    rfl
  · rfl

/-- Emitting the state answers nothing. -/
@[simp] theorem answers_computeAndEmitState : r.computeAndEmitState.answers = r.answers := by
  unfold computeAndEmitState
  simp

/-- Setting the LLM answers nothing. -/
@[simp] theorem answers_setLlm (llm : β) : (r.setLlm llm).answers = r.answers := rfl

/-- Setting the speech answers nothing. -/
@[simp] theorem answers_setTts (tts : TtsStage) : (r.setTts tts).answers = r.answers := rfl

/-- Setting the timers answers nothing. -/
@[simp] theorem answers_setTimers (timers : DelayQueue TimerKey) :
    (r.setTimers timers).answers = r.answers := rfl

/-- Setting the re-engagement answers nothing. -/
@[simp] theorem answers_setReengagement (result : ReengagementTimer × DelayQueue TimerKey) :
    (r.setReengagement result).answers = r.answers := rfl

/-- Setting the turn phase answers nothing. -/
@[simp] theorem answers_setTurnPhase (phase : TurnPhase) :
    (r.setTurnPhase phase).answers = r.answers := rfl

/-- Setting the guard of the tools answers nothing. -/
@[simp] theorem answers_setSeGuard (guard : SideEffectToolsGuard) :
    (r.setSeGuard guard).answers = r.answers := rfl

/-- Setting the session phase answers nothing. -/
@[simp] theorem answers_setSessionPhase (phase : SessionPhase) :
    (r.setSessionPhase phase).answers = r.answers := rfl

/-- Setting the phase of the LLM turn answers nothing. -/
@[simp] theorem answers_setLlmTurn (phase : LlmTurnPhase) :
    (r.setLlmTurn phase).answers = r.answers := rfl

/-- Setting the hang-up answers nothing. -/
@[simp] theorem answers_setHangUp (phase : HangUpPhase) :
    (r.setHangUp phase).answers = r.answers := rfl

/-- Noting that audio was sent answers nothing. -/
@[simp] theorem answers_setBotAudioSent (sent : Bool) :
    (r.setBotAudioSent sent).answers = r.answers := rfl

/-- What happens outside answers nothing. -/
@[simp] theorem answers_setWorld (world : World β) : (r.setWorld world).answers = r.answers := rfl

/-- An exit answers nothing. -/
@[simp] theorem answers_setShouldExit : r.setShouldExit.answers = r.answers := rfl

/-- Resetting the playback answers nothing. -/
@[simp] theorem answers_resetPlayback : r.resetPlayback.answers = r.answers := rfl

/-- Clearing the text of the turn answers nothing. -/
@[simp] theorem answers_clearTurnText : r.clearTurnText.answers = r.answers := rfl

/-- A turn of the cursor answers nothing. -/
@[simp] theorem answers_beginCursorTurn : r.beginCursorTurn.answers = r.answers := rfl

/-- The end of the user's speech answers nothing. -/
@[simp] theorem answers_markSpeechEnded : r.markSpeechEnded.answers = r.answers := rfl

/-- Counting a turn answers nothing. -/
@[simp] theorem answers_countTurn : r.countTurn.answers = r.answers := rfl

/-- The audio of the greeting answers nothing. -/
@[simp] theorem answers_markGreetingAudio : r.markGreetingAudio.answers = r.answers := by
  unfold markGreetingAudio
  split <;> rfl

/-- Receiving an input answers nothing. -/
@[simp] theorem answers_receive (input : ReactorInput) : (r.receive input).answers = r.answers := by
  unfold receive
  rw [answers_note]
  exact List.append_nil _

/-! ## Calls on the stages -/

/-- A message of the user is no answer. -/
@[simp] theorem answers_addUserMessage (text : String) :
    (r.addUserMessage text).answers = r.answers := by
  unfold addUserMessage
  rw [answers_note]
  exact List.append_nil _

/-- **A message of the assistant is an answer.** -/
theorem answers_addAssistantMessage (text : String) :
    (r.addAssistantMessage text).answers = r.answers ++ [text] := by
  unfold addAssistantMessage
  rw [answers_note]
  rfl

/-- Feeding a token answers nothing. -/
@[simp] theorem answers_feedToken (token : String) : (r.feedToken token).answers = r.answers := by
  unfold feedToken
  split
  · rw [answers_note]
    exact List.append_nil _
  · rfl

/-- Flushing the speech answers nothing. -/
@[simp] theorem answers_flushTts : r.flushTts.answers = r.answers := by
  unfold flushTts
  split
  · rw [answers_note]
    exact List.append_nil _
  · rfl

/-- Cancelling the speech answers nothing. -/
@[simp] theorem answers_cancelTts : r.cancelTts.answers = r.answers := by
  unfold cancelTts
  rw [answers_note]
  exact List.append_nil _

/-- Sending a token to the speech answers nothing. -/
@[simp] theorem answers_sendTtsToken (token : String) :
    (r.sendTtsToken token).answers = r.answers := by
  unfold sendTtsToken
  dsimp only
  split
  · rfl
  · rw [answers_feedToken]
    rfl

/-- Finalizing the transcript answers nothing. -/
@[simp] theorem answers_finalizeStt : r.finalizeStt.answers = r.answers := by
  unfold finalizeStt
  rw [answers_note]
  exact List.append_nil _

/-- Closing the transport answers nothing. -/
@[simp] theorem answers_closeTransport : r.closeTransport.answers = r.answers := by
  unfold closeTransport
  rw [answers_note]
  exact List.append_nil _

/-! ## The pipeline -/

/-- The idle timer answers nothing. -/
@[simp] theorem answers_startIdleTimerInner (offset : Duration) (force : Bool) :
    (r.startIdleTimerInner offset force).answers = r.answers := by
  unfold startIdleTimerInner
  split
  · rfl
  · split
    · rfl
    · rfl

/-- Starting the idle timer answers nothing. -/
@[simp] theorem answers_startIdleTimer : r.startIdleTimer.answers = r.answers := by
  exact r.answers_startIdleTimerInner 0 false

/-- Starting the idle timer behind the audio answers nothing. -/
@[simp] theorem answers_startIdleTimerWithOffset (offset : Duration) :
    (r.startIdleTimerWithOffset offset).answers = r.answers := by
  exact r.answers_startIdleTimerInner offset false

/-- Starting the idle timer behind the greeting answers nothing. -/
@[simp] theorem answers_startIdleTimerAfterGreetingWithOffset (offset : Duration) :
    (r.startIdleTimerAfterGreetingWithOffset offset).answers = r.answers := by
  exact r.answers_startIdleTimerInner offset true

/-- Removing a timer answers nothing. -/
@[simp] theorem answers_removeTimer (key : Option Key) :
    (r.removeTimer key).answers = r.answers := by
  unfold removeTimer
  split <;> rfl

/-- Cancelling the re-engagement answers nothing. -/
@[simp] theorem answers_cancelReengagement : r.cancelReengagement.answers = r.answers := rfl

/-- Cancelling the LLM answers nothing. -/
@[simp] theorem answers_cancelLlm : r.cancelLlm.answers = r.answers := by
  have cancelled : ((r.setLlm (LlmStage.cancel r.llm).2).note
      (.backend (AgentBackend.isActive r.llm) .cancel)).answers = r.answers := by
    rw [answers_note]
    exact List.append_nil _
  unfold cancelLlm
  dsimp only
  split
  · rw [answers_emit, cancelled]
  · exact cancelled

/-- Cancelling the guard of the tools answers nothing. -/
@[simp] theorem answers_cancelSeGuard : r.cancelSeGuard.answers = r.answers := by
  unfold cancelSeGuard SideEffectToolsGuard.cancel
  simp

/-- Removing the delay of the hang-up answers nothing. -/
@[simp] theorem answers_removeHangUpDelay : r.removeHangUpDelay.answers = r.answers := by
  unfold removeHangUpDelay
  split
  · simp
  · rfl

/-- Leaving the greeting answers nothing. -/
@[simp] theorem answers_leaveGreeting : r.leaveGreeting.answers = r.answers := by
  unfold leaveGreeting
  split <;> rfl

/-- **Cancelling the pipeline answers nothing.** -/
@[simp] theorem answers_cancelPipeline : r.cancelPipeline.answers = r.answers := by
  unfold cancelPipeline
  simp

/-- The end of the session answers nothing. -/
@[simp] theorem answers_emitSessionEnded : r.emitSessionEnded.answers = r.answers := by
  unfold emitSessionEnded
  split
  · rfl
  · exact r.answers_emit .sessionEnded

/-- A shutdown answers nothing. -/
@[simp] theorem answers_initiateShutdown : r.initiateShutdown.answers = r.answers := by
  unfold initiateShutdown
  simp

/-- Opening the speech answers nothing. -/
@[simp] theorem answers_openTts : r.openTts.answers = r.answers := by
  unfold openTts
  split
  · rw [answers_note]
    exact List.append_nil _
  · split
    · rw [answers_note]
      exact List.append_nil _
    · rfl

/-- The speech of a turn answers nothing. -/
@[simp] theorem answers_startTtsForTurn : r.startTtsForTurn.2.answers = r.answers := by
  have noted : (r.note (.startTtsForTurn r.turnPhase.isSpeaking)).answers = r.answers := by
    rw [answers_note]
    exact List.append_nil _
  unfold startTtsForTurn
  dsimp only
  split
  · rw [answers_cancelPipeline, noted]
  · rw [answers_openTts, answers_beginCursorTurn, noted]

/-- Starting the LLM answers nothing. -/
@[simp] theorem answers_startLlm : r.startLlm.2.answers = r.answers := by
  unfold startLlm
  dsimp only
  rw [answers_note]
  exact List.append_nil _

/-- Running the LLM answers nothing. -/
@[simp] theorem answers_runLlm : r.runLlm.answers = r.answers := by
  have started := r.answers_startLlm
  unfold runLlm
  rcases answer : r.startLlm with ⟨_ | _, t⟩
  · rw [answer] at started
    rw [answers_startIdleTimer, answers_cancelTts]
    exact started
  · rw [answer] at started
    exact started

/-- Preparing a turn answers nothing. -/
@[simp] theorem answers_prepareTurn : r.prepareTurn.answers = r.answers := rfl

/-- **A turn that starts answers nothing.** -/
@[simp] theorem answers_startLlmTurn : r.startLlmTurn.answers = r.answers := by
  have opened := r.prepareTurn.answers_startTtsForTurn
  unfold startLlmTurn
  rcases answer : r.prepareTurn.startTtsForTurn with ⟨_ | _, t⟩
  · rw [answer] at opened
    rw [answers_runLlm]
    exact opened
  · rw [answer] at opened
    exact opened

/-- The span of a turn answers nothing. -/
@[simp] theorem answers_startTurnSpan (text : String) :
    (r.startTurnSpan text).answers = r.answers := by
  unfold startTurnSpan
  simp

/-- A text that is committed answers nothing. -/
@[simp] theorem answers_commitTurnText (text : String) :
    (r.commitTurnText text).answers = r.answers := by
  unfold commitTurnText
  dsimp only
  rw [answers_startLlmTurn, answers_startTurnSpan]
  exact ((r.emit (.transcript "user" text)).answers_addUserMessage text).trans (r.answers_emit _)

/-- A text that is replayed answers nothing. -/
@[simp] theorem answers_replayDeferred (text : String) :
    (r.replayDeferred text).answers = r.answers := by
  unfold replayDeferred
  simp

/-- Skipping the marker answers nothing. -/
@[simp] theorem answers_skipMarkerCheck : r.skipMarkerCheck.answers = r.answers := by
  unfold skipMarkerCheck
  split <;> rfl

/-- A nudge answers nothing. -/
@[simp] theorem answers_startNudgeTurn (nudge : String) :
    (r.startNudgeTurn nudge).answers = r.answers := by
  unfold startNudgeTurn
  simp

/-- The timer of the turn completion answers nothing. -/
@[simp] theorem answers_armTurnCompletion (marker : TurnCompletion) :
    (r.armTurnCompletion marker).answers = r.answers := rfl

/-- The wait for the turn completion answers nothing. -/
@[simp] theorem answers_armTurnCompletionWait (marker : TurnCompletion) :
    (r.armTurnCompletionWait marker).answers = r.answers := by
  unfold armTurnCompletionWait
  simp

/-- Emitting the assistant's text answers nothing. -/
@[simp] theorem answers_emitAssistant (text : String) :
    (r.emitAssistant text).answers = r.answers := by
  unfold emitAssistant
  dsimp only
  split
  · rfl
  · rw [answers_emit]

/-! ## Turn events -/

/-- An action of a turn answers nothing. -/
@[simp] theorem answers_executeTurnAction (action : TurnAction) :
    (r.executeTurnAction action).answers = r.answers := by
  cases action with
  | commitTurn text =>
    unfold executeTurnAction
    dsimp only [SideEffectToolsGuard.takeDeferred]
    split
    · simp
    · simp
  | commitBargeIn text =>
    unfold executeTurnAction
    dsimp only
    split
    · simp
    · rw [answers_startIdleTimer, answers_note]
      exact List.append_nil _
  | commitLateTranscript text =>
    unfold executeTurnAction
    dsimp only
    split
    · rw [answers_note]
      exact List.append_nil _
    · simp
  | emitInterrupt | clearBotAudioSent | emitAgentEvent _ | cancelPipeline | finalizeStt | bufferTranscript _
  | cancelTimer _ | startIdleTimer | markSpeechEnded | trace _ | markSttFinalizeSent =>
    simp [executeTurnAction, emitAgentEvent]

/-- The actions of a turn answer nothing. -/
@[simp] theorem answers_executeActions (actions : List TurnAction) :
    (r.executeActions actions).answers = r.answers := by
  unfold executeActions
  induction actions generalizing r with
  | nil => rfl
  | cons action actions ih => rw [List.foldl_cons, ih, answers_executeTurnAction]

/-- Resolving the next phase answers nothing. -/
@[simp] theorem answers_resolveNextPhase (next : NextPhase) :
    (r.resolveNextPhase next).answers = r.answers := by
  cases next <;> rfl

/-- A transition answers nothing. -/
@[simp] theorem answers_runTransition (event : TurnEvent) :
    (r.runTransition event).answers = r.answers := by
  unfold runTransition
  simp

/-- An event of the turn answers nothing. -/
@[simp] theorem answers_dispatchTurnEvent (event : TurnEvent) :
    (r.dispatchTurnEvent event).answers = r.answers := by
  unfold dispatchTurnEvent
  split <;> simp

/-- An event of the voice detection answers nothing. -/
@[simp] theorem answers_onVadEvent (event : VadEvent) (verdict : Bool) :
    (r.onVadEvent event verdict).answers = r.answers := by
  cases event <;> simp [onVadEvent]

/-- An event of the transcript answers nothing. -/
@[simp] theorem answers_onSttEvent (event : SttEvent) :
    (r.onSttEvent event).answers = r.answers := by
  cases event <;> simp [onSttEvent]

/-! ## LLM events -/

/-- Checking for a marker answers nothing. -/
@[simp] theorem answers_onMarkerCheck (marker : Option TurnCompletion) (emittedText : String) :
    (r.onMarkerCheck marker emittedText).answers = r.answers := by
  unfold onMarkerCheck
  split
  · simp
  · simp
  · split <;> simp

/-- A token answers nothing. -/
@[simp] theorem answers_onToken (token : String) : (r.onToken token).answers = r.answers := by
  have counted : (r.countTokenText token).answers = r.answers := rfl
  unfold onToken
  dsimp only
  split <;> simp [counted]

/-- The watchdog answers nothing. -/
@[simp] theorem answers_rearmWatchdog (cancelKey : Option Key) :
    (r.rearmWatchdog cancelKey).answers = r.answers := by
  unfold rearmWatchdog
  simp

/-- A tool with side effects that starts answers nothing. -/
@[simp] theorem answers_startSideEffectTool (id name : String) :
    (r.startSideEffectTool id name).answers = r.answers := by
  unfold startSideEffectTool
  dsimp only
  split <;> simp

/-- Showing the spoken text answers nothing. -/
@[simp] theorem answers_showSpokenText : r.showSpokenText.answers = r.answers := by
  unfold showSpokenText
  dsimp only
  split
  · rfl
  · rw [answers_emitAssistant]
    rfl

/-- A tool call that starts answers nothing. -/
@[simp] theorem answers_onToolCallStarted (id name : String) (sideEffect : Bool) :
    (r.onToolCallStarted id name sideEffect).answers = r.answers := by
  unfold onToolCallStarted
  cases sideEffect <;> simp

/-- A tool call that completes answers nothing. -/
@[simp] theorem answers_onToolCallCompleted (id name : String) (success : Bool) (errorMessage : Option String) :
    (r.onToolCallCompleted id name success errorMessage).answers = r.answers := by
  unfold onToolCallCompleted
  dsimp only
  split
  · split <;> simp
  · simp

/-- Finishing an LLM turn answers nothing. -/
@[simp] theorem answers_finishLlmTurn (content : Option String) :
    (r.finishLlmTurn content).answers = r.answers := by
  unfold finishLlmTurn emitContent
  cases content <;> simp

/-- Asking for a hang-up answers nothing. -/
@[simp] theorem answers_onHangUp (content : Option String) :
    (r.onHangUp content).answers = r.answers := by
  unfold onHangUp emitContent
  cases content <;> dsimp only <;> split <;> simp

/-! ## TTS events and timers -/

/-- Sending audio answers nothing. -/
@[simp] theorem answers_sendAudio (pcm : Bytes) : (r.sendAudio pcm).answers = r.answers := by
  unfold sendAudio
  simp
  rfl

/-- Audio of the speech answers nothing. -/
@[simp] theorem answers_onTtsAudio (pcm : Bytes) : (r.onTtsAudio pcm).answers = r.answers := by
  unfold onTtsAudio
  split <;> simp

/-- The end of the greeting answers nothing. -/
@[simp] theorem answers_emitGreetingTtsComplete :
    r.emitGreetingTtsComplete.answers = r.answers := by
  unfold emitGreetingTtsComplete
  split
  · rfl
  · dsimp only
    split
    · rfl
    · rw [answers_emit]
      rfl

/-- Finishing the greeting answers nothing. -/
@[simp] theorem answers_finishGreeting : r.finishGreeting.answers = r.answers := by
  unfold finishGreeting
  simp

/-- Finishing a spoken turn answers nothing. -/
@[simp] theorem answers_finishSpokenTurn : r.finishSpokenTurn.answers = r.answers := by
  unfold finishSpokenTurn finishTurnSpan
  dsimp only
  split
  · split <;> simp
  · simp

/-- Finished speech answers nothing. -/
@[simp] theorem answers_onTtsFinished : r.onTtsFinished.answers = r.answers := by
  unfold onTtsFinished
  dsimp only
  split
  · simp
  · split <;> simp

/-- An event of the speech answers nothing. -/
@[simp] theorem answers_onTtsEvent (event : TtsEvent) :
    (r.onTtsEvent event).answers = r.answers := by
  cases event <;> simp [onTtsEvent]

/-- A response that is replayed answers nothing. -/
@[simp] theorem answers_replaySuppressed (text : String) :
    (r.replaySuppressed text).answers = r.answers := by
  have opened := (r.setLlmTurn .idle).answers_startTtsForTurn
  unfold replaySuppressed
  rcases answer : (r.setLlmTurn .idle).startTtsForTurn with ⟨_ | _, t⟩
  · rw [answer] at opened
    rw [answers_flushTts, answers_sendTtsToken, answers_emit]
    exact opened
  · rw [answer] at opened
    exact opened

/-- A replay or a nudge answers nothing. -/
@[simp] theorem answers_replayOrNudge (isShort : Bool) :
    (r.replayOrNudge isShort).answers = r.answers := by
  unfold replayOrNudge
  split
  · rfl
  · split <;> simp

/-- The turn completion answers nothing. -/
@[simp] theorem answers_onTurnCompletion : r.onTurnCompletion.answers = r.answers := by
  unfold onTurnCompletion
  dsimp only
  split <;> simp

/-- A nudge or a hang-up answers nothing. -/
@[simp] theorem answers_nudgeOrHangUp (retryCount : ℕ) :
    (r.nudgeOrHangUp retryCount).answers = r.answers := by
  unfold nudgeOrHangUp
  split
  · simp [emitAgentEvent]
  · split
    · rfl
    · split <;> simp

/-- An idle user answers nothing. -/
@[simp] theorem answers_onUserIdle : r.onUserIdle.answers = r.answers := by
  unfold onUserIdle
  dsimp only
  split <;> simp

/-- A side effect that timed out answers nothing. -/
@[simp] theorem answers_onSideEffectTimeout : r.onSideEffectTimeout.answers = r.answers := by
  unfold onSideEffectTimeout SideEffectToolsGuard.onTimeout
  dsimp only
  split
  · split <;> simp
  · rfl

/-- A hang-up whose delay is over answers nothing. -/
@[simp] theorem answers_onHangUpDelay : r.onHangUpDelay.answers = r.answers := by
  unfold onHangUpDelay
  dsimp only
  split <;> simp

/-- A timer answers nothing. -/
@[simp] theorem answers_onTimer (key : TimerKey) : (r.onTimer key).answers = r.answers := by
  cases key <;> simp [onTimer]

/-! ## One step -/

/-- The late check finds a ○ or ◐. -/
def findsIncomplete (action : Option TokenAction) : Bool :=
  match action with
  | some (.markerCheckCompleted (some marker) _) => decide (marker ≠ .complete)
  | _ => false

/-- **A finished response is suppressed**: behind a ○ or ◐, or behind one that the late check finds. -/
def suppresses : Bool :=
  match r.llmTurn with
  | .suppressing _ => true
  | phase => findsIncomplete (phase.processLateFlush r.config.turnCompletionEnabled).2

/-- What is saved of a response. -/
def savedOf (content : Option String) : List String :=
  match content with
  | some text => if (stripTurnMarkers text).isEmpty then [] else [stripTurnMarkers text]
  | none => []

/-- A suppressed response is saved. -/
theorem answers_saveSuppressedResponse (content : Option String) :
    (r.saveSuppressedResponse content).answers = r.answers ++ savedOf content := by
  unfold saveSuppressedResponse savedOf
  cases content with
  | none => exact (List.append_nil _).symm
  | some text =>
    dsimp only
    by_cases empty : (stripTurnMarkers text).isEmpty = true
    · rw [if_pos empty, if_pos empty, List.append_nil]
    · rw [if_neg empty, if_neg empty, answers_setLlmTurn, answers_addAssistantMessage]

/-- Behind a ○ or ◐ that the late check finds, too. -/
theorem answers_onStreamEnd (action : Option TokenAction) (content : Option String) :
    (r.onStreamEnd action content).answers =
      r.answers ++ if findsIncomplete action then savedOf content else [] := by
  unfold onStreamEnd
  rcases action with - | ⟨- | - | ⟨- | (- | - | -), text⟩ | -⟩
  all_goals simp only [findsIncomplete, answers_saveSuppressedResponse, answers_armTurnCompletionWait]
  all_goals first | rfl | simp
  all_goals split <;> simp

/-- **The end of a turn saves a suppressed response**, and adds nothing else. -/
theorem answers_onFinished (content : Option String) :
    (r.onFinished content).answers =
      r.answers ++ if r.suppresses then savedOf content else [] := by
  have traced : (r.trace "LlmFinished").answers = r.answers := r.answers_trace _
  have same : (r.trace "LlmFinished").llmTurn = r.llmTurn := rfl
  unfold onFinished suppresses
  dsimp only
  rw [same]
  rcases r.llmTurn with - | buf | response
  · simp only [answers_onStreamEnd, answers_setLlmTurn, traced]
    rfl
  · simp only [answers_onStreamEnd, answers_setLlmTurn, traced]
    rfl
  · simp only [answers_startIdleTimer, answers_saveSuppressedResponse, traced]
    rfl

/-- The response that an event is the end of, if it is suppressed. -/
def saved (event : LlmEvent) : List String :=
  match event with
  | .finished content => if r.suppresses then savedOf content else []
  | _ => []

/-- **An event of the LLM answers what it saves.** -/
theorem answers_onLlmEvent (event : LlmEvent) :
    (r.onLlmEvent event).answers = r.answers ++ r.saved event := by
  cases event with
  | finished content => exact r.answers_onFinished content
  | token _ | toolCallStarted _ _ _ | toolCallCompleted _ _ _ _ | error _ | onHold _ | hangUp _ _
  | llmComplete _ => simp [onLlmEvent, saved]

/-- The event that a moment yields, if its arm is ready. -/
def yieldedAt (m : Moment β) : Option LlmEvent :=
  if r.shouldExit then none else r.yielded m.input

/-- What a moment saves. -/
def savedAt (m : Moment β) : List String := ((r.yieldedAt m).map r.saved).getD []

/-- **A step saves the suppressed response that finishes in it**, and adds nothing else. -/
theorem answers_step (m : Moment β) : (r.step m).answers = r.answers ++ r.savedAt m := by
  unfold savedAt yieldedAt step
  cases exits : r.shouldExit with
  | true => exact (List.append_nil _).symm
  | false =>
    rw [if_neg Bool.false_ne_true, if_neg Bool.false_ne_true]
    unfold handle
    rcases m.input with ⟨event, verdict⟩ | event | poll | event | key
    · simp [Coordination.yielded]
    · simp [Coordination.yielded]
    · dsimp only [Coordination.yielded]
      change Reactor.answers (if AgentBackend.isActive r.llm = true then _ else _) = _
      cases AgentBackend.isActive r.llm with
      | false => exact (List.append_nil _).symm
      | true =>
        rw [if_pos rfl, if_pos rfl]
        rw [show (setWorld m.world r).llm = r.llm from rfl]
        rcases (LlmStage.recv poll r.llm).1 with - | event
        · exact (List.append_nil _).symm
        · dsimp only
          rw [answers_computeAndEmitState, answers_onLlmEvent, answers_receive]
          rfl
    · dsimp only
      split <;> simp [Coordination.yielded]
    · dsimp only
      split <;> simp [Coordination.yielded]

end Reactor

end Feros
