import Feros.Coordinator.Operations
/-! # The reactor refines the coordinator machine

The handlers, one section each, up to the step of the event loop; the last section finds the
machine in the state a session starts in. -/

namespace Feros

namespace Reactor

variable {β : Type} [AgentBackend β]

/-! ## Turn coordinator -/

/-- Buffering a transcript refines. -/
theorem core_bufferTranscript (text : String) (r : Reactor β) :
    (r.setSeGuard (r.seGuard.bufferTranscript text)).core = r.core.bufferTranscript text :=
  core_setSeGuard _ r

/-- Committing a turn. -/
theorem core_commitTurn (text : String) (r : Reactor β) :
    (r.executeTurnAction (.commitTurn text)).core = r.core.commitTurn text := by
  unfold executeTurnAction Coordinator.commitTurn Coordinator.fullText
  rw [show r.core.seGuard = r.seGuard from rfl]
  dsimp only [SideEffectToolsGuard.takeDeferred]
  have drained : (r.setSeGuard { r.seGuard with deferredTranscript := none }).core =
      r.core.drain := core_setSeGuard _ r
  split
  · rw [core_startIdleTimer, drained]
  · rw [core_commitTurnText, drained]

/-- Committing a barge-in. -/
theorem core_commitBargeIn (text : String) (r : Reactor β) :
    (r.executeTurnAction (.commitBargeIn text)).core = r.core.commitBargeIn text := by
  have rejected : (r.note (.bargeInRejected text)).core = r.core.leave (.bargeInRejected text) :=
    core_note_of_some rfl r
  unfold executeTurnAction Coordinator.commitBargeIn Coordinator.acceptsBargeIn
  rw [show r.core.unicodeWords = r.unicodeWords from rfl, show r.core.config = r.config from rfl]
  dsimp only
  split
  · rw [core_commitTurnText]
  · rw [core_startIdleTimer, rejected]

/-- Committing a transcript that came late. -/
theorem core_commitLateTranscript (text : String) (r : Reactor β) :
    (r.executeTurnAction (.commitLateTranscript text)).core =
      r.core.commitLateTranscript text := by
  have dropped : (r.note (.lateTranscriptDropped text)).core =
      r.core.leave (.lateTranscriptDropped text) := core_note_of_some rfl r
  unfold executeTurnAction Coordinator.commitLateTranscript
  rw [show r.core.toCoordination = r.toCoordination from rfl]
  dsimp only
  split
  · rw [dropped]
  · rw [core_commitTurnText]

/-- Waiting for the transcript. -/
theorem core_waitForTranscript (r : Reactor β) :
    (r.resolveNextPhase .waitForTranscript).core = r.core.waitForTranscript := rfl

/-- Starting the timer that ends the wait for a transcript. -/
theorem core_startEotFallback (r : Reactor β) :
    (r.resolveNextPhase .startEotFallback).core = r.core.startEotFallback := rfl

/-- The end of speech is marked in the log only. -/
@[simp] theorem core_markSpeechEnded (r : Reactor β) : r.markSpeechEnded.core = r.core := rfl

/-- No action changes nothing. -/
@[simp] theorem executeActions_nil (r : Reactor β) : r.executeActions [] = r := rfl

/-- The actions are executed one after the other. -/
@[simp] theorem executeActions_cons (action : TurnAction) (actions : List TurnAction)
    (r : Reactor β) :
    r.executeActions (action :: actions) = (r.executeTurnAction action).executeActions actions :=
  rfl

/-- The flush actions interrupt the client if audio was sent to it. -/
theorem core_flushActions {sent : Bool} {r : Reactor β} (h : r.botAudioSent = sent) :
    (r.executeActions (TurnPhase.flushActions sent)).core = r.core.flushClient := by
  unfold TurnPhase.flushActions Coordinator.flushClient
  rw [show r.core.botAudioSent = sent from h]
  cases sent
  · exact congrArg (fun sent => { r.core with botAudioSent := sent }) h
  · simp only [if_true, executeActions_cons, executeActions_nil, executeTurnAction,
      core_setBotAudioSent, core_emitInterrupt]
    rfl

/-- The user begins to speak. -/
theorem core_beginSpeech (pipelineWasActive : Bool) (r : Reactor β) :
    (r.runTransition (.speechStarted pipelineWasActive r.botAudioSent)).core =
      r.core.beginSpeech pipelineWasActive := by
  unfold runTransition Coordinator.beginSpeech
  rw [show r.core.turnPhase = r.turnPhase from rfl]
  cases h : r.turnPhase with
  | userSpeaking active =>
    cases active <;> exact congrArg (fun phase => { r.core with turnPhase := phase }) h.symm
  | waitingForTranscript key | eotFallback key =>
    simp only [TurnPhase.transition, resolveNextPhase, executeActions_cons, executeTurnAction]
    refine (core_flushActions rfl).trans ?_
    rw [core_removeTimer, core_setTurnPhase]
    rfl
  | listening | transcriptTimedOut | bargeInWordCount =>
    simp only [TurnPhase.transition, resolveNextPhase]
    refine (core_flushActions rfl).trans ?_
    rw [core_setTurnPhase]
    rfl

/-- The user stops. -/
theorem core_endSpeech (smartComplete : Bool) (r : Reactor β) :
    (r.runTransition (.speechEnded smartComplete)).core = r.core.endSpeech smartComplete := by
  have unchanged {phase : TurnPhase} (h : r.turnPhase = phase) :
      (r.setTurnPhase phase).core = r.core := congrArg Reactor.core (setTurnPhase_self h)
  unfold runTransition Coordinator.endSpeech
  rw [show r.core.turnPhase = r.turnPhase from rfl]
  cases h : r.turnPhase with
  | userSpeaking active =>
    cases active with
    | true =>
      simp only [TurnPhase.transition, resolveNextPhase, executeActions_cons, executeActions_nil,
        executeTurnAction, core_finalizeStt, core_cancelPipeline, core_emitAgentEvent,
        core_trace, core_setTurnPhase]
    | false =>
      cases smartComplete with
      | true =>
        simp only [TurnPhase.transition, executeActions_cons, executeActions_nil,
          executeTurnAction, core_finalizeStt, core_waitForTranscript]
      | false => exact core_startEotFallback r
  | listening | waitingForTranscript key | transcriptTimedOut | eotFallback key
  | bargeInWordCount => exact unchanged h

/-- Leaving a phase for `listening` gives the key it owns back. -/
theorem core_leavePhase {key : Key} {r : Reactor β}
    (h : r.turnPhase.release r.timers = r.timers.remove key) :
    ((r.setTurnPhase .listening).removeTimer (some key)).core = r.core.listen := by
  unfold Coordinator.listen
  rw [show r.core.turnPhase.release r.core.timers = r.timers.remove key from h,
    core_removeTimer, core_setTurnPhase]
  rfl

/-- A phase that owns no key has none to give back. -/
theorem core_leavePhase_keyless {r : Reactor β} (h : r.turnPhase.release r.timers = r.timers) :
    (r.setTurnPhase .listening).core = r.core.listen := by
  unfold Coordinator.listen
  rw [show r.core.turnPhase.release r.core.timers = r.timers from h, core_setTurnPhase]
  rfl

/-- A transcript arrives. -/
theorem core_hear (text : String) (r : Reactor β) :
    (r.runTransition (.transcript text)).core = r.core.hear text := by
  unfold runTransition Coordinator.hear
  rw [show r.core.turnPhase = r.turnPhase from rfl]
  cases h : r.turnPhase with
  | listening =>
    unfold TurnPhase.transition
    dsimp only
    cases isBlank text with
    | true => exact congrArg Reactor.core (setTurnPhase_self h)
    | false =>
      simp only [Bool.false_eq_true, if_false, executeActions_cons, executeActions_nil,
        resolveNextPhase]
      rw [setTurnPhase_self h, core_commitTurn]
  | userSpeaking active =>
    cases active <;>
    · simp only [TurnPhase.transition, resolveNextPhase, executeActions_cons, executeActions_nil]
      rw [setTurnPhase_self h]
      exact core_bufferTranscript text r
  | waitingForTranscript key | eotFallback key =>
    simp only [TurnPhase.transition, resolveNextPhase, executeActions_cons, executeActions_nil]
    rw [core_commitTurn]
    simp only [executeTurnAction, core_markSpeechEnded]
    rw [core_leavePhase (congrArg (TurnPhase.release · r.timers) h)]
  | transcriptTimedOut =>
    simp only [TurnPhase.transition, resolveNextPhase, executeActions_cons, executeActions_nil]
    rw [core_commitLateTranscript]
    simp only [executeTurnAction, core_markSpeechEnded]
    rw [core_leavePhase_keyless (congrArg (TurnPhase.release · r.timers) h)]
  | bargeInWordCount =>
    simp only [TurnPhase.transition, resolveNextPhase, executeActions_cons, executeActions_nil]
    rw [core_commitBargeIn]
    simp only [executeTurnAction, core_markSpeechEnded]
    rw [core_leavePhase_keyless (congrArg (TurnPhase.release · r.timers) h)]

/-- The transcript does not come. -/
theorem core_sttTimeout (r : Reactor β) :
    (r.runTransition .sttTimeout).core = r.core.sttTimeout := by
  unfold runTransition Coordinator.sttTimeout
  rw [show r.core.turnPhase = r.turnPhase from rfl]
  cases h : r.turnPhase with
  | waitingForTranscript key => exact core_startIdleTimer (r.setTurnPhase .transcriptTimedOut)
  | userSpeaking active => cases active <;> exact congrArg Reactor.core (setTurnPhase_self h)
  | listening | transcriptTimedOut | eotFallback key | bargeInWordCount =>
    exact congrArg Reactor.core (setTurnPhase_self h)

/-- The end of the turn is not recognised. -/
theorem core_eotFallback (r : Reactor β) :
    (r.runTransition .eotFallback).core = r.core.eotFallback := by
  unfold runTransition Coordinator.eotFallback
  rw [show r.core.turnPhase = r.turnPhase from rfl]
  cases h : r.turnPhase with
  | eotFallback key =>
    refine (core_finalizeStt _).trans ?_
    exact core_waitForTranscript r
  | userSpeaking active => cases active <;> exact congrArg Reactor.core (setTurnPhase_self h)
  | listening | waitingForTranscript key | transcriptTimedOut | bargeInWordCount =>
    exact congrArg Reactor.core (setTurnPhase_self h)

/-! ## Dispatch -/

/-- **`SpeechStarted` refines.** -/
theorem core_dispatch_speechStarted (r : Reactor β) :
    (r.dispatchTurnEvent (.speechStarted r.isPipelineActive r.botAudioSent)).core =
      if r.core.hangUp.isPending then r.core else r.core.beginSpeech r.core.isPipelineActive := by
  rw [show r.core.hangUp = r.hangUp from rfl]
  unfold dispatchTurnEvent
  cases r.hangUp.isPending with
  | true => rfl
  | false => exact core_beginSpeech _ r

/-- **`SpeechEnded` refines.** -/
theorem core_dispatch_speechEnded (smartComplete : Bool) (r : Reactor β) :
    (r.dispatchTurnEvent (.speechEnded smartComplete)).core =
      r.core.speechEnded smartComplete := by
  have shielded : ((r.finalizeStt.setTurnPhase (r.turnPhase.reset r.timers).1).setTimers
      (r.turnPhase.reset r.timers).2).core = r.core.listen := by
    rw [core_setTimers, core_setTurnPhase, core_finalizeStt]
    unfold TurnPhase.reset Coordinator.listen TurnPhase.release
    rw [show r.core.turnPhase = r.turnPhase from rfl]
    cases r.turnPhase <;> rfl
  unfold dispatchTurnEvent Coordinator.speechEnded
  rw [show r.core.seGuard = r.seGuard from rfl]
  cases r.seGuard.isActive with
  | true => cases r.hangUp.isPending <;> exact shielded
  | false => cases r.hangUp.isPending <;> exact core_endSpeech smartComplete r

/-- **A transcript refines.** -/
theorem core_dispatch_transcript (text : String) (r : Reactor β) :
    (r.dispatchTurnEvent (.transcript text)).core = r.core.transcript text := by
  unfold dispatchTurnEvent Coordinator.transcript
  rw [show r.core.hangUp = r.hangUp from rfl, show r.core.seGuard = r.seGuard from rfl]
  cases r.hangUp.isPending with
  | true => rfl
  | false =>
    cases r.seGuard.isActive with
    | true => exact core_bufferTranscript text r
    | false => exact core_hear text r

/-- The transcript does not come, as an event of the turn. -/
theorem core_dispatch_sttTimeout (r : Reactor β) :
    (r.dispatchTurnEvent .sttTimeout).core = r.core.sttTimeout := by
  unfold dispatchTurnEvent
  cases r.hangUp.isPending <;> cases r.seGuard.isActive <;> exact core_sttTimeout r

/-- The end of the turn is not recognised, as an event of the turn. -/
theorem core_dispatch_eotFallback (r : Reactor β) :
    (r.dispatchTurnEvent .eotFallback).core = r.core.eotFallback := by
  unfold dispatchTurnEvent
  cases r.hangUp.isPending <;> cases r.seGuard.isActive <;> exact core_eotFallback r

/-! ## VAD and STT -/

/-- **An event of the VAD.** -/
theorem core_onVadEvent (event : VadEvent) (verdict : Bool) (r : Reactor β) :
    (r.onVadEvent event verdict).core =
      match event with
      | .speechStarted => r.core.speechStarted
      | .speechEnded _ => r.core.speechEnded (if r.core.smartTurn then verdict else true) := by
  cases event with
  | speechStarted =>
    have engaged : (((r.trace "SpeechStarted").setSessionPhase .active).cancelReengagement).core =
        r.core.engage := by
      rw [core_cancelReengagement, core_setSessionPhase, core_trace]
      rfl
    unfold onVadEvent Coordinator.speechStarted
    dsimp only
    rw [core_dispatch_speechStarted, engaged]
    rfl
  | speechEnded audio =>
    unfold onVadEvent
    dsimp only
    rw [core_dispatch_speechEnded, core_trace]
    rfl

/-- **A final transcript.** -/
theorem core_onTranscript (text : String) (r : Reactor β) :
    (r.onSttEvent (.transcript text)).core = r.core.transcript text := by
  unfold onSttEvent
  dsimp only
  rw [core_dispatch_transcript, core_trace]

/-! ## LLM -/

/-- The text of a token is counted in the log only. -/
@[simp] theorem core_countTokenText (token : String) (r : Reactor β) :
    (r.countTokenText token).core = r.core := by
  unfold countTokenText
  -- The length is not to be computed.
  generalize (trim token).utf8ByteSize = len
  rfl

/-- A turn is counted in the log only. -/
@[simp] theorem core_countTurn (r : Reactor β) : r.countTurn.core = r.core := rfl

/-- The content of a turn is shown only. -/
@[simp] theorem core_emitContent (content : Option String) (r : Reactor β) :
    (r.emitContent content).core = r.core := by
  unfold emitContent
  split
  · exact core_emitAssistant _ r
  · rfl

/-- The end of a turn of the LLM is logged only. -/
@[simp] theorem core_finishLlmTurn (content : Option String) (r : Reactor β) :
    (r.finishLlmTurn content).core = r.core := by
  simp only [finishLlmTurn, core_countTurn, core_emitContent, core_flushTts]

/-- What the marker check does refines, the generation being over for a ○ or ◐. -/
theorem core_onMarkerCheck (marker : Option TurnCompletion) (emittedText : String)
    (r : Reactor β) :
    (r.onMarkerCheck marker emittedText).core =
      match marker with
      | some .incompleteShort =>
        (r.core.armTurnCompletionWait .incompleteShort).setLlmTurn (.suppressing none)
      | some .incompleteLong =>
        (r.core.armTurnCompletionWait .incompleteLong).setLlmTurn (.suppressing none)
      | _ => r.core := by
  have spoken : (if emittedText.isEmpty then r else r.sendTtsToken emittedText).core = r.core := by
    split
    · rfl
    · exact core_sendTtsToken emittedText r
  rcases marker with _ | (_ | _ | _)
  · exact spoken
  · exact spoken
  · simp only [onMarkerCheck, core_setLlmTurn, core_armTurnCompletionWait]
  · simp only [onMarkerCheck, core_setLlmTurn, core_armTurnCompletionWait]

/-- A token of the LLM. -/
theorem core_onToken (token : String) (r : Reactor β) :
    (r.onToken token).core = r.core.token token := by
  have counted := core_countTokenText token r
  unfold onToken Coordinator.token
  rw [← counted]
  generalize r.countTokenText token = r
  rw [show r.core.llmTurn = r.llmTurn from rfl, show r.core.config = r.config from rfl]
  dsimp only
  generalize r.llmTurn.processToken token r.config.turnCompletionEnabled = processed
  obtain ⟨phase, action⟩ := processed
  cases action with
  | drop | accumulate => exact core_setLlmTurn phase r
  | passthrough text => exact (core_sendTtsToken text _).trans (core_setLlmTurn phase r)
  | markerCheckCompleted marker text =>
    dsimp only
    rw [core_onMarkerCheck, core_setLlmTurn]
    rcases marker with _ | (_ | _ | _) <;> rfl

/-- The spoken text is shown only. -/
@[simp] theorem core_showSpokenText (r : Reactor β) : r.showSpokenText.core = r.core := by
  unfold showSpokenText
  dsimp only
  split
  · rfl
  · rw [core_emitAssistant]
    rfl

/-- A tool with side effects starts. -/
theorem core_startSideEffectTool (id name : String) (r : Reactor β) :
    (r.startSideEffectTool id name).core = r.core.toolCallStarted id name true := by
  unfold startSideEffectTool rearmWatchdog Coordinator.toolCallStarted
    SideEffectToolsGuard.release
  rw [show r.core.seGuard = r.seGuard from rfl, show r.core.timers = r.timers from rfl]
  simp only [SideEffectToolsGuard.toolStarted, if_true]
  rw [core_setSeGuard, core_setTimers]
  cases h : r.seGuard.timeoutKey <;> rfl

/-- A tool starts. -/
theorem core_onToolCallStarted (id name : String) (sideEffect : Bool) (r : Reactor β) :
    (r.onToolCallStarted id name sideEffect).core =
      r.core.toolCallStarted id name sideEffect := by
  unfold onToolCallStarted
  dsimp only
  rw [core_emit_toolActivity]
  cases sideEffect with
  | true =>
    rw [if_pos rfl, core_startSideEffectTool, core_showSpokenText, core_trace]
  | false =>
    rw [if_neg Bool.false_ne_true, core_showSpokenText, core_trace]
    rfl

/-- A tool has ended. -/
theorem core_onToolCallCompleted (id name : String) (success : Bool)
    (errorMessage : Option String) (r : Reactor β) :
    (r.onToolCallCompleted id name success errorMessage).core = r.core.toolCallCompleted id := by
  have counted : (r.setSeGuard (r.seGuard.toolCompleted id).1).core = r.core.countTool id :=
    core_setSeGuard _ r
  have ended : ((r.setSeGuard (r.seGuard.toolCompleted id).1).removeTimer
      r.seGuard.timeoutKey).core = r.core.endWindow id := by
    rw [core_removeTimer, counted]
    unfold Coordinator.endWindow SideEffectToolsGuard.release
    rw [show r.core.seGuard.timeoutKey = r.seGuard.timeoutKey from rfl]
    cases r.seGuard.timeoutKey <;> rfl
  unfold onToolCallCompleted Coordinator.toolCallCompleted
  rw [show r.core.seGuard = r.seGuard from rfl]
  by_cases more : 1 < r.seGuard.inFlight
  · have open_ : 0 < r.seGuard.inFlight - 1 := by omega
    rw [if_pos more, ← counted]
    simp only [SideEffectToolsGuard.toolCompleted, if_pos open_, core_emit_toolActivity]
  · have closed : ¬ 0 < r.seGuard.inFlight - 1 := by omega
    rw [if_neg more, ← ended]
    simp only [SideEffectToolsGuard.toolCompleted, if_neg closed]
    cases r.seGuard.deferredTranscript with
    | some text =>
      dsimp only
      rw [core_replayDeferred, core_emit_toolActivity]
    | none => exact core_emit_toolActivity ..

/-- The stream of the LLM ends. -/
theorem core_onStreamEnd (action : Option TokenAction) (content : Option String)
    (r : Reactor β) :
    (r.onStreamEnd action content).core = r.core.streamEnded action content := by
  have spoken : ∀ text : String,
      ((if text.isEmpty then r else r.sendTtsToken text).finishLlmTurn content).core = r.core := by
    intro text
    rw [core_finishLlmTurn]
    split
    · rfl
    · exact core_sendTtsToken text r
  unfold onStreamEnd Coordinator.streamEnded
  rcases action with _ | (_ | _ | ⟨marker, text⟩ | _)
  case some.markerCheckCompleted =>
    rcases marker with _ | (_ | _ | _)
    · exact spoken text
    · exact spoken text
    · exact (core_saveSuppressedResponse content _).trans
        (congrArg _ (core_armTurnCompletionWait .incompleteShort r))
    · exact (core_saveSuppressedResponse content _).trans
        (congrArg _ (core_armTurnCompletionWait .incompleteLong r))
  all_goals exact core_finishLlmTurn content r

/-- The LLM has finished. -/
theorem core_onFinished (content : Option String) (r : Reactor β) :
    (r.onFinished content).core = r.core.finished content := by
  have traced := core_trace "LlmFinished" r
  unfold onFinished Coordinator.finished
  rw [← traced]
  generalize r.trace "LlmFinished" = r
  rw [show r.core.llmTurn = r.llmTurn from rfl, show r.core.config = r.config from rfl]
  cases h : r.llmTurn with
  | suppressing response =>
    dsimp only
    rw [h]
    dsimp only
    rw [core_startIdleTimer, core_saveSuppressedResponse]
  | idle | generating buf =>
    dsimp only
    rw [h]
    exact core_onStreamEnd _ content _

/-- The agent hangs up. -/
theorem core_onHangUp (content : Option String) (r : Reactor β) :
    (r.onHangUp content).core = r.core.agentHangUp := by
  have pending : ((((r.trace "HangUp").emitContent content).flushTts).setHangUp
      .waitingForTts).core = r.core.setHangUp .waitingForTts := by
    rw [core_setHangUp, core_flushTts, core_emitContent, core_trace]
  unfold onHangUp Coordinator.agentHangUp
  dsimp only
  rw [show r.core.tts = (r.core.setHangUp .waitingForTts).tts from rfl, ← pending]
  split
  · exact (if_pos ‹_›).symm
  · rw [core_initiateShutdown]
    exact (if_neg ‹_›).symm

/-- **LLM events refine.** -/
theorem core_onLlmEvent (event : LlmEvent) (r : Reactor β) :
    (r.onLlmEvent event).core = r.core.llmEvent event := by
  cases event with
  | token text => exact core_onToken text r
  | finished content => exact core_onFinished content r
  | toolCallStarted id name sideEffect => exact core_onToolCallStarted id name sideEffect r
  | toolCallCompleted id name success errorMessage =>
    exact core_onToolCallCompleted id name success errorMessage r
  | error message =>
    simp only [onLlmEvent, core_startIdleTimer, core_cancelTts,
      core_emit_silent (fun _ => rfl : Silent (.error "llm" message)), Coordinator.llmEvent]
  | hangUp reason content => exact core_onHangUp content r
  | onHold durationSecs =>
    unfold onLlmEvent Coordinator.llmEvent
    dsimp only
    rw [core_startIdleTimer, core_setReengagement, core_trace]
    rfl
  | llmComplete data => exact core_emit_silent (fun _ => rfl) r

/-! ## TTS -/

/-- Audio is sent. -/
theorem core_sendAudio (pcm : Bytes) (r : Reactor β) :
    (r.sendAudio pcm).core = r.core.leave (.audio r.turnPhase.isSpeaking) :=
  core_note_of_some rfl _

/-- Audio of the greeting is marked in the log only. -/
@[simp] theorem core_markGreetingAudio (r : Reactor β) : r.markGreetingAudio.core = r.core := by
  unfold markGreetingAudio
  cases r.sessionPhase <;> rfl

/-- Audio of the TTS is sent unless the user speaks. -/
theorem core_onTtsAudio (pcm : Bytes) (r : Reactor β) :
    (r.onTtsAudio pcm).core =
      if r.core.turnPhase.isSpeaking then r.core
      else r.core.sendAudio := by
  have sent (h : r.turnPhase.isSpeaking = false) :
      ((r.markGreetingAudio.setBotAudioSent true).sendAudio pcm).core = r.core.sendAudio := by
    have quiet : (r.markGreetingAudio.setBotAudioSent true).turnPhase.isSpeaking = false :=
      (congrArg (fun c : Coordinator β => c.turnPhase.isSpeaking)
        (core_markGreetingAudio r)).trans h
    rw [core_sendAudio, quiet, core_setBotAudioSent, core_markGreetingAudio]
    rfl
  unfold onTtsAudio
  rw [show r.core.turnPhase = r.turnPhase from rfl]
  cases h : r.turnPhase with
  | userSpeaking active => rfl
  | listening | waitingForTranscript key | transcriptTimedOut | eotFallback key
  | bargeInWordCount => exact sent (by rw [h]; rfl)

/-- The end of the greeting is logged only. -/
@[simp] theorem core_emitGreetingTtsComplete (r : Reactor β) :
    r.emitGreetingTtsComplete.core = r.core := by
  unfold emitGreetingTtsComplete
  split
  · rfl
  · dsimp only
    split
    · rfl
    · rw [core_emit_silent (fun _ => rfl)]
      rfl

/-- The span of the turn ends in the log only. -/
@[simp] theorem core_finishTurnSpan (r : Reactor β) : r.finishTurnSpan.core = r.core :=
  core_withTracer fun event h => by
    simp only [Tracer.finishTurn] at h
    split at h
    · cases h
    · simp only [List.mem_append, List.mem_singleton] at h
      rcases h with (h | h) | h
      · split at h
        · rw [List.mem_singleton.1 h]
          exact fun _ => rfl
        · cases h
      · split at h
        · rw [List.mem_singleton.1 h]
          exact fun _ => rfl
        · cases h
      · exact h ▸ fun _ => rfl

/-- The playback estimate a TTS event is handled with. -/
def remaining (r : Reactor β) : Duration := r.playback.remainingPlayback r.world.now

/-- Events do not touch what remains to be played. -/
@[simp] theorem remaining_emitAll (events : List Event) (r : Reactor β) :
    (r.emitAll events).remaining = r.remaining := by
  unfold emitAll
  induction events generalizing r with
  | nil => rfl
  | cons event events ih => exact ih (r.emit event)

/-- The tracer does not touch what remains to be played. -/
@[simp] theorem remaining_withTracer (method : Tracer → Tracer × List Event) (r : Reactor β) :
    (r.withTracer method).remaining = r.remaining :=
  remaining_emitAll _ _

/-- The end of the greeting in the log does not touch what remains to be played. -/
@[simp] theorem remaining_emitGreetingTtsComplete (r : Reactor β) :
    r.emitGreetingTtsComplete.remaining = r.remaining := by
  unfold emitGreetingTtsComplete
  split
  · rfl
  · dsimp only
    split <;> rfl

/-- The greeting is over. -/
theorem core_finishGreeting (r : Reactor β) :
    r.finishGreeting.core = r.core.finishGreeting r.remaining := by
  have kept : ((r.emitGreetingTtsComplete.withTracer Tracer.cancelTurn).setSessionPhase
      .active).remaining = r.remaining :=
    (remaining_withTracer _ _).trans (remaining_emitGreetingTtsComplete r)
  unfold finishGreeting startIdleTimerAfterGreetingWithOffset
  dsimp only
  rw [core_startIdleTimerInner, core_resetPlayback, core_setSessionPhase, core_cancelTurn,
    core_emitGreetingTtsComplete]
  exact congrArg (fun offset => Coordinator.startIdleTimer offset true _) kept

/-- A spoken turn is over. -/
theorem core_finishSpokenTurn (r : Reactor β) :
    r.finishSpokenTurn.core = r.core.finishSpokenTurn r.remaining := by
  have kept : r.finishTurnSpan.remaining = r.remaining := remaining_withTracer _ _
  have closed := core_finishTurnSpan r
  unfold finishSpokenTurn Coordinator.finishSpokenTurn
  rw [← closed, ← kept]
  generalize r.finishTurnSpan = r
  rw [show r.core.hangUp = r.hangUp from rfl]
  dsimp only
  rw [show r.resetPlayback.hangUp = r.hangUp from rfl,
    show r.playback.remainingPlayback r.world.now = r.remaining from rfl]
  cases r.hangUp with
  | waitingForTts =>
    dsimp only
    split
    · rw [core_initiateShutdown, core_resetPlayback]
    · rfl
  | idle | waitingForDelay key =>
    refine (core_startIdleTimerInner _ _ _).trans ?_
    rw [core_resetPlayback]

/-- **The TTS has finished.** -/
theorem core_onTtsFinished (r : Reactor β) :
    r.onTtsFinished.core = r.core.ttsEvent .finished r.remaining := by
  have traced := core_trace "TtsFinished" r
  have kept : (r.trace "TtsFinished").remaining = r.remaining := remaining_withTracer _ _
  unfold onTtsFinished
  rw [← traced, ← kept]
  generalize r.trace "TtsFinished" = r
  have quiet : (r.setTts r.tts.markFinished).core = r.core.quietTts := rfl
  unfold Coordinator.ttsEvent
  rw [← quiet, show r.core.llm = r.llm from rfl, show r.core.seGuard = r.seGuard from rfl,
    show r.core.sessionPhase = r.sessionPhase from rfl]
  dsimp only
  rw [show (r.setTts r.tts.markFinished).llm = r.llm from rfl,
    show (r.setTts r.tts.markFinished).seGuard = r.seGuard from rfl,
    show (r.setTts r.tts.markFinished).sessionPhase = r.sessionPhase from rfl]
  split
  · rfl
  · cases r.sessionPhase with
    | greetingPlaying => exact core_finishGreeting _
    | nascent | active => exact core_finishSpokenTurn _

/-- **TTS events refine.** -/
theorem core_onTtsEvent (event : TtsEvent) (r : Reactor β) :
    (r.onTtsEvent event).core = r.core.ttsEvent event r.remaining := by
  cases event with
  | audio pcm => exact core_onTtsAudio pcm r
  | finished => exact core_onTtsFinished r
  | error reason =>
    simp only [onTtsEvent, core_startIdleTimer, core_resetPlayback, core_setTts,
      Coordinator.ttsEvent]
    rfl

/-! ## Timers -/

/-- A suppressed response is spoken. -/
theorem core_replaySuppressed (text : String) (r : Reactor β) :
    (r.replaySuppressed text).core =
      (r.core.setLlmTurn .idle).startTtsForTurn := by
  obtain ⟨-, started⟩ := core_startTtsForTurn (r.setLlmTurn .idle)
  unfold replaySuppressed
  rw [← core_setLlmTurn, ← started]
  cases h : (r.setLlmTurn .idle).startTtsForTurn.1
  · rw [show (r.setLlmTurn .idle).startTtsForTurn =
      (false, (r.setLlmTurn .idle).startTtsForTurn.2) from Prod.ext h rfl]
    dsimp only
    rw [core_flushTts, core_sendTtsToken, core_emit_transcript]
  · rw [show (r.setLlmTurn .idle).startTtsForTurn =
      (true, (r.setLlmTurn .idle).startTtsForTurn.2) from Prod.ext h rfl]

/-- A suppressed response is spoken, or the user is nudged. -/
theorem core_replayOrNudge (isShort : Bool) (r : Reactor β) :
    (r.replayOrNudge isShort).core = r.core.replayOrNudge isShort := by
  unfold replayOrNudge Coordinator.replayOrNudge Coordinator.suppressedResponse
  rw [show r.core.toCoordination = r.toCoordination from rfl]
  split
  · rfl
  · rcases r.llmTurn with _ | _ | (_ | text)
    · exact core_startNudgeTurn _ r
    · exact core_startNudgeTurn _ r
    · exact core_startNudgeTurn _ r
    · exact core_replaySuppressed text r

/-- **The timer of an incomplete turn.** -/
theorem core_onTurnCompletion (r : Reactor β) :
    r.onTurnCompletion.core = r.core.turnCompletionFired := by
  have traced := core_trace "TurnCompletionTimeout" r
  unfold onTurnCompletion Coordinator.turnCompletionFired
  rw [← traced]
  generalize r.trace "TurnCompletionTimeout" = r
  rw [show r.core.reengagement = r.reengagement from rfl]
  dsimp only
  cases r.reengagement.onTurnCompletionFired with
  | none => rfl
  | some fired => exact core_replayOrNudge _ _

/-- The user is nudged, or the agent hangs up. -/
theorem core_nudgeOrHangUp (retryCount : ℕ) (r : Reactor β) :
    (r.nudgeOrHangUp retryCount).core = r.core.nudgeOrHangUp retryCount := by
  unfold nudgeOrHangUp Coordinator.nudgeOrHangUp
  rw [show r.core.toCoordination = r.toCoordination from rfl]
  split
  · rw [core_startNudgeTurn, core_emitAgentEvent]
  · split
    · rfl
    · split
      · exact core_initiateShutdown r
      · rfl

/-- **The idle timer.** -/
theorem core_onUserIdle (r : Reactor β) : r.onUserIdle.core = r.core.userIdleFired := by
  have traced := core_trace "UserIdle" r
  unfold onUserIdle Coordinator.userIdleFired
  rw [← traced]
  generalize r.trace "UserIdle" = r
  rw [show r.core.reengagement = r.reengagement from rfl]
  dsimp only
  cases r.reengagement.onUserIdleFired with
  | none => rfl
  | some fired => exact core_nudgeOrHangUp _ _

/-- **The watchdog of a side effect.** -/
theorem core_onSideEffectTimeout (r : Reactor β) :
    r.onSideEffectTimeout.core = r.core.sideEffectTimeout := by
  unfold onSideEffectTimeout Coordinator.sideEffectTimeout SideEffectToolsGuard.onTimeout
    SideEffectToolsGuard.isActive
  rw [show r.core.seGuard = r.seGuard from rfl]
  dsimp only
  by_cases active : 0 < r.seGuard.inFlight
  · rw [if_pos active, if_pos (decide_eq_true active)]
    cases r.seGuard.deferredTranscript with
    | some text => exact core_replayDeferred text _
    | none => exact core_cancelPipeline _
  · rw [if_neg active, if_neg (by simpa using active)]
    rfl

/-- **The delay of a hang-up.** -/
theorem core_onHangUpDelay (r : Reactor β) :
    r.onHangUpDelay.core = r.core.hangUpDelayFired := by
  unfold onHangUpDelay Coordinator.hangUpDelayFired
  rw [show r.core.hangUp = r.hangUp from rfl]
  dsimp only
  rw [core_initiateShutdown]
  cases h : r.hangUp with
  | waitingForDelay key => rfl
  | idle | waitingForTts =>
    exact congrArg (fun phase => (r.core.setHangUp phase).initiateShutdown) h

/-- **Fired timers refine.** -/
theorem core_onTimer (key : TimerKey) (r : Reactor β) :
    (r.onTimer key).core = r.core.timerFired key := by
  cases key with
  | endOfTurnFallback => exact core_dispatch_eotFallback r
  | turnCompletion => exact core_onTurnCompletion r
  | userIdle => exact core_onUserIdle r
  | sideEffectTimeout => exact core_onSideEffectTimeout r
  | sttTimeout =>
    exact (core_dispatch_sttTimeout _).trans (congrArg _ (core_trace "SttTimeout" r))
  | hangUpDelay => exact core_onHangUpDelay r

/-! ## Steps -/

/-- An input that leaves no mark changes nothing. -/
theorem core_receive_silent {input : ReactorInput} (h : (Effect.received input).mark = none)
    (r : Reactor β) : (r.receive input).core = r.core :=
  core_note_of_none h r

/-- **Handling refines.** -/
theorem core_handle (input : Input β) (r : Reactor β) :
    (r.handle input).core = r.core.handle input r.remaining := by
  cases input with
  | vad event verdict =>
    simp only [handle, core_computeAndEmitState, core_onVadEvent,
      core_receive_silent (rfl : (Effect.received (.vadEvent event)).mark = none)]
    cases event <;> rfl
  | stt event =>
    cases event with
    | transcript text =>
      simp only [handle, core_computeAndEmitState, core_onTranscript, Coordinator.handle]
      exact congrArg _ (core_note_of_some rfl r)
    | firstTextReceived | partialTranscript text | error reason =>
      exact (core_computeAndEmitState _).trans (core_note_of_none rfl r)
  | llm poll =>
    unfold handle Coordinator.handle
    rw [show r.core.llm = r.llm from rfl]
    dsimp only
    split
    · rcases LlmStage.recv poll r.llm with ⟨_ | event, llm⟩
      · rfl
      -- What the stage yields is the mark of the event.
      · have received : ((r.setLlm llm).receive (.llmEvent event)).core =
            r.core.polled event llm := core_note_of_some rfl _
        dsimp only
        rw [core_computeAndEmitState, core_onLlmEvent, received]
    · rfl
  | tts event =>
    unfold handle Coordinator.handle
    rw [show r.core.tts = r.tts from rfl]
    dsimp only
    split
    · rw [core_computeAndEmitState, core_onTtsEvent,
        core_receive_silent (rfl : (Effect.received (.ttsEvent event)).mark = none)]
      rfl
    · rfl
  | timer key =>
    unfold handle Coordinator.handle
    rw [show r.core.timers = r.timers from rfl, show r.core.world = r.world from rfl]
    dsimp only
    cases r.timers.due key r.world.now with
    | none => rfl
    | some entry =>
      dsimp only
      rw [core_computeAndEmitState, core_onTimer,
        core_receive_silent (rfl : (Effect.received (.timerFired entry.value)).mark = none)]
      rfl

/-- **The reactor refines the coordinator machine**: its step is the machine's step, taken with
the playback estimate of the reactor. -/
theorem core_step (r : Reactor β) (m : Moment β) :
    (r.step m).core = r.core.step m (r.playback.remainingPlayback m.world.now) := by
  unfold step Coordinator.step
  rw [show r.core.shouldExit = r.shouldExit from rfl]
  split
  · rfl
  · exact core_handle m.input (r.setWorld m.world)

end Reactor

/-! ## Start -/

namespace Coordinator

variable {β : Type} [AgentBackend β]

/-- **A coordinator before its session starts.** -/
structure Fresh (c : Coordinator β) : Prop where
  tts : c.tts = .new
  timers : c.timers = .empty
  reengagement : c.reengagement = .default
  turnPhase : c.turnPhase = .listening
  seGuard : c.seGuard = .default
  sessionPhase : c.sessionPhase = .nascent
  llmTurn : c.llmTurn = .idle
  hangUp : c.hangUp = .idle
  botAudioSent : c.botAudioSent = false
  shouldExit : c.shouldExit = false
  trail : c.trail = []

/-- A fresh coordinator is so with any LLM. -/
theorem Fresh.withLlm {c : Coordinator β} (fresh : c.Fresh) (llm : β) :
    (c.setLlm llm).Fresh :=
  ⟨fresh.tts, fresh.timers, fresh.reengagement, fresh.turnPhase, fresh.seGuard,
    fresh.sessionPhase, fresh.llmTurn, fresh.hangUp, fresh.botAudioSent, fresh.shouldExit,
    fresh.trail⟩

/-- **A coordinator whose session has just started**: it waits for the user, after no greeting or
one that was sent whole, or the greeting is playing. -/
inductive Opened : Coordinator β → Prop where
  | waiting {c : Coordinator β} (fresh : c.Fresh) (offset : Duration) :
    Opened (c.startIdleTimer offset true)
  | greeted {c : Coordinator β} (fresh : c.Fresh) (offset : Duration) :
    Opened (c.sendAudio.startIdleTimer offset true)
  | greeting {c : Coordinator β} (fresh : c.Fresh) (ws : c.wsTtsCmdTx = true) :
    Opened { c.startTtsForTurn with sessionPhase := .greetingPlaying }

end Coordinator

namespace Reactor

variable {β : Type} [AgentBackend β]

/-- The greeting goes into the conversation. -/
theorem core_announceGreeting (greeting : String) (r : Reactor β) :
    (r.announceGreeting greeting).core =
      r.core.setLlm (AgentBackend.addAssistantMessage greeting r.core.llm) := by
  unfold announceGreeting
  dsimp only
  split
  · rw [core_addAssistantMessage, core_setState]
  · rw [core_emit_transcript, core_addAssistantMessage, core_setState]

/-- The audio of a greeting is sent while nobody speaks. -/
theorem core_sendGreetingAudio (greeting : String) (pcm : Bytes) (r : Reactor β)
    (h : r.turnPhase.isSpeaking = false) :
    (r.sendGreetingAudio greeting pcm).core = r.core.sendAudio := by
  have sent : ((r.beginCursorTurn.sendAudio pcm).setBotAudioSent true).core =
      r.core.sendAudio := by
    rw [core_setBotAudioSent, core_sendAudio, show r.beginCursorTurn.turnPhase = r.turnPhase
      from rfl, h, core_beginCursorTurn]
    rfl
  unfold sendGreetingAudio
  dsimp only
  split
  · exact sent
  · rw [core_emit_silent (fun _ => rfl), sent]

/-- The observability of the greeting is a matter of the log. -/
theorem core_setGreetingObservability (obs : GreetingObservability) (r : Reactor β) :
    (r.setGreetingObservability obs).core = r.core := rfl

/-- A session whose greeting was synthesized over HTTP is open. -/
theorem opened_playGreetingHttp (greeting : String) (pcm : Option Bytes) {r : Reactor β}
    (fresh : r.core.Fresh) : (r.playGreetingHttp greeting pcm).core.Opened := by
  have announced : (r.announceGreeting greeting).core.Fresh :=
    core_announceGreeting greeting r ▸ fresh.withLlm _
  unfold playGreetingHttp startIdleTimerAfterGreetingWithOffset
  dsimp only
  generalize r.announceGreeting greeting = r at announced ⊢
  rw [core_startIdleTimerInner, core_resetPlayback, core_setState]
  split
  · rw [core_sendGreetingAudio _ _ _ (congrArg TurnPhase.isSpeaking announced.turnPhase)]
    exact .greeted announced _
  · exact .waiting announced _

/-- A session whose greeting is streamed is open. -/
theorem opened_initiateGreetingWs (greeting : String) {r : Reactor β}
    (fresh : r.core.Fresh) (ws : r.wsTtsCmdTx = true) :
    ((r.initiateGreetingWs greeting).setSessionPhase .greetingPlaying).core.Opened := by
  have announced := core_announceGreeting greeting r
  unfold initiateGreetingWs
  dsimp only
  rw [core_setSessionPhase, core_flushTts, core_feedToken, (core_startTtsForTurn _).2]
  rw [core_setGreetingObservability, announced]
  exact .greeting (fresh.withLlm _) ws

/-- **A session that was greeted is open.** -/
theorem opened_greet (greetingPcm : Option Bytes) {r : Reactor β} (fresh : r.core.Fresh) :
    (r.greet greetingPcm).core.Opened := by
  have ready : ((r.emit .sessionReady).setState .listening).core = r.core := by
    rw [core_setState, core_emit_silent (fun _ => rfl)]
  unfold greet
  dsimp only
  rw [← ready] at fresh
  generalize (r.emit .sessionReady).setState .listening = r at fresh ⊢
  cases r.config.greeting with
  | none =>
    rw [startIdleTimerAfterGreeting, core_startIdleTimerInner]
    exact .waiting fresh _
  | some greeting =>
    dsimp only
    split
    · exact opened_initiateGreetingWs greeting fresh ‹_›
    · exact opened_playGreetingHttp greeting greetingPcm fresh

/-- A successful start connects and greets. -/
theorem eq_greet_of_start {env : StartEnv} {r s : Reactor β} (h : r.start env = .ok s) :
    s = (r.connect env).greet env.greetingPcm := by
  unfold start at h
  cases hd : env.denoiser <;> cases hv : env.vad <;> cases hs : env.stt <;>
    rw [hd, hv, hs] at h <;> cases h
  rfl

/-- **A started session opens the machine.** -/
theorem Started.opened {r : Reactor β} (h : Started r) : r.core.Opened := by
  obtain ⟨config, backend, ttsMode, unicodeWords, world, env, h⟩ := h
  rw [eq_greet_of_start h]
  exact opened_greet _ ⟨rfl, rfl, rfl, rfl, rfl, rfl, rfl, rfl, rfl, rfl, rfl⟩

end Reactor

end Feros
