import Feros.Reactor.Pipeline
/-! # The event handlers

`dispatchTurnEvent` runs the guards and the turn statechart; the handlers of the five kinds of
input follow, one section each. -/

namespace Feros

namespace Reactor

variable {β : Type} [AgentBackend β]

/-! ## Turn coordinator -/

/-- `tracer.mark_speech_ended`. -/
def markSpeechEnded (r : Reactor β) : Reactor β := { r with tracer := r.tracer.markSpeechEnded }

/-- Execute a single action returned by the transition function. -/
def executeTurnAction (action : TurnAction) (r : Reactor β) : Reactor β :=
  match action with
  | .emitInterrupt => r.emit .interrupt
  | .clearBotAudioSent => r.setBotAudioSent false
  | .emitAgentEvent kind => r.emitAgentEvent kind
  | .cancelPipeline => r.cancelPipeline
  | .finalizeStt => r.finalizeStt
  | .commitTurn text =>
    -- Prepend any buffered orphaned transcript.
    let (deferred, seGuard) := r.seGuard.takeDeferred
    let r := r.setSeGuard seGuard
    let text := SideEffectToolsGuard.prepend deferred text
    if isBlank text then r.startIdleTimer else r.commitTurnText text
  | .bufferTranscript text => r.setSeGuard (r.seGuard.bufferTranscript text)
  | .commitBargeIn text =>
    let wordCount := (r.unicodeWords text).length % 2 ^ 32
    if shouldAccept true wordCount r.config.minBargeInWords then r.commitTurnText text
    else (r.note (.bargeInRejected text)).startIdleTimer
  | .commitLateTranscript text =>
    if r.isPipelineActive then r.note (.lateTranscriptDropped text) else r.commitTurnText text
  | .cancelTimer key => r.removeTimer (some key)
  | .startIdleTimer => r.startIdleTimer
  | .markSpeechEnded => r.markSpeechEnded
  | .trace name => r.trace name
  | .markSttFinalizeSent => r

/-- Execute the actions of a transition, in order. -/
def executeActions (actions : List TurnAction) (r : Reactor β) : Reactor β :=
  actions.foldl (fun r action => r.executeTurnAction action) r

/-- Turn the named next phase into a phase, allocating the timer key it needs. -/
def resolveNextPhase (next : NextPhase) (r : Reactor β) : Reactor β :=
  match next with
  | .set phase => r.setTurnPhase phase
  | .waitForTranscript =>
    let timeoutMs := max (r.config.sttP99LatencyMs - r.vadSilenceMs) 100
    let (timerKey, timers) :=
      r.timers.insert .sttTimeout (r.world.now + Duration.fromMillis timeoutMs)
    (r.setTimers timers).setTurnPhase (.waitingForTranscript timerKey)
  | .startEotFallback =>
    let (timerKey, timers) :=
      r.timers.insert .endOfTurnFallback (r.world.now + Duration.fromSecs 3)
    (r.setTimers timers).setTurnPhase (.eotFallback timerKey)

/-- Feed an event to the statechart and execute what it returns. -/
def runTransition (event : TurnEvent) (r : Reactor β) : Reactor β :=
  let (next, actions) := r.turnPhase.transition event
  (r.resolveNextPhase next).executeActions actions

/-- **Central dispatch for all turn-lifecycle events.** -/
def dispatchTurnEvent (event : TurnEvent) (r : Reactor β) : Reactor β :=
  match event, r.hangUp.isPending, r.seGuard.isActive with
  -- Guard: hang-up in progress, new-turn events are suppressed.
  | .speechStarted _ _, true, _ => r
  | .transcript _, true, _ => r
  -- Guard: side-effect tools running, transcripts are buffered and `SpeechEnded` is protected.
  | .transcript text, false, true => r.setSeGuard (r.seGuard.bufferTranscript text)
  | .speechEnded _, _, true =>
    let r := r.finalizeStt
    let (turnPhase, timers) := r.turnPhase.reset r.timers
    (r.setTurnPhase turnPhase).setTimers timers
  | event, _, _ => r.runTransition event

/-! ## VAD -/

/-- Handle a VAD event; `verdict` is what a SmartTurn model would predict. -/
def onVadEvent (event : VadEvent) (verdict : Bool) (r : Reactor β) : Reactor β :=
  match event with
  | .speechStarted =>
    let r := r.trace "SpeechStarted"
    let r := r.setSessionPhase .active
    -- Cancel re-engagement: the user is active.
    let r := r.cancelReengagement
    r.dispatchTurnEvent (.speechStarted r.isPipelineActive r.botAudioSent)
  | .speechEnded _ =>
    let r := r.trace "SpeechEnded"
    let smartComplete := if r.smartTurn then verdict else true
    r.dispatchTurnEvent (.speechEnded smartComplete)

/-! ## STT -/

/-- Handle an STT event; only final transcripts matter to the pipeline. -/
def onSttEvent (event : SttEvent) (r : Reactor β) : Reactor β :=
  match event with
  | .firstTextReceived => r
  | .partialTranscript _ => r
  | .error _ => r
  | .transcript text => (r.trace "Transcript").dispatchTurnEvent (.transcript text)

/-! ## LLM -/

/-- What the marker check found, while the stream is still open. -/
def onMarkerCheck (marker : Option TurnCompletion) (emittedText : String) (r : Reactor β) :
    Reactor β :=
  match marker with
  | some .incompleteShort =>
    (r.armTurnCompletionWait .incompleteShort).setLlmTurn (.suppressing none)
  | some .incompleteLong =>
    (r.armTurnCompletionWait .incompleteLong).setLlmTurn (.suppressing none)
  | _ => if emittedText.isEmpty then r else r.sendTtsToken emittedText

/-- Track the text length of the turn. -/
def countTokenText (token : String) (r : Reactor β) : Reactor β :=
  { r with turnTextLen := r.turnTextLen + (trim token).utf8ByteSize }

/-- A token of the stream. -/
def onToken (token : String) (r : Reactor β) : Reactor β :=
  let r := r.countTokenText token
  let (llmTurn, action) := r.llmTurn.processToken token r.config.turnCompletionEnabled
  let r := r.setLlmTurn llmTurn
  match action with
  | .drop => r
  | .accumulate => r
  | .passthrough token => r.sendTtsToken token
  | .markerCheckCompleted marker emittedText => r.onMarkerCheck marker emittedText

/-- Arm the side-effect watchdog in place of the running one. -/
def rearmWatchdog (cancelKey : Option Key) (r : Reactor β) : Reactor β :=
  let r := r.removeTimer cancelKey
  let (key, timers) := r.timers.insert .sideEffectTimeout (r.world.now + Duration.fromSecs 30)
  (r.setTimers timers).setSeGuard (r.seGuard.setWatchdogKey key)

/-- Show the text that was spoken before a tool call. -/
def showSpokenText (r : Reactor β) : Reactor β :=
  let shown := { r with turnSpokenText := "" }
  if r.turnSpokenText.isEmpty then shown else shown.emitAssistant r.turnSpokenText

/-- Count a side-effect tool and rearm the watchdog. -/
def startSideEffectTool (id name : String) (r : Reactor β) : Reactor β :=
  let (seGuard, action) := r.seGuard.toolStarted id name
  let r := r.setSeGuard seGuard
  match action with
  | .rearmWatchdog cancelKey => r.rearmWatchdog cancelKey
  | _ => r

/-- A tool execution has started. -/
def onToolCallStarted (id name : String) (sideEffect : Bool) (r : Reactor β) : Reactor β :=
  let r := (r.trace "ToolCall").showSpokenText
  let r := if sideEffect then r.startSideEffectTool id name else r
  r.emit (.toolActivity (some id) name "executing" none)

/-- A tool execution has completed. -/
def onToolCallCompleted (id name : String) (success : Bool) (errorMessage : Option String)
    (r : Reactor β) : Reactor β :=
  let activity : Event :=
    .toolActivity (some id) name (if success then "completed" else "error") errorMessage
  let (seGuard, action) := r.seGuard.toolCompleted id
  let r := r.setSeGuard seGuard
  match action with
  | .cancelWatchdog cancelKey deferred =>
    let r := r.removeTimer cancelKey
    match deferred with
    -- The window is over: cancel the pipeline and replay the deferred transcript.
    | some text => (r.emit activity).replayDeferred text
    | none => r.emit activity
  | _ => r.emit activity

/-- Show the content of a response, if there is one. -/
def emitContent (content : Option String) (r : Reactor β) : Reactor β :=
  match content with
  | some text => r.emitAssistant text
  | none => r

/-- Count a completed LLM turn. -/
def countTurn (r : Reactor β) : Reactor β := { r with turnCount := r.turnCount + 1 }

/-- The end of a turn that was spoken: flush TTS, show the answer, count the turn. -/
def finishLlmTurn (content : Option String) (r : Reactor β) : Reactor β :=
  let r := r.flushTts
  (r.emitContent content).countTurn

/-- The stream has ended; `action` is what the late marker check found. -/
def onStreamEnd (action : Option TokenAction) (content : Option String) (r : Reactor β) :
    Reactor β :=
  match action with
  | some (.markerCheckCompleted marker emittedText) =>
    match marker with
    | some .incompleteShort =>
      (r.armTurnCompletionWait .incompleteShort).saveSuppressedResponse content
    | some .incompleteLong =>
      (r.armTurnCompletionWait .incompleteLong).saveSuppressedResponse content
    | _ => (if emittedText.isEmpty then r else r.sendTtsToken emittedText).finishLlmTurn content
  | _ => r.finishLlmTurn content

/-- The agentic turn has finished. -/
def onFinished (content : Option String) (r : Reactor β) : Reactor β :=
  let r := r.trace "LlmFinished"
  match r.llmTurn with
  -- Suppressing: keep the response for replay.
  | .suppressing _ => (r.saveSuppressedResponse content).startIdleTimer
  | _ =>
    let (llmTurn, action) := r.llmTurn.processLateFlush r.config.turnCompletionEnabled
    (r.setLlmTurn llmTurn).onStreamEnd action content

/-- The agent has decided to end the call. -/
def onHangUp (content : Option String) (r : Reactor β) : Reactor β :=
  let r := r.trace "HangUp"
  -- Let the goodbye TTS finish playing before closing.
  let r := (r.emitContent content).flushTts.setHangUp .waitingForTts
  if r.tts.isActive then r else r.initiateShutdown

/-- **Handle an LLM event.** -/
def onLlmEvent (event : LlmEvent) (r : Reactor β) : Reactor β :=
  match event with
  | .token token => r.onToken token
  | .toolCallStarted id name sideEffect => r.onToolCallStarted id name sideEffect
  | .toolCallCompleted id name success errorMessage =>
    r.onToolCallCompleted id name success errorMessage
  | .finished content => r.onFinished content
  | .error message => ((r.emit (.error "llm" message)).cancelTts).startIdleTimer
  | .onHold durationSecs =>
    let r := r.trace "OnHold"
    let held := r.reengagement.holdFor r.world.now (Duration.fromSecs durationSecs)
    (r.setReengagement (held, r.timers)).startIdleTimer
  | .hangUp _ content => r.onHangUp content
  | .llmComplete data => r.emit (.llmComplete data)

/-! ## TTS -/

/-- The first audio of a playing greeting. -/
def markGreetingAudio (r : Reactor β) : Reactor β :=
  match r.sessionPhase with
  | .greetingPlaying =>
    { r with greetingObservability :=
        r.greetingObservability.map (GreetingObservability.markFirstAudio r.world.now) }
  | _ => r

/-- Count, stamp and emit an audio chunk. -/
def sendAudio (pcm : Bytes) (r : Reactor β) : Reactor β :=
  let (offsetSamples, ttsCursor) := r.ttsCursor.stamp r.world.now pcm.length
  { r with
    playback := r.playback.record r.world.now pcm.length
    ttsCursor := ttsCursor }.emit (.agentAudio pcm r.config.outputSampleRate offsetSamples)

/-- An audio chunk, dropped while the user is speaking. -/
def onTtsAudio (pcm : Bytes) (r : Reactor β) : Reactor β :=
  match r.turnPhase.audioOutputPermit with
  | none => r
  | some _ =>
    (r.markGreetingAudio.setBotAudioSent true).sendAudio pcm

/-- The `TtsComplete` event of the greeting. -/
def emitGreetingTtsComplete (r : Reactor β) : Reactor β :=
  match r.greetingObservability with
  | none => r
  | some obs =>
    let r := { r with greetingObservability := none }
    if isBlank obs.text then r
    else r.emit (.ttsComplete r.config.ttsProvider r.config.ttsModel obs.text r.config.voiceId
      obs.text.length)

/-- The greeting has been synthesised. -/
def finishGreeting (r : Reactor β) : Reactor β :=
  let r := r.emitGreetingTtsComplete
  let r := r.withTracer Tracer.cancelTurn
  let r := r.setSessionPhase .active
  let remaining := r.playback.remainingPlayback r.world.now
  let r := r.resetPlayback
  r.startIdleTimerAfterGreetingWithOffset remaining

/-- Close the span of a spoken turn. -/
def finishTurnSpan (r : Reactor β) : Reactor β :=
  r.withTracer <| Tracer.finishTurn false r.config.ttsProvider r.config.ttsModel r.config.voiceId

/-- A turn has been synthesised: close the span, then hang up or wait for the user. -/
def finishSpokenTurn (r : Reactor β) : Reactor β :=
  let r := r.finishTurnSpan
  let remaining := r.playback.remainingPlayback r.world.now
  let r := r.resetPlayback
  match r.hangUp with
  | .waitingForTts =>
    if remaining = 0 then r.initiateShutdown
    else
      let (timerKey, timers) := r.timers.insert .hangUpDelay (r.world.now + remaining)
      (r.setTimers timers).setHangUp (.waitingForDelay timerKey)
  | _ => r.startIdleTimerWithOffset remaining

/-- TTS finished synthesising all queued tokens. -/
def onTtsFinished (r : Reactor β) : Reactor β :=
  let r := r.trace "TtsFinished"
  let r := r.setTts r.tts.markFinished
  -- Still in a tool round: the real finish comes after the post-tool response.
  if AgentBackend.isActive r.llm || r.seGuard.isActive then
    r.resetPlayback
  else
    match r.sessionPhase with
    | .greetingPlaying => r.finishGreeting
    | _ => r.finishSpokenTurn

/-- **Handle a TTS event.** -/
def onTtsEvent (event : TtsEvent) (r : Reactor β) : Reactor β :=
  match event with
  | .audio pcm => r.onTtsAudio pcm
  | .finished => r.onTtsFinished
  | .error _ => (r.setTts r.tts.markFinished).resetPlayback.startIdleTimer

/-! ## Timers -/

/-- Replay the suppressed response of a ○/◐ turn through TTS. -/
def replaySuppressed (text : String) (r : Reactor β) : Reactor β :=
  match (r.setLlmTurn .idle).startTtsForTurn with
  | (true, r) => r
  | (false, r) => ((r.emit (.transcript "assistant" text)).sendTtsToken text).flushTts

/-- The wait after a ○ or ◐ is over: replay what was suppressed, or nudge. -/
def replayOrNudge (isShort : Bool) (r : Reactor β) : Reactor β :=
  if r.isPipelineActive then r
  else
    match r.llmTurn with
    | .suppressing (some text) => r.replaySuppressed text
    | _ => r.startNudgeTurn (TurnCompletion.nudgePrompt isShort)

/-- `TurnCompletion` fired. -/
def onTurnCompletion (r : Reactor β) : Reactor β :=
  let r := r.trace "TurnCompletionTimeout"
  match r.reengagement.onTurnCompletionFired with
  | none => r
  | some (isShort, reengagement) =>
    (r.setReengagement (reengagement, r.timers)).replayOrNudge isShort

/-- The generic check-in of the user-idle timer. -/
def idleNudge : String :=
  "The user has been silent for a while. " ++
  "Check in with them naturally — ask if they need help " ++
  "or are still there. Be brief and warm."

/-- The user has been silent `retryCount` times: nudge, or hang up after the last nudge. -/
def nudgeOrHangUp (retryCount : ℕ) (r : Reactor β) : Reactor β :=
  if shouldNudgeIdle r.isPipelineActive r.config.idleTimeoutSecs retryCount
      r.config.idleMaxNudges then
    (r.emitAgentEvent "user_idle").startNudgeTurn idleNudge
  else if r.isPipelineActive then r
  -- Nudges exhausted: hang up.
  else if r.config.idleMaxNudges < retryCount ∧ 0 < r.config.idleMaxNudges then
    r.initiateShutdown
  else r

/-- `UserIdle` fired. -/
def onUserIdle (r : Reactor β) : Reactor β :=
  let r := r.trace "UserIdle"
  match r.reengagement.onUserIdleFired with
  | none => r
  | some (retryCount, reengagement) =>
    (r.setReengagement (reengagement, r.timers)).nudgeOrHangUp retryCount

/-- `SideEffectTimeout` fired: force the protection window closed. -/
def onSideEffectTimeout (r : Reactor β) : Reactor β :=
  let ((inFlight, deferred), seGuard) := r.seGuard.onTimeout
  let r := r.setSeGuard seGuard
  if 0 < inFlight then
    match deferred with
    | some text => r.replayDeferred text
    | none => r.cancelPipeline
  else r

/-- `HangUpDelay` fired. -/
def onHangUpDelay (r : Reactor β) : Reactor β :=
  let r := match r.hangUp with
    | .waitingForDelay _ => r.setHangUp .idle
    | _ => r
  r.initiateShutdown

/-- **Handle a fired timer.** -/
def onTimer (key : TimerKey) (r : Reactor β) : Reactor β :=
  match key with
  | .endOfTurnFallback => r.dispatchTurnEvent .eotFallback
  | .sttTimeout => (r.trace "SttTimeout").dispatchTurnEvent .sttTimeout
  | .turnCompletion => r.onTurnCompletion
  | .userIdle => r.onUserIdle
  | .sideEffectTimeout => r.onSideEffectTimeout
  | .hangUpDelay => r.onHangUpDelay

end Reactor

end Feros
