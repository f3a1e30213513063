import Feros.Reactor.Loop
/-! # The turn coordinator as a machine of its own

`Coordinator` is what is left of the reactor when the tracer, the playback estimate, the recording
cursor and the texts shown to the client are forgotten: the fields of `Coordination`, and the
`trail`, a list of the marks that the guarantees about turns speak of.  Each operation is stated as
what it does to these, by event rather than by action list.

The machine is the abstract level; `Feros.Coordinator.Refinement` shows that the reactor's step is
the machine's step on this view. -/

namespace Feros

/-- **The moments of a session the guarantees speak of.** -/
inductive Mark where
  /-- A final transcript was passed to the turn coordinator. -/
  | transcript (text : String)
  /-- The LLM stage yielded an event. -/
  | llmEvent (event : LlmEvent)
  /-- Agent audio was emitted; `speaking` if the user was speaking. -/
  | audio (speaking : Bool)
  /-- An `Interrupt` was emitted. -/
  | interrupt
  /-- A user message was added to the conversation. -/
  | userMessage (text : String)
  /-- `start_tts_for_turn` was called; `speaking` if the user was speaking. -/
  | startTts (speaking : Bool)
  /-- `start_turn` was called on the backend; `active` if a turn was active. -/
  | startTurn (active : Bool)
  /-- `cancel` was called on the backend. -/
  | cancel
  /-- The word gate rejected a barge-in transcript. -/
  | bargeInRejected (text : String)
  /-- A late transcript was dropped because the pipeline was active. -/
  | lateTranscriptDropped (text : String)
  deriving DecidableEq, Repr

/-- The mark an effect leaves, if any. -/
def Effect.mark : Effect → Option Mark
  | .received (.sttEvent (.transcript text)) => some (.transcript text)
  | .received (.llmEvent yielded) => some (.llmEvent yielded)
  | .event speaking (.agentAudio _ _ _) => some (.audio speaking)
  | .event _ .interrupt => some .interrupt
  | .backend _ (.addUserMessage text) => some (.userMessage text)
  | .startTtsForTurn speaking => some (.startTts speaking)
  | .backend active .startTurn => some (.startTurn active)
  | .backend _ .cancel => some .cancel
  | .bargeInRejected text => some (.bargeInRejected text)
  | .lateTranscriptDropped text => some (.lateTranscriptDropped text)
  | _ => none

/-- **The turn coordinator.** -/
structure Coordinator (β : Type) [AgentBackend β] extends Coordination β where
  /-- The marks left so far, oldest first. -/
  trail : List Mark

/-- The marks a reactor has left in its log. -/
def Reactor.trail {β : Type} [AgentBackend β] (r : Reactor β) : List Mark :=
  r.log.filterMap Effect.mark

/-- **The coordinator inside a reactor.** -/
def Reactor.core {β : Type} [AgentBackend β] (r : Reactor β) : Coordinator β :=
  { r.toCoordination with trail := r.trail }

/-- Take back the key a turn phase owns, when the phase is left for another. -/
def TurnPhase.release (phase : TurnPhase) (timers : DelayQueue TimerKey) : DelayQueue TimerKey :=
  match phase with
  | .waitingForTranscript timerKey => timers.remove timerKey
  | .eotFallback timerKey => timers.remove timerKey
  | _ => timers

/-- Take back the key a hang-up phase owns. -/
def HangUpPhase.release (phase : HangUpPhase) (timers : DelayQueue TimerKey) :
    DelayQueue TimerKey :=
  match phase with
  | .waitingForDelay timerKey => timers.remove timerKey
  | _ => timers

/-- A phase whose delay is over waits for nothing. -/
def HangUpPhase.delayOver : HangUpPhase → HangUpPhase
  | .waitingForDelay _ => .idle
  | phase => phase

/-- Take back the watchdog of the side-effect window. -/
def SideEffectToolsGuard.release (g : SideEffectToolsGuard) (timers : DelayQueue TimerKey) :
    DelayQueue TimerKey :=
  match g.timeoutKey with
  | some key => timers.remove key
  | none => timers

namespace Coordinator

variable {β : Type} [AgentBackend β]

/-- Leave a mark. -/
def leave (mark : Mark) (c : Coordinator β) : Coordinator β :=
  { c with trail := c.trail ++ [mark] }

/-- `self.llm = llm`. -/
def setLlm (llm : β) (c : Coordinator β) : Coordinator β := { c with llm := llm }

/-- `self.reengagement = reengagement`. -/
def setReengagement (reengagement : ReengagementTimer) (c : Coordinator β) : Coordinator β :=
  { c with reengagement := reengagement }

/-- `self.llm_turn = phase`. -/
def setLlmTurn (phase : LlmTurnPhase) (c : Coordinator β) : Coordinator β :=
  { c with llmTurn := phase }

/-- `self.hang_up = phase`. -/
def setHangUp (phase : HangUpPhase) (c : Coordinator β) : Coordinator β :=
  { c with hangUp := phase }

/-- `self.turn_phase = phase`. -/
def setTurnPhase (phase : TurnPhase) (c : Coordinator β) : Coordinator β :=
  { c with turnPhase := phase }

/-- `tts.mark_finished()`. -/
def quietTts (c : Coordinator β) : Coordinator β := { c with tts := c.tts.markFinished }

/-- `tts.cancel()`. -/
def cancelTts (c : Coordinator β) : Coordinator β := { c with tts := c.tts.cancel }

/-! ## Idle timer and cancelling -/

/-- (Re)start the user-idle timer. -/
def startIdleTimer (offset : Duration) (force : Bool) (c : Coordinator β) : Coordinator β :=
  if c.config.idleTimeoutSecs = 0 then c
  else if !force && !c.sessionPhase.allowsIdleTimer then c
  else
    let window := c.reengagement.extendByHold c.world.now
      (Duration.fromSecs c.config.idleTimeoutSecs + offset)
    { c with
      reengagement := (window.2.armIdle c.world.now window.1 c.timers).1
      timers := (window.2.armIdle c.world.now window.1 c.timers).2 }

/-- The queue without the entries a cancelled pipeline owned. -/
def releasedTimers (c : Coordinator β) : DelayQueue TimerKey :=
  (c.reengagement.cancel (c.seGuard.release (c.hangUp.release c.timers))).2

/-- **Cancel the pipeline**: everything but the turn phase is back to idle. -/
def cancelPipeline (c : Coordinator β) : Coordinator β :=
  { c with
    llm := (AgentBackend.cancel c.llm).2
    tts := .cancel c.tts
    sessionPhase := if c.sessionPhase = .greetingPlaying then .active else c.sessionPhase
    timers := c.releasedTimers
    seGuard := .default
    reengagement := .default
    llmTurn := .idle
    hangUp := .idle
    botAudioSent := false
    trail := c.trail ++ [.cancel, .interrupt] }

/-- Shut the session down. -/
def initiateShutdown (c : Coordinator β) : Coordinator β :=
  { c.cancelPipeline with shouldExit := true }

/-! ## Starting a turn -/

/-- The TTS stage with a session for a new turn, where a provider is available. -/
def openedTts (c : Coordinator β) : TtsStage :=
  if c.wsTtsCmdTx then c.tts.startWs
  else
    match c.ttsMode with
    | .http => c.tts.startHttp
    | .streaming => c.tts

/-- Start TTS for a new turn, which a speaking user cancels. -/
def startTtsForTurn (c : Coordinator β) : Coordinator β :=
  if c.turnPhase.isSpeaking then
    (c.leave (.startTts true)).cancelPipeline
  else { c.leave (.startTts false) with tts := c.openedTts }

/-- Call `start_turn` on the backend; a failure ends the turn. -/
def startLlm (c : Coordinator β) : Coordinator β :=
  let started := (c.leave (.startTurn (AgentBackend.isActive c.llm))).setLlm
    (AgentBackend.startTurn c.world.reply c.llm).2
  match (AgentBackend.startTurn c.world.reply c.llm).1 with
  | .ok _ => started
  | .error _ => started.cancelTts.startIdleTimer 0 false

/-- The coordinator at the start of a turn: nothing of the last turn is left. -/
def prepareTurn (c : Coordinator β) : Coordinator β :=
  { c with
    llmTurn := .generating (if c.config.turnCompletionEnabled then some "" else none)
    reengagement := (c.reengagement.disarm c.timers).1
    timers := (c.reengagement.disarm c.timers).2 }

/-- **Start an LLM turn.** -/
def startLlmTurn (c : Coordinator β) : Coordinator β :=
  if c.turnPhase.isSpeaking then c.prepareTurn.startTtsForTurn
  else c.prepareTurn.startTtsForTurn.startLlm

/-- Add a user message to the conversation. -/
def addUserMessage (text : String) (c : Coordinator β) : Coordinator β :=
  { c.leave (.userMessage text) with llm := AgentBackend.addUserMessage text c.llm }

/-- Commit `text` as the current user turn. -/
def commitTurnText (text : String) (c : Coordinator β) : Coordinator β :=
  (c.addUserMessage text).startLlmTurn

/-- Cancel the pipeline and start a turn on a deferred transcript. -/
def replayDeferred (text : String) (c : Coordinator β) : Coordinator β :=
  (c.cancelPipeline.addUserMessage text).startLlmTurn

/-- Mark the marker check of the generation as done. -/
def skipMarkerCheck (c : Coordinator β) : Coordinator β :=
  match c.llmTurn with
  | .generating _ => c.setLlmTurn (.generating none)
  | _ => c

/-- Start the turn a nudge asks for. -/
def startNudgeTurn (nudge : String) (c : Coordinator β) : Coordinator β :=
  (c.addUserMessage nudge).startLlmTurn.skipMarkerCheck

/-! ## Turn events -/

/-- Wait for the transcript that was asked for. -/
def waitForTranscript (c : Coordinator β) : Coordinator β :=
  let queued := c.timers.insert .sttTimeout
    (c.world.now + Duration.fromMillis (max (c.config.sttP99LatencyMs - c.vadSilenceMs) 100))
  { c with turnPhase := .waitingForTranscript queued.1, timers := queued.2 }

/-- Wait for the user to go on. -/
def startEotFallback (c : Coordinator β) : Coordinator β :=
  let queued := c.timers.insert .endOfTurnFallback (c.world.now + Duration.fromSecs 3)
  { c with turnPhase := .eotFallback queued.1, timers := queued.2 }

/-- Leave the turn phase for `listening`, taking its timer back. -/
def listen (c : Coordinator β) : Coordinator β :=
  { c with turnPhase := .listening, timers := c.turnPhase.release c.timers }

/-- Flush the client if audio was sent to it. -/
def flushClient (c : Coordinator β) : Coordinator β :=
  { c with
    botAudioSent := false
    trail := if c.botAudioSent then c.trail ++ [.interrupt] else c.trail }

/-- The user starts to speak: the output gate closes, a waiting phase gives its timer back. -/
def beginSpeech (pipelineWasActive : Bool) (c : Coordinator β) : Coordinator β :=
  if c.turnPhase.isSpeaking then c
  else
    { c.flushClient with
      turnPhase := .userSpeaking pipelineWasActive
      timers := c.turnPhase.release c.timers }

/-- The user is active: re-engagement ends. -/
def engage (c : Coordinator β) : Coordinator β :=
  { c with
    sessionPhase := .active
    reengagement := .default
    timers := (c.reengagement.cancel c.timers).2 }

/-- **`SpeechStarted`**, which a pending hang-up suppresses. -/
def speechStarted (c : Coordinator β) : Coordinator β :=
  if c.hangUp.isPending then c.engage else c.engage.beginSpeech c.isPipelineActive

/-- The user stops to speak: wait for the transcript, or cancel what was talked over. -/
def endSpeech (smartComplete : Bool) (c : Coordinator β) : Coordinator β :=
  match c.turnPhase, smartComplete with
  | .userSpeaking false, true => c.waitForTranscript
  | .userSpeaking false, false => c.startEotFallback
  | .userSpeaking true, _ => (c.setTurnPhase .bargeInWordCount).cancelPipeline
  | _, _ => c

/-- **`SpeechEnded`**: protected during a side-effect window. -/
def speechEnded (smartComplete : Bool) (c : Coordinator β) : Coordinator β :=
  if c.seGuard.isActive then c.listen else c.endSpeech smartComplete

/-- Buffer a transcript. -/
def bufferTranscript (text : String) (c : Coordinator β) : Coordinator β :=
  { c with seGuard := c.seGuard.bufferTranscript text }

/-- The text a commit of `text` adds: the deferred transcript comes first. -/
def fullText (text : String) (c : Coordinator β) : String :=
  SideEffectToolsGuard.prepend c.seGuard.deferredTranscript text

/-- Take the deferred transcript. -/
def drain (c : Coordinator β) : Coordinator β :=
  { c with seGuard := { c.seGuard with deferredTranscript := none } }

/-- Commit a transcript behind the deferred one; white space only arms the idle timer. -/
def commitTurn (text : String) (c : Coordinator β) : Coordinator β :=
  if isBlank (c.fullText text) then c.drain.startIdleTimer 0 false
  else c.drain.commitTurnText (c.fullText text)

/-- The transcript has enough words to be accepted as a barge-in. -/
def acceptsBargeIn (text : String) (c : Coordinator β) : Bool :=
  shouldAccept true ((c.unicodeWords text).length % 2 ^ 32) c.config.minBargeInWords

/-- Commit a barge-in transcript that has enough words. -/
def commitBargeIn (text : String) (c : Coordinator β) : Coordinator β :=
  if c.acceptsBargeIn text then c.commitTurnText text
  else (c.leave (.bargeInRejected text)).startIdleTimer 0 false

/-- Commit a late transcript unless the pipeline is active. -/
def commitLateTranscript (text : String) (c : Coordinator β) : Coordinator β :=
  if c.isPipelineActive then c.leave (.lateTranscriptDropped text)
  else c.commitTurnText text

/-- What becomes of a transcript, by turn phase. -/
def hear (text : String) (c : Coordinator β) : Coordinator β :=
  match c.turnPhase with
  | .listening => if isBlank text then c else c.commitTurn text
  | .userSpeaking _ => c.bufferTranscript text
  | .waitingForTranscript _ => c.listen.commitTurn text
  | .eotFallback _ => c.listen.commitTurn text
  | .transcriptTimedOut => c.listen.commitLateTranscript text
  | .bargeInWordCount => c.listen.commitBargeIn text

/-- **A final transcript**: ignored while a hang-up is pending, buffered during a side-effect
window. -/
def transcript (text : String) (c : Coordinator β) : Coordinator β :=
  if c.hangUp.isPending then c
  else if c.seGuard.isActive then c.bufferTranscript text
  else c.hear text

/-- The STT timeout fired. -/
def sttTimeout (c : Coordinator β) : Coordinator β :=
  match c.turnPhase with
  | .waitingForTranscript _ => (c.setTurnPhase .transcriptTimedOut).startIdleTimer 0 false
  | _ => c

/-- The end-of-turn fallback fired. -/
def eotFallback (c : Coordinator β) : Coordinator β :=
  match c.turnPhase with
  | .eotFallback _ => c.waitForTranscript
  | _ => c

/-! ## LLM events -/

/-- Cancel TTS and arm the `TurnCompletion` timer. -/
def armTurnCompletionWait (marker : TurnCompletion) (c : Coordinator β) : Coordinator β :=
  let armed := c.reengagement.armTurnCompletion c.world.now (Duration.fromSecs marker.timeoutSecs)
    (decide (marker = .incompleteShort)) c.timers
  { c with tts := c.tts.cancel, reengagement := armed.1, timers := armed.2 }

/-- A token of the stream. -/
def token (token : String) (c : Coordinator β) : Coordinator β :=
  let processed := c.llmTurn.processToken token c.config.turnCompletionEnabled
  match processed.2 with
  | .markerCheckCompleted (some .incompleteShort) _ =>
    (c.armTurnCompletionWait .incompleteShort).setLlmTurn (.suppressing none)
  | .markerCheckCompleted (some .incompleteLong) _ =>
    (c.armTurnCompletionWait .incompleteLong).setLlmTurn (.suppressing none)
  | _ => c.setLlmTurn processed.1

/-- A side-effect tool has started: count it and rearm the watchdog. -/
def toolCallStarted (id name : String) (sideEffect : Bool) (c : Coordinator β) :
    Coordinator β :=
  if sideEffect then
    let queued := (c.seGuard.release c.timers).insert .sideEffectTimeout
      (c.world.now + Duration.fromSecs 30)
    { c with
      seGuard := (c.seGuard.toolStarted id name).1.setWatchdogKey queued.1
      timers := queued.2 }
  else c

/-- A tool has completed. -/
def countTool (id : String) (c : Coordinator β) : Coordinator β :=
  { c with seGuard := (c.seGuard.toolCompleted id).1 }

/-- The last tool has completed: the window ends. -/
def endWindow (id : String) (c : Coordinator β) : Coordinator β :=
  { c.countTool id with timers := c.seGuard.release c.timers }

/-- A tool has completed; the last one ends the window and replays what was deferred. -/
def toolCallCompleted (id : String) (c : Coordinator β) : Coordinator β :=
  if 1 < c.seGuard.inFlight then c.countTool id
  else
    match c.seGuard.deferredTranscript with
    | some text => (c.endWindow id).replayDeferred text
    | none => c.endWindow id

/-- Keep a suppressed response for replay. -/
def saveSuppressedResponse (content : Option String) (c : Coordinator β) : Coordinator β :=
  match content with
  | some text =>
    if (stripTurnMarkers text).isEmpty then c
    else
      { c with
        llm := AgentBackend.addAssistantMessage (stripTurnMarkers text) c.llm
        llmTurn := .suppressing (some (stripTurnMarkers text)) }
  | none => c

/-- The stream has ended; `action` is what the late marker check found. -/
def streamEnded (action : Option TokenAction) (content : Option String) (c : Coordinator β) :
    Coordinator β :=
  match action with
  | some (.markerCheckCompleted (some .incompleteShort) _) =>
    (c.armTurnCompletionWait .incompleteShort).saveSuppressedResponse content
  | some (.markerCheckCompleted (some .incompleteLong) _) =>
    (c.armTurnCompletionWait .incompleteLong).saveSuppressedResponse content
  | _ => c

/-- The agentic turn has finished. -/
def finished (content : Option String) (c : Coordinator β) : Coordinator β :=
  match c.llmTurn with
  | .suppressing _ => (c.saveSuppressedResponse content).startIdleTimer 0 false
  | _ =>
    let flushed := c.llmTurn.processLateFlush c.config.turnCompletionEnabled
    (c.setLlmTurn flushed.1).streamEnded flushed.2 content

/-- The agent ends the call: at once if nothing is being spoken. -/
def agentHangUp (c : Coordinator β) : Coordinator β :=
  if c.tts.isActive then c.setHangUp .waitingForTts
  else (c.setHangUp .waitingForTts).initiateShutdown

/-- **An LLM event.** -/
def llmEvent (event : LlmEvent) (c : Coordinator β) : Coordinator β :=
  match event with
  | .token text => c.token text
  | .toolCallStarted id name sideEffect => c.toolCallStarted id name sideEffect
  | .toolCallCompleted id _ _ _ => c.toolCallCompleted id
  | .finished content => c.finished content
  | .error _ => c.cancelTts.startIdleTimer 0 false
  | .onHold durationSecs =>
    let held := c.reengagement.holdFor c.world.now (Duration.fromSecs durationSecs)
    (c.setReengagement held).startIdleTimer 0 false
  | .hangUp _ _ => c.agentHangUp
  | .llmComplete _ => c

/-! ## TTS events -/

/-- Let the client play out the goodbye. -/
def delayHangUp (remaining : Duration) (c : Coordinator β) : Coordinator β :=
  let queued := c.timers.insert .hangUpDelay (c.world.now + remaining)
  { c with hangUp := .waitingForDelay queued.1, timers := queued.2 }

/-- A spoken turn has been synthesised: hang up, or wait for the user. -/
def finishSpokenTurn (remaining : Duration) (c : Coordinator β) : Coordinator β :=
  match c.hangUp with
  | .waitingForTts => if remaining = 0 then c.initiateShutdown else c.delayHangUp remaining
  | _ => c.startIdleTimer remaining false

/-- The greeting is over: the session is active. -/
def finishGreeting (remaining : Duration) (c : Coordinator β) : Coordinator β :=
  { c with sessionPhase := .active }.startIdleTimer remaining true

/-- Agent audio goes out. -/
def sendAudio (c : Coordinator β) : Coordinator β :=
  { c.leave (.audio false) with botAudioSent := true }

/-- **A TTS event**; `remaining` is the playback estimate. -/
def ttsEvent (event : TtsEvent) (remaining : Duration) (c : Coordinator β) : Coordinator β :=
  match event with
  | .audio _ => if c.turnPhase.isSpeaking then c else c.sendAudio
  | .finished =>
    if AgentBackend.isActive c.llm || c.seGuard.isActive then c.quietTts
    else if c.sessionPhase = .greetingPlaying then c.quietTts.finishGreeting remaining
    else c.quietTts.finishSpokenTurn remaining
  | .error _ => c.quietTts.startIdleTimer 0 false

/-! ## Timers -/

/-- The suppressed response a fired `TurnCompletion` timer replays. -/
def suppressedResponse (c : Coordinator β) : Option String :=
  match c.llmTurn with
  | .suppressing response => response
  | _ => none

/-- The wait after a ○ or ◐ is over: replay what was suppressed, or nudge. -/
def replayOrNudge (isShort : Bool) (c : Coordinator β) : Coordinator β :=
  if c.isPipelineActive then c
  else
    match c.suppressedResponse with
    | some _ => (c.setLlmTurn .idle).startTtsForTurn
    | none => c.startNudgeTurn (TurnCompletion.nudgePrompt isShort)

/-- `TurnCompletion` fired. -/
def turnCompletionFired (c : Coordinator β) : Coordinator β :=
  match c.reengagement.onTurnCompletionFired with
  | none => c
  | some (isShort, reengagement) => (c.setReengagement reengagement).replayOrNudge isShort

/-- The user has been silent `retryCount` times: nudge, or hang up after the last nudge. -/
def nudgeOrHangUp (retryCount : ℕ) (c : Coordinator β) : Coordinator β :=
  if shouldNudgeIdle c.isPipelineActive c.config.idleTimeoutSecs retryCount
      c.config.idleMaxNudges then c.startNudgeTurn Reactor.idleNudge
  else if c.isPipelineActive then c
  else if c.config.idleMaxNudges < retryCount ∧ 0 < c.config.idleMaxNudges then
    c.initiateShutdown
  else c

/-- `UserIdle` fired. -/
def userIdleFired (c : Coordinator β) : Coordinator β :=
  match c.reengagement.onUserIdleFired with
  | none => c
  | some (retryCount, reengagement) => (c.setReengagement reengagement).nudgeOrHangUp retryCount

/-- The watchdog fired: the window is closed, whatever still runs in it. -/
def closeWindow (c : Coordinator β) : Coordinator β :=
  { c with seGuard := c.seGuard.onTimeout.2 }

/-- `SideEffectTimeout` fired: close the window and replay what was deferred. -/
def sideEffectTimeout (c : Coordinator β) : Coordinator β :=
  if c.seGuard.isActive then
    match c.seGuard.deferredTranscript with
    | some text => c.closeWindow.replayDeferred text
    | none => c.closeWindow.cancelPipeline
  else c.closeWindow

/-- `HangUpDelay` fired: shut down; the fired key is nobody's any more. -/
def hangUpDelayFired (c : Coordinator β) : Coordinator β :=
  (c.setHangUp c.hangUp.delayOver).initiateShutdown

/-- **A fired timer.** -/
def timerFired (key : TimerKey) (c : Coordinator β) : Coordinator β :=
  match key with
  | .endOfTurnFallback => c.eotFallback
  | .sttTimeout => c.sttTimeout
  | .turnCompletion => c.turnCompletionFired
  | .userIdle => c.userIdleFired
  | .sideEffectTimeout => c.sideEffectTimeout
  | .hangUpDelay => c.hangUpDelayFired

/-! ## Inputs -/

/-- The LLM stage has yielded `event`. -/
def polled (event : LlmEvent) (llm : β) (c : Coordinator β) : Coordinator β :=
  { c.leave (.llmEvent event) with llm := llm }

/-- The entry under `key` has left the queue. -/
def fired (key : Key) (c : Coordinator β) : Coordinator β :=
  { c with timers := c.timers.erase key }

/-- **One input of the machine**, handled if its arm is ready; `remaining` is the playback
estimate at that moment. -/
def handle (input : Input β) (remaining : Duration) (c : Coordinator β) : Coordinator β :=
  match input with
  | .vad .speechStarted _ => c.speechStarted
  | .vad (.speechEnded _) verdict => c.speechEnded (if c.smartTurn then verdict else true)
  | .stt (.transcript text) => (c.leave (.transcript text)).transcript text
  | .stt _ => c
  | .llm poll =>
    if AgentBackend.isActive c.llm then
      match LlmStage.recv poll c.llm with
      | (some event, llm) => (c.polled event llm).llmEvent event
      | (none, llm) => c.setLlm llm
    else c
  | .tts event => if c.tts.isActive then c.ttsEvent event remaining else c
  | .timer key =>
    match c.timers.due key c.world.now with
    | some entry => (c.fired key).timerFired entry.value
    | none => c

/-- What the world contributes to this step. -/
def setWorld (world : World β) (c : Coordinator β) : Coordinator β := { c with world := world }

/-- **One step of the machine.** -/
def step (c : Coordinator β) (m : Moment β) (remaining : Duration) : Coordinator β :=
  if c.shouldExit then c else (c.setWorld m.world).handle m.input remaining

end Coordinator

end Feros
