import Feros.Reactor.State
/-! # The pipeline: idle timers, cancelling and starting a turn

The operations the event handlers share.  They are listed in the order of their calls: each uses
only those above it. -/

namespace Feros

namespace Reactor

variable {β : Type} [AgentBackend β]

/-! ## Idle timer -/

/-- (Re)start the user-idle timer: `offset` extends it, `force` bypasses the session phase. -/
def startIdleTimerInner (offset : Duration) (force : Bool) (r : Reactor β) : Reactor β :=
  if r.config.idleTimeoutSecs = 0 then r
  else if !force && !r.sessionPhase.allowsIdleTimer then r
  else
    let (dur, reengagement) := r.reengagement.extendByHold r.world.now
      (Duration.fromSecs r.config.idleTimeoutSecs + offset)
    r.setReengagement (reengagement.armIdle r.world.now dur r.timers)

/-- (Re)start the user-idle detection timer. -/
def startIdleTimer (r : Reactor β) : Reactor β := r.startIdleTimerInner 0 false

/-- Start the idle timer after the greeting, even before the first speech. -/
def startIdleTimerAfterGreeting (r : Reactor β) : Reactor β := r.startIdleTimerInner 0 true

/-- `startIdleTimerAfterGreeting` with an extra playback offset. -/
def startIdleTimerAfterGreetingWithOffset (offset : Duration) (r : Reactor β) : Reactor β :=
  r.startIdleTimerInner offset true

/-- Start the idle timer with an extra offset. -/
def startIdleTimerWithOffset (offset : Duration) (r : Reactor β) : Reactor β :=
  r.startIdleTimerInner offset false

/-! ## Cancelling -/

/-- `timers.remove` on a key that may be absent from its owner. -/
def removeTimer (key : Option Key) (r : Reactor β) : Reactor β :=
  match key with
  | some key => r.setTimers (r.timers.remove key)
  | none => r

/-- `reengagement.cancel`. -/
def cancelReengagement (r : Reactor β) : Reactor β :=
  r.setReengagement (r.reengagement.cancel r.timers)

/-- Cancel the generation, forwarding the `LlmComplete` of the partial one. -/
def cancelLlm (r : Reactor β) : Reactor β :=
  let (complete, llm) := LlmStage.cancel r.llm
  let r := (r.setLlm llm).note (.backend (AgentBackend.isActive r.llm) .cancel)
  match complete with
  | some (.llmComplete data) => r.emit (.llmComplete data)
  | _ => r

/-- Cancel the side-effect window and emit an audit event for each orphaned tool. -/
def cancelSeGuard (r : Reactor β) : Reactor β :=
  let (seGuard, action) := r.seGuard.cancel
  let r := r.setSeGuard seGuard
  match action with
  | .orphaned cancelKey toolIds =>
    (r.removeTimer cancelKey).emitAll <| toolIds.map fun tool =>
      .toolActivity (some tool.1) tool.2 "orphaned" none
  | _ => r

/-- Remove the key of a pending hang-up delay. -/
def removeHangUpDelay (r : Reactor β) : Reactor β :=
  match r.hangUp with
  | .waitingForDelay timerKey => r.removeTimer (some timerKey)
  | _ => r

/-- A barge-in during the greeting makes the session active. -/
def leaveGreeting (r : Reactor β) : Reactor β :=
  if r.sessionPhase = .greetingPlaying then r.setSessionPhase .active else r

/-- Clear the text of the current turn. -/
def clearTurnText (r : Reactor β) : Reactor β := { r with turnTextLen := 0, turnSpokenText := "" }

/-- **Cancel the active LLM and TTS pipeline instantly.**  `turnPhase` is not touched. -/
def cancelPipeline (r : Reactor β) : Reactor β :=
  let r := r.cancelLlm.cancelTts.leaveGreeting
  let r := r.emit .interrupt
  let r := r.removeHangUpDelay.cancelSeGuard
  let r := r.withTracer Tracer.cancelTurn
  let r := ((r.setLlmTurn .idle).setHangUp .idle).clearTurnText
  r.cancelReengagement.setBotAudioSent false

/-- Emit `SessionEnded`, once. -/
def emitSessionEnded (r : Reactor β) : Reactor β :=
  if r.sessionEndedEmitted then r
  else { r.emit .sessionEnded with sessionEndedEmitted := true }

/-- Initiate a clean session shutdown. -/
def initiateShutdown (r : Reactor β) : Reactor β :=
  let r := r.emitSessionEnded
  r.cancelPipeline.closeTransport.setShouldExit

/-! ## Starting a turn -/

/-- Open a synthesis session: the WS connection if there is one, else an HTTP provider; with a
streaming provider that did not connect the turn is silent. -/
def openTts (r : Reactor β) : Reactor β :=
  if r.wsTtsCmdTx then (r.setTts r.tts.startWs).note (.tts .start)
  else
    match r.ttsMode with
    | .http => (r.setTts r.tts.startHttp).note (.tts .start)
    | .streaming => r

/-- `tts_cursor.begin_turn`. -/
def beginCursorTurn (r : Reactor β) : Reactor β := { r with ttsCursor := r.ttsCursor.beginTurn }

/-- Start TTS for a new turn; `true` if the user is speaking and the turn was cancelled. -/
def startTtsForTurn (r : Reactor β) : Bool × Reactor β :=
  let noted := r.note (.startTtsForTurn r.turnPhase.isSpeaking)
  if r.turnPhase.isSpeaking then (true, noted.cancelPipeline)
  else (false, noted.beginCursorTurn.openTts)

/-- `llm.start`: the backend's answer. -/
def startLlm (r : Reactor β) : Except String Unit × Reactor β :=
  let (result, llm) := AgentBackend.startTurn r.world.reply r.llm
  (result, (r.setLlm llm).note (.backend (AgentBackend.isActive r.llm) .startTurn))

/-- `reengagement.disarm`. -/
def disarmReengagement (r : Reactor β) : Reactor β :=
  r.setReengagement (r.reengagement.disarm r.timers)

/-- Call `llm.start`; a failure ends the turn. -/
def runLlm (r : Reactor β) : Reactor β :=
  match r.startLlm with
  | (.ok _, r) => r
  | (.error _, r) => r.cancelTts.startIdleTimer

/-- Reset the state of the generation, and disarm a timer the new turn supersedes; the retry count
survives, since the turn may be the nudge itself. -/
def prepareTurn (r : Reactor β) : Reactor β :=
  let r := r.setLlmTurn (.generating (if r.config.turnCompletionEnabled then some "" else none))
  r.clearTurnText.resetPlayback.disarmReengagement

/-- **Start an LLM generation** with the backend's internal conversation. -/
def startLlmTurn (r : Reactor β) : Reactor β :=
  match r.prepareTurn.startTtsForTurn with
  | (true, r) => r
  | (false, r) => r.runLlm

/-- Keep the last user message as context. -/
def setLastUserMessage (text : String) (r : Reactor β) : Reactor β :=
  { r with lastUserMessage := some text }

/-- Open the span of a user turn. -/
def startTurnSpan (text : String) (r : Reactor β) : Reactor β :=
  r.withTracer <| Tracer.startTurn r.config.sttProvider r.config.sttModel text r.config.language
    r.config.smartTurnEnabled

/-- Commit `text` as the current user turn. -/
def commitTurnText (text : String) (r : Reactor β) : Reactor β :=
  let r := r.emit (.transcript "user" text)
  let r := (r.addUserMessage text).setLastUserMessage text
  (r.startTurnSpan text).startLlmTurn

/-- Add a message that is not a spoken turn of its own, show it, and start the stream. -/
def replayDeferred (text : String) (r : Reactor β) : Reactor β :=
  let r := r.cancelPipeline
  let r := r.addUserMessage text
  let r := r.emit (.transcript "user" text)
  r.startLlmTurn

/-- Mark the marker check of the generation as done. -/
def skipMarkerCheck (r : Reactor β) : Reactor β :=
  match r.llmTurn with
  | .generating _ => r.setLlmTurn (.generating none)
  | _ => r

/-- Start the turn a nudge asks for; marker detection is bypassed on it. -/
def startNudgeTurn (nudge : String) (r : Reactor β) : Reactor β :=
  (r.addUserMessage nudge).startLlmTurn.skipMarkerCheck

/-! ## Turn completion -/

/-- `reengagement.arm_turn_completion` for a ○ or ◐ marker. -/
def armTurnCompletion (marker : TurnCompletion) (r : Reactor β) : Reactor β :=
  r.setReengagement <| r.reengagement.armTurnCompletion r.world.now
    (Duration.fromSecs marker.timeoutSecs) (decide (marker = .incompleteShort)) r.timers

/-- Cancel TTS and arm the `TurnCompletion` timer after a ○ or ◐ marker. -/
def armTurnCompletionWait (marker : TurnCompletion) (r : Reactor β) : Reactor β :=
  let r := r.trace <|
    if marker = .incompleteShort then "TurnIncompleteShort" else "TurnIncompleteLong"
  r.cancelTts.armTurnCompletion marker

/-- Preserve a suppressed ○/◐ response for later replay. -/
def saveSuppressedResponse (content : Option String) (r : Reactor β) : Reactor β :=
  match content with
  | some text =>
    let clean := stripTurnMarkers text
    if clean.isEmpty then r
    else (r.addAssistantMessage clean).setLlmTurn (.suppressing (some clean))
  | none => r

/-- Emit an assistant transcript, markers stripped, unless it is empty. -/
def emitAssistant (text : String) (r : Reactor β) : Reactor β :=
  let clean := stripTurnMarkers text
  if clean.isEmpty then r else r.emit (.transcript "assistant" clean)

end Reactor

end Feros
