import Feros.AgentBackend
import Feros.Generation
import Feros.Guards
import Feros.Stages
import Feros.TurnPhase
/-! # The state of the reactor

The fields of `Reactor` that decide what happens next are kept together in `Coordination`; the
rest is what the session shows and counts.  Everything the reactor does to the outside is appended
to `log`: events on the bus, calls on the agent backend, commands to the stages. -/

namespace Feros

/-- What the outside contributes while one event is handled. -/
structure World (β : Type) [AgentBackend β] where
  /-- The clock. -/
  now : Instant
  /-- The answer to a `startTurn` of the backend. -/
  reply : AgentBackend.Reply β

/-- The high-level session lifecycle. -/
inductive SessionPhase where
  /-- No greeting is playing and the user has not yet spoken. -/
  | nascent
  /-- The opening greeting is playing on the WebSocket path. -/
  | greetingPlaying
  /-- First user speech received, or greeting completed. -/
  | active
  deriving DecidableEq, Repr

/-- The idle timer may be armed. -/
def SessionPhase.allowsIdleTimer : SessionPhase → Bool
  | .nascent => false
  | _ => true

/-- **The fields of the reactor that decide about turns.** -/
structure Coordination (β : Type) [AgentBackend β] where
  config : SessionConfig
  /-- `unicode_words` of the segmentation library. -/
  unicodeWords : String → List String
  /-- A SmartTurn model is loaded. -/
  smartTurn : Bool
  /-- VAD silence window. -/
  vadSilenceMs : ℕ
  /-- How the configured TTS provider synthesises. -/
  ttsMode : TtsMode
  /-- The session-level WS TTS connection is up. -/
  wsTtsCmdTx : Bool
  llm : β
  tts : TtsStage
  timers : DelayQueue TimerKey
  reengagement : ReengagementTimer
  turnPhase : TurnPhase
  seGuard : SideEffectToolsGuard
  sessionPhase : SessionPhase
  llmTurn : LlmTurnPhase
  hangUp : HangUpPhase
  /-- TTS audio has been sent to the client this turn. -/
  botAudioSent : Bool
  /-- The reactor loop stops before its next event. -/
  shouldExit : Bool
  world : World β

/-- The pipeline is doing work: LLM, TTS or side-effect tools. -/
def Coordination.isPipelineActive {β : Type} [AgentBackend β] (c : Coordination β) : Bool :=
  AgentBackend.isActive c.llm || c.tts.isActive || c.seGuard.isActive

/-! ## What the reactor does -/

/-- The inputs of the event loop. -/
inductive ReactorInput where
  | vadEvent (event : VadEvent)
  | sttEvent (event : SttEvent)
  | llmEvent (event : LlmEvent)
  | ttsEvent (event : TtsEvent)
  | timerFired (key : TimerKey)
  deriving DecidableEq, Repr

/-- Calls on the agent backend. -/
inductive BackendCall where
  | addUserMessage (text : String)
  | addAssistantMessage (text : String)
  | startTurn
  | cancel
  deriving DecidableEq, Repr

/-- Calls on the TTS stage. -/
inductive TtsCall where
  | start
  | feedToken (token : String)
  | flush
  | cancel
  deriving DecidableEq, Repr

/-- **One thing the reactor took in or did**, with the flag a claim about it would ask for. -/
inductive Effect where
  /-- An arm of the `select!` loop yielded an input. -/
  | received (input : ReactorInput)
  /-- An event went on the bus; `speaking` if `turn_phase` was `UserSpeaking`. -/
  | event (speaking : Bool) (event : Event)
  /-- A call on the backend; `active` is what `is_active()` said just before. -/
  | backend (active : Bool) (call : BackendCall)
  /-- `start_tts_for_turn` was called; `speaking` as above. -/
  | startTtsForTurn (speaking : Bool)
  | tts (call : TtsCall)
  | sttFinalize
  | transportClose
  /-- The word gate rejected a barge-in transcript. -/
  | bargeInRejected (text : String)
  /-- A late transcript was dropped because the pipeline was active. -/
  | lateTranscriptDropped (text : String)
  deriving DecidableEq, Repr

/-- Observability state of the opening greeting. -/
structure GreetingObservability where
  text : String
  firstAudioAt : Option Instant
  deriving DecidableEq, Repr

/-- The first audio chunk of the greeting was sent. -/
def GreetingObservability.markFirstAudio (now : Instant) (obs : GreetingObservability) :
    GreetingObservability :=
  { obs with firstAudioAt := some (obs.firstAudioAt.getD now) }

/-- **The reactor.** -/
structure Reactor (β : Type) [AgentBackend β] extends Coordination β where
  state : SessionState
  tracer : Tracer
  playback : PlaybackTracker
  /-- Byte length of the trimmed tokens of the current LLM turn. -/
  turnTextLen : ℕ
  /-- Text sent to TTS since the turn started or the last tool call. -/
  turnSpokenText : String
  lastUserMessage : Option String
  /-- Number of completed LLM turns. -/
  turnCount : ℕ
  ttsCursor : AgentAudioCursor
  sessionEndedEmitted : Bool
  greetingObservability : Option GreetingObservability
  /-- Everything taken in and done so far, oldest first. -/
  log : List Effect

namespace Reactor

variable {β : Type} [AgentBackend β]

/-- Append to the log. -/
def note (effect : Effect) (r : Reactor β) : Reactor β := { r with log := r.log ++ [effect] }

/-- Put an event on the bus. -/
def emit (event : Event) (r : Reactor β) : Reactor β :=
  r.note (.event r.turnPhase.isSpeaking event)

/-- Put events on the bus, in order. -/
def emitAll (events : List Event) (r : Reactor β) : Reactor β :=
  events.foldl (fun r event => r.emit event) r

/-- Run a method of the tracer. -/
def withTracer (method : Tracer → Tracer × List Event) (r : Reactor β) : Reactor β :=
  { r with tracer := (method r.tracer).1 }.emitAll (method r.tracer).2

/-- `tracer.trace`. -/
def trace (label : String) (r : Reactor β) : Reactor β := r.withTracer (Tracer.trace label)

/-- Emit an agent lifecycle event. -/
def emitAgentEvent (kind : String) (r : Reactor β) : Reactor β := r.emit (.agentEvent kind)

/-- Update the session state and emit a `StateChanged` event. -/
def setState (newState : SessionState) (r : Reactor β) : Reactor β :=
  if r.state ≠ newState then
    { r with state := newState }.emit (.stateChanged newState.name)
  else r

/-- Derive the UI state from the pipeline flags and emit it if changed. -/
def computeAndEmitState (r : Reactor β) : Reactor β :=
  r.setState <|
    if r.seGuard.isActive then .toolCalling
    else if r.tts.isActive then .speaking
    else if AgentBackend.isActive r.llm then .processing
    else .listening

/-! ## Assignments -/

/-- `self.llm = llm`. -/
def setLlm (llm : β) (r : Reactor β) : Reactor β := { r with llm := llm }

/-- `self.tts = tts`. -/
def setTts (tts : TtsStage) (r : Reactor β) : Reactor β := { r with tts := tts }

/-- `self.timers = timers`. -/
def setTimers (timers : DelayQueue TimerKey) (r : Reactor β) : Reactor β :=
  { r with timers := timers }

/-- The re-engagement machine and the timers after one of its methods. -/
def setReengagement (result : ReengagementTimer × DelayQueue TimerKey) (r : Reactor β) :
    Reactor β :=
  { r with reengagement := result.1, timers := result.2 }

/-- `self.turn_phase = phase`. -/
def setTurnPhase (phase : TurnPhase) (r : Reactor β) : Reactor β := { r with turnPhase := phase }

/-- `self.se_guard = guard`. -/
def setSeGuard (guard : SideEffectToolsGuard) (r : Reactor β) : Reactor β :=
  { r with seGuard := guard }

/-- `self.session_phase = phase`. -/
def setSessionPhase (phase : SessionPhase) (r : Reactor β) : Reactor β :=
  { r with sessionPhase := phase }

/-- `self.llm_turn = phase`. -/
def setLlmTurn (phase : LlmTurnPhase) (r : Reactor β) : Reactor β := { r with llmTurn := phase }

/-- `self.hang_up = phase`. -/
def setHangUp (phase : HangUpPhase) (r : Reactor β) : Reactor β := { r with hangUp := phase }

/-- `self.bot_audio_sent = sent`. -/
def setBotAudioSent (sent : Bool) (r : Reactor β) : Reactor β := { r with botAudioSent := sent }

/-- `self.should_exit = true`. -/
def setShouldExit (r : Reactor β) : Reactor β := { r with shouldExit := true }

/-- `self.playback.reset()`. -/
def resetPlayback (r : Reactor β) : Reactor β := { r with playback := r.playback.reset }

/-! ## Calls on the stages -/

/-- `llm.add_user_message`. -/
def addUserMessage (text : String) (r : Reactor β) : Reactor β :=
  (r.setLlm (AgentBackend.addUserMessage text r.llm)).note
    (.backend (AgentBackend.isActive r.llm) (.addUserMessage text))

/-- `llm.add_assistant_message`. -/
def addAssistantMessage (text : String) (r : Reactor β) : Reactor β :=
  (r.setLlm (AgentBackend.addAssistantMessage text r.llm)).note
    (.backend (AgentBackend.isActive r.llm) (.addAssistantMessage text))

/-- `tts.feed_token`. -/
def feedToken (token : String) (r : Reactor β) : Reactor β :=
  if r.tts.tokenTx then r.note (.tts (.feedToken token)) else r

/-- `tts.flush`. -/
def flushTts (r : Reactor β) : Reactor β :=
  if r.tts.tokenTx then r.note (.tts .flush) else r

/-- `tts.cancel`. -/
def cancelTts (r : Reactor β) : Reactor β :=
  (r.setTts r.tts.cancel).note (.tts .cancel)

/-- Feed a token to the TTS stage, cleaned for audio first. -/
def sendTtsToken (token : String) (r : Reactor β) : Reactor β :=
  let cleaned := cleanForTts token
  if cleaned.isEmpty then r
  else
    { r with
      tracer := r.tracer.markTtsTextFed.appendTtsText cleaned
      turnSpokenText := r.turnSpokenText ++ cleaned }.feedToken cleaned

/-- `stt.finalize`. -/
def finalizeStt (r : Reactor β) : Reactor β := r.note .sttFinalize

/-- `transport.close`. -/
def closeTransport (r : Reactor β) : Reactor β := r.note .transportClose

end Reactor

end Feros
