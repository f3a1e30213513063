import Feros.Reactor.Handlers
import Feros.Library.Run
/-! # Starting the reactor and its event loop

`new` and `start` set a session up; `step` is one iteration of the `select!` loop.  Each moment of
a run names the input and what the world answers while it is handled.  An input whose arm is not
ready (the LLM or TTS stage is inactive, no such timer is due, the loop has ended) does nothing. -/

namespace Feros

/-- What the outside decides while a session starts. -/
structure StartEnv where
  denoiser : Except String Unit
  vad : Except String Unit
  smartTurn : Except String Unit
  stt : Except String Unit
  /-- The WS connection of a streaming TTS provider. -/
  ttsConnect : Except String Unit
  /-- What an HTTP provider synthesises for the greeting. -/
  greetingPcm : Option Bytes

/-- One input of the event loop. -/
inductive Input (β : Type) [AgentBackend β] where
  /-- `verdict` is what the SmartTurn model predicts on the audio, if there is one. -/
  | vad (event : VadEvent) (verdict : Bool)
  | stt (event : SttEvent)
  | llm (poll : AgentBackend.Poll β)
  | tts (event : TtsEvent)
  /-- The queue entry under `key` expires. -/
  | timer (key : Key)

/-- One iteration of the event loop. -/
structure Moment (β : Type) [AgentBackend β] where
  world : World β
  input : Input β

namespace Reactor

variable {β : Type} [AgentBackend β]

/-- VAD silence window: six frames of 512 samples at 16 kHz. -/
def defaultVadSilenceMs : ℕ := 6 * 512 * 1000 / 16000

/-- Create a new reactor with all stages initialised. -/
def new (config : SessionConfig) (backend : β) (ttsMode : TtsMode)
    (unicodeWords : String → List String) (world : World β) : Reactor β where
  config := config
  unicodeWords := unicodeWords
  smartTurn := config.smartTurnEnabled
  vadSilenceMs := defaultVadSilenceMs
  ttsMode := ttsMode
  wsTtsCmdTx := false
  llm := AgentBackend.setSystemPrompt config.systemPrompt backend
  tts := .new
  timers := .empty
  reengagement := .default
  turnPhase := .listening
  seGuard := .default
  sessionPhase := .nascent
  llmTurn := .idle
  hangUp := .idle
  botAudioSent := false
  shouldExit := false
  world := world
  state := .idle
  tracer := .new
  playback := .new config.outputSampleRate
  turnTextLen := 0
  turnSpokenText := ""
  lastUserMessage := none
  turnCount := 0
  ttsCursor := .new world.now config.outputSampleRate
  sessionEndedEmitted := false
  greetingObservability := none
  log := []

/-! ## Greeting -/

/-- Show the greeting and add it to the conversation. -/
def announceGreeting (greeting : String) (r : Reactor β) : Reactor β :=
  let r := (r.setState .speaking).addAssistantMessage greeting
  if isBlank greeting then r else r.emit (.transcript "assistant" greeting)

/-- Send the synthesised greeting to the client. -/
def sendGreetingAudio (greeting : String) (pcm : Bytes) (r : Reactor β) : Reactor β :=
  let r := (r.beginCursorTurn.sendAudio pcm).setBotAudioSent true
  let cleaned := stripTurnMarkers greeting
  if cleaned.isEmpty then r
  else r.emit (.ttsComplete r.config.ttsProvider r.config.ttsModel cleaned r.config.voiceId
    cleaned.length)

/-- Synchronously play the greeting via HTTP TTS. -/
def playGreetingHttp (greeting : String) (greetingPcm : Option Bytes) (r : Reactor β) :
    Reactor β :=
  let r := r.announceGreeting greeting
  let r := match r.ttsMode, greetingPcm with
    | .http, some pcm => r.sendGreetingAudio greeting pcm
    | _, _ => r
  let r := r.setState .listening
  let remaining := r.playback.remainingPlayback r.world.now
  let r := r.resetPlayback
  r.startIdleTimerAfterGreetingWithOffset remaining

/-- `self.greeting_observability = Some(obs)`. -/
def setGreetingObservability (obs : GreetingObservability) (r : Reactor β) : Reactor β :=
  { r with greetingObservability := some obs }

/-- Kick off the greeting via the WS TTS path. -/
def initiateGreetingWs (greeting : String) (r : Reactor β) : Reactor β :=
  let r := r.announceGreeting greeting
  let r := r.setGreetingObservability ⟨stripTurnMarkers greeting, none⟩
  let (_, r) := r.startTtsForTurn
  (r.feedToken greeting).flushTts

/-- Without the SmartTurn model, or the WS connection of a streaming provider, the session goes
on without them; an HTTP provider needs no connection. -/
def connect (env : StartEnv) (r : Reactor β) : Reactor β :=
  { r with
    smartTurn := match env.smartTurn with
      | .ok _ => r.smartTurn
      | .error _ => false
    wsTtsCmdTx := match r.ttsMode, env.ttsConnect with
      | .streaming, .ok _ => true
      | _, _ => r.wsTtsCmdTx
    ttsCursor := r.ttsCursor.resetOrigin r.world.now }

/-- Announce the session and greet the user. -/
def greet (greetingPcm : Option Bytes) (r : Reactor β) : Reactor β :=
  let r := (r.emit .sessionReady).setState .listening
  match r.config.greeting with
  | some greeting =>
    if r.wsTtsCmdTx then (r.initiateGreetingWs greeting).setSessionPhase .greetingPlaying
    else r.playGreetingHttp greeting greetingPcm
  | none => r.startIdleTimerAfterGreeting

/-- Initialise all stages, connect, and play the greeting. -/
def start (env : StartEnv) (r : Reactor β) : Except String (Reactor β) := do
  env.denoiser.mapError ("Denoiser init: " ++ ·)
  env.vad.mapError ("VAD init: " ++ ·)
  env.stt.mapError ("STT connect: " ++ ·)
  return (r.connect env).greet env.greetingPcm

/-- **A session that has started**: `new`, then a successful `start`. -/
def Started (r : Reactor β) : Prop :=
  ∃ config backend ttsMode unicodeWords world env,
    (new config backend ttsMode unicodeWords world).start env = .ok r

/-! ## The event loop -/

/-- Record the input that an arm of the loop yielded. -/
def receive (input : ReactorInput) (r : Reactor β) : Reactor β := r.note (.received input)

/-- What the world contributes to this iteration. -/
def setWorld (world : World β) (r : Reactor β) : Reactor β := { r with world := world }

/-- Handle one input, if its arm is ready. -/
def handle (input : Input β) (r : Reactor β) : Reactor β :=
  match input with
  | .vad event verdict =>
    ((r.receive (.vadEvent event)).onVadEvent event verdict).computeAndEmitState
  | .stt event => ((r.receive (.sttEvent event)).onSttEvent event).computeAndEmitState
  | .llm poll =>
    if AgentBackend.isActive r.llm then
      let (event, llm) := LlmStage.recv poll r.llm
      let r := r.setLlm llm
      match event with
      | some event => ((r.receive (.llmEvent event)).onLlmEvent event).computeAndEmitState
      | none => r
    else r
  | .tts event =>
    if r.tts.isActive then
      ((r.receive (.ttsEvent event)).onTtsEvent event).computeAndEmitState
    else r
  | .timer key =>
    match r.timers.due key r.world.now with
    | some entry =>
      let r := r.setTimers (r.timers.erase key)
      ((r.receive (.timerFired entry.value)).onTimer entry.value).computeAndEmitState
    | none => r

/-- **One iteration of the event loop.** -/
def step (r : Reactor β) (m : Moment β) : Reactor β :=
  if r.shouldExit then r else (r.setWorld m.world).handle m.input

/-! ## Sessions over the arbitrary backend -/

/-- A world in which the provider accepts every request. -/
def calm (now : Instant) : World AnyBackend := ⟨now, (none, true)⟩

/-- An environment in which every stage comes up. -/
def calmStart : StartEnv := ⟨.ok (), .ok (), .ok (), .ok (), .ok (), none⟩

/-- A session over the arbitrary backend, with an HTTP voice and texts of one word. -/
def session (config : SessionConfig) : Reactor AnyBackend :=
  ((new config ⟨false⟩ .http (fun text => if isBlank text then [] else [text]) (calm 0)).connect
    calmStart).greet none

/-- A session that starts has started. -/
theorem started_session (config : SessionConfig) : Started (session config) :=
  ⟨config, ⟨false⟩, .http, _, calm 0, calmStart, rfl⟩

/-- An input at an instant, in seconds, of the calm world. -/
def calmly (secs : ℕ) (input : Input AnyBackend) : Moment AnyBackend :=
  ⟨calm (Duration.fromSecs secs), input⟩

/-- The arbitrary backend yields `event` and is `active` afterwards. -/
def yields (event : AgentEvent) (active : Bool) : Input AnyBackend :=
  .llm ((some event, active) : Option AgentEvent × Bool)

end Reactor

end Feros
