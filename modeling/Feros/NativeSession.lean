import Feros.Agent.NativeBackend
import Feros.Stages
/-! # The loop of a native session

`run_native_multimodal` waits for whichever is ready first: the drain timer of a hang-up, microphone
audio, or an event of the backend.  `select` says which branch of the `select!` is taken and what it
got, `handle` is the body of the branch.  Resampling and the alignment of frames lie outside: the
microphone yields frames and what the VAD says of them. -/

namespace Feros

/-- What a native session is configured with. -/
structure NativeSessionConfig where
  model : Option String := none
  voiceId : String := "default"
  language : String := "en"
  /-- The local VAD could be initialized. -/
  vadOk : Bool := true
  recordingEnabled : Bool := false
  /-- Resampling from 24 kHz to 48 kHz. -/
  upsample : List (BitVec 16) → Bytes

/-- What a native session puts on the bus. -/
inductive NativeBusEvent where
  | event (event : Event)
  | userAudio (samples : List (BitVec 16))
  | transcriptChunk (role text : String)
  deriving DecidableEq, Repr

/-- **The state of the loop.** -/
structure NativeSession where
  config : NativeSessionConfig
  backend : NativeMultimodalBackend
  /-- Where a call of `recv` waits, if one does. -/
  waiting : Option NativePoint
  tracer : Tracer
  ttsCursor : AgentAudioCursor
  playback : PlaybackTracker
  botSpeaking : Bool
  botTranscriptBuf : String
  hangupTarget : Option Instant
  hangupMaxTarget : Option Instant
  ended : Bool
  emitted : List NativeBusEvent

/-- What can happen. -/
inductive NativeAction where
  /-- The loop calls `recv`. -/
  | poll
  /-- Something happens while the call waits; a lost connection is opened again or is not. -/
  | wake (wake : NativeWake) (reconnects : Bool)
  /-- The microphone yields frames, in which speech starts or does not; `taken` says whether the
  WebSocket takes what is sent. -/
  | mic (frames : List (List (BitVec 16))) (speechStarted taken : Bool)
  | micClosed
  /-- The drain timer of a hang-up elapses. -/
  | hangupElapsed
  /-- A tool task sends its result while no call waits. -/
  | toolDone (i : ℕ) (result : Json) (success : Bool)

/-- **Which branch of the loop is taken.** -/
inductive NativeOccurrence where
  | event (event : NativeAgentEvent)
  | reconnected
  | reconnectFailed
  | mic (frames : List (List (BitVec 16))) (speechStarted taken : Bool)
  | micClosed
  | hangupElapsed
  | nothing

namespace NativeSession

/-- A session that has just connected. -/
def start (config : NativeSessionConfig) (library : ToolLibrary)
    (decode : String → Except String (List UInt8)) (agentGraph : Option AgentGraphDef)
    (systemPrompt : String) (now : Instant) : NativeSession where
  config := config
  backend := ({ NativeMultimodalBackend.new library decode agentGraph config.voiceId with
    systemPrompt := some systemPrompt } : NativeMultimodalBackend).connect
  waiting := none
  tracer := .new
  ttsCursor := .new now 48000
  playback := .new 48000
  botSpeaking := false
  botTranscriptBuf := ""
  hangupTarget := none
  hangupMaxTarget := none
  ended := false
  emitted := [.event .sessionReady]

/-! ## Emitting -/

/-- Put something on the bus. -/
def emit (event : Event) (s : NativeSession) : NativeSession :=
  { s with emitted := s.emitted ++ [.event event] }

/-- Call a method of the tracer. -/
def withTracer (f : Tracer → Tracer × List Event) (s : NativeSession) : NativeSession :=
  let (tracer, events) := f s.tracer
  { s with tracer := tracer, emitted := s.emitted ++ events.map .event }

/-- The name of the model in the metrics. -/
def modelName (s : NativeSession) : String := s.config.model.getD "gemini_live"

/-- Emit what is in the transcript buffer, unless it is blank, and empty it. -/
def flushTranscript (s : NativeSession) : NativeSession :=
  let botText := trim s.botTranscriptBuf
  let s := { s with botTranscriptBuf := "" }
  if botText.isEmpty then s else s.emit (.transcript "assistant" botText)

/-- Close the span of a turn. -/
def finishTurn (s : NativeSession) : NativeSession :=
  s.withTracer (Tracer.finishTurn false "gemini_live" s.modelName s.config.voiceId)

/-! ## The branches -/

/-- Audio of the bot. -/
def handleBotAudio (samples : List (BitVec 16)) (now : Instant) (s : NativeSession) : NativeSession :=
  let s := if s.botSpeaking then s else
    -- The cursor snaps to the clock at the first chunk of a turn.
    { s with botSpeaking := true, ttsCursor := s.ttsCursor.beginTurn, playback := s.playback.reset }
  let upsampled := s.config.upsample samples
  let s := { s with playback := s.playback.record now upsampled.length }
  let target := now + s.playback.remainingPlayback now
  let s := { s with hangupTarget := s.hangupTarget.map fun _ =>
    match s.hangupMaxTarget with
    | some maxTarget => if target > maxTarget then maxTarget else target
    | none => target }
  let (offset, cursor) := s.ttsCursor.stamp now upsampled.length
  { s with ttsCursor := cursor }.emit (.agentAudio upsampled 48000 offset)

/-- The model has finished its turn. -/
def handleTurnComplete (promptTokens completionTokens : ℕ) (s : NativeSession) : NativeSession :=
  let s := { s with botSpeaking := false }.flushTranscript
  let s := s.emit (.llmComplete
    { provider := "gemini_live", model := s.modelName, inputJson := "\x7b\x7d"
      outputJson := "\x7b\x7d", toolsJson := none, maxTokens := 0, promptTokens := promptTokens
      completionTokens := completionTokens, cacheReadTokens := none, spanLabel := "llm" })
  s.finishTurn

/-- A transcription of the user. -/
def handleInputTranscript (text : String) (isFinal : Bool) (s : NativeSession) : NativeSession :=
  if isFinal then
    (s.emit (.transcript "user" text)).withTracer
      (Tracer.startTurn "gemini_live" s.modelName text s.config.language s.config.vadOk)
  else { s with emitted := s.emitted ++ [.transcriptChunk "user" text] }

/-- A transcription of the bot: the final one replaces what was gathered. -/
def handleOutputTranscript (text : String) (isFinal : Bool) (s : NativeSession) : NativeSession :=
  let s :=
    if text.isEmpty then s
    else if isFinal then { s with botTranscriptBuf := text }
    else { s with
      emitted := s.emitted ++ [.transcriptChunk "assistant" text]
      botTranscriptBuf := s.botTranscriptBuf ++ text }
  { s with tracer := s.tracer.markTtsTextFed.appendTtsText text }

/-- The model hangs up: what it has said is played out first, for at most 15 seconds. -/
def handleHangUp (now : Instant) (s : NativeSession) : NativeSession :=
  if s.hangupTarget.isSome then s
  else
    let maxDelay := Duration.fromSecs 15
    { s with
      hangupTarget := some (now + min (s.playback.remainingPlayback now) maxDelay)
      hangupMaxTarget := some (now + maxDelay) }.emit (.toolActivity none "hang_up" "completed" none)

/-- An event of the backend. -/
def handleEvent (event : NativeAgentEvent) (now : Instant) (s : NativeSession) : NativeSession :=
  match event with
  | .botAudio samples => s.handleBotAudio samples now
  | .turnComplete prompt completion => s.handleTurnComplete prompt completion
  | .inputTranscript text isFinal => s.handleInputTranscript text isFinal
  | .outputTranscript text isFinal => s.handleOutputTranscript text isFinal
  | .toolCallStarted id name => s.emit (.toolActivity (some id) name "started" none)
  | .toolCallCompleted _ name success =>
    s.emit (.toolActivity none name (if success then "completed" else "failed") none)
  | .hangUp _ => s.handleHangUp now
  | .error message => s.emit (.error "gemini_live" message)

/-- The user speaks while the bot does. -/
def bargeIn (taken : Bool) (s : NativeSession) : NativeSession :=
  let s := { s with
    backend := s.backend.interrupt taken
    botSpeaking := false
    playback := s.playback.reset }
  -- The partial transcript is emitted while the span of the turn is open.
  let s := s.flushTranscript
  let s := s.withTracer Tracer.cancelTurn
  let s := s.withTracer (Tracer.trace "SpeechEnded")
  (s.emit .interrupt).emit (.stateChanged "listening")

/-- Microphone audio goes to the model, and may be a barge-in. -/
def handleMic (frames : List (List (BitVec 16))) (speechStarted taken : Bool) (s : NativeSession) :
    NativeSession :=
  let s := if s.config.recordingEnabled then
      { s with emitted := s.emitted ++ frames.map .userAudio }
    else s
  let push (b : NativeMultimodalBackend) (pcm : List (BitVec 16)) := b.pushAudio pcm taken
  let s := { s with backend := frames.foldl push s.backend }
  if s.config.vadOk && speechStarted then
    let s := s.withTracer (Tracer.trace "SpeechStarted")
    if s.botSpeaking then s.bargeIn taken else s
  else s

/-- The connection was opened again. -/
def handleReconnected (s : NativeSession) : NativeSession :=
  { s with botSpeaking := false }.withTracer Tracer.cancelTurn

/-- The drain timer of a hang-up has elapsed. -/
def handleHangupElapsed (s : NativeSession) : NativeSession :=
  { s.flushTranscript.finishTurn with ended := true }.emit .sessionEnded

/-- **The body of a branch.** -/
def handle (occurrence : NativeOccurrence) (now : Instant) (s : NativeSession) : NativeSession :=
  match occurrence with
  | .event event => s.handleEvent event now
  | .reconnected => s.handleReconnected
  | .reconnectFailed | .micClosed => { s with ended := true }.emit .sessionEnded
  | .mic frames speechStarted taken => s.handleMic frames speechStarted taken
  | .hangupElapsed => s.handleHangupElapsed
  | .nothing => s

/-! ## The loop -/

/-- The call of `recv` goes on. -/
def proceed (reconnects : Bool) (s : NativeSession) :
    NativeMultimodalBackend × NativeStatus → NativeOccurrence × NativeSession
  | (b, .pending point) => (.nothing, { s with backend := b, waiting := some point })
  | (b, .ready (some event)) => (.event event, { s with backend := b, waiting := none })
  | (b, .ready none) =>
    if reconnects then (.reconnected, { s with backend := b.connect, waiting := none })
    else (.reconnectFailed, { s with backend := b, waiting := none })

/-- **Which branch is taken**; another branch drops the call of `recv`. -/
def select (action : NativeAction) (s : NativeSession) : NativeOccurrence × NativeSession :=
  if s.ended then (.nothing, s)
  else
    match action with
    | .poll => (.nothing, if s.waiting.isSome then s else { s with waiting := some .select })
    | .wake wake reconnects =>
      match s.waiting with
      | some point => s.proceed reconnects (s.backend.resume point wake)
      | none => (.nothing, s)
    | .mic frames speechStarted taken => (.mic frames speechStarted taken, { s with waiting := none })
    | .micClosed => (.micClosed, { s with waiting := none })
    | .hangupElapsed =>
      if s.hangupTarget.isSome then (.hangupElapsed, { s with waiting := none }) else (.nothing, s)
    | .toolDone i result success =>
      (.nothing, if s.waiting.isSome then s
        else { s with backend := s.backend.toolDone i result success })

/-- **One turn of the loop.** -/
def step (s : NativeSession) (input : NativeAction × Instant) : NativeSession :=
  let (occurrence, s) := s.select input.1
  s.handle occurrence input.2

end NativeSession

end Feros
