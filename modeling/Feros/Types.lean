import Feros.Text
import Mathlib.Algebra.GroupWithZero.Nat
/-! # Shared types

The events of the voice pipeline: what the stages send into the reactor, what the reactor puts on
the event bus, and the session configuration.  Clock readings are nanoseconds; the floating-point
figures of the metrics and the model parameters no modelled function reads are left out. -/

namespace Feros

/-- Raw PCM16 bytes. -/
abbrev Bytes := List UInt8

/-- A clock reading, in nanoseconds. -/
abbrev Instant := ℕ

/-- A time span, in nanoseconds. -/
abbrev Duration := ℕ

/-- `Duration::from_secs`. -/
def Duration.fromSecs (secs : ℕ) : Duration := secs * 1000000000

/-- `Duration::from_millis`. -/
def Duration.fromMillis (millis : ℕ) : Duration := millis * 1000000

/-- A key handed out by the delay queue. -/
abbrev Key := ℕ

/-- Current state of a voice session. -/
inductive SessionState where
  | idle
  | listening
  | processing
  | speaking
  | toolCalling
  deriving DecidableEq, Repr

/-- The lower-cased `Debug` name of a session state. -/
def SessionState.name : SessionState → String
  | .idle => "idle"
  | .listening => "listening"
  | .processing => "processing"
  | .speaking => "speaking"
  | .toolCalling => "toolcalling"

/-- The timer categories of the reactor's one delay queue. -/
inductive TimerKey where
  /-- SmartTurn said "not done yet": finalize anyway when it fires. -/
  | endOfTurnFallback
  /-- The wait after a ○ or ◐ marker. -/
  | turnCompletion
  /-- The user has been silent since the last interaction. -/
  | userIdle
  /-- The watchdog of the side-effect tools. -/
  | sideEffectTimeout
  /-- The transcript asked for did not come. -/
  | sttTimeout
  /-- The client has had time to play the goodbye. -/
  | hangUpDelay
  deriving DecidableEq, Repr

/-! ## Events into the reactor -/

/-- Events emitted by the STT stage. -/
inductive SttEvent where
  | firstTextReceived
  | partialTranscript (text : String)
  | transcript (text : String)
  | error (reason : String)
  deriving DecidableEq, Repr

/-- Data of an LLM generation completion. -/
structure LlmCompletionData where
  provider : String
  model : String
  inputJson : String
  outputJson : String
  toolsJson : Option String
  maxTokens : ℕ
  promptTokens : ℕ
  completionTokens : ℕ
  cacheReadTokens : Option ℕ
  /-- `"llm"`, `"llm_tool_req"` or `"llm_tool_resp"`. -/
  spanLabel : String
  deriving DecidableEq, Repr

/-- Events emitted by an agent backend. -/
inductive AgentEvent where
  | token (text : String)
  | toolCallStarted (id name : String) (sideEffect : Bool)
  | toolCallCompleted (id name : String) (success : Bool) (errorMessage : Option String)
  | finished (content : Option String)
  | error (message : String)
  | hangUp (reason : String) (content : Option String)
  | onHold (durationSecs : ℕ)
  | llmComplete (data : LlmCompletionData)
  deriving DecidableEq, Repr

/-- Events emitted by the LLM stage. -/
inductive LlmEvent where
  | token (text : String)
  | finished (content : Option String)
  | toolCallStarted (id name : String) (sideEffect : Bool)
  | toolCallCompleted (id name : String) (success : Bool) (errorMessage : Option String)
  | error (message : String)
  | hangUp (reason : String) (content : Option String)
  | onHold (durationSecs : ℕ)
  | llmComplete (data : LlmCompletionData)
  deriving DecidableEq, Repr

/-- Events emitted by the TTS stage. -/
inductive TtsEvent where
  | audio (pcm : Bytes)
  | finished
  | error (reason : String)
  deriving DecidableEq, Repr

/-- Events emitted by the VAD stage; `speechEnded` carries the audio of the utterance. -/
inductive VadEvent where
  | speechStarted
  | speechEnded (audio : Bytes)
  deriving DecidableEq, Repr

/-! ## Events on the bus -/

/-- **The events the reactor and its tracer emit.** -/
inductive Event where
  | sessionReady
  | stateChanged (state : String)
  | interrupt
  | sessionEnded
  | transcript (role text : String)
  | toolActivity (toolCallId : Option String) (toolName status : String)
      (errorMessage : Option String)
  | agentEvent (kind : String)
  | error (source message : String)
  | agentAudio (pcm : Bytes) (sampleRate offsetSamples : ℕ)
  | turnMetrics (turnId : ℕ)
  | trace (seq : ℕ) (label : String)
  | turnStarted (turnNumber : ℕ)
  | turnEnded (turnNumber : ℕ) (wasInterrupted : Bool)
  | sttComplete (provider model transcript : String) (isFinal : Bool)
      (language : Option String) (vadEnabled : Bool)
  | llmComplete (data : LlmCompletionData)
  | ttsComplete (provider model text voiceId : String) (characterCount : ℕ)
  deriving DecidableEq, Repr

/-! ## Configuration -/

/-- Configuration of a voice session, with its defaults. -/
structure SessionConfig where
  systemPrompt : String := "You are a helpful voice assistant."
  voiceId : String := "default"
  language : String := "en"
  /-- Output sample rate of the TTS audio. -/
  outputSampleRate : ℕ := 24000
  greeting : Option String := none
  smartTurnEnabled : Bool := true
  /-- Enable LLM turn completion marker detection (✓/○/◐). -/
  turnCompletionEnabled : Bool := true
  /-- Seconds of user silence before a re-engagement prompt. -/
  idleTimeoutSecs : ℕ := 4
  /-- Number of idle nudges to send before hanging up. -/
  idleMaxNudges : ℕ := 2
  /-- Minimum number of STT words before a barge-in is accepted. -/
  minBargeInWords : ℕ := 2
  /-- Expected P99 latency from speech end to final transcript, in milliseconds. -/
  sttP99LatencyMs : ℕ := 1000
  sttProvider : String := "unknown"
  sttModel : String := ""
  ttsProvider : String := "unknown"
  ttsModel : String := ""
  deriving DecidableEq, Repr

end Feros
