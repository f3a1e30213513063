import Feros.Types
/-! # Bus events and their storage projection

Everything on the event bus has a category, by which subscribers filter, and most of it has a storage
projection, the `SinkEvent` that a database row holds.  As in the events themselves, the floating-point
figures are left out. -/

namespace Feros

/-- Categories for subscriber filtering. -/
inductive EventCategory where
  | session
  | transcript
  | tool
  | agent
  | agentAudio
  | metrics
  | trace
  | error
  | observability
  | userAudio
  deriving DecidableEq, Repr

/-- Every event on the bus: those of the reactor and its tracer, and the two that only the native
session and the recording put there. -/
inductive BusEvent where
  | event (event : Event)
  | transcriptChunk (role text : String) (isFinal : Bool)
  | userAudio (pcm : Bytes) (sampleRate : ℕ)
  deriving DecidableEq, Repr

/-- The category an event belongs to. -/
def BusEvent.category : BusEvent → EventCategory
  | .event .sessionReady | .event (.stateChanged _) | .event .interrupt | .event .sessionEnded => .session
  | .event (.transcript _ _) | .transcriptChunk _ _ _ => .transcript
  | .event (.toolActivity _ _ _ _) => .tool
  | .event (.agentEvent _) => .agent
  | .event (.error _ _) => .error
  | .event (.agentAudio _ _ _) => .agentAudio
  | .event (.turnMetrics _) => .metrics
  | .event (.trace _ _) => .trace
  | .event (.turnStarted _) | .event (.turnEnded _ _) | .event (.sttComplete _ _ _ _ _ _)
  | .event (.llmComplete _) | .event (.ttsComplete _ _ _ _ _) => .observability
  | .userAudio _ _ => .userAudio

/-- Serializable projection of the bus events that matter for storage. -/
inductive SinkEvent where
  | sessionReady
  | stateChanged (state : String)
  | interrupt
  | sessionEnded
  | transcript (role text : String)
  | toolActivity (toolName status : String)
  | agentEvent (kind : String)
  | error (source message : String)
  | turnMetrics (turnId : ℕ)
  | turnStarted (turnNumber : ℕ)
  | turnEnded (turnNumber : ℕ) (wasInterrupted : Bool)
  | sttComplete (provider model transcript : String) (isFinal : Bool)
      (language : Option String) (vadEnabled : Bool)
  | llmComplete (data : LlmCompletionData)
  | ttsComplete (provider model text voiceId : String) (characterCount : ℕ)
  deriving DecidableEq, Repr

/-- `to_sink_event`: audio, raw traces and streaming chunks are not stored. -/
def SinkEvent.fromEvent : BusEvent → Option SinkEvent
  | .event .sessionReady => some .sessionReady
  | .event (.stateChanged state) => some (.stateChanged state)
  | .event .interrupt => some .interrupt
  | .event .sessionEnded => some .sessionEnded
  | .event (.transcript role text) => some (.transcript role text)
  | .event (.toolActivity _ toolName status _) => some (.toolActivity toolName status)
  | .event (.agentEvent kind) => some (.agentEvent kind)
  | .event (.error source message) => some (.error source message)
  | .event (.turnMetrics turnId) => some (.turnMetrics turnId)
  | .event (.turnStarted turnNumber) => some (.turnStarted turnNumber)
  | .event (.turnEnded turnNumber wasInterrupted) => some (.turnEnded turnNumber wasInterrupted)
  | .event (.sttComplete provider model text isFinal language vadEnabled) =>
    some (.sttComplete provider model text isFinal language vadEnabled)
  | .event (.llmComplete data) => some (.llmComplete data)
  | .event (.ttsComplete provider model text voiceId characterCount) =>
    some (.ttsComplete provider model text voiceId characterCount)
  | .event (.agentAudio _ _ _) | .event (.trace _ _) | .userAudio _ _ | .transcriptChunk _ _ _ => none

/-- The `event_type` of a row. -/
def SinkEvent.eventTypeName : SinkEvent → String
  | .sessionReady => "session_ready"
  | .stateChanged _ => "state_changed"
  | .interrupt => "interrupt"
  | .sessionEnded => "session_ended"
  | .transcript _ _ => "transcript"
  | .toolActivity _ _ => "tool_activity"
  | .agentEvent _ => "agent_event"
  | .error _ _ => "error"
  | .turnMetrics _ => "turn_metrics"
  | .turnStarted _ => "turn_started"
  | .turnEnded _ _ => "turn_ended"
  | .sttComplete _ _ _ _ _ _ => "stt_complete"
  | .llmComplete _ => "llm_complete"
  | .ttsComplete _ _ _ _ _ => "tts_complete"

/-- The `event_category` of a row. -/
def SinkEvent.eventCategoryName : SinkEvent → String
  | .sessionReady | .stateChanged _ | .interrupt | .sessionEnded => "session"
  | .transcript _ _ => "transcript"
  | .toolActivity _ _ => "tool"
  | .agentEvent _ => "agent"
  | .error _ _ => "error"
  | .turnMetrics _ => "metrics"
  | .turnStarted _ | .turnEnded _ _ | .sttComplete _ _ _ _ _ _ | .llmComplete _
  | .ttsComplete _ _ _ _ _ => "observability"

end Feros
