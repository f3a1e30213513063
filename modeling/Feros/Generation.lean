import Feros.Types
/-! # One LLM generation

`LlmTurnPhase` is the state of one LLM → TTS streaming turn: the first tokens are buffered until
they can be checked for a turn-completion marker, after which tokens are spoken or, behind a ○ or
◐, swallowed. -/

namespace Feros

/-- **State of one LLM → TTS streaming turn.** -/
inductive LlmTurnPhase where
  /-- No LLM turn is in flight. -/
  | idle
  /-- Streaming to TTS; `buf` holds the first tokens until the marker check has run. -/
  | generating (buf : Option String)
  /-- A ○ or ◐ was detected; `response` is what the `TurnCompletion` timer will replay. -/
  | suppressing (response : Option String)
  deriving DecidableEq, Repr

/-- What becomes of an incoming token. -/
inductive TokenAction where
  /-- Already suppressing. -/
  | drop
  /-- The buffer is not full yet. -/
  | accumulate
  /-- The marker check ran; `emittedText` goes to TTS. -/
  | markerCheckCompleted (marker : Option TurnCompletion) (emittedText : String)
  /-- Send the token to TTS. -/
  | passthrough (token : String)
  deriving DecidableEq, Repr

namespace LlmTurnPhase

/-- The marker scan is complete. -/
def markerChecked : LlmTurnPhase → Bool
  | .generating buf => buf.isNone
  | .suppressing _ => true
  | .idle => true

/-- Look for a marker at the start of the buffered text. -/
def checkMarker (buf : String) : TokenAction :=
  match TurnCompletion.detect buf with
  | some (marker, skip) =>
    .markerCheckCompleted (some marker) (if marker = .complete then sliceFrom buf skip else "")
  | none => .markerCheckCompleted none buf

/-- Process an incoming LLM token. -/
def processToken (phase : LlmTurnPhase) (token : String) (turnCompletionEnabled : Bool) :
    LlmTurnPhase × TokenAction :=
  match phase with
  | .suppressing response => (.suppressing response, .drop)
  | .generating (some buf) =>
    if turnCompletionEnabled then
      let buf := buf ++ token
      if buf.utf8ByteSize < 4 then (.generating (some buf), .accumulate)
      else (.generating none, checkMarker buf)
    else (.generating (some buf), .passthrough token)
  | phase => (phase, .passthrough token)

/-- Process the final flush if the stream ended before the buffer reached 4 bytes. -/
def processLateFlush (phase : LlmTurnPhase) (turnCompletionEnabled : Bool) :
    LlmTurnPhase × Option TokenAction :=
  if !turnCompletionEnabled || phase.markerChecked then (phase, none)
  else
    match phase with
    | .generating (some buf) =>
      if buf.isEmpty then (.generating none, none) else (.generating none, some (checkMarker buf))
    | phase => (phase, none)

end LlmTurnPhase

example : LlmTurnPhase.processToken (.generating (some "✓")) " hello" true =
    (.generating none, .markerCheckCompleted (some .complete) "hello") := by decide

end Feros
