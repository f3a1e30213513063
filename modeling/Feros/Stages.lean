import Feros.Types
/-! # The components around the turn coordinator

* **`Tracer`**: the event bus façade, with the turn span and the text spoken in it;
* **`PlaybackTracker`**: how long the client still plays the audio it was sent;
* **`AgentAudioCursor`**: where an audio chunk is placed in the recording;
* **`TtsStage`**: which of its channels a synthesis session has open.

A tracer method returns the events it puts on the bus.  The anchors that only feed latency
figures are left out; `speechEnded` and `ttsTextFed` decide which events are emitted. -/

namespace Feros

/-! ## Tracer -/

/-- Observability façade of one session. -/
structure Tracer where
  /-- Sequence counter of the trace events. -/
  traceSeq : ℕ
  /-- Text fed to TTS this turn. -/
  ttsText : String
  /-- Turn counter, starting at 1. -/
  turnCount : ℕ
  /-- A turn span is open. -/
  turnOpen : Bool
  /-- The anchor `speech_ended` of the pipeline is set. -/
  speechEnded : Bool
  /-- The anchor `tts_text_fed` of the pipeline is set. -/
  ttsTextFed : Bool
  deriving DecidableEq, Repr

namespace Tracer

/-- A fresh tracer. -/
def new : Tracer := ⟨0, "", 0, false, false, false⟩

/-- Record a raw trace event. -/
def trace (label : String) (t : Tracer) : Tracer × List Event :=
  ({ t with traceSeq := t.traceSeq + 1 }, [.trace (t.traceSeq + 1) label])

/-- End-of-utterance decision committed. -/
def markSpeechEnded (t : Tracer) : Tracer := { t with speechEnded := true }

/-- First block of text fed to TTS synthesis. -/
def markTtsTextFed (t : Tracer) : Tracer := { t with ttsTextFed := true }

/-- Append text fed to TTS this turn. -/
def appendTtsText (text : String) (t : Tracer) : Tracer := { t with ttsText := t.ttsText ++ text }

/-- `TurnTracker::reset_pipeline`. -/
def resetPipeline (t : Tracer) : Tracer := { t with speechEnded := false, ttsTextFed := false }

/-- Cancel the current turn; an open span is closed as interrupted. -/
def cancelTurn (t : Tracer) : Tracer × List Event :=
  let t := { t.resetPipeline with ttsText := "" }
  if t.turnOpen then
    ({ t with turnOpen := false }, [.turnEnded t.turnCount true])
  else
    (t, [])

/-- Open a new turn span and emit the STT result. -/
def startTurn (sttProvider sttModel transcript language : String) (vadEnabled : Bool)
    (t : Tracer) : Tracer × List Event :=
  -- Guard: cancel any open turn before starting a new one.
  let (t, cancelled) := if t.turnOpen then t.cancelTurn else (t, [])
  let t := { t with turnCount := t.turnCount + 1, turnOpen := true }
  (t, cancelled ++ [.turnStarted t.turnCount,
    .sttComplete sttProvider sttModel transcript true (some language) vadEnabled])

/-- Turn complete: `TtsComplete`, `TurnMetrics` and `TurnEnded`. -/
def finishTurn (wasInterrupted : Bool) (ttsProvider ttsModel voiceId : String) (t : Tracer) :
    Tracer × List Event :=
  if !t.turnOpen then (t, [])
  else
    let spoken := if t.ttsTextFed then
        [Event.ttsComplete ttsProvider ttsModel t.ttsText voiceId t.ttsText.length]
      else []
    let t := { t with turnOpen := false, ttsText := "" }
    -- Without the `speech_ended` anchor there are no metrics and the pipeline is not reset.
    let (t, metrics) := if t.speechEnded then (t.resetPipeline, [Event.turnMetrics t.turnCount])
      else (t, [])
    (t, spoken ++ metrics ++ [.turnEnded t.turnCount wasInterrupted])

end Tracer

/-! ## Playback -/

/-- Network and jitter buffer added to the estimated playback end. -/
def playbackBuffer : Duration := Duration.fromMillis 2000

/-- Estimates when the client will finish playing streamed TTS audio. -/
structure PlaybackTracker where
  sampleRate : ℕ
  firstChunkTs : Option Instant
  lastChunkTs : Option Instant
  totalBytes : ℕ
  deriving DecidableEq, Repr

namespace PlaybackTracker

/-- A tracker that has seen no audio. -/
def new (sampleRate : ℕ) : PlaybackTracker := ⟨sampleRate, none, none, 0⟩

/-- Record a PCM chunk being sent to the client. -/
def record (now : Instant) (pcmBytes : ℕ) (p : PlaybackTracker) : PlaybackTracker :=
  { p with
    firstChunkTs := some (p.firstChunkTs.getD now)
    lastChunkTs := some now
    totalBytes := p.totalBytes + pcmBytes }

/-- Duration of all PCM sent this turn, cut to the nanosecond. -/
def totalAudioDuration (p : PlaybackTracker) : Duration :=
  let bytesPerSec := p.sampleRate * 2
  if bytesPerSec = 0 then 0 else Duration.fromSecs p.totalBytes / bytesPerSec

/-- Estimated remaining playback time on the client. -/
def remainingPlayback (now : Instant) (p : PlaybackTracker) : Duration :=
  match p.firstChunkTs with
  | none => 0
  | some firstTs =>
    let lastTs := p.lastChunkTs.getD firstTs
    let earliestDone := max (firstTs + p.totalAudioDuration) lastTs
    -- Zero if playback should already be finished.
    earliestDone + playbackBuffer - now

/-- Reset for a new turn. -/
def reset (p : PlaybackTracker) : PlaybackTracker :=
  { p with firstChunkTs := none, lastChunkTs := none, totalBytes := 0 }

end PlaybackTracker

/-- Timestamps agent audio for accurate recording placement. -/
structure AgentAudioCursor where
  sessionStart : Instant
  sampleRate : ℕ
  cursor : ℕ
  /-- Set by `beginTurn`, cleared by the first `stamp` of the turn. -/
  pendingTurnSnap : Bool
  deriving DecidableEq, Repr

namespace AgentAudioCursor

/-- A cursor at the start of the session. -/
def new (now : Instant) (sampleRate : ℕ) : AgentAudioCursor := ⟨now, sampleRate, 0, false⟩

/-- Mark the start of a new TTS turn. -/
def beginTurn (c : AgentAudioCursor) : AgentAudioCursor := { c with pendingTurnSnap := true }

/-- Wall-clock elapsed time in samples. -/
def elapsedSamples (now : Instant) (c : AgentAudioCursor) : ℕ :=
  (now - c.sessionStart) * c.sampleRate / 1000000000

/-- The start offset of a chunk, and the cursor advanced past it. -/
def stamp (now : Instant) (pcmBytes : ℕ) (c : AgentAudioCursor) : ℕ × AgentAudioCursor :=
  let start := if c.pendingTurnSnap then max c.cursor (c.elapsedSamples now) else c.cursor
  (start, { c with cursor := start + pcmBytes / 2, pendingTurnSnap := false })

/-- Realign the wall-clock origin to now. -/
def resetOrigin (now : Instant) (c : AgentAudioCursor) : AgentAudioCursor :=
  { c with sessionStart := now }

end AgentAudioCursor

/-! ## TTS stage -/

/-- How the configured provider synthesises. -/
inductive TtsMode where
  /-- One request per batch. -/
  | http
  /-- A session-scoped WebSocket. -/
  | streaming
  deriving DecidableEq, Repr

/-- The TTS stage: which of its channels are open. -/
structure TtsStage where
  /-- The token channel of a running synthesis session. -/
  tokenTx : Bool
  /-- The channel audio and `Finished` come through. -/
  audioRx : Bool
  /-- The channel the reactor pushes WebSocket chunks into. -/
  audioEventTx : Bool
  /-- The command channel of the WebSocket connection. -/
  wsCmdTx : Bool
  /-- The signal that stops the token task. -/
  cancelTx : Bool
  deriving DecidableEq, Repr

namespace TtsStage

/-- A stage with no session. -/
def new : TtsStage := ⟨false, false, false, false, false⟩

/-- Begin an HTTP synthesis session. -/
def startHttp (t : TtsStage) : TtsStage :=
  { t with tokenTx := true, audioRx := true, cancelTx := false }

/-- Begin a WS streaming synthesis session. -/
def startWs (_ : TtsStage) : TtsStage := ⟨true, true, true, true, true⟩

/-- Cancel immediately. -/
def cancel (_ : TtsStage) : TtsStage := ⟨false, false, false, false, false⟩

/-- Mark the session as finished; the audio channels stay open. -/
def markFinished (t : TtsStage) : TtsStage := { t with tokenTx := false, cancelTx := false }

/-- A synthesis session is active. -/
def isActive (t : TtsStage) : Bool := t.tokenTx

/-- A new stage is not active. -/
@[simp] theorem isActive_new : new.isActive = false := rfl

/-- A stage that speaks over HTTP is active. -/
@[simp] theorem isActive_startHttp (t : TtsStage) : t.startHttp.isActive = true := rfl

/-- A stage that speaks over a socket is active. -/
@[simp] theorem isActive_startWs (t : TtsStage) : t.startWs.isActive = true := rfl

/-- A cancelled stage is not active. -/
@[simp] theorem isActive_cancel (t : TtsStage) : t.cancel.isActive = false := rfl

/-- A finished stage is not active. -/
@[simp] theorem isActive_markFinished (t : TtsStage) : t.markFinished.isActive = false := rfl

end TtsStage

end Feros
