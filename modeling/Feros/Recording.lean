import Feros.Stages
/-! # The recording subscriber

`runRecordingLoop` takes the events of the bus one by one and lays the audio of the two sides on
timelines of samples.  The user side is written at a cursor; the agent side at a cursor that snaps
forward to the offset of a chunk, is muted by an interrupt and unmuted by the start of a turn.

* **`AudioEnv`** is what lies outside: the resampler, and the two floating-point conversions.
* **`placeSamples`** mixes samples into a timeline, and says where they went.
* **`RecordingLoop.receive`** is one turn of the loop.

Time stamps, the encoders and the warnings are left out. -/

namespace Feros

/-! ## Samples -/

/-- A 16-bit sample. -/
abbrev Sample := ℤ

/-- `i16::from_le_bytes`. -/
def i16FromLeBytes (low high : UInt8) : Sample :=
  let n : ℤ := low.toNat + 256 * high.toNat
  if n < 32768 then n else n - 65536

/-- Raw PCM16 little-endian bytes as samples; an odd byte at the end is cut off. -/
def bytesToI16 : Bytes → List Sample
  | low :: high :: rest => i16FromLeBytes low high :: bytesToI16 rest
  | _ => []

/-- Add and clamp to the range of a sample. -/
def mixSample (a b : Sample) : Sample := max (-32768) (min 32767 (a + b))

/-- Two hours at 48 kHz. -/
def maxTimelineSamples : ℕ := 48000 * 60 * 120

/-- The largest forward jump: five minutes at 48 kHz. -/
def maxGapSamples : ℕ := 48000 * 60 * 5

/-- Mix samples into a timeline at a position, growing it with silence as needed. -/
def mixAt (timeline samples : List Sample) (start : ℕ) : List Sample :=
  let grown := timeline ++ List.replicate (start + samples.length - timeline.length) 0
  grown.take start ++ List.zipWith mixSample (grown.drop start) samples ++
    grown.drop (start + samples.length)

/-- Where `count` samples go that are to start at `start`; `none` if they are dropped. -/
def placement (length count start : ℕ) : Option ℕ :=
  let actualStart := if start > maxGapSamples + length then maxGapSamples + length else start
  if actualStart + count > maxTimelineSamples then none else some actualStart

/-- Write samples into a timeline starting at `start`: the timeline, and where they went. -/
def placeSamples (timeline samples : List Sample) (start : ℕ) : List Sample × Option ℕ :=
  match placement timeline.length samples.length start with
  | some actualStart => (mixAt timeline samples actualStart, some actualStart)
  | none => (timeline, none)

/-! ## The loop -/

/-- **What the loop uses from outside.** -/
structure AudioEnv where
  Resampler : Type
  /-- A stream resampler from one rate to another. -/
  resampler : ℕ → ℕ → Resampler
  process : Resampler → Bytes → Bytes × Resampler
  /-- An offset at the rate of a chunk, at the rate of the recording. -/
  convertOffset : ℕ → ℕ → ℕ → ℕ
  /-- The samples played after some time, with 200 ms of grace. -/
  cutoffSamples : Duration → ℕ → ℕ

/-- The options the loop reads. -/
structure RecordingConfig where
  sampleRate : ℕ
  /-- Zero for no limit. -/
  maxDurationSecs : ℕ
  includeToolDetails : Bool
  includeLlmMetadata : Bool
  deriving DecidableEq, Repr

namespace RecordingConfig

/-- The samples allowed on a channel; zero for no limit. -/
def maxSamples (options : RecordingConfig) : ℕ :=
  if options.maxDurationSecs > 0 then options.maxDurationSecs * options.sampleRate else 0

end RecordingConfig

/-- An entry of the session transcript. -/
inductive TranscriptEntry where
  | message (role text : String) (wasInterrupted : Bool)
  | toolCall (toolName status : String)
  | llmGeneration (provider model : String) (promptTokens completionTokens : ℕ)
  | turnMetrics (turnId : ℕ)
  | sessionEvent (kind : String)
  deriving DecidableEq, Repr

/-- **The local state of the loop.** -/
structure RecordingLoop (env : AudioEnv) where
  tlUser : List Sample
  tlAgent : List Sample
  userResampler : Option env.Resampler
  agentResamplers : List (ℕ × env.Resampler)
  userWriteCursor : ℕ
  agentWriteCursor : ℕ
  /-- Set by an interrupt, until the next turn starts. -/
  agentMuted : Bool
  durationCapped : Bool
  transcript : List TranscriptEntry
  /-- The latest assistant message, to be marked if its turn is interrupted. -/
  lastAssistantIdx : Option ℕ
  /-- The loop was left. -/
  ended : Bool

/-- What the loop receives. -/
inductive Received where
  | userAudio (pcm : Bytes) (sampleRate : ℕ)
  /-- Any other event of the bus, handled some time after the loop began. -/
  | event (event : Event) (elapsed : Duration)
  deriving DecidableEq, Repr

namespace RecordingLoop

variable {env : AudioEnv}

/-- The loop before it receives anything. -/
def new (env : AudioEnv) : RecordingLoop env where
  tlUser := []
  tlAgent := []
  userResampler := none
  agentResamplers := []
  userWriteCursor := 0
  agentWriteCursor := 0
  agentMuted := false
  durationCapped := false
  transcript := [.sessionEvent "started"]
  lastAssistantIdx := none
  ended := false

/-- Append an entry to the transcript. -/
def log (entry : TranscriptEntry) (r : RecordingLoop env) : RecordingLoop env :=
  { r with transcript := r.transcript ++ [entry] }

/-- A frame of user audio. -/
def userAudio (options : RecordingConfig) (pcm : Bytes) (rate : ℕ) (r : RecordingLoop env) :
    RecordingLoop env :=
  if r.durationCapped then r
  else
    let (resampled, resampler) :=
      if rate ≠ options.sampleRate then
        let (out, used) := env.process
          (r.userResampler.getD (env.resampler rate options.sampleRate)) pcm
        (out, some used)
      else (pcm, r.userResampler)
    let samples := bytesToI16 resampled
    let tlUser := (placeSamples r.tlUser samples r.userWriteCursor).1
    { r with
      tlUser := tlUser
      userResampler := resampler
      userWriteCursor := r.userWriteCursor + samples.length
      durationCapped := options.maxSamples > 0 && tlUser.length ≥ options.maxSamples }

/-- The offset of a chunk at the rate of the recording. -/
def convertedOffset (env : AudioEnv) (options : RecordingConfig) (rate offset : ℕ) : ℕ :=
  if rate = options.sampleRate then offset else env.convertOffset offset rate options.sampleRate

/-- The samples of an agent chunk at the rate of the recording. -/
def resampleAgent (options : RecordingConfig) (pcm : Bytes) (rate : ℕ) (r : RecordingLoop env) :
    List Sample × List (ℕ × env.Resampler) :=
  if rate ≠ options.sampleRate then
    let (out, used) := env.process
      ((r.agentResamplers.lookup rate).getD (env.resampler rate options.sampleRate)) pcm
    (bytesToI16 out, (rate, used) :: r.agentResamplers.filter (·.1 != rate))
  else (bytesToI16 pcm, r.agentResamplers)

/-- A chunk of agent audio; also says where its samples were placed, if they were. -/
def agentAudio (options : RecordingConfig) (pcm : Bytes) (rate offset : ℕ) (r : RecordingLoop env) :
    RecordingLoop env × Option ℕ :=
  if r.durationCapped then (r, none)
  else
    let converted := convertedOffset env options rate offset
    -- Chunks of a cancelled turn that are still in flight.
    if r.agentMuted then (r, none)
    else
      let (samples, resamplers) := r.resampleAgent options pcm rate
      -- A snap forward is the start of a turn, and lifts the muting, were it still on here.
      let (start, muted) :=
        if converted > r.agentWriteCursor then (converted, false)
        else (r.agentWriteCursor, r.agentMuted)
      let (tlAgent, placed) := placeSamples r.tlAgent samples start
      ({ r with
          tlAgent := tlAgent
          agentResamplers := resamplers
          agentWriteCursor := start + samples.length
          agentMuted := muted
          durationCapped := options.maxSamples > 0 &&
            max r.tlUser.length tlAgent.length ≥ options.maxSamples }, placed)

/-- Barge-in: mute the agent, and cut what the client cannot have heard. -/
def interrupt (options : RecordingConfig) (elapsed : Duration) (r : RecordingLoop env) :
    RecordingLoop env :=
  let r := { r with agentMuted := true, agentResamplers := [] }
  let cutoff := env.cutoffSamples elapsed options.sampleRate
  if cutoff < r.tlAgent.length then
    { r with tlAgent := r.tlAgent.take cutoff, agentWriteCursor := cutoff }
  else r

/-- A line of the conversation. -/
def transcriptLine (role text : String) (r : RecordingLoop env) : RecordingLoop env :=
  { r.log (.message role text false) with
    lastAssistantIdx := if role = "assistant" then some r.transcript.length else none }

/-- Mark the message at an index as interrupted. -/
def markInterrupted : TranscriptEntry → TranscriptEntry
  | .message role text _ => .message role text true
  | entry => entry

/-- The end of a turn. -/
def turnEnded (wasInterrupted : Bool) (r : RecordingLoop env) : RecordingLoop env :=
  match wasInterrupted, r.lastAssistantIdx with
  | true, some idx =>
    { r with transcript := r.transcript.modify idx markInterrupted, lastAssistantIdx := none }
  | _, _ => { r with lastAssistantIdx := none }

/-- **One turn of the loop.** -/
def receive (options : RecordingConfig) (r : RecordingLoop env) (received : Received) :
    RecordingLoop env :=
  if r.ended then r
  else
    match received with
    | .userAudio pcm rate => r.userAudio options pcm rate
    | .event event elapsed =>
      match event with
      | .agentAudio pcm rate offset => (r.agentAudio options pcm rate offset).1
      | .transcript role text => r.transcriptLine role text
      | .turnEnded _ wasInterrupted => r.turnEnded wasInterrupted
      | .toolActivity _ toolName status _ =>
        if options.includeToolDetails then r.log (.toolCall toolName status) else r
      | .llmComplete data =>
        if options.includeLlmMetadata then
          r.log (.llmGeneration data.provider data.model data.promptTokens data.completionTokens)
        else r
      | .turnMetrics turnId => r.log (.turnMetrics turnId)
      | .sessionEnded => { r.log (.sessionEvent "ended") with ended := true }
      | .turnStarted turnNumber =>
        { r.log (.sessionEvent ("turn_started (" ++ toString turnNumber ++ ")")) with
          agentMuted := false }
      | .interrupt => r.interrupt options elapsed
      | _ => r

end RecordingLoop

end Feros
