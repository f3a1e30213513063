import Feros.Library.Run
import Feros.Agent.GeminiLive
/-! # The events of a message

A message of the server is read part by part, and each part has its events.  What the user says comes
first: a chunk of it, and what was left of it is flushed before the first part that needs it.  The bot is
transcribed after that, and only the **voice** of the provider bears on it: its output phase, and the text of
the turn before. -/

namespace Feros

namespace RealtimeEvent

/-- The user is transcribed. -/
def isInput : RealtimeEvent → Bool
  | .inputTranscription _ _ => true
  | _ => false

/-- A text that was transcribed for the bot, final or not. -/
def output (isFinal : Bool) : RealtimeEvent → Option String
  | .outputTranscription text final => if final = isFinal then some text else none
  | _ => none

end RealtimeEvent

/-- The deltas among events. -/
def deltasOf (events : List RealtimeEvent) : List String := events.filterMap (RealtimeEvent.output false)

/-- The full texts among events. -/
def fullTextsOf (events : List RealtimeEvent) : List String := events.filterMap (RealtimeEvent.output true)

/-- The deltas of events, one list after the other. -/
theorem deltasOf_append (first second : List RealtimeEvent) :
    deltasOf (first ++ second) = deltasOf first ++ deltasOf second := List.filterMap_append

/-- The full texts of events, one list after the other. -/
theorem fullTextsOf_append (first second : List RealtimeEvent) :
    fullTextsOf (first ++ second) = fullTextsOf first ++ fullTextsOf second := List.filterMap_append

/-- What the user says is no output. -/
theorem outputs_of_input {events : List RealtimeEvent} (input : ∀ event ∈ events, event.isInput = true)
    (isFinal : Bool) : events.filterMap (RealtimeEvent.output isFinal) = [] := by
  rw [List.filterMap_eq_nil_iff]
  intro event held
  have isInput := input event held
  cases event with
  | inputTranscription => rfl
  | botAudioChunk => cases isInput
  | toolCall => cases isInput
  | outputTranscription => cases isInput
  | turnComplete => cases isInput
  | error => cases isInput

/-- **A message that arrives**, with ids for the tool calls that have none. -/
structure Arrival where
  msg : ServerMessage
  uuid : ℕ → String

namespace GeminiLiveProvider

section Reading

variable (library : ToolLibrary) (decode : String → Except String (List UInt8))

/-- The provider has read a message. -/
def reads (p : GeminiLiveProvider) (arrival : Arrival) : GeminiLiveProvider :=
  (p.parseServerMessage library decode arrival.uuid arrival.msg).2

/-- The events of a message. -/
def emits (p : GeminiLiveProvider) (arrival : Arrival) : List RealtimeEvent :=
  (p.parseServerMessage library decode arrival.uuid arrival.msg).1

end Reading

/-! ## The voice of the provider -/

/-- **The voice is the same.** -/
structure SameVoice (p q : GeminiLiveProvider) : Prop where
  outputPhase : q.outputPhase = p.outputPhase
  lastCompletedOutput : q.lastCompletedOutput = p.lastCompletedOutput

namespace SameVoice

variable {p q r : GeminiLiveProvider}

/-- Nothing has happened. -/
theorem refl (p : GeminiLiveProvider) : SameVoice p p := ⟨rfl, rfl⟩

/-- One step after the other. -/
theorem trans (first : SameVoice p q) (second : SameVoice q r) : SameVoice p r :=
  ⟨second.outputPhase.trans first.outputPhase,
    second.lastCompletedOutput.trans first.lastCompletedOutput⟩

/-- A handle is no matter of the voice. -/
theorem handleResumption (update : Option SessionResumptionUpdate) (p : GeminiLiveProvider) :
    SameVoice p (p.handleResumption update) := by
  unfold GeminiLiveProvider.handleResumption
  split
  · exact ⟨rfl, rfl⟩
  · exact .refl p

/-- What the user says is no matter of the voice. -/
theorem pushInput (text : String) (p : GeminiLiveProvider) : SameVoice p (p.pushInput text).2 := by
  unfold GeminiLiveProvider.pushInput
  dsimp only
  split
  · exact ⟨rfl, rfl⟩
  · exact ⟨rfl, rfl⟩

/-- A transcription of the user is no matter of the voice. -/
theorem handleInput (transcription : Option (Option String)) (p : GeminiLiveProvider) :
    SameVoice p (p.handleInput transcription).2 := by
  unfold GeminiLiveProvider.handleInput
  split
  · split
    · exact .refl p
    · exact .pushInput _ p
  · exact .refl p

/-- The rest of the user's words is no matter of the voice. -/
theorem flushPendingInput (p : GeminiLiveProvider) : SameVoice p p.flushPendingInput.2 := ⟨rfl, rfl⟩

end SameVoice

/-- A handle is no matter of the user's words. -/
theorem inputTranscriptBuf_handleResumption (update : Option SessionResumptionUpdate)
    (p : GeminiLiveProvider) : (p.handleResumption update).inputTranscriptBuf = p.inputTranscriptBuf := by
  unfold handleResumption
  split
  · rfl
  · rfl

/-- **A message with a content**: the content is read with the voice as it is, and the tool calls come last. -/
theorem reads_content (library : ToolLibrary) (decode : String → Except String (List UInt8))
    (p : GeminiLiveProvider) (arrival : Arrival) {content : ServerContent}
    (isContent : arrival.msg.serverContent = some content) : ∃ q, SameVoice p q ∧
      q.inputTranscriptBuf = p.inputTranscriptBuf ∧
      p.emits library decode arrival = (q.handleContent decode content).1 ++
        toolCallEvents library arrival.uuid (arrival.msg.toolCall.getD []) ∧
      p.reads library decode arrival = (q.handleContent decode content).2 := by
  have resumed := SameVoice.handleResumption arrival.msg.sessionResumptionUpdate
    { p with parsed := p.parsed ++ [arrival.msg] }
  have buffer := inputTranscriptBuf_handleResumption arrival.msg.sessionResumptionUpdate
    { p with parsed := p.parsed ++ [arrival.msg] }
  refine ⟨{ handleResumption arrival.msg.sessionResumptionUpdate
      { p with parsed := p.parsed ++ [arrival.msg] } with
    pendingUsage := arrival.msg.usageMetadata.or (handleResumption arrival.msg.sessionResumptionUpdate
      { p with parsed := p.parsed ++ [arrival.msg] }).pendingUsage },
    ⟨resumed.outputPhase, resumed.lastCompletedOutput⟩, buffer, ?_, ?_⟩
  · unfold emits parseServerMessage
    rw [isContent]
  · unfold reads parseServerMessage
    rw [isContent]

/-- **A message without a content** has tool calls at most. -/
theorem reads_noContent (library : ToolLibrary) (decode : String → Except String (List UInt8))
    (p : GeminiLiveProvider) (arrival : Arrival) (noContent : arrival.msg.serverContent = none) :
    p.emits library decode arrival =
        toolCallEvents library arrival.uuid (arrival.msg.toolCall.getD []) ∧
      (p.reads library decode arrival).inputTranscriptBuf = p.inputTranscriptBuf := by
  refine ⟨?_, ?_⟩
  · unfold emits parseServerMessage
    rw [noContent]
    exact List.nil_append _
  · unfold reads parseServerMessage
    rw [noContent]
    exact inputTranscriptBuf_handleResumption _ _

/-! ## Parts that are not there -/

/-- A message that does not interrupt is passed over. -/
theorem handleInterrupted_skip {interrupted : Option Bool} (skipped : interrupted ≠ some true)
    (p : GeminiLiveProvider) : p.handleInterrupted interrupted = ([], p) := if_neg skipped

/-- A message that completes no turn is passed over. -/
theorem handleTurnComplete_skip {turnComplete : Option Bool} (skipped : turnComplete ≠ some true)
    (p : GeminiLiveProvider) : p.handleTurnComplete turnComplete = ([], p) := if_neg skipped

/-! ## Which events a part has -/

/-- What the user says becomes events of the user. -/
theorem isInput_pushInput (text : String) (p : GeminiLiveProvider) :
    ∀ event ∈ (p.pushInput text).1, event.isInput = true := by
  have interim (chunk : String) : ∀ event ∈
      (if chunk.isEmpty then [] else [.inputTranscription chunk false] : List RealtimeEvent),
        event.isInput = true := by
    intro event held
    split at held
    · cases held
    · rw [List.mem_singleton.1 held]
      rfl
  unfold pushInput
  dsimp only
  split
  · intro event held
    rcases List.mem_append.1 held with held | held
    · exact interim _ event held
    · split at held
      · cases held
      · rw [List.mem_singleton.1 held]
        rfl
  · exact interim _

/-- A transcription of the user becomes events of the user. -/
theorem isInput_handleInput (transcription : Option (Option String)) (p : GeminiLiveProvider) :
    ∀ event ∈ (p.handleInput transcription).1, event.isInput = true := by
  unfold handleInput
  split
  · split
    · exact nofun
    · exact isInput_pushInput _ p
  · exact nofun

/-- The rest of the user's words becomes events of the user. -/
theorem isInput_flushPendingInput (p : GeminiLiveProvider) :
    ∀ event ∈ p.flushPendingInput.1, event.isInput = true := by
  unfold flushPendingInput
  dsimp only
  split
  · exact nofun
  · intro event held
    rw [List.mem_singleton.1 held]
    rfl

/-- The bot is transcribed by deltas. -/
theorem outputs_pushOutput (text : String) (p : GeminiLiveProvider) :
    deltasOf (p.pushOutput text).1 = (if text.isEmpty then [] else (p.pushOutputDelta text).1.toList) ∧
      fullTextsOf (p.pushOutput text).1 = [] := by
  unfold pushOutput
  split
  · exact ⟨rfl, rfl⟩
  · dsimp only
    cases (p.pushOutputDelta text).1 with
    | none => exact ⟨rfl, rfl⟩
    | some delta => exact ⟨rfl, rfl⟩

/-- Calls of tools are no output. -/
theorem outputs_toolCallEvents (library : ToolLibrary) (uuid : ℕ → String) (calls : List FunctionCall)
    (isFinal : Bool) :
    (toolCallEvents library uuid calls).filterMap (RealtimeEvent.output isFinal) = [] := by
  unfold toolCallEvents
  rw [List.filterMap_map, List.filterMap_eq_nil_iff]
  intro call _
  rfl

end GeminiLiveProvider

end Feros
