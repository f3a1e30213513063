import Feros.Agent.Tools
/-! # The realtime provider of native sessions

A persistent WebSocket on which the model sends audio, transcriptions and tool calls.  A message of
the server becomes a list of events, which wait in a queue until they are asked for. -/

namespace Feros

/-! ## Phases of the output -/

/-- **The output turn**, with the text that has been transcribed in it. -/
inductive GeminiLivePhase where
  | listening
  | botSpeaking (buf : String)
  deriving DecidableEq, Repr

namespace GeminiLivePhase

/-- The bot is heard. -/
def isBotSpeaking : GeminiLivePhase → Bool
  | .botSpeaking _ => true
  | .listening => false

/-- Go over to speaking; nothing changes if the bot speaks already. -/
def begin : GeminiLivePhase → GeminiLivePhase
  | .listening => .botSpeaking ""
  | speaking => speaking

/-- Append a chunk; it is dropped while listening. -/
def push (chunk : String) : GeminiLivePhase → GeminiLivePhase
  | .botSpeaking buf => .botSpeaking (buf ++ chunk)
  | .listening => .listening

/-- The transcribed text of a turn that comes to its end, unless it is blank. -/
def fullText : GeminiLivePhase → Option String
  | .botSpeaking buf => if (trim buf).isEmpty then none else some (trim buf)
  | .listening => none

/-- Normal completion. -/
def complete (phase : GeminiLivePhase) : Option String × GeminiLivePhase := (phase.fullText, .listening)

/-- Interruption. -/
def cancel (phase : GeminiLivePhase) : Option String × GeminiLivePhase := (phase.fullText, .listening)

/-- What a text adds to a buffer: the server sometimes sends the whole text of the turn again. -/
def delta (buf text : String) : Option String :=
  if buf.toList.isPrefixOf text.toList then
    let rest := String.ofList (text.toList.drop buf.toList.length)
    if rest.isEmpty then none else some rest
  else if text.toList.isPrefixOf buf.toList then none
  else if text.isEmpty then none
  else some text

/-- Go over to speaking, and append what is new in a text. -/
def pushDelta (text : String) (phase : GeminiLivePhase) : Option String × GeminiLivePhase :=
  let buf := match phase with
    | .botSpeaking buf => buf
    | .listening => ""
  match delta buf text with
  | some delta => (some delta, phase.begin.push delta)
  | none => (none, phase.begin)

end GeminiLivePhase

/-! ## Messages of the server -/

/-- Audio, or something else, in a part of a turn. -/
structure InlineData where
  data : String
  mimeType : String
  deriving DecidableEq, Repr

/-- A part of a turn of the model. -/
structure ModelPart where
  text : Option String
  inlineData : Option InlineData
  thought : Option Bool
  deriving DecidableEq, Repr

/-- What the server says about the conversation; a transcription is a message with a text. -/
structure ServerContent where
  modelTurn : Option (List ModelPart) := none
  turnComplete : Option Bool := none
  interrupted : Option Bool := none
  inputTranscription : Option (Option String) := none
  outputTranscription : Option (Option String) := none
  deriving DecidableEq, Repr

/-- A call of a tool. -/
structure FunctionCall where
  id : Option String
  name : String
  args : Json

/-- A handle with which the session can be resumed. -/
structure SessionResumptionUpdate where
  newHandle : Option String
  resumable : Option Bool
  deriving DecidableEq, Repr

/-- Token counts. -/
structure UsageMetadata where
  promptTokenCount : Option ℕ := none
  responseTokenCount : Option ℕ := none
  deriving DecidableEq, Repr

/-- **A message of the server.** -/
structure ServerMessage where
  setupComplete : Bool := false
  serverContent : Option ServerContent := none
  toolCall : Option (List FunctionCall) := none
  sessionResumptionUpdate : Option SessionResumptionUpdate := none
  usageMetadata : Option UsageMetadata := none

/-! ## Events -/

/-- **An event of a realtime provider.** -/
inductive RealtimeEvent where
  | botAudioChunk (samples : List (BitVec 16))
  | toolCall (callId name arguments : String)
  | inputTranscription (text : String) (isFinal : Bool)
  | outputTranscription (text : String) (isFinal : Bool)
  | turnComplete (promptTokens completionTokens : ℕ)
  | error (message : String)
  deriving DecidableEq, Repr

/-- What a realtime session is set up with. -/
structure RealtimeConfig where
  systemInstruction : Option String
  voiceId : String
  tools : Option (List ToolSchema)
  sessionResumptionHandle : Option String
  deriving DecidableEq, Repr

/-- What is sent to the server. -/
inductive ClientMessage where
  | setup (config : RealtimeConfig) (handle : Option String)
  | audio (samples : List (BitVec 16))
  | activityStart
  | activityEnd
  | text (text : String)
  | toolResponse (callId toolName : String) (result : Json)
  | pong (payload : String)

/-- **The provider.** -/
structure GeminiLiveProvider where
  sessionResumptionHandle : Option String := none
  /-- There is a WebSocket. -/
  ws : Bool := false
  /-- The messages that were sent, and whether the WebSocket took them. -/
  sends : List (ClientMessage × Bool) := []
  /-- The messages that were read from the WebSocket. -/
  read : List ServerMessage := []
  /-- The messages that were converted into events. -/
  parsed : List ServerMessage := []
  inputTranscriptBuf : String := ""
  outputPhase : GeminiLivePhase := .listening
  /-- Text of the last completed turn. -/
  lastCompletedOutput : String := ""
  pendingUsage : Option UsageMetadata := none
  pendingEvents : List RealtimeEvent := []

namespace GeminiLiveProvider

/-! ## Audio -/

/-- Samples from little-endian bytes. -/
def samplesOf : List UInt8 → List (BitVec 16)
  | low :: high :: rest => (high.toBitVec ++ low.toBitVec) :: samplesOf rest
  | _ => []

/-- Decode the audio of a part; `decode` is Base64. -/
def base64ToPcm (decode : String → Except String (List UInt8)) (data : String) :
    Except String (List (BitVec 16)) :=
  match decode data with
  | .error e => .error ("base64 decode: " ++ e)
  | .ok bytes =>
    if bytes.length % 2 ≠ 0 then .error "PCM byte length is odd" else .ok (samplesOf bytes)

/-- The audio of a part, if it has any. -/
def audioOf (decode : String → Except String (List UInt8)) (part : ModelPart) : Option RealtimeEvent :=
  match part.inlineData with
  | some inline =>
    if inline.mimeType.startsWith "audio/pcm" then
      match base64ToPcm decode inline.data with
      | .ok [] | .error _ => none
      | .ok samples => some (.botAudioChunk samples)
    else none
  | none => none

/-! ## Transcriptions of the user -/

/-- The text up to the last end of a sentence, and the rest. -/
def splitSentence (text : String) : Option (String × String) :=
  let head := text.toList.rdropWhile fun c => !(c == '.' || c == '?' || c == '!')
  if head.isEmpty then none
  else some (String.ofList head, String.ofList (text.toList.drop head.length))

/-- A chunk of what the user says. -/
def pushInput (text : String) (p : GeminiLiveProvider) : List RealtimeEvent × GeminiLiveProvider :=
  let chunk := if p.inputTranscriptBuf.isEmpty then trimStart text else text
  let interim := if chunk.isEmpty then [] else [.inputTranscription chunk false]
  let buf := p.inputTranscriptBuf ++ chunk
  match splitSentence buf with
  | some (sentence, rest) =>
    let final := if (trim sentence).isEmpty then [] else [.inputTranscription (trim sentence) true]
    (interim ++ final, { p with inputTranscriptBuf := trimStart rest })
  | none => (interim, { p with inputTranscriptBuf := buf })

/-- Flush what the user has said since the last sentence. -/
def flushPendingInput (p : GeminiLiveProvider) : List RealtimeEvent × GeminiLiveProvider :=
  let leftover := trim p.inputTranscriptBuf
  (if leftover.isEmpty then [] else [.inputTranscription leftover true],
    { p with inputTranscriptBuf := "" })

/-! ## Transcriptions of the bot -/

/-- What is left of a text at the start of a turn when the text of the turn before is taken off. -/
def stripReplay (last text : String) : String :=
  if last.isEmpty then text
  else
    let baseline := (trimStart last).toList
    let trimmed := (trimStart text).toList
    if baseline.isPrefixOf trimmed then
      String.ofList ((trimmed.drop baseline.length).dropWhile (· == ' '))
    else text

/-- What counts of a text: at the start of a turn a replay is taken off. -/
def freshText (text : String) (p : GeminiLiveProvider) : String :=
  match p.outputPhase with
  | .listening => stripReplay p.lastCompletedOutput text
  | .botSpeaking _ => text

/-- What a text adds to the transcription of the bot. -/
def pushOutputDelta (text : String) (p : GeminiLiveProvider) : Option String × GeminiLiveProvider :=
  let effective := p.freshText text
  if effective.isEmpty then (none, p)
  else
    let (delta, phase) := p.outputPhase.pushDelta effective
    (delta, { p with
      outputPhase := phase
      -- The baseline serves the start of a turn only.
      lastCompletedOutput := if phase.isBotSpeaking then "" else p.lastCompletedOutput })

/-- A chunk of what the bot says. -/
def pushOutput (text : String) (p : GeminiLiveProvider) : List RealtimeEvent × GeminiLiveProvider :=
  if text.isEmpty then ([], p)
  else
    let (delta, p) := p.pushOutputDelta text
    (delta.toList.map (.outputTranscription · false), p)

/-! ## Reading a message -/

/-- The server has given a handle.  The debug line that shows its first 16 bytes is left out; where it is written,
it panics if they end inside a character. -/
def handleResumption (update : Option SessionResumptionUpdate) (p : GeminiLiveProvider) :
    GeminiLiveProvider :=
  match update with
  | some ⟨some handle, some true⟩ => { p with sessionResumptionHandle := some handle }
  | _ => p

/-- A transcription of the user. -/
def handleInput (transcription : Option (Option String)) (p : GeminiLiveProvider) :
    List RealtimeEvent × GeminiLiveProvider :=
  match transcription with
  | some (some text) => if text.isEmpty then ([], p) else p.pushInput text
  | _ => ([], p)

/-- A transcription of the bot. -/
def handleOutput (transcription : Option (Option String)) (p : GeminiLiveProvider) :
    List RealtimeEvent × GeminiLiveProvider :=
  match transcription with
  | some text =>
    let (flushed, p) := p.flushPendingInput
    let (output, p) := p.pushOutput (text.getD "")
    (flushed ++ output, p)
  | none => ([], p)

/-- The server may have interrupted its output. -/
def handleInterrupted (interrupted : Option Bool) (p : GeminiLiveProvider) :
    List RealtimeEvent × GeminiLiveProvider :=
  if interrupted = some true then
    let (flushed, p) := p.flushPendingInput
    (flushed, { p with outputPhase := p.outputPhase.cancel.2, lastCompletedOutput := "" })
  else ([], p)

/-- The parts of a turn: their text first, and then their audio; thoughts are dropped. -/
def handleModelTurn (decode : String → Except String (List UInt8)) (modelTurn : Option (List ModelPart))
    (p : GeminiLiveProvider) : List RealtimeEvent × GeminiLiveProvider :=
  match modelTurn with
  | some parts =>
    let (flushed, p) := p.flushPendingInput
    let spoken := parts.filter (·.thought != some true)
    let (text, p) := p.pushOutput (String.join (spoken.filterMap (·.text)))
    (flushed ++ text ++ spoken.filterMap (audioOf decode), p)
  | none => ([], p)

/-- The turn may be complete. -/
def handleTurnComplete (turnComplete : Option Bool) (p : GeminiLiveProvider) :
    List RealtimeEvent × GeminiLiveProvider :=
  if turnComplete = some true then
    let (flushed, p) := p.flushPendingInput
    let (fullText, phase) := p.outputPhase.complete
    let usage := p.pendingUsage.getD {}
    (flushed ++ fullText.toList.map (.outputTranscription · true) ++
        [.turnComplete (usage.promptTokenCount.getD 0) (usage.responseTokenCount.getD 0)],
      { p with
        outputPhase := phase
        lastCompletedOutput := fullText.getD p.lastCompletedOutput
        pendingUsage := none })
  else ([], p)

/-- **The content of a message**, in the order in which it is read. -/
def handleContent (decode : String → Except String (List UInt8)) (content : ServerContent)
    (p : GeminiLiveProvider) : List RealtimeEvent × GeminiLiveProvider :=
  let (input, p) := p.handleInput content.inputTranscription
  let (output, p) := p.handleOutput content.outputTranscription
  let (interrupted, p) := p.handleInterrupted content.interrupted
  let (turn, p) := p.handleModelTurn decode content.modelTurn
  let (complete, p) := p.handleTurnComplete content.turnComplete
  (input ++ output ++ interrupted ++ turn ++ complete, p)

/-- The tool calls of a message; `uuid` are the ids for those that have none. -/
def toolCallEvents (library : ToolLibrary) (uuid : ℕ → String) (calls : List FunctionCall) :
    List RealtimeEvent :=
  calls.zipIdx.map fun (call, i) =>
    .toolCall (call.id.getD (uuid i)) call.name (library.render call.args)

/-- **Convert a message into events.** -/
def parseServerMessage (library : ToolLibrary) (decode : String → Except String (List UInt8))
    (uuid : ℕ → String) (msg : ServerMessage) (p : GeminiLiveProvider) :
    List RealtimeEvent × GeminiLiveProvider :=
  let p := { p with parsed := p.parsed ++ [msg] }
  let p := p.handleResumption msg.sessionResumptionUpdate
  let p := { p with pendingUsage := msg.usageMetadata.or p.pendingUsage }
  let (content, p) := match msg.serverContent with
    | some content => p.handleContent decode content
    | none => ([], p)
  (content ++ toolCallEvents library uuid (msg.toolCall.getD []), p)

/-! ## What reading a message leaves alone -/

/-- **Nothing was sent or read** in between, and the WebSocket is the same. -/
structure SameWire (p q : GeminiLiveProvider) : Prop where
  ws : q.ws = p.ws
  sends : q.sends = p.sends
  read : q.read = p.read
  parsed : q.parsed = p.parsed
  pendingEvents : q.pendingEvents = p.pendingEvents

namespace SameWire

/-- Nothing has happened. -/
theorem refl (p : GeminiLiveProvider) : SameWire p p := ⟨rfl, rfl, rfl, rfl, rfl⟩

/-- One step after the other. -/
theorem trans {p q r : GeminiLiveProvider} (first : SameWire p q) (second : SameWire q r) :
    SameWire p r :=
  ⟨second.ws.trans first.ws, second.sends.trans first.sends, second.read.trans first.read,
    second.parsed.trans first.parsed, second.pendingEvents.trans first.pendingEvents⟩

end SameWire

/-- What the user says leaves the wire. -/
theorem sameWire_pushInput (text : String) (p : GeminiLiveProvider) :
    SameWire p (p.pushInput text).2 := by
  unfold pushInput
  dsimp only
  split <;> exact ⟨rfl, rfl, rfl, rfl, rfl⟩

/-- The rest of the user's words leaves the wire. -/
theorem sameWire_flushPendingInput (p : GeminiLiveProvider) : SameWire p p.flushPendingInput.2 :=
  ⟨rfl, rfl, rfl, rfl, rfl⟩

/-- What the bot says leaves the wire. -/
theorem sameWire_pushOutput (text : String) (p : GeminiLiveProvider) :
    SameWire p (p.pushOutput text).2 := by
  have delta : SameWire p (p.pushOutputDelta text).2 := by
    unfold pushOutputDelta
    dsimp only
    split
    · exact .refl p
    · exact ⟨rfl, rfl, rfl, rfl, rfl⟩
  unfold pushOutput
  split
  · exact .refl p
  · exact delta

/-- A transcription of the user leaves the wire. -/
theorem sameWire_handleInput (transcription : Option (Option String)) (p : GeminiLiveProvider) :
    SameWire p (p.handleInput transcription).2 := by
  unfold handleInput
  split
  · split
    · exact .refl p
    · exact sameWire_pushInput _ p
  · exact .refl p

/-- A transcription of the bot leaves the wire. -/
theorem sameWire_handleOutput (transcription : Option (Option String)) (p : GeminiLiveProvider) :
    SameWire p (p.handleOutput transcription).2 := by
  cases transcription with
  | none => exact .refl p
  | some text =>
    have pushed := sameWire_pushOutput (text.getD "") p.flushPendingInput.2
    unfold handleOutput
    dsimp only
    exact p.sameWire_flushPendingInput.trans pushed

/-- An interruption leaves the wire. -/
theorem sameWire_handleInterrupted (interrupted : Option Bool) (p : GeminiLiveProvider) :
    SameWire p (p.handleInterrupted interrupted).2 := by
  unfold handleInterrupted
  split <;> exact ⟨rfl, rfl, rfl, rfl, rfl⟩

/-- Audio of the model leaves the wire. -/
theorem sameWire_handleModelTurn (decode : String → Except String (List UInt8))
    (modelTurn : Option (List ModelPart)) (p : GeminiLiveProvider) :
    SameWire p (p.handleModelTurn decode modelTurn).2 := by
  cases modelTurn with
  | none => exact .refl p
  | some parts =>
    have pushed := sameWire_pushOutput
      (String.join ((parts.filter (·.thought != some true)).filterMap (·.text))) p.flushPendingInput.2
    unfold handleModelTurn
    dsimp only
    exact p.sameWire_flushPendingInput.trans pushed

/-- The end of a turn leaves the wire. -/
theorem sameWire_handleTurnComplete (turnComplete : Option Bool) (p : GeminiLiveProvider) :
    SameWire p (p.handleTurnComplete turnComplete).2 := by
  unfold handleTurnComplete
  split <;> exact ⟨rfl, rfl, rfl, rfl, rfl⟩

/-- **A message leaves the wire.** -/
theorem sameWire_handleContent (decode : String → Except String (List UInt8))
    (content : ServerContent) (p : GeminiLiveProvider) :
    SameWire p (p.handleContent decode content).2 :=
  (sameWire_handleInput _ p).trans <| (sameWire_handleOutput _ _).trans <|
    (sameWire_handleInterrupted _ _).trans <| (sameWire_handleModelTurn decode _ _).trans <|
      sameWire_handleTurnComplete _ _

/-- **Reading a message** only adds it to those that were converted. -/
theorem sameWire_parseServerMessage (library : ToolLibrary)
    (decode : String → Except String (List UInt8)) (uuid : ℕ → String) (msg : ServerMessage)
    (p : GeminiLiveProvider) :
    SameWire { p with parsed := p.parsed ++ [msg] }
      (p.parseServerMessage library decode uuid msg).2 := by
  have resumed (q : GeminiLiveProvider) :
      SameWire q (q.handleResumption msg.sessionResumptionUpdate) := by
    unfold handleResumption
    split
    · exact ⟨rfl, rfl, rfl, rfl, rfl⟩
    · exact .refl q
  have first := resumed { p with parsed := p.parsed ++ [msg] }
  unfold parseServerMessage
  dsimp only
  generalize handleResumption msg.sessionResumptionUpdate
    { p with parsed := p.parsed ++ [msg] } = q at first ⊢
  have used : SameWire { p with parsed := p.parsed ++ [msg] }
      { q with pendingUsage := msg.usageMetadata.or q.pendingUsage } :=
    ⟨first.ws, first.sends, first.read, first.parsed, first.pendingEvents⟩
  cases msg.serverContent with
  | none => exact used
  | some content =>
    have read := sameWire_handleContent decode content
      { q with pendingUsage := msg.usageMetadata.or q.pendingUsage }
    exact used.trans read

/-! ## The connection -/

/-- A message is sent, and the WebSocket takes it or does not. -/
def send (message : ClientMessage) (taken : Bool) (p : GeminiLiveProvider) : GeminiLiveProvider :=
  { p with sends := p.sends ++ [(message, taken)] }

/-- Connect, or connect again; a handle from outside replaces the one that is known. -/
def connect (config : RealtimeConfig) (p : GeminiLiveProvider) : GeminiLiveProvider :=
  let handle := config.sessionResumptionHandle.or p.sessionResumptionHandle
  { p with sessionResumptionHandle := handle, ws := true }.send (.setup config handle) true

end GeminiLiveProvider

end Feros
