import Feros.Agent.GeminiLive
import Feros.Library.Suspension
/-! # The native backend

The backend of native sessions: audio goes straight to the model, and its events come back from
`recv`.  A call of `recv` waits in one of several places: for something to happen, or for the
WebSocket to take a message and to write it out. -/

namespace Feros

/-- An event of a native backend. -/
inductive NativeAgentEvent where
  | botAudio (samples : List (BitVec 16))
  | inputTranscript (text : String) (isFinal : Bool)
  | outputTranscript (text : String) (isFinal : Bool)
  | toolCallStarted (id name : String)
  | toolCallCompleted (id name : String) (success : Bool)
  | hangUp (reason : String)
  | turnComplete (promptTokens completionTokens : ℕ)
  | error (message : String)
  deriving DecidableEq, Repr

/-- A task that runs a tool. -/
structure NativeToolTask where
  callId : String
  name : String
  arguments : String
  deriving DecidableEq, Repr

/-- What a tool task sends. -/
structure NativeToolResult where
  callId : String
  toolName : String
  result : Json
  success : Bool

namespace NativeToolResult

/-- The message that tells the model. -/
def response (r : NativeToolResult) : ClientMessage := .toolResponse r.callId r.toolName r.result

/-- The event that tells the session. -/
def completed (r : NativeToolResult) : NativeAgentEvent :=
  .toolCallCompleted r.callId r.toolName r.success

end NativeToolResult

/-- What the WebSocket yields. -/
inductive WsFrame where
  /-- A text or binary message, if it can be read. -/
  | message (parsed : Except String ServerMessage)
  | ping (payload : String)
  /-- The server closes the connection, or it is lost. -/
  | closed (message : String)
  /-- Anything else. -/
  | ignored

/-- **The native backend.** -/
structure NativeMultimodalBackend where
  library : ToolLibrary
  /-- Base64. -/
  decode : String → Except String (List UInt8)
  provider : GeminiLiveProvider
  scriptEngine : Option ScriptEngine
  systemPrompt : Option String
  voiceId : String
  /-- The tasks that will send to the result channel. -/
  toolTasks : List NativeToolTask
  /-- The results in the channel. -/
  toolResults : List NativeToolResult
  /-- The results that were sent to the channel so far. -/
  produced : List NativeToolResult
  toolSchemas : List ToolSchema
  connected : Bool
  lastResumptionHandle : Option String
  /-- The hang-ups the model has asked for, with their reasons. -/
  hangUps : List String

/-- **Where `recv` is suspended**; `taken` says that the WebSocket has taken the message that is sent
there, which is still to be written out. -/
inductive NativePoint where
  /-- Waiting for a tool result or for the server. -/
  | select
  /-- Answering a ping. -/
  | pong (payload : String) (taken : Bool)
  /-- Asking the model to speak first; the message that called for it is still to be converted. -/
  | trigger (msg : ServerMessage) (uuid : ℕ → String) (taken : Bool)
  /-- Telling the model a tool result. -/
  | toolResult (result : NativeToolResult) (taken : Bool)
  /-- Telling the model that it has hung up. -/
  | hangUp (callId reason : String) (taken : Bool)

/-- **What can happen while a call waits.** -/
inductive NativeWake where
  /-- A tool result is taken from its channel. -/
  | toolResult
  /-- An event is taken from the queue of the provider. -/
  | event
  /-- The WebSocket yields a frame; `uuid` are ids for tool calls without one. -/
  | frame (frame : WsFrame) (uuid : ℕ → String)
  /-- The WebSocket takes a message. -/
  | taken
  /-- The WebSocket has written a message out. -/
  | flushed
  /-- The WebSocket fails. -/
  | failed
  /-- The `i`-th tool task sends its result. -/
  | toolDone (i : ℕ) (result : Json) (success : Bool)

/-- Where a call of `recv` is. -/
abbrev NativeStatus := Suspension.Status NativePoint (Option NativeAgentEvent)

namespace NativeMultimodalBackend

/-- Create a backend; the tools are those of the entry of the graph. -/
def new (library : ToolLibrary) (decode : String → Except String (List UInt8))
    (agentGraph : Option AgentGraphDef) (voiceId : String) : NativeMultimodalBackend where
  library := library
  decode := decode
  provider := {}
  scriptEngine := agentGraph.bind ScriptEngine.ofGraph
  systemPrompt := none
  voiceId := voiceId
  toolTasks := []
  toolResults := []
  produced := []
  toolSchemas := (agentGraph.bind fun g =>
    (g.nodes.lookup g.entry).map (buildNodeToolSchemas · g.tools)).getD []
  connected := false
  lastResumptionHandle := none
  hangUps := []

/-- Open the connection, or open it again. -/
def connect (b : NativeMultimodalBackend) : NativeMultimodalBackend :=
  { b with
    provider := b.provider.connect
      { systemInstruction := b.systemPrompt
        voiceId := b.voiceId
        tools := if b.toolSchemas.isEmpty then none else some b.toolSchemas
        sessionResumptionHandle := b.lastResumptionHandle }
    connected := true }

/-- Push a frame of the user's audio. -/
def pushAudio (pcm : List (BitVec 16)) (taken : Bool) (b : NativeMultimodalBackend) :
    NativeMultimodalBackend :=
  if pcm.isEmpty || !b.provider.ws then b
  else { b with provider := b.provider.send (.audio pcm) taken }

/-- Interrupt the model. -/
def interrupt (taken : Bool) (b : NativeMultimodalBackend) : NativeMultimodalBackend :=
  if !b.provider.ws then b else { b with provider := b.provider.send .activityStart taken }

/-! ## Tools -/

/-- What a tool call comes to: the script that was run, if any, its result, and whether it is a
success. -/
def runTool (library : ToolLibrary) (engine : Option ScriptEngine) (name arguments : String) :
    Option ScriptRun × Json × Bool :=
  let error (message : String) : Json := .obj [("error", .str message)]
  match engine.filter (fun known => (known.get name).isSome) with
  | some engine =>
    match engine.execute library name arguments with
    | (ran, .ok r) =>
      let parsed := match library.parse r with
        | .ok parsed => parsed
        | .error _ => .obj [("result", .str r)]
      (ran, parsed, !((parsed.get "error").map Json.isError).getD false)
    | (ran, .error e) => (ran, error ("Tool error: " ++ e.message), false)
  | none => (none, error ("Tool '" ++ name ++ "' is not defined in the agent graph."), false)

/-- Dispatch a tool call. -/
def dispatchTool (callId name arguments : String) (b : NativeMultimodalBackend) :
    NativeMultimodalBackend × NativeStatus :=
  ({ b with toolTasks := b.toolTasks ++ [⟨callId, name, arguments⟩] },
    .ready (some (.toolCallStarted callId name)))

/-- The `i`-th tool task sends its result. -/
def toolDone (i : ℕ) (result : Json) (success : Bool) (b : NativeMultimodalBackend) :
    NativeMultimodalBackend :=
  match b.toolTasks[i]? with
  | some task =>
    let sent : NativeToolResult := ⟨task.callId, task.name, result, success⟩
    { b with
      toolTasks := b.toolTasks.eraseIdx i
      toolResults := b.toolResults ++ [sent]
      produced := b.produced ++ [sent] }
  | none => b

/-! ## Receiving -/

/-- Keep the handle of the provider, if it has one. -/
def keepHandle (b : NativeMultimodalBackend) : NativeMultimodalBackend :=
  { b with lastResumptionHandle := b.provider.sessionResumptionHandle.or b.lastResumptionHandle }

/-- The provider has failed: the stream of events ends. -/
def transportError (b : NativeMultimodalBackend) : NativeMultimodalBackend × NativeStatus :=
  ({ b.keepHandle with connected := false }, .ready none)

/-- A send is over, successful or not. -/
def finishSend (event : NativeAgentEvent) (b : NativeMultimodalBackend) :
    NativeMultimodalBackend × NativeStatus := (b, .ready (some event))

/-- The reason of a hang-up. -/
def hangUpReason (library : ToolLibrary) (arguments : String) : String :=
  match library.parse arguments with
  | .ok v => ((v.get "reason").bind Json.asStr).getD "agent_initiated"
  | .error _ => "agent_initiated"

/-- Map an event of the provider; a hang-up is told to the model first. -/
def mapEvent (event : RealtimeEvent) (b : NativeMultimodalBackend) :
    NativeMultimodalBackend × NativeStatus :=
  match event with
  | .botAudioChunk samples => (b, .ready (some (.botAudio samples)))
  | .inputTranscription text isFinal => (b, .ready (some (.inputTranscript text isFinal)))
  | .outputTranscription text isFinal => (b, .ready (some (.outputTranscript text isFinal)))
  | .turnComplete prompt completion => (b, .ready (some (.turnComplete prompt completion)))
  | .error message => (b, .ready (some (.error message)))
  | .toolCall callId name arguments =>
    if name = hangUpToolName then
      let reason := hangUpReason b.library arguments
      let b := { b with hangUps := b.hangUps ++ [reason] }
      if b.provider.ws then (b, .pending (.hangUp callId reason false))
      else (b, .ready (some (.hangUp reason)))
    else b.dispatchTool callId name arguments

/-- Take the next event of the provider, or wait for one. -/
def nextEvent (b : NativeMultimodalBackend) : NativeMultimodalBackend × NativeStatus :=
  match b.provider.pendingEvents with
  | event :: rest =>
    ({ b with provider := { b.provider with pendingEvents := rest } } : NativeMultimodalBackend)
      |>.keepHandle.mapEvent event
  | [] => (b, .pending .select)

/-- Convert a message that was read. -/
def convert (msg : ServerMessage) (uuid : ℕ → String) (b : NativeMultimodalBackend) :
    NativeMultimodalBackend × NativeStatus :=
  let (events, p) := b.provider.parseServerMessage b.library b.decode uuid msg
  { b with provider := { p with pendingEvents := p.pendingEvents ++ events } }.nextEvent

/-- A message was read; after the setup of a new session the model is asked to speak first. -/
def readMessage (msg : ServerMessage) (uuid : ℕ → String) (b : NativeMultimodalBackend) :
    NativeMultimodalBackend × NativeStatus :=
  let b := { b with provider := { b.provider with read := b.provider.read ++ [msg] } }
  if msg.setupComplete && b.provider.sessionResumptionHandle.isNone then
    (b, .pending (.trigger msg uuid false))
  else b.convert msg uuid

/-- The WebSocket yields a frame. -/
def handleFrame (frame : WsFrame) (uuid : ℕ → String) (b : NativeMultimodalBackend) :
    NativeMultimodalBackend × NativeStatus :=
  if !b.provider.ws then b.transportError
  else
    match frame with
    | .message (.ok msg) => b.readMessage msg uuid
    | .message (.error _) => b.transportError
    | .ping payload => (b, .pending (.pong payload false))
    | .closed _ => b.transportError
    | .ignored => (b, .pending .select)

/-- A tool result is taken from the channel; what else `recv` was waiting for is dropped. -/
def takeResult (point : NativePoint) (b : NativeMultimodalBackend) :
    NativeMultimodalBackend × NativeStatus :=
  match b.toolResults with
  | result :: rest =>
    let b := { b with toolResults := rest }
    if b.provider.ws then (b, .pending (.toolResult result false))
    else b.keepHandle.finishSend result.completed
  | [] => (b, .pending point)

/-- The message that is sent at a point. -/
def message : NativePoint → Option ClientMessage
  | .select => none
  | .pong payload _ => some (.pong payload)
  | .trigger _ _ _ => some (.text " ")
  | .toolResult result _ => some result.response
  | .hangUp callId _ _ =>
    some (.toolResponse callId hangUpToolName (.obj [("result", .str "Hang up initiated.")]))

/-- The message at a point is sent, and the WebSocket takes it or does not. -/
def sendAt (point : NativePoint) (taken : Bool) (b : NativeMultimodalBackend) :
    NativeMultimodalBackend :=
  match message point with
  | some message => { b with provider := b.provider.send message taken }
  | none => b

/-- The call goes on after the message at a point. -/
def afterSend (point : NativePoint) (b : NativeMultimodalBackend) :
    NativeMultimodalBackend × NativeStatus :=
  match point with
  | .select | .pong _ _ => (b, .pending .select)
  | .trigger msg uuid _ => b.convert msg uuid
  | .toolResult result _ => b.keepHandle.finishSend result.completed
  | .hangUp _ reason _ => b.finishSend (.hangUp reason)

/-- The point, once the WebSocket has taken its message. -/
def taken : NativePoint → NativePoint
  | .select => .select
  | .pong payload _ => .pong payload true
  | .trigger msg uuid _ => .trigger msg uuid true
  | .toolResult result _ => .toolResult result true
  | .hangUp callId reason _ => .hangUp callId reason true

/-- The WebSocket has taken the message of the point. -/
def isTaken : NativePoint → Bool
  | .select => false
  | .pong _ taken | .trigger _ _ taken | .toolResult _ taken | .hangUp _ _ taken => taken

/-- **Resume `recv`**; a wake that is not for this point leaves it waiting. -/
def resume (b : NativeMultimodalBackend) (point : NativePoint) (wake : NativeWake) :
    NativeMultimodalBackend × NativeStatus :=
  match wake with
  | .toolDone i result success => (b.toolDone i result success, .pending point)
  | .toolResult =>
    -- Both branches of the `select!` are polled until one of them has something.
    match point with
    | .select | .pong _ _ | .trigger _ _ _ => b.takeResult point
    | .toolResult _ _ | .hangUp _ _ _ => (b, .pending point)
  | .event =>
    match point with
    | .select => b.nextEvent
    | _ => (b, .pending point)
  | .frame frame uuid =>
    match point with
    | .select =>
      if b.provider.pendingEvents.isEmpty then b.handleFrame frame uuid else (b, .pending .select)
    | _ => (b, .pending point)
  | .taken =>
    match point with
    | .select => (b, .pending .select)
    | point =>
      if isTaken point then (b, .pending point) else (b.sendAt point true, .pending (taken point))
  | .flushed => if isTaken point then b.afterSend point else (b, .pending point)
  | .failed =>
    match point with
    | .select => (b, .pending .select)
    | point => (if isTaken point then b else b.sendAt point false).afterSend point

/-- **`recv` as a call that suspends.** -/
def recvCall : Suspension.Call NativeMultimodalBackend NativePoint NativeWake
    (Option NativeAgentEvent) :=
  ⟨fun b => (b, .pending .select), resume⟩

end NativeMultimodalBackend

end Feros
