import Feros.AgentBackend
import Feros.Agent.Conversation
import Feros.Agent.Swarm
import Feros.Library.Suspension
/-! # The default agent backend

It owns the conversation and runs the loop of LLM rounds and tool calls behind `recv`.

A call of `recv` that has to wait is *suspended* at a **`RecvPoint`**, which holds the local
variables it has at this await; the world resumes it with a **`Wake`**.  If the caller drops it
instead, the point is lost and the backend stays as it is.

* **`enter`** runs `recv` up to its first await, **`resume`** from one await to the next.
* **`recv`** runs it under a list of wakes, and drops it if that leaves it suspended.

Tool tasks and their results are those of the current result channel: `cancel` replaces the channel,
and nothing that is sent to the old one is received.  `requests`, `turn` and `handled` record what
happened; no function reads `requests` or `handled`, and `turn` only goes into records. -/

namespace Feros

/-! ## Types -/

/-- State machine phase of `recv`. -/
inductive AgentPhase where
  /-- No active turn. -/
  | idle
  /-- Streaming tokens and tool calls from the LLM. -/
  | streaming
  /-- Waiting for spawned tool tasks to complete. -/
  | waitingForTools
  deriving DecidableEq, Repr

/-- An item of an LLM stream. -/
inductive InnerLlmEvent where
  | token (text : String)
  | toolCall (call : ToolCallEvent)
  | usage (promptTokens completionTokens cachedInputTokens : ℕ)
  | error (message : String)
  deriving DecidableEq, Repr

/-- Configuration of the backend, with its defaults. -/
structure AgentBackendConfig where
  temperature : ℚ := 7 / 10
  maxTokens : ℕ := 32768
  /-- Rounds of tool calls per turn before giving up. -/
  maxToolRounds : ℕ := 5
  /-- Summarize long tool results. -/
  toolSummarizer : Bool := false
  /-- Compress the conversation when it grows too long. -/
  contextSummarizer : Bool := false
  /-- Speak a filler phrase while side-effecting tools run. -/
  toolFiller : Bool := false
  deriving DecidableEq, Repr

/-- A `hang_up` call that waits for the end of the stream and its sibling tools. -/
structure PendingHangUp where
  reason : String
  /-- Farewell text, filled in when the stream closes. -/
  content : Option String
  deriving DecidableEq, Repr

/-- What is observed of one LLM call. -/
structure LlmCallObs where
  model : String
  provider : String
  inputJson : String
  toolsJson : Option String
  maxTokens : ℕ
  promptTokens : ℕ
  completionTokens : ℕ
  cacheReadTokens : Option ℕ
  deriving DecidableEq, Repr

/-- What an LLM call is made with. -/
structure LlmRequest where
  conversation : Conversation
  tools : List ToolSchema
  temperature : ℚ
  maxTokens : ℕ
  model : Option String
  deriving DecidableEq, Repr

/-- A task that runs a tool; `turn` is the turn it was spawned in. -/
structure ToolTask where
  callId : String
  name : String
  arguments : String
  sideEffect : Bool
  turn : ℕ
  deriving DecidableEq, Repr

/-- What a tool task sends. -/
structure ToolTaskResult where
  callId : String
  name : String
  success : Bool
  result : String
  turn : ℕ
  deriving DecidableEq, Repr

/-- A tool result that was counted, in which turn, and what `toolsRemaining` was. -/
structure HandledResult where
  result : ToolTaskResult
  turn : ℕ
  remaining : ℕ
  deriving DecidableEq, Repr

/-- A task that generates a filler phrase. -/
structure FillerTask where
  toolName : String
  userMsg : String
  deriving DecidableEq, Repr

/-- **What lies outside**: JSON, the clock in the system prompt, and the order of a hash map. -/
structure AgentLibrary where
  providerName : String
  /-- The string member `reason` of a JSON object. -/
  jsonReason : String → Option String
  /-- The unsigned member `duration_mins` of a JSON object. -/
  jsonDurationMins : String → Option ℕ
  conversationJson : Conversation → String
  toolsJson : List ToolSchema → Option String
  outputJson : String → List ToolCallEvent → String
  /-- The runtime rules, and the date in a time zone. -/
  promptSuffix : Option String → String
  /-- The order in which the pending tools come out of their map. -/
  hashOrder : List (String × String) → List (String × String)
  hashOrder_perm : ∀ entries, (hashOrder entries).Perm entries

/-- **The default agent backend.** -/
structure DefaultAgentBackend where
  library : AgentLibrary
  config : AgentBackendConfig
  contextSummarizer : Option ContextSummarizer
  contextSummarizationConfig : ContextSummarizationConfig
  fillerTask : Option FillerTask
  /-- An LLM stream is open. -/
  llmEventRx : Bool
  swarm : Option SwarmState
  conversation : Conversation
  phase : AgentPhase
  toolRounds : ℕ
  toolsRemaining : ℕ
  /-- Names of the pending tool calls, by their ids. -/
  pendingToolInfo : List (String × String)
  /-- The tasks that will send to the result channel. -/
  toolTasks : List ToolTask
  /-- The results in the channel. -/
  toolResults : List ToolTaskResult
  eventBuffer : List AgentEvent
  pendingTokens : List String
  pendingToolCalls : List ToolCallEvent
  pendingHangUp : Option PendingHangUp
  obs : Option LlmCallObs
  /-- The LLM calls so far. -/
  requests : List LlmRequest
  /-- The calls of `startTurn` so far. -/
  turn : ℕ
  /-- The tool results that were counted so far. -/
  handled : List HandledResult

/-- Something in the background goes on. -/
inductive Background where
  /-- The `i`-th tool task sends its result. -/
  | toolDone (i : ℕ) (success : Bool) (result : String)
  /-- The `i`-th summarization task sends its summary. -/
  | summaryDone (i : ℕ) (summary : String)
  deriving DecidableEq, Repr

/-- **Where `recv` is suspended**, with what it holds there. -/
inductive RecvPoint where
  /-- Waiting for the next item of the stream. -/
  | stream
  /-- Waiting for a tool result; or for the filler it has taken, if that comes first. -/
  | tools (filler : Option FillerTask)
  /-- Waiting for the summary of a tool result it has taken from the channel. -/
  | transform (result : ToolTaskResult)
  /-- Waiting for the next LLM stream; `event` is to be delivered then. -/
  | startStream (event : AgentEvent)
  /-- Looping without a stream to wait for. -/
  | spinning
  deriving DecidableEq, Repr

/-- Where a call of `recv` is. -/
abbrev RecvStatus := Suspension.Status RecvPoint (Option AgentEvent)

/-- **What may happen while `recv` waits.** -/
inductive Wake where
  | background (event : Background)
  /-- The next item of the stream, or its end; `uuid` is drawn if a call has no id. -/
  | llm (item : Option InnerLlmEvent) (uuid : String)
  /-- A result is taken from the channel, if there is one. -/
  | toolResult
  | filler (text : Option String)
  | transformed (content : String)
  | streamStarted (reply : Except String Unit)

/-- What the world answers to `startTurn`. -/
structure TurnReply where
  /-- What happened in the background before. -/
  background : List Background
  stream : Except String Unit

namespace DefaultAgentBackend

/-! ## Construction and messages -/

/-- Create a new backend. -/
def new (library : AgentLibrary) (agentGraph : Option AgentGraphDef) (config : AgentBackendConfig) :
    DefaultAgentBackend where
  library := library
  config := config
  contextSummarizer := if config.contextSummarizer then some .new else none
  contextSummarizationConfig := {}
  fillerTask := none
  llmEventRx := false
  swarm := agentGraph.map SwarmState.new
  conversation := []
  phase := .idle
  toolRounds := 0
  toolsRemaining := 0
  pendingToolInfo := []
  toolTasks := []
  toolResults := []
  eventBuffer := []
  pendingTokens := []
  pendingToolCalls := []
  pendingHangUp := none
  obs := none
  requests := []
  turn := 0
  handled := []

/-- The time zone of the graph. -/
def timezone (b : DefaultAgentBackend) : Option String := b.swarm.bind (·.graph.timezone)

/-- `needle` occurs in `text`. -/
def occursIn (needle : List Char) : List Char → Bool
  | [] => needle.isEmpty
  | c :: text => needle.isPrefixOf (c :: text) || occursIn needle text

/-- Append the runtime suffix to a system prompt that does not have it. -/
def withSuffix (library : AgentLibrary) (prompt : String) (timezone : Option String) : String :=
  if occursIn "## Turn Completion".toList prompt.toList ||
      occursIn "CRITICAL INSTRUCTION: Every response MUST begin with a turn completion".toList
        prompt.toList then prompt
  else prompt ++ library.promptSuffix timezone

/-- Append a message to the conversation. -/
def push (m : ChatMessage) (b : DefaultAgentBackend) : DefaultAgentBackend :=
  { b with conversation := b.conversation ++ [m] }

/-- Set the system prompt; everything else is forgotten. -/
def setSystemPrompt (prompt : String) (b : DefaultAgentBackend) : DefaultAgentBackend :=
  { b with conversation := [.say .system (withSuffix b.library prompt b.timezone)] }

/-- Add a user message. -/
def addUserMessage (text : String) (b : DefaultAgentBackend) : DefaultAgentBackend :=
  { b with conversation := trimHistory (b.conversation ++ [.say .user text]) }

/-- Add an assistant message. -/
def addAssistantMessage (text : String) (b : DefaultAgentBackend) : DefaultAgentBackend :=
  b.push (.say .assistant text)

/-! ## LLM calls -/

/-- Tool schemas, temperature, token limit and model of the next LLM call: those of the active node,
and the base configuration where there is none. -/
def resolveLlmCallParams (b : DefaultAgentBackend) :
    Except String (List ToolSchema × ℚ × ℕ × Option String) :=
  match b.swarm with
  | some swarm =>
    match swarm.activeDef with
    | some node => .ok (buildNodeToolSchemas node swarm.graph.tools,
        node.temperature.getD b.config.temperature, node.maxTokens.getD b.config.maxTokens,
        node.model)
    | none => .error ("Active node '" ++ swarm.activeNode ++ "' not found in agent graph")
  | none => .ok ([makeHangUpToolSchema, makeOnHoldToolSchema] ++ makeArtifactToolSchemas,
      b.config.temperature, b.config.maxTokens, none)

/-- The first half of `start_llm_stream`, up to the provider: the request, or an error. -/
def requestStream (b : DefaultAgentBackend) : Except String DefaultAgentBackend :=
  match b.resolveLlmCallParams with
  | .ok (schemas, temperature, maxTokens, model) =>
    .ok { b with
      requests := b.requests ++ [⟨b.conversation, schemas, temperature, maxTokens, model⟩] }
  | .error message => .error ("provider: " ++ message)

/-- The second half of `start_llm_stream`, when the provider has opened the stream. -/
def openStream (b : DefaultAgentBackend) : DefaultAgentBackend :=
  let (schemas, maxTokens, model) := match b.resolveLlmCallParams with
    | .ok (schemas, _, maxTokens, model) => (schemas, maxTokens, model)
    | .error _ => ([], 0, none)
  { b with
    obs := some
      { model := model.getD "unknown"
        provider := b.library.providerName
        inputJson := b.library.conversationJson b.conversation
        toolsJson := if schemas.isEmpty then none else b.library.toolsJson schemas
        maxTokens := maxTokens
        promptTokens := 0
        completionTokens := 0
        cacheReadTokens := none }
    llmEventRx := true
    pendingTokens := []
    pendingToolCalls := [] }

/-- Push the accumulated assistant message; its text, if it has one. -/
def pushAssistantMessage (b : DefaultAgentBackend) : Option String × DefaultAgentBackend :=
  let fullText := String.join b.pendingTokens
  let content := if fullText.isEmpty then none else some fullText
  let toolCalls := if b.pendingToolCalls.isEmpty then none else some b.pendingToolCalls
  let drained := { b with pendingTokens := [], pendingToolCalls := [] }
  if content.isNone && toolCalls.isNone then (none, drained)
  else (content, drained.push ⟨.assistant, content, toolCalls, none⟩)

/-- Buffer an `LlmComplete` for the LLM call that is observed, if there is one. -/
def emitLlmComplete (b : DefaultAgentBackend) : DefaultAgentBackend :=
  match b.obs with
  | none => b
  | some obs =>
    { b with
      obs := none
      eventBuffer := b.eventBuffer ++ [.llmComplete
        { provider := obs.provider
          model := obs.model
          inputJson := obs.inputJson
          outputJson := b.library.outputJson (String.join b.pendingTokens) b.pendingToolCalls
          toolsJson := obs.toolsJson
          maxTokens := obs.maxTokens
          promptTokens := obs.promptTokens
          completionTokens := obs.completionTokens
          cacheReadTokens := obs.cacheReadTokens
          spanLabel :=
            if !b.pendingToolCalls.isEmpty then "llm_tool_req"
            else if b.toolRounds > 0 then "llm_tool_resp"
            else "llm" }] }

/-- Check whether the conversation should be summarized. -/
def maybeStartSummary (b : DefaultAgentBackend) : DefaultAgentBackend :=
  let start := ContextSummarizer.maybeStart b.contextSummarizationConfig b.conversation
  { b with contextSummarizer := b.contextSummarizer.map start }

/-- Apply a summary that has arrived. -/
def tryApplySummary (b : DefaultAgentBackend) : DefaultAgentBackend :=
  match b.contextSummarizer with
  | some summarizer =>
    let (conversation, summarizer) := summarizer.tryApply b.conversation
    { b with conversation := conversation, contextSummarizer := some summarizer }
  | none => b

/-! ## Tools -/

/-- The last thing the user said. -/
def lastUserText (conversation : Conversation) : String :=
  ((conversation.reverse.find? (·.role == .user)).bind (·.content)).getD ""

/-- Spawn a tool execution task, and a filler for a side-effecting one if none is running. -/
def spawnTool (callId name arguments : String) (sideEffect : Bool) (b : DefaultAgentBackend) :
    DefaultAgentBackend :=
  { b with
    fillerTask :=
      if sideEffect && b.config.toolFiller && b.fillerTask.isNone then
        some ⟨name, lastUserText b.conversation⟩
      else b.fillerTask
    pendingToolInfo := b.pendingToolInfo.filter (·.1 != callId) ++ [(callId, name)]
    toolsRemaining := b.toolsRemaining + 1
    toolTasks := b.toolTasks ++ [⟨callId, name, arguments, sideEffect, b.turn⟩] }

/-- Record a `hang_up` call; a second one is ignored. -/
def handleHangUp (call : ToolCallEvent) (b : DefaultAgentBackend) : DefaultAgentBackend :=
  if b.pendingHangUp.isSome then b
  else
    let reason := (b.library.jsonReason call.arguments).getD "agent_initiated"
    { b with pendingHangUp := some ⟨reason, none⟩ }

/-- The length of a hold, in seconds: the minutes are cut to 32 bits, as is their product. -/
def holdSecs (durationMins : ℕ) : ℕ := max 60 (min 600 (durationMins % 2 ^ 32 * 60 % 2 ^ 32))

/-- Buffer an `OnHold` event; the call does not enter the conversation. -/
def handleOnHold (call : ToolCallEvent) (b : DefaultAgentBackend) : DefaultAgentBackend :=
  let durationMins := (b.library.jsonDurationMins call.arguments).getD 3
  { b with eventBuffer := b.eventBuffer ++ [.onHold (holdSecs durationMins)] }

/-- A tool of the graph is marked as side-effecting. -/
def isSideEffect (name : String) (b : DefaultAgentBackend) : Bool :=
  ((b.swarm.bind fun swarm => swarm.graph.tools.lookup name).map (·.sideEffect)).getD false

/-- `n - 1` on a `usize`. -/
def usizePred (n : ℕ) : ℕ := if n = 0 then 2 ^ 64 - 1 else n - 1

/-! ## Cancelling -/

/-- Cancel the active turn; possibly an `LlmComplete` for the partial generation. -/
def cancel (b : DefaultAgentBackend) : Option AgentEvent × DefaultAgentBackend :=
  let b := b.emitLlmComplete
  (b.eventBuffer.getLast?,
    { b with
      llmEventRx := false
      toolTasks := []
      toolResults := []
      -- Placeholder results for the tools that are still pending.
      conversation := b.conversation ++ (b.library.hashOrder b.pendingToolInfo).map fun pending =>
        .toolResult pending.1 "Tool execution was interrupted by the user."
      pendingToolInfo := []
      pendingTokens := []
      pendingToolCalls := []
      toolsRemaining := 0
      toolRounds := 0
      eventBuffer := []
      pendingHangUp := none
      phase := .idle
      contextSummarizer := b.contextSummarizer.map (·.cancel) })

/-! ## Background tasks -/

/-- The result of a task is sent, or a summary. -/
def background (b : DefaultAgentBackend) : Background → DefaultAgentBackend
  | .toolDone i success result =>
    match b.toolTasks[i]? with
    | some task =>
      { b with
        toolTasks := b.toolTasks.eraseIdx i
        toolResults := b.toolResults ++ [⟨task.callId, task.name, success, result, task.turn⟩] }
    | none => b
  | .summaryDone i summary =>
    { b with contextSummarizer := b.contextSummarizer.map (·.complete i summary) }

/-! ## Receiving -/

/-- Enter the phase that is due. -/
def enterPhase (b : DefaultAgentBackend) : DefaultAgentBackend × RecvStatus :=
  match b.phase with
  | .idle => (b, .ready none)
  | .streaming => (b, .pending (if b.llmEventRx then .stream else .spinning))
  | .waitingForTools => ({ b with fillerTask := none }, .pending (.tools b.fillerTask))

/-- `recv`, up to its first await. -/
def enter (b : DefaultAgentBackend) : DefaultAgentBackend × RecvStatus :=
  match b.eventBuffer with
  | event :: rest => ({ b with eventBuffer := rest }, .ready (some event))
  | [] => b.enterPhase

/-- The stream has closed. -/
def closeStream (b : DefaultAgentBackend) : DefaultAgentBackend × RecvStatus :=
  let b := { b.emitLlmComplete with llmEventRx := false }
  let (content, b) := b.pushAssistantMessage
  -- The farewell of a deferred hang-up is known now.
  let withFarewell : PendingHangUp → PendingHangUp := fun pending => { pending with content := content }
  let b := { b with pendingHangUp := b.pendingHangUp.map withFarewell }
  if b.toolsRemaining = 0 then
    let b := { b with phase := .idle }
    match b.pendingHangUp with
    | some pending =>
      ({ b with pendingHangUp := none }, .ready (some (.hangUp pending.reason pending.content)))
    | none => (b.maybeStartSummary, .ready (some (.finished content)))
  else
    ({ b with phase := .waitingForTools }).enterPhase

/-- An item of the LLM stream. -/
def handleStreamItem (item : InnerLlmEvent) (uuid : String) (b : DefaultAgentBackend) :
    DefaultAgentBackend × RecvStatus :=
  match item with
  | .token text =>
    ({ b with pendingTokens := b.pendingTokens ++ [text] }, .ready (some (.token text)))
  | .usage promptTokens completionTokens cachedInputTokens =>
    ({ b with obs := b.obs.map fun obs =>
        { obs with
          promptTokens := promptTokens
          completionTokens := completionTokens
          cacheReadTokens := if cachedInputTokens > 0 then some cachedInputTokens else none } },
      .pending .stream)
  | .error message =>
    let (complete, b) := b.cancel
    ({ b with eventBuffer := b.eventBuffer ++ complete.toList }, .ready (some (.error message)))
  | .toolCall call =>
    if call.name = hangUpToolName then (b.handleHangUp call, .pending .stream)
    else if call.name = onHoldToolName then (b.handleOnHold call, .pending .stream)
    else
      let id := call.toolCallId.getD ("call_" ++ uuid)
      let sideEffect := b.isSideEffect call.name
      let b := { b with
        pendingToolCalls := b.pendingToolCalls ++ [{ call with toolCallId := some id }] }
      (b.spawnTool id call.name call.arguments sideEffect,
        .ready (some (.toolCallStarted id call.name sideEffect)))

/-- A tool result with the content that enters the conversation. -/
def finishResult (result : ToolTaskResult) (content : String) (b : DefaultAgentBackend) :
    DefaultAgentBackend × RecvStatus :=
  let b := b.push (.toolResult result.callId content)
  let b := { b with
    toolsRemaining := usizePred b.toolsRemaining
    handled := b.handled ++ [⟨result, b.turn, b.toolsRemaining⟩] }
  let event : AgentEvent := .toolCallCompleted result.callId result.name result.success
    (if result.success then none else some content)
  if b.toolsRemaining = 0 then
    let b := { b with toolRounds := b.toolRounds + 1 }
    match b.pendingHangUp with
    | some pending =>
      ({ b with
        pendingHangUp := none
        phase := .idle
        eventBuffer := b.eventBuffer ++ [.hangUp pending.reason pending.content] },
        .ready (some event))
    | none =>
      if b.toolRounds ≥ b.config.maxToolRounds then
        ({ b with
          phase := .idle
          eventBuffer := b.eventBuffer ++ [.error "Max tool rounds reached"] },
          .ready (some event))
      else
        let b := b.maybeStartSummary
        match b.requestStream with
        | .ok b => (b, .pending (.startStream event))
        | .error message =>
          ({ b with phase := .idle, eventBuffer := b.eventBuffer ++ [.error message] },
            .ready (some event))
  else (b, .ready (some event))

/-- A tool result longer than this is summarized. -/
def summaryMinLength : ℕ := 500

/-- A tool result is taken from the channel. -/
def handleResult (result : ToolTaskResult) (b : DefaultAgentBackend) :
    DefaultAgentBackend × RecvStatus :=
  let b := { b with pendingToolInfo := b.pendingToolInfo.filter (·.1 != result.callId) }
  if b.config.toolSummarizer && result.result.utf8ByteSize ≥ summaryMinLength then
    (b, .pending (.transform result))
  else b.finishResult result result.result

/-- **Resume `recv`**; a wake that is not for this point leaves it waiting. -/
def resume (b : DefaultAgentBackend) (point : RecvPoint) (wake : Wake) :
    DefaultAgentBackend × RecvStatus :=
  match point, wake with
  | point, .background event => (b.background event, .pending point)
  | .stream, .llm (some item) uuid => b.handleStreamItem item uuid
  | .stream, .llm none _ => b.closeStream
  | .tools _, .toolResult =>
    -- A filler that is still running is aborted.
    match b.toolResults with
    | result :: rest => ({ b with toolResults := rest }).handleResult result
    | [] => (b, .pending point)
  | .tools (some _), .filler (some text) => (b, .ready (some (.token text)))
  | .tools (some _), .filler none => (b, .pending (.tools none))
  | .transform result, .transformed content => b.finishResult result content
  | .startStream event, .streamStarted (.ok _) =>
    ({ b.openStream with phase := .streaming }, .ready (some event))
  | .startStream event, .streamStarted (.error message) =>
    ({ b with phase := .idle, eventBuffer := b.eventBuffer ++ [.error message] },
      .ready (some event))
  | point, _ => (b, .pending point)

/-- **`recv` as a call that suspends.** -/
def recvCall : Suspension.Call DefaultAgentBackend RecvPoint Wake (Option AgentEvent) :=
  ⟨enter, resume⟩

/-- Poll for the next event; a call that is still suspended in the end is dropped. -/
def recv (wakes : List Wake) (b : DefaultAgentBackend) : Option AgentEvent × DefaultAgentBackend :=
  match recvCall.drive wakes b with
  | (b, .ready event) => (event, b)
  | (b, .pending _) => (none, b)

/-! ## Turns -/

/-- What `startTurn` does before the LLM call. -/
def prepareTurn (reply : TurnReply) (b : DefaultAgentBackend) : DefaultAgentBackend :=
  let b := reply.background.foldl background b
  let b := { b with
    toolRounds := 0
    toolsRemaining := 0
    pendingToolInfo := []
    eventBuffer := []
    pendingHangUp := none
    turn := b.turn + 1 }
  b.tryApplySummary.maybeStartSummary

/-- Start a streaming LLM turn. -/
def startTurn (reply : TurnReply) (b : DefaultAgentBackend) :
    Except String Unit × DefaultAgentBackend :=
  let b := b.prepareTurn reply
  match b.requestStream with
  | .error message => (.error message, b)
  | .ok b =>
    match reply.stream with
    | .error message => (.error message, b)
    | .ok _ => (.ok (), { b.openStream with phase := .streaming })

/-- Transfer to another node of the graph; the system prompt becomes that of the node. -/
def handleTransfer (targetAgent : String) (b : DefaultAgentBackend) : Bool × DefaultAgentBackend :=
  match b.swarm with
  | none => (false, b)
  | some swarm =>
    match swarm.transferTo targetAgent with
    | (false, _) => (false, b)
    | (true, swarm) =>
      let conversation := match swarm.activeDef, b.conversation with
        | some node, first :: rest =>
          if first.role = .system then
            { first with
              content := some (withSuffix b.library node.systemPrompt swarm.graph.timezone) } :: rest
          else b.conversation
        | _, conversation => conversation
      (true, { b with swarm := some swarm, conversation := conversation })

/-- A turn is active, or events are left to be delivered. -/
def isActive (b : DefaultAgentBackend) : Bool := b.phase != .idle || !b.eventBuffer.isEmpty

instance : AgentBackend DefaultAgentBackend where
  Reply := TurnReply
  Poll := List Wake
  setSystemPrompt := setSystemPrompt
  addUserMessage := addUserMessage
  addAssistantMessage := addAssistantMessage
  startTurn := startTurn
  recv := recv
  cancel := cancel
  isActive := isActive
  isActive_addUserMessage _ _ := rfl
  isActive_addAssistantMessage _ _ := rfl
  isActive_startTurn reply b started := by
    rcases requested : (b.prepareTurn reply).requestStream with message | asked
    · simp only [startTurn, requested, reduceCtorEq] at started
    · rcases opened : reply.stream with message | _
      · simp only [startTurn, requested, opened, reduceCtorEq] at started
      · simp only [startTurn, requested, opened]
        rfl
  isActive_cancel b := rfl

end DefaultAgentBackend

end Feros
