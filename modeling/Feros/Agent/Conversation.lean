import Feros.Types
/-! # The conversation of an agent

Messages in the OpenAI chat format, and the two ways a long history gets shorter: `trimHistory`
cuts it, and `applySummary` replaces its beginning by a summary of it. -/

namespace Feros

/-! ## Messages -/

/-- The role of a message. -/
inductive Role where
  | system
  | user
  | assistant
  | tool
  deriving DecidableEq, Repr

/-- The role in upper case. -/
def Role.upper : Role → String
  | .system => "SYSTEM"
  | .user => "USER"
  | .assistant => "ASSISTANT"
  | .tool => "TOOL"

/-- A tool invocation requested by the LLM. -/
structure ToolCallEvent where
  name : String
  arguments : String
  toolCallId : Option String
  signature : Option String
  deriving DecidableEq, Repr

/-- **A message** in the OpenAI chat format. -/
structure ChatMessage where
  role : Role
  content : Option String
  toolCalls : Option (List ToolCallEvent)
  toolCallId : Option String
  deriving DecidableEq, Repr

/-- The messages an agent hands to the LLM. -/
abbrev Conversation := List ChatMessage

namespace ChatMessage

/-- A message of text. -/
def say (role : Role) (text : String) : ChatMessage := ⟨role, some text, none, none⟩

/-- The answer to a tool call. -/
def toolResult (id content : String) : ChatMessage := ⟨.tool, some content, none, some id⟩

/-- The message opens a block of tool calls. -/
def opensBlock (m : ChatMessage) : Bool := m.role == .assistant && m.toolCalls.isSome

/-- The ids of the tool calls of a message. -/
def callIds (m : ChatMessage) : List String := (m.toolCalls.getD []).filterMap (·.toolCallId)

end ChatMessage

/-! ## Hard trim -/

/-- Exchanges to keep at most. -/
def maxHistoryTurns : ℕ := 50

/-- Remove messages from the front until `target` are gone.  A block of tool calls goes as a whole:
inside one (`inBlock`) its results are removed even if enough are gone. -/
def removeOldest (target : ℕ) (inBlock : Bool) : Conversation → Conversation
  | [] => []
  | m :: rest =>
    if inBlock && m.role == .tool then removeOldest (target - 1) true rest
    else if target = 0 then m :: rest
    else removeOldest (target - 1) m.opensBlock rest

/-- Trim the history; the message at index 0 stays. -/
def trimHistory (conversation : Conversation) : Conversation :=
  let maxMessages := 1 + maxHistoryTurns * 2
  if conversation.length ≤ maxMessages then conversation
  else conversation.take 1 ++
    removeOldest (conversation.length - maxMessages) false (conversation.drop 1)

/-! ## What to summarize -/

/-- Configuration for automatic context summarization, with its defaults. -/
structure ContextSummarizationConfig where
  /-- Estimated tokens that trigger summarization. -/
  maxContextTokens : ℕ := 20000
  /-- Messages, without the system prompt, that trigger summarization. -/
  maxUnsummarizedMessages : ℕ := 20
  /-- Recent messages to preserve. -/
  minMessagesAfterSummary : ℕ := 4
  /-- Tokens of the generated summary. -/
  targetSummaryTokens : ℕ := 500
  deriving DecidableEq, Repr

/-- Estimate the tokens of a text. -/
def estimateTokens (text : String) : ℕ := text.utf8ByteSize / 4

/-- Structural overhead per message. -/
def tokenOverheadPerMessage : ℕ := 10

/-- Estimate the tokens of a message. -/
def estimateMessageTokens (m : ChatMessage) : ℕ :=
  tokenOverheadPerMessage + (m.content.map estimateTokens).getD 0 +
    ((m.toolCalls.getD []).map fun call =>
      estimateTokens call.name + estimateTokens call.arguments).sum +
    if m.toolCallId.isSome then tokenOverheadPerMessage else 0

/-- Estimate the tokens of a conversation. -/
def estimateContextTokens (conversation : Conversation) : ℕ :=
  (conversation.map estimateMessageTokens).sum

/-- The conversation should be summarized. -/
def shouldSummarize (conversation : Conversation) (config : ContextSummarizationConfig) : Bool :=
  config.maxUnsummarizedMessages ≤ conversation.length - 1 ||
    config.maxContextTokens ≤ estimateContextTokens conversation

/-- The tool calls that are open after a message at index `i`, with the index they were made at. -/
def trackToolCalls (pending : List (String × ℕ)) (i : ℕ) (m : ChatMessage) : List (String × ℕ) :=
  let pending :=
    if m.role = .assistant then
      m.callIds.foldl (fun pending id => (id, i) :: pending.filter (·.1 != id)) pending
    else pending
  match m.role, m.toolCallId with
  | .tool, some id => pending.filter (·.1 != id)
  | _, _ => pending

/-- The tool calls that are open after messages that begin at index `i`. -/
def openToolCalls (pending : List (String × ℕ)) (i : ℕ) : Conversation → List (String × ℕ)
  | [] => pending
  | m :: rest => openToolCalls (trackToolCalls pending i m) (i + 1) rest

/-- The earliest message in a range with a tool call that is not answered in it. -/
def findEarliestUnresolvedToolCall (conversation : Conversation) (startIdx endIdx : ℕ) :
    Option ℕ :=
  ((openToolCalls [] startIdx ((conversation.take endIdx).drop startIdx)).map (·.2)).min?

/-- What a summary is to be made of. -/
structure MessagesToSummarize where
  messages : Conversation
  /-- Index of the last message of them in the conversation. -/
  lastSummarizedIndex : ℕ
  /-- Length of the conversation when they were taken. -/
  snapshotLen : ℕ
  deriving DecidableEq, Repr

/-- Determine which messages should be summarized: those between the system prompt and the last
ones, up to the first tool call that is not answered among them. -/
def getMessagesToSummarize (conversation : Conversation) (minMessagesToKeep : ℕ) :
    Option MessagesToSummarize :=
  if conversation.length ≤ minMessagesToKeep then none
  else
    let summaryStart := match conversation.findIdx? (·.role == .system) with
      | some idx => idx + 1
      | none => 0
    let summaryEnd := conversation.length - minMessagesToKeep
    if summaryStart ≥ summaryEnd then none
    else
      let summaryEnd :=
        match findEarliestUnresolvedToolCall conversation summaryStart summaryEnd with
        | some earliest => if earliest < summaryEnd then earliest else summaryEnd
        | none => summaryEnd
      if summaryStart ≥ summaryEnd then none
      else some ⟨(conversation.take summaryEnd).drop summaryStart, summaryEnd - 1,
        conversation.length⟩

/-- The lines a message contributes to the transcript. -/
def formatMessage (m : ChatMessage) : List String :=
  let spoken := match m.content with
    | some content =>
      if content.isEmpty then []
      else if m.role = .tool then
        ["TOOL_RESULT[" ++ m.toolCallId.getD "unknown" ++ "]: " ++ content]
      else [m.role.upper ++ ": " ++ content]
    | none => []
  spoken ++ (m.toolCalls.getD []).map fun call =>
    "TOOL_CALL: " ++ call.name ++ "(" ++ call.arguments ++ ")"

/-- Format messages as a transcript for the summarizing LLM. -/
def formatMessagesForSummary (messages : Conversation) : String :=
  "\n\n".intercalate (messages.flatMap formatMessage)

/-! ## Applying a summary -/

/-- The summary, as context that flows to the LLM. -/
def summaryUserMsg (summary : String) : ChatMessage :=
  .say .user ("[Context from earlier in our conversation]\n\n" ++ summary)

/-- The acknowledgment that closes the summary turn. -/
def summaryAckMsg : ChatMessage :=
  .say .assistant
    "Got it — I have the full context from our earlier conversation. Let's continue."

/-- Replace the summarized messages by the summary; `none` if it is out of date. -/
def applySummary (conversation : Conversation) (summary : String)
    (lastSummarizedIndex snapshotLen minMessagesAfterSummary : ℕ) : Option Conversation :=
  if conversation.length < snapshotLen then none
  else if lastSummarizedIndex ≥ conversation.length then none
  else if conversation.length - (lastSummarizedIndex + 1) < minMessagesAfterSummary then none
  else
    let systemMsg := (conversation.take 1).filter (·.role == .system)
    some (systemMsg ++ [summaryUserMsg summary, summaryAckMsg] ++
      conversation.drop (lastSummarizedIndex + 1))

/-! ## The summarizer -/

/-- **A summarization task** in the background: what its transcript is made of, and the message
count its result must leave. -/
structure SummaryTask where
  snapshot : MessagesToSummarize
  minKeep : ℕ
  deriving DecidableEq, Repr

/-- What the task asks the LLM to summarize. -/
def SummaryTask.transcript (task : SummaryTask) : String :=
  formatMessagesForSummary task.snapshot.messages

/-- **Compression of the conversation in the background.**  Its tasks hold the sender of one result
channel, which `cancel` empties but does not replace. -/
structure ContextSummarizer where
  inProgress : Bool
  /-- The tasks that have not sent their result yet. -/
  running : List SummaryTask
  /-- The results in the channel, each with the task it is of. -/
  results : List (String × SummaryTask)
  deriving DecidableEq, Repr

namespace ContextSummarizer

/-- A summarizer with nothing to do. -/
def new : ContextSummarizer := ⟨false, [], []⟩

/-- Spawn a task if the conversation should be summarized and none is in progress. -/
def maybeStart (config : ContextSummarizationConfig) (conversation : Conversation)
    (s : ContextSummarizer) : ContextSummarizer :=
  if s.inProgress then s
  else if shouldSummarize conversation config = false then s
  else
    match getMessagesToSummarize conversation config.minMessagesAfterSummary with
    | some snapshot =>
      if snapshot.messages.isEmpty then s
      else { s with
        inProgress := true
        running := s.running ++ [⟨snapshot, config.minMessagesAfterSummary⟩] }
    | none => s

/-- The `i`-th task sends its summary, empty if it failed. -/
def complete (i : ℕ) (summary : String) (s : ContextSummarizer) : ContextSummarizer :=
  match s.running[i]? with
  | some task =>
    { s with running := s.running.eraseIdx i, results := s.results ++ [(summary, task)] }
  | none => s

/-- Apply a result that has arrived. -/
def tryApply (conversation : Conversation) (s : ContextSummarizer) :
    Conversation × ContextSummarizer :=
  match s.results with
  | (summary, task) :: results =>
    let s := { s with inProgress := false, results := results }
    if summary.isEmpty then (conversation, s)
    else
      ((applySummary conversation summary task.snapshot.lastSummarizedIndex
        task.snapshot.snapshotLen task.minKeep).getD conversation, s)
  | [] => (conversation, s)

/-- Reset after a turn is cancelled; a task that is still running is not stopped. -/
def cancel (s : ContextSummarizer) : ContextSummarizer :=
  { s with inProgress := false, results := [] }

end ContextSummarizer

end Feros
