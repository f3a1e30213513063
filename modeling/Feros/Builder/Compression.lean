import Feros.Builder.Json
/-! # Compression of the chat history

A long history of the builder chat is split in two: the older messages go to a model that summarizes
them, the recent ones stay as they are.

* **`findSafeSplit`** walks back from the desired split to a request with a user prompt.
* **`compressHistory`** puts a summary in the place of the older messages, or drops them if there is none. -/

namespace Feros

/-- A part of a request to the model. -/
inductive RequestPart where
  | userPrompt (content : String)
  | toolReturn (toolName content toolCallId : String)
  /-- A part of another class. -/
  | other
  deriving DecidableEq, Repr

/-- A part of a response of the model. -/
inductive ResponsePart where
  | text (content : String)
  | thinking (content : String)
  | toolCall (toolName args toolCallId : String)
  /-- A part of another class. -/
  | other
  deriving DecidableEq, Repr

/-- **A message of the builder chat.** -/
inductive ModelMessage where
  | request (parts : List RequestPart)
  | response (parts : List ResponsePart)
  deriving DecidableEq, Repr

namespace ModelMessage

/-- `isinstance(message, ModelRequest)`. -/
def isRequest : ModelMessage → Bool
  | request _ => true
  | response _ => false

/-- The part is a user prompt. -/
def isUserPrompt : RequestPart → Bool
  | .userPrompt _ => true
  | _ => false

/-- The message is a request with a user prompt. -/
def promptsUser : ModelMessage → Bool
  | request parts => parts.any isUserPrompt
  | response _ => false

end ModelMessage

/-- Compress when there are more messages than this. -/
def compressionThreshold : ℕ := 40

/-- Keep this many recent messages verbatim. -/
def keepRecent : ℕ := 12

/-- The last request with a user prompt at or before an index, or the start. -/
def walkBack (messages : List ModelMessage) : ℕ → ℕ
  | 0 => 0
  | idx + 1 => if messages[idx + 1]?.any ModelMessage.promptsUser then idx + 1 else walkBack messages idx

/-- **The index at which the recent messages start.**  At least one message is compressed. -/
def findSafeSplit (messages : List ModelMessage) (desired : ℕ) : ℕ :=
  let idx := max 1 (min desired (messages.length - 1))
  max (walkBack messages idx) 1

/-! ## The transcript for the model -/

/-- A line of the transcript, for a part of a request. -/
def requestLine : RequestPart → Option String
  | .userPrompt content => some ("USER: " ++ content)
  | .toolReturn toolName content _ =>
    some ("TOOL_RESULT (" ++ toolName ++ "): " ++ String.ofList (content.toList.take 500))
  | .other => none

/-- A line of the transcript, for a part of a response. -/
def responseLine : ResponsePart → Option String
  | .text content => some ("ASSISTANT: " ++ content)
  | .thinking content => if content.isEmpty then none else some ("THINKING: " ++ content)
  | .toolCall toolName args _ =>
    some ("TOOL_CALL (" ++ toolName ++ "): " ++ String.ofList (args.toList.take 300))
  | .other => none

/-- The messages as a transcript. -/
def formatMessagesForCompression (messages : List ModelMessage) : String :=
  String.intercalate "\n\n" <| messages.flatMap fun
    | .request parts => parts.filterMap requestLine
    | .response parts => parts.filterMap responseLine

/-! ## Compression -/

/-- The summary of the older messages; none if the call fails, or if nothing comes of it. -/
def summarize (model : String → Except String String) (oldMessages : List ModelMessage) : Option String :=
  match model (formatMessagesForCompression oldMessages) with
  | .error _ => none
  | .ok summary => if strip summary = "" then none else some summary

/-- The exchange that stands for the older messages. -/
def summaryExchange (summary : String) : List ModelMessage :=
  [.request [.userPrompt ("[Context from earlier in our conversation]\n\n" ++ strip summary)],
    .response [.text ("Got it — I have the full context from our earlier " ++
      "conversation. Let's continue.")]]

/-- **Compress a history that is too long.** -/
def compressHistory (model : String → Except String String) (messages : List ModelMessage) :
    List ModelMessage :=
  if messages.length ≤ compressionThreshold then messages
  else
    let splitPoint := findSafeSplit messages (messages.length - keepRecent)
    let recentMessages := messages.drop splitPoint
    match summarize model (messages.take splitPoint) with
    | some summary => summaryExchange summary ++ recentMessages
    | none => recentMessages

end Feros
