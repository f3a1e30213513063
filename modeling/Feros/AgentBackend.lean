import Feros.Types
/-! # Agent backends

The interface between the reactor and the agent that owns the conversation.  What the world
contributes to a call (the provider accepting a request, the next item of a stream, a tool that
finishes) is an argument of the call: `Reply` answers `startTurn`, `Poll` answers `recv`. -/

namespace Feros

/-- **An agent backend**, with the contract the reactor relies on: messages do not start or stop
a turn, a successful `startTurn` leaves the turn active and `cancel` leaves it inactive. -/
class AgentBackend (β : Type) where
  /-- The world's answer to `startTurn`. -/
  Reply : Type
  /-- The world's answer to `recv`. -/
  Poll : Type
  /-- Set the system prompt. -/
  setSystemPrompt : String → β → β
  /-- Add a user message to the conversation history. -/
  addUserMessage : String → β → β
  /-- Add an assistant message to the conversation history. -/
  addAssistantMessage : String → β → β
  /-- Start a streaming LLM turn; an error carries its message. -/
  startTurn : Reply → β → Except String Unit × β
  /-- Poll for the next event of the active turn. -/
  recv : Poll → β → Option AgentEvent × β
  /-- Cancel the active turn; possibly an `LlmComplete` for the partial generation. -/
  cancel : β → Option AgentEvent × β
  /-- The agent turn is currently active. -/
  isActive : β → Bool
  isActive_addUserMessage : ∀ text b, isActive (addUserMessage text b) = isActive b
  isActive_addAssistantMessage : ∀ text b, isActive (addAssistantMessage text b) = isActive b
  isActive_startTurn : ∀ reply b, (startTurn reply b).1 = .ok () →
    isActive (startTurn reply b).2 = true
  isActive_cancel : ∀ b, isActive (cancel b).2 = false

attribute [simp] AgentBackend.isActive_addUserMessage AgentBackend.isActive_addAssistantMessage
  AgentBackend.isActive_cancel

/-! ## LLM stage -/

/-- `agent_event_to_llm`. -/
def agentEventToLlm : AgentEvent → LlmEvent
  | .token text => .token text
  | .toolCallStarted id name sideEffect => .toolCallStarted id name sideEffect
  | .toolCallCompleted id name success errorMessage =>
    .toolCallCompleted id name success errorMessage
  | .finished content => .finished content
  | .error message => .error message
  | .hangUp reason content => .hangUp reason content
  | .onHold durationSecs => .onHold durationSecs
  | .llmComplete data => .llmComplete data

namespace LlmStage

variable {β : Type} [AgentBackend β]

/-- Poll for the next LLM event. -/
def recv (poll : AgentBackend.Poll β) (b : β) : Option LlmEvent × β :=
  let (event, b) := AgentBackend.recv poll b
  (event.map agentEventToLlm, b)

/-- Cancel the current generation; only an `LlmComplete` is passed on. -/
def cancel (b : β) : Option LlmEvent × β :=
  let (event, b) := AgentBackend.cancel b
  match event.map agentEventToLlm with
  | some (.llmComplete data) => (some (.llmComplete data), b)
  | _ => (none, b)

/-- Whatever event `cancel` passes on, the backend is the cancelled one. -/
@[simp] theorem cancel_snd (b : β) : (cancel b).2 = (AgentBackend.cancel b).2 := by
  unfold cancel
  dsimp only
  split <;> rfl

end LlmStage

/-! ## The arbitrary backend -/

/-- **A backend that may do anything the contract allows**: the world picks every event and
whether the turn is active after it. -/
structure AnyBackend where
  active : Bool
  deriving DecidableEq, Repr

/-- The world answers `startTurn` with an optional error and `recv` with an event and the
resulting activity. -/
instance : AgentBackend AnyBackend where
  Reply := Option String × Bool
  Poll := Option AgentEvent × Bool
  setSystemPrompt _ b := b
  addUserMessage _ b := b
  addAssistantMessage _ b := b
  startTurn reply _ :=
    match reply with
    | (none, _) => (.ok (), ⟨true⟩)
    | (some message, active) => (.error message, ⟨active⟩)
  recv poll _ := (poll.1, ⟨poll.2⟩)
  cancel _ := (none, ⟨false⟩)
  isActive b := b.active
  isActive_addUserMessage _ _ := rfl
  isActive_addAssistantMessage _ _ := rfl
  isActive_startTurn reply b h := by
    obtain ⟨_ | message, active⟩ := reply
    · rfl
    · cases h
  isActive_cancel _ := rfl

end Feros
