import Feros.Agent.Blocks
/-! # Conversations as lists of blocks

A block is a message with the tool results behind it.  The roles alone say where blocks begin, so what
holds here does not ask which result belongs to which call: the ids of the calls may be missing, or occur
twice.

* **`ToolBlock`** is a block, `messagesOf` the conversation that blocks make.
* **`Shape`** asks for one result per call; only the last block may wait for some. -/

namespace Feros

/-- The ids of the tool calls of a message, `none` for a call without one. -/
def ChatMessage.calls (m : ChatMessage) : List (Option String) :=
  if m.role = .assistant then (m.toolCalls.getD []).map (·.toolCallId) else []

/-- An id that is asked for is an id of a call. -/
theorem mem_asked {m : ChatMessage} {id : String} : id ∈ m.asked ↔ some id ∈ m.calls := by
  unfold ChatMessage.asked ChatMessage.calls ChatMessage.callIds
  split
  · simp [List.mem_filterMap]
  · simp

/-- **A block**: a message that is no tool result, and the results behind it. -/
structure ToolBlock where
  message : ChatMessage
  results : Conversation
  head : message.role ≠ .tool
  tools : ∀ r ∈ results, r.role = .tool
  /-- Only a message with tool calls has results. -/
  opens : results ≠ [] → message.opensBlock = true

namespace ToolBlock

/-- A message without results. -/
def alone (m : ChatMessage) (head : m.role ≠ .tool) : ToolBlock where
  message := m
  results := []
  head := head
  tools _ held := absurd held List.not_mem_nil
  opens some := absurd rfl some

/-- The messages of a block. -/
def messages (b : ToolBlock) : Conversation := b.message :: b.results

/-- The results answer different calls. -/
def Begun (b : ToolBlock) : Prop := (b.results.map (·.toolCallId)).Subperm b.message.calls

/-- Every call has its result. -/
def Answered (b : ToolBlock) : Prop := (b.results.map (·.toolCallId)).Perm b.message.calls

instance (b : ToolBlock) : Decidable b.Begun :=
  inferInstanceAs (Decidable ((b.results.map (·.toolCallId)).Subperm b.message.calls))

instance (b : ToolBlock) : Decidable b.Answered :=
  inferInstanceAs (Decidable ((b.results.map (·.toolCallId)).Perm b.message.calls))

/-- A block is its message and its results. -/
@[simp] theorem messages_length (b : ToolBlock) : b.messages.length = b.results.length + 1 := rfl

/-- A message without calls is a block that is answered. -/
theorem answered_alone {m : ChatMessage} (head : m.role ≠ .tool) (calls : m.calls = []) :
    (alone m head).Answered := by
  unfold Answered
  change List.Perm [] m.calls
  rw [calls]

end ToolBlock

/-- The conversation that blocks make. -/
def messagesOf (blocks : List ToolBlock) : Conversation := blocks.flatMap ToolBlock.messages

/-- No blocks have no messages. -/
@[simp] theorem messagesOf_nil : messagesOf [] = [] := rfl

/-- The messages of blocks begin with those of the first. -/
@[simp] theorem messagesOf_cons (b : ToolBlock) (blocks : List ToolBlock) :
    messagesOf (b :: blocks) = b.message :: (b.results ++ messagesOf blocks) := rfl

/-- The messages of blocks are those of the first blocks and of the rest. -/
@[simp] theorem messagesOf_append (first second : List ToolBlock) :
    messagesOf (first ++ second) = messagesOf first ++ messagesOf second := List.flatMap_append

/-- Blocks that are dropped leave a suffix of the messages. -/
theorem messagesOf_drop_suffix (blocks : List ToolBlock) (n : ℕ) :
    messagesOf (blocks.drop n) <:+ messagesOf blocks := by
  have whole := messagesOf_append (blocks.take n) (blocks.drop n)
  rw [List.take_append_drop] at whole
  exact ⟨_, whole.symm⟩

/-- What blocks make does not begin with a tool result. -/
theorem head_messagesOf {blocks : List ToolBlock} {m : ChatMessage} {rest : Conversation}
    (made : messagesOf blocks = m :: rest) : m.role ≠ .tool := by
  cases blocks with
  | nil => cases made
  | cons b blocks =>
    injection made with same _
    exact same ▸ b.head

/-- **The shape of a conversation**: in every block the results answer different calls, and in all but
the last one they answer all. -/
structure Shape (blocks : List ToolBlock) : Prop where
  begun : ∀ b ∈ blocks, b.Begun
  answered : ∀ b ∈ blocks.dropLast, b.Answered

instance (blocks : List ToolBlock) : Decidable (Shape blocks) :=
  decidable_of_iff ((∀ b ∈ blocks, b.Begun) ∧ ∀ b ∈ blocks.dropLast, b.Answered)
    ⟨fun shape => ⟨shape.1, shape.2⟩, fun shape => ⟨shape.begun, shape.answered⟩⟩

namespace Shape

/-- No blocks have the shape. -/
theorem nil : Shape [] :=
  ⟨fun _ held => absurd held List.not_mem_nil, fun _ held => absurd held List.not_mem_nil⟩

/-- **A block that was answered goes in front of blocks.** -/
theorem cons {b : ToolBlock} {blocks : List ToolBlock} (answered : b.Answered) (shape : Shape blocks) :
    Shape (b :: blocks) := by
  constructor
  · intro b' held
    rcases List.mem_cons.1 held with rfl | held
    · exact answered.subperm
    · exact shape.begun b' held
  · intro b' held
    cases blocks with
    | nil => cases held
    | cons next blocks =>
      rw [List.dropLast_cons_of_ne_nil (List.cons_ne_nil next blocks)] at held
      rcases List.mem_cons.1 held with rfl | held
      · exact answered
      · exact shape.answered b' held

/-- The rest of a shape has the shape. -/
theorem tail {b : ToolBlock} {blocks : List ToolBlock} (shape : Shape (b :: blocks)) : Shape blocks := by
  constructor
  · intro b' held
    exact shape.begun b' (List.mem_cons_of_mem b held)
  · intro b' held
    cases blocks with
    | nil => cases held
    | cons next blocks =>
      refine shape.answered b' ?_
      rw [List.dropLast_cons_of_ne_nil (List.cons_ne_nil next blocks)]
      exact List.mem_cons_of_mem b held

/-- What is left of a shape has the shape. -/
theorem drop {blocks : List ToolBlock} (shape : Shape blocks) (n : ℕ) : Shape (blocks.drop n) := by
  induction n generalizing blocks with
  | zero => exact shape
  | succ n ih =>
    cases blocks with
    | nil => exact nil
    | cons b blocks => exact ih shape.tail

/-- A block that another one follows has all its results. -/
theorem head_answered {b : ToolBlock} {blocks : List ToolBlock} (shape : Shape (b :: blocks))
    (more : blocks ≠ []) : b.Answered := by
  refine shape.answered b ?_
  rw [List.dropLast_cons_of_ne_nil more]
  exact List.mem_cons_self

end Shape

/-- A message without calls is a block of its own. -/
theorem behind_alone {m : ChatMessage} {rest : Conversation} {blocks : List ToolBlock}
    (shape : Shape blocks) (made : messagesOf blocks = m :: rest) (calls : m.calls = []) :
    ∃ blocks', messagesOf blocks' = rest ∧ Shape blocks' := by
  cases blocks with
  | nil => cases made
  | cons b blocks =>
    rw [messagesOf_cons] at made
    injection made with same behind
    have begun := shape.begun b List.mem_cons_self
    unfold ToolBlock.Begun at begun
    rw [same, calls, List.subperm_nil, List.map_eq_nil_iff] at begun
    rw [begun, List.nil_append] at behind
    exact ⟨blocks, behind, shape.tail⟩

end Feros
