import Feros.Agent.Blocks
import Feros.Agent.Calls
import Mathlib.Data.List.Perm.Basic
/-! # The conversations of LLM calls

Tools are called while a stream is open, the message with their calls enters the conversation when it
closes, and their results follow.  In between the block is open, so nothing else may be appended; and
what answers a call before its message is there answers nothing.

* **`InBlocks`** is the invariant: what the phase says about the conversation, and which calls wait for
  an answer.
* **`KeepsBlocks`** says what a call, and what the world does in it, must leave alone. -/

namespace Feros.DefaultAgentBackend

open Run Suspension

/-! ## The invariant -/

/-- **What the phase says about the conversation**; `missing` are the calls without an answer. -/
def PhaseKept (phase : AgentPhase) (conversation : Conversation) (calls : List ToolCallEvent)
    (missing : List String) : Prop :=
  match phase with
  | .idle => Settled conversation ∧ missing = []
  | .streaming =>
    Settled conversation ∧ (calls.map (·.toolCallId)).Perm (missing.map some)
  | .waitingForTools => Settled conversation ∧ missing = [] ∨ Opened conversation missing

/-- **Every message waits for what is outstanding**, and what was sent to an LLM was well-formed.
`held` are the calls whose results a call of `recv` has taken from the channel. -/
structure InBlocks (phase : AgentPhase) (conversation : Conversation) (calls : List ToolCallEvent)
    (remaining : ℕ) (info : List (String × String)) (requests : List LlmRequest)
    (held missing : List String) : Prop where
  counted : remaining = missing.length
  named : (held ++ info.map (·.1)).Perm missing
  distinct : missing.Nodup
  kept : PhaseKept phase conversation calls missing
  requests : ∀ request ∈ requests, WellFormed request.conversation

/-- The calls without an answer: those whose results are held, those that run, and those whose
results are in the channel. -/
def missing (held : List String) (b : DefaultAgentBackend) : List String :=
  held ++ (b.toolTasks.map (·.callId) ++ b.toolResults.map (·.callId))

/-- The conversation of a backend consists of blocks. -/
def Blocked (held : List String) (b : DefaultAgentBackend) : Prop :=
  InBlocks b.phase b.conversation b.pendingToolCalls b.toolsRemaining b.pendingToolInfo b.requests
    held (b.missing held)

/-- The phase of a backend whose `recv` waits at a point. -/
def RecvPoint.phase : RecvPoint → AgentPhase
  | .stream | .spinning => .streaming
  | .tools _ | .transform _ | .startStream _ => .waitingForTools

/-- The calls whose results a suspended `recv` holds. -/
def RecvPoint.taken : RecvPoint → List String
  | .transform result => [result.callId]
  | _ => []

/-- A call of `recv` waits, and the conversation consists of blocks; they are complete when the next
stream is started. -/
structure BlockedAt (b : DefaultAgentBackend) (point : RecvPoint) : Prop where
  phase : b.phase = RecvPoint.phase point
  blocked : b.Blocked (RecvPoint.taken point)
  started : ∀ event, point = .startStream event → b.toolsRemaining = 0

/-! ## What keeps it -/

section Keeps

variable {phase : AgentPhase} {conversation : Conversation} {calls : List ToolCallEvent}
  {remaining : ℕ} {info : List (String × String)} {requests : List LlmRequest}
  {held missing : List String}

/-- The order of the missing answers does not matter. -/
theorem PhaseKept.perm {missing' : List String} (kept : PhaseKept phase conversation calls missing)
    (same : missing.Perm missing') : PhaseKept phase conversation calls missing' := by
  cases phase with
  | idle =>
    obtain ⟨settled, rfl⟩ := kept
    exact ⟨settled, same.nil_eq.symm⟩
  | streaming => exact ⟨kept.1, kept.2.trans (same.map some)⟩
  | waitingForTools =>
    rcases kept with ⟨settled, rfl⟩ | opened
    · exact .inl ⟨settled, same.nil_eq.symm⟩
    · exact .inr (opened.perm same)

/-- The order of what is outstanding does not matter. -/
theorem InBlocks.perm {missing' : List String}
    (blocks : InBlocks phase conversation calls remaining info requests held missing)
    (same : missing.Perm missing') :
    InBlocks phase conversation calls remaining info requests held missing' where
  counted := blocks.counted.trans same.length_eq
  named := blocks.named.trans same
  distinct := same.nodup_iff.1 blocks.distinct
  kept := blocks.kept.perm same
  requests := blocks.requests

/-- With nothing outstanding, every block is complete. -/
theorem InBlocks.settled (blocks : InBlocks phase conversation calls remaining info requests held [])
    : Settled conversation := by
  have kept := blocks.kept
  cases phase with
  | idle => exact kept.1
  | streaming => exact kept.1
  | waitingForTools =>
    rcases kept with ⟨settled, -⟩ | opened
    · exact settled
    · exact opened.close

/-- With nothing outstanding, the conversation may change, and the phase. -/
theorem InBlocks.change {phase' : AgentPhase} {conversation' : Conversation}
    {calls' : List ToolCallEvent}
    (blocks : InBlocks phase conversation calls remaining info requests [] [])
    (settled : Settled conversation') (none : phase' = .streaming → calls' = []) :
    InBlocks phase' conversation' calls' remaining info requests [] [] where
  counted := blocks.counted
  named := blocks.named
  distinct := blocks.distinct
  kept := by
    cases phase' with
    | idle => exact ⟨settled, rfl⟩
    | streaming =>
      rw [none rfl]
      exact ⟨settled, List.Perm.refl _⟩
    | waitingForTools => exact .inl ⟨settled, rfl⟩
  requests := blocks.requests

/-- A settled conversation is sent to an LLM. -/
theorem InBlocks.request (blocks : InBlocks phase conversation calls remaining info requests held [])
    {request : LlmRequest} (sent : request.conversation = conversation) :
    InBlocks phase conversation calls remaining info (requests ++ [request]) held [] where
  counted := blocks.counted
  named := blocks.named
  distinct := blocks.distinct
  kept := blocks.kept
  requests := by
    intro r held
    rcases List.mem_append.1 held with held | held
    · exact blocks.requests r held
    · rw [List.mem_singleton.1 held, sent]
      exact blocks.settled.wellFormed

/-- A tool is called while the stream is open. -/
theorem InBlocks.spawn
    (blocks : InBlocks .streaming conversation calls remaining info requests [] missing)
    {call : ToolCallEvent} {id : String} (name : String) (called : call.toolCallId = some id)
    (fresh : id ∉ info.map (·.1)) :
    InBlocks .streaming conversation (calls ++ [call]) (remaining + 1)
      (info.filter (·.1 != id) ++ [(id, name)]) requests [] (missing ++ [id]) where
  counted := by
    rw [List.length_append, List.length_singleton, blocks.counted]
  named := by
    have all : info.filter (·.1 != id) = info := by
      rw [List.filter_eq_self]
      intro p inside
      have other : p.1 ≠ id := fun same => fresh (same ▸ List.mem_map_of_mem inside)
      simpa using other
    rw [all, List.map_append]
    exact blocks.named.append_right [id]
  distinct := by
    have unknown : id ∉ missing := fun inside => fresh (blocks.named.mem_iff.2 inside)
    rw [List.nodup_append_comm]
    exact List.nodup_cons.2 ⟨unknown, blocks.distinct⟩
  kept := by
    refine ⟨blocks.kept.1, ?_⟩
    rw [List.map_append, List.map_append, List.map_singleton, List.map_singleton, called]
    exact blocks.kept.2.append_right [some id]
  requests := blocks.requests

/-- A result is taken from the channel. -/
theorem InBlocks.take {id : String}
    (blocks : InBlocks phase conversation calls remaining info requests [] (id :: missing)) :
    InBlocks phase conversation calls remaining (info.filter (·.1 != id)) requests [id]
      (id :: missing) where
  counted := blocks.counted
  named := by
    have only : (info.filter (·.1 != id)).map (·.1) = (info.map (·.1)).filter (· != id) := by
      rw [List.filter_map]
      rfl
    have others : (id :: missing).filter (· != id) = missing := by
      have absent : id ∉ missing := (List.nodup_cons.1 blocks.distinct).1
      rw [List.filter_cons_of_neg (by simp), List.filter_eq_self]
      intro other inside
      have apart : other ≠ id := fun same => absent (same ▸ inside)
      simpa using apart
    have named : ((info.map (·.1)).filter (· != id)).Perm ((id :: missing).filter (· != id)) :=
      blocks.named.filter _
    rw [others] at named
    rw [only]
    exact named.cons id
  distinct := blocks.distinct
  kept := blocks.kept
  requests := blocks.requests

/-- A result answers its call. -/
theorem InBlocks.answer {id : String}
    (blocks : InBlocks .waitingForTools conversation calls remaining info requests [id] (id :: missing))
    (content : String) :
    InBlocks .waitingForTools (conversation ++ [.toolResult id content]) calls (usizePred remaining)
      info requests [] missing where
  counted := by
    have counted := blocks.counted
    rw [List.length_cons] at counted
    rw [usizePred, if_neg (by omega)]
    omega
  named := (List.perm_cons id).1 blocks.named
  distinct := (List.nodup_cons.1 blocks.distinct).2
  kept := by
    rcases blocks.kept with ⟨-, none⟩ | opened
    · cases none
    · exact .inr (opened.answer content)
  requests := blocks.requests

end Keeps

/-! ## The guard -/

/-- No block of the conversation is open. -/
def NoneOpen (b : DefaultAgentBackend) : Prop := b.phase = .waitingForTools → b.pendingToolInfo = []

/-- **A summary that is applied keeps whole blocks**: what it leaves of the conversation does not begin
with a tool result. -/
def SummaryKeepsBlocks (b : DefaultAgentBackend) : Prop :=
  ∀ s ∈ b.contextSummarizer, ∀ waiting ∈ s.results.head?,
    let snapshot := waiting.2.snapshot
    waiting.1.isEmpty = false →
      (applySummary b.conversation waiting.1 snapshot.lastSummarizedIndex snapshot.snapshotLen
        waiting.2.minKeep).isSome →
      ∀ m ∈ (b.conversation.drop (snapshot.lastSummarizedIndex + 1)).head?, m.role ≠ .tool

/-- **What the stream may send**: no error while tools run, and no call with an id that is in use. -/
def KeepsItem (b : DefaultAgentBackend) : RecvPoint → Wake → Prop
  | .stream, .llm (some (.error _)) _ => b.pendingToolInfo = []
  | .stream, .llm (some (.toolCall call)) uuid =>
    call.name = hangUpToolName ∨ call.name = onHoldToolName ∨
      call.toolCallId.getD ("call_" ++ uuid) ∉ b.pendingToolInfo.map (·.1)
  | _, _ => True

/-- A call of `recv` may be dropped here without losing a result. -/
def RecvPoint.losesNothing : RecvPoint → Prop
  | .transform _ => False
  | _ => True

instance (b : DefaultAgentBackend) (point : RecvPoint) (wake : Wake) :
    Decidable (b.KeepsItem point wake) := by
  unfold KeepsItem
  split <;> infer_instance

instance (b : DefaultAgentBackend) : Decidable b.NoneOpen :=
  inferInstanceAs (Decidable (b.phase = .waitingForTools → b.pendingToolInfo = []))

instance (point : RecvPoint) : Decidable (RecvPoint.losesNothing point) := by
  cases point <;> unfold RecvPoint.losesNothing <;> infer_instance

instance (b : DefaultAgentBackend) : Decidable b.SummaryKeepsBlocks := by
  unfold SummaryKeepsBlocks
  infer_instance

/-- **A call leaves the blocks alone.** -/
def KeepsBlocks (b : DefaultAgentBackend) : AgentCall → Prop
  | .setSystemPrompt _ | .addUserMessage _ | .addAssistantMessage _ => b.NoneOpen
  | .startTurn reply =>
    b.pendingToolInfo = [] ∧ (reply.background.foldl background b).SummaryKeepsBlocks
  | .recv wakes =>
    recvCall.Along KeepsItem wakes b ∧
      ∀ point ∈ b.droppedAt wakes, RecvPoint.losesNothing point
  | .cancel => b.phase = .streaming → b.pendingToolInfo = []
  | .background _ => True

instance (b : DefaultAgentBackend) (call : AgentCall) : Decidable (b.KeepsBlocks call) := by
  cases call <;> unfold KeepsBlocks <;> infer_instance

/-! ## One step -/

variable {b : DefaultAgentBackend} {held : List String}

/-- With no tool known to be pending, nothing is outstanding. -/
theorem Blocked.none (blocked : b.Blocked []) (known : b.pendingToolInfo = []) :
    b.missing [] = [] := by
  have named := blocked.named
  rw [known] at named
  exact named.nil_eq.symm

/-- Where no answer is counted none is missing. -/
theorem Blocked.none_of_counted (blocked : b.Blocked []) (zero : b.toolsRemaining = 0) :
    b.missing [] = [] := by
  have length := blocked.counted
  rw [zero] at length
  exact List.length_eq_zero_iff.1 length.symm

/-- No stream is started at another point. -/
theorem blockedAt_of {point : RecvPoint} (phase : b.phase = RecvPoint.phase point)
    (blocked : b.Blocked (RecvPoint.taken point)) (other : ∀ event, point ≠ .startStream event) :
    BlockedAt b point :=
  ⟨phase, blocked, fun event same => absurd same (other event)⟩

/-- Where no block is open the conversation is settled. -/
theorem Blocked.settled (blocked : b.Blocked []) (open' : b.NoneOpen) : Settled b.conversation := by
  have kept := blocked.kept
  rcases phase : b.phase with - | - | -
  · rw [phase] at kept
    exact kept.1
  · rw [phase] at kept
    exact kept.1
  · have none := blocked.none (open' phase)
    unfold Blocked at blocked
    rw [none] at blocked
    exact blocked.settled

/-- The conversation may change where no block is open. -/
theorem Blocked.change (blocked : b.Blocked []) (open' : b.NoneOpen) {conversation : Conversation}
    (settled : Settled conversation) : Blocked [] { b with conversation := conversation } := by
  obtain ⟨counted, named, distinct, kept, requests⟩ := blocked
  refine ⟨counted, named, distinct, ?_, requests⟩
  change PhaseKept b.phase conversation b.pendingToolCalls (b.missing [])
  rcases phase : b.phase with - | - | -
  · rw [phase] at kept
    exact ⟨settled, kept.2⟩
  · rw [phase] at kept
    exact ⟨settled, kept.2⟩
  · have none := Blocked.none ⟨counted, named, distinct, kept, requests⟩ (open' phase)
    exact .inl ⟨settled, none⟩

/-- The background leaves the conversation in blocks. -/
theorem blocked_background (blocked : b.Blocked held) (event : Background) :
    (b.background event).Blocked held := by
  cases event with
  | toolDone i success result =>
    unfold background
    dsimp only
    rcases found : b.toolTasks[i]? with - | task
    · exact blocked
    · -- The task moves to the results.
      refine InBlocks.perm blocked ?_
      unfold missing
      refine List.Perm.append_left held ?_
      obtain ⟨inside, rfl⟩ := List.getElem?_eq_some_iff.1 found
      have moved : (b.toolTasks.map (·.callId)).Perm
          (b.toolTasks[i].callId :: (b.toolTasks.eraseIdx i).map (·.callId)) :=
        (List.getElem_cons_eraseIdx_perm inside).symm.map _
      rw [List.map_append, List.map_singleton]
      refine (moved.append_right _).trans ?_
      rw [List.cons_append, ← List.append_assoc]
      exact (List.perm_append_singleton _ _).symm
  | summaryDone i summary => exact blocked

/-- The LLM is called where nothing is outstanding. -/
theorem blocked_requestStream {asked : DefaultAgentBackend} (blocked : b.Blocked [])
    (none : b.missing [] = []) (requested : b.requestStream = .ok asked) : asked.Blocked [] := by
  obtain ⟨schemas, temperature, maxTokens, model, -, rfl⟩ := requestStream_eq requested
  unfold Blocked at blocked ⊢
  change InBlocks _ _ _ _ _ _ _ (b.missing [])
  rw [none] at blocked ⊢
  exact InBlocks.request blocked rfl

/-- A stream is opened where nothing is outstanding. -/
theorem blocked_openStream (blocked : b.Blocked []) (none : b.missing [] = []) :
    Blocked [] { b.openStream with phase := .streaming } := by
  obtain ⟨obs, opened⟩ := b.openStream_eq
  rw [opened]
  unfold Blocked at blocked ⊢
  change InBlocks _ _ _ _ _ _ _ (b.missing [])
  rw [none] at blocked ⊢
  exact blocked.change blocked.settled fun _ => rfl

/-- `cancel` closes the block that is open. -/
theorem blocked_cancel (blocked : b.Blocked []) (open' : b.phase = .streaming → b.pendingToolInfo = []) :
    b.cancel.2.Blocked [] := by
  obtain ⟨complete, -, cancelled⟩ := b.cancel_eq
  have ids : (b.library.hashOrder b.pendingToolInfo).map (·.1) |>.Perm (b.missing []) :=
    ((b.library.hashOrder_perm _).map _).trans blocked.named
  have answers : b.placeholders = ((b.library.hashOrder b.pendingToolInfo).map (·.1)).map
      fun id => .toolResult id "Tool execution was interrupted by the user." := by
    rw [placeholders, List.map_map]
    rfl
  have settled : Settled (b.conversation ++ b.placeholders) := by
    have whole : b.pendingToolInfo = [] → b.placeholders = [] := by
      intro none
      have empty := b.library.hashOrder_perm b.pendingToolInfo
      rw [none] at empty
      rw [placeholders, none, empty.eq_nil, List.map_nil]
    rcases phase : b.phase with - | - | -
    · have kept := blocked.kept
      rw [phase] at kept
      have named := blocked.named
      rw [kept.2] at named
      have none : b.pendingToolInfo = [] := List.map_eq_nil_iff.1 named.eq_nil
      rw [whole none, List.append_nil]
      exact kept.1
    · have kept := blocked.kept
      rw [phase] at kept
      rw [whole (open' phase), List.append_nil]
      exact kept.1
    · have kept := blocked.kept
      rw [phase] at kept
      rcases kept with ⟨settled, none⟩ | opened
      · have named := blocked.named
        rw [none] at named
        rw [whole (List.map_eq_nil_iff.1 named.eq_nil), List.append_nil]
        exact settled
      · have closed := (opened.perm ids.symm).answerAll "Tool execution was interrupted by the user."
        rw [answers]
        exact closed.close
  rw [cancelled]
  exact ⟨rfl, List.Perm.refl _, List.nodup_nil, ⟨settled, rfl⟩, blocked.requests⟩

/-! ## Tool results -/

/-- Where `recv` returns or waits, the conversation consists of blocks. -/
abbrev BlockedAfter : DefaultAgentBackend × RecvStatus → Prop :=
  Holds BlockedAt (fun b _ => b.Blocked [])

/-- A result answers a call of the block. -/
theorem blocked_finishResult {result : ToolTaskResult} (phase : b.phase = .waitingForTools)
    (blocked : b.Blocked [result.callId]) (content : String) :
    BlockedAfter (b.finishResult result content) := by
  let counted : DefaultAgentBackend :=
    { b.push (.toolResult result.callId content) with
      toolsRemaining := usizePred b.toolsRemaining
      handled := b.handled ++ [⟨result, b.turn, b.toolsRemaining⟩] }
  have answered : counted.Blocked [] := by
    unfold Blocked at blocked
    rw [phase] at blocked
    have answered := InBlocks.answer blocked content
    rw [← phase] at answered
    exact answered
  -- With the last result the block is complete.
  have idle : counted.toolsRemaining = 0 → Blocked [] { counted with phase := .idle } := by
    intro zero
    have none := answered.none_of_counted zero
    unfold Blocked at answered ⊢
    change InBlocks _ _ _ _ _ _ _ (counted.missing [])
    rw [none] at answered ⊢
    exact answered.change answered.settled AgentPhase.noConfusion
  rcases finishResult_cases result content b with
    ⟨-, finished⟩ | ⟨zero, ⟨pending, -, finished⟩ | ⟨-, -, finished⟩ |
      ⟨-, -, ⟨asked, requested, finished⟩ | ⟨message, -, finished⟩⟩⟩
  · rw [finished]
    exact answered
  · rw [finished]
    exact idle zero
  · rw [finished]
    exact idle zero
  · rw [finished]
    have sent := blocked_requestStream (by exact answered) (by exact answered.none_of_counted zero)
      requested
    obtain ⟨schemas, temperature, maxTokens, model, -, rfl⟩ := requestStream_eq requested
    exact ⟨phase, sent, fun _ _ => zero⟩
  · rw [finished]
    exact idle zero

/-- A result that was taken answers a call of the block. -/
theorem blocked_handleResult {result : ToolTaskResult} {rest : List ToolTaskResult}
    (phase : b.phase = .waitingForTools) (blocked : b.Blocked [])
    (taken : b.toolResults = result :: rest) :
    BlockedAfter (({ b with toolResults := rest } : DefaultAgentBackend).handleResult result) := by
  let known : DefaultAgentBackend :=
    { b with
      toolResults := rest
      pendingToolInfo := b.pendingToolInfo.filter (·.1 != result.callId) }
  have moved : known.Blocked [result.callId] := by
    have order : (b.missing []).Perm (known.missing [result.callId]) := by
      unfold missing
      rw [taken]
      exact List.perm_middle
    exact InBlocks.take (blocked.perm order)
  unfold handleResult
  dsimp only
  split
  · exact blockedAt_of phase moved fun _ => RecvPoint.noConfusion
  · exact blocked_finishResult (by exact phase) (by exact moved) result.result

/-! ## The stream -/

/-- The accumulated message makes the calls that were received; without any there may be none. -/
theorem assistantMessage_calls (b : DefaultAgentBackend) :
    (b.assistantMessage = none ∧ b.pendingToolCalls = []) ∨
      ∃ m, b.assistantMessage = some m ∧ m.role = .assistant ∧
        m.asked = b.pendingToolCalls.filterMap (·.toolCallId) := by
  unfold assistantMessage
  rcases b.pendingToolCalls with - | ⟨call, calls⟩
  · rcases b.generatedText with - | text
    · exact .inl ⟨rfl, rfl⟩
    · exact .inr ⟨_, rfl, rfl, rfl⟩
  · refine .inr ⟨⟨.assistant, b.generatedText, some (call :: calls), none⟩, ?_, rfl, rfl⟩
    simp

/-- Its calls are those that are outstanding. -/
theorem asked_assistantMessage {missing : List String}
    (calls : (b.pendingToolCalls.map (·.toolCallId)).Perm (missing.map some)) :
    (b.assistantMessage = none ∧ missing = []) ∨
      ∃ m, b.assistantMessage = some m ∧ m.role ≠ .tool ∧ missing.Perm m.asked := by
  have ids : (b.pendingToolCalls.filterMap (·.toolCallId)).Perm missing := by
    have known := calls.filterMap id
    rw [List.filterMap_map, List.filterMap_map] at known
    simpa using known
  rcases b.assistantMessage_calls with ⟨said, none⟩ | ⟨m, said, role, asked⟩
  · rw [none] at ids
    exact .inl ⟨said, ids.nil_eq.symm⟩
  · refine .inr ⟨m, said, ?_, ?_⟩
    · rw [role]
      exact Role.noConfusion
    · rw [asked]
      exact ids.symm

/-- **A stream that closes opens a block**, or leaves none open. -/
theorem blocked_closeStream (phase : b.phase = .streaming) (blocked : b.Blocked []) :
    BlockedAfter b.closeStream := by
  obtain ⟨counted, named, distinct, kept, requests⟩ := blocked
  rw [phase] at kept
  obtain ⟨settled, calls⟩ := kept
  have message := asked_assistantMessage calls
  have idle : b.toolsRemaining = 0 →
      InBlocks .idle (b.conversation ++ b.assistantMessage.toList) [] b.toolsRemaining
        b.pendingToolInfo b.requests [] (b.missing []) := by
    intro zero
    have none : b.missing [] = [] := List.length_eq_zero_iff.1 (counted.symm.trans zero)
    refine ⟨counted, named, distinct, ⟨settled.append ?_, none⟩, requests⟩
    rcases message with ⟨said, -⟩ | ⟨m, said, head, asked⟩
    · rw [said]
      exact .nil
    · rw [said]
      rw [none] at asked
      exact WellFormed.single head asked.nil_eq.symm
  obtain ⟨complete, -, ⟨zero, ⟨pending, -, closed⟩ | ⟨-, closed⟩⟩ | ⟨some, closed⟩⟩ := b.closeStream_cases
  · rw [closed]
    exact idle zero
  · rw [closed]
    exact idle zero
  · rw [closed]
    refine blockedAt_of rfl ⟨counted, named, distinct, .inr ?_, requests⟩
      fun _ => RecvPoint.noConfusion
    -- There are calls, so there is a message that makes them.
    rcases message with ⟨-, none⟩ | ⟨m, said, head, asked⟩
    · rw [none] at counted
      exact absurd counted some
    · have opened := settled.opened head (asked.nodup_iff.1 distinct) asked
      rw [← Option.toList_some, ← said] at opened
      exact opened

/-- An item of the stream leaves the conversation in blocks. -/
theorem blocked_handleStreamItem (phase : b.phase = .streaming) (blocked : b.Blocked [])
    (item : InnerLlmEvent) (uuid : String) (keeps : b.KeepsItem .stream (.llm (some item) uuid)) :
    BlockedAfter (b.handleStreamItem item uuid) := by
  have waits : BlockedAt b .stream := blockedAt_of phase blocked fun _ => RecvPoint.noConfusion
  cases item with
  | token text => exact blocked
  | usage promptTokens completionTokens cachedInputTokens =>
    exact blockedAt_of phase blocked fun _ => RecvPoint.noConfusion
  | error message => exact blocked_cancel blocked fun _ => keeps
  | toolCall call =>
    unfold handleStreamItem
    dsimp only
    split
    · unfold handleHangUp
      split
      · exact waits
      · exact blockedAt_of phase blocked fun _ => RecvPoint.noConfusion
    · split
      · exact blockedAt_of phase blocked fun _ => RecvPoint.noConfusion
      · rename_i notHangUp notOnHold
        have fresh : call.toolCallId.getD ("call_" ++ uuid) ∉ b.pendingToolInfo.map (·.1) :=
          (keeps.resolve_left notHangUp).resolve_left notOnHold
        have streaming : InBlocks .streaming b.conversation b.pendingToolCalls b.toolsRemaining
            b.pendingToolInfo b.requests [] (b.missing []) := by
          rw [← phase]
          exact blocked
        let made : ToolCallEvent :=
          { call with toolCallId := some (call.toolCallId.getD ("call_" ++ uuid)) }
        have called : made.toolCallId = some (call.toolCallId.getD ("call_" ++ uuid)) := rfl
        have spawned := streaming.spawn call.name called fresh
        rw [← phase] at spawned
        refine spawned.perm ?_
        -- The new task stands before the results.
        unfold missing
        simp only [spawnTool, List.nil_append, List.map_append, List.map_singleton, List.append_assoc]
        exact List.perm_append_comm.append_left _

/-! ## Calls -/

/-- **A call that is entered keeps the blocks.** -/
theorem blocked_enter (blocked : b.Blocked []) : BlockedAfter b.enter := by
  unfold enter enterPhase
  rcases b.eventBuffer with - | ⟨event, rest⟩
  · dsimp only
    rcases phase : b.phase with - | - | -
    · exact blocked
    · dsimp only
      split
      · exact blockedAt_of phase blocked fun _ => RecvPoint.noConfusion
      · exact blockedAt_of phase blocked fun _ => RecvPoint.noConfusion
    · exact blockedAt_of rfl (phase ▸ blocked) fun _ => RecvPoint.noConfusion
  · exact blocked

/-- The background keeps the blocks while a call waits. -/
theorem blockedAt_background {point : RecvPoint} (waits : BlockedAt b point) (event : Background) :
    BlockedAt (b.background event) point := by
  have blocked := blocked_background waits.blocked event
  obtain ⟨tasks, results, summarizer, happened⟩ := b.background_eq event
  rw [happened] at blocked ⊢
  exact ⟨waits.phase, blocked, waits.started⟩

/-- **A call that is resumed keeps the blocks.** -/
theorem blocked_resume {point : RecvPoint} (waits : BlockedAt b point) (wake : Wake)
    (keeps : b.KeepsItem point wake) : BlockedAfter (b.resume point wake) := by
  have ⟨phase, blocked, started⟩ := waits
  unfold resume
  split
  · exact blockedAt_background waits _
  · exact blocked_handleStreamItem phase blocked _ _ keeps
  · exact blocked_closeStream phase blocked
  · split
    · rename_i result rest taken
      exact blocked_handleResult phase blocked taken
    · exact waits
  · exact blocked
  · exact blockedAt_of phase blocked fun _ => RecvPoint.noConfusion
  · exact blocked_finishResult phase blocked _
  · exact blocked_openStream blocked (Blocked.none_of_counted blocked (started _ rfl))
  · have none := Blocked.none_of_counted blocked (started _ rfl)
    have idle : Blocked [] { b with phase := .idle } := by
      unfold Blocked at blocked ⊢
      change InBlocks _ _ _ _ _ _ _ (b.missing [])
      change InBlocks _ _ _ _ _ _ _ (b.missing []) at blocked
      rw [none] at blocked ⊢
      exact blocked.change blocked.settled AgentPhase.noConfusion
    exact idle
  · exact waits

/-- A call of `recv` keeps the blocks. -/
theorem blocked_recv (blocked : b.Blocked []) {wakes : List Wake}
    (keeps : recvCall.Along KeepsItem wakes b)
    (dropped : ∀ point ∈ b.droppedAt wakes, RecvPoint.losesNothing point) :
    (b.recv wakes).2.Blocked [] := by
  refine recv_rule (fun _ => blocked_enter) (fun _ _ wake waits => blocked_resume waits wake) ?_ blocked
    keeps dropped
  intro b point waits safe
  cases point with
  | transform result => exact safe.elim
  | stream => exact waits.blocked
  | tools filler => exact waits.blocked
  | startStream event => exact waits.blocked
  | spinning => exact waits.blocked

/-- A turn that starts keeps the blocks. -/
theorem blocked_startTurn (blocked : b.Blocked []) (reply : TurnReply)
    (known : b.pendingToolInfo = [])
    (summary : (reply.background.foldl background b).SummaryKeepsBlocks) :
    (b.startTurn reply).2.Blocked [] := by
  -- What happened in the background before the turn.
  let before := reply.background.foldl background b
  have happened : before.Blocked [] ∧ before.pendingToolInfo = [] := by
    have keeps : ∀ (t : DefaultAgentBackend) (event : Background),
        t.Blocked [] ∧ t.pendingToolInfo = [] →
          (t.background event).Blocked [] ∧ (t.background event).pendingToolInfo = [] := by
      rintro t event ⟨blocked, known⟩
      refine ⟨blocked_background blocked event, ?_⟩
      obtain ⟨tasks, results, summarizer, happened⟩ := t.background_eq event
      rw [happened]
      exact known
    exact invariant_of_step keeps ⟨blocked, known⟩ reply.background
  obtain ⟨blocked, known⟩ := happened
  -- No call is open, so the summary meets a settled conversation.
  have none := blocked.none known
  have settled := blocked.settled fun _ => known
  obtain ⟨conversation, summarizer, shorter, prepared⟩ := b.prepareTurn_eq reply
  -- The summary leaves whole blocks, where one is applied.
  have kept : Settled conversation := by
    rcases shorter with rfl | ⟨s, waiting, rfl⟩
    · exact settled
    · rcases s.tryApply_cases before.conversation with same | ⟨text, task, results, first, some, applied⟩
      · rw [same]
        exact settled
      · refine settled_applySummary settled applied ?_
        have result : (text, task) ∈ s.results.head? := by
          rw [first]
          rfl
        exact summary s waiting (text, task) result some (by rw [applied]; rfl)
  have ready : (b.prepareTurn reply).Blocked [] ∧ (b.prepareTurn reply).missing [] = [] := by
    rw [prepared]
    refine ⟨?_, none⟩
    have changed := blocked.change (fun _ => known) kept
    obtain ⟨-, -, distinct, phase, requests⟩ := changed
    refine ⟨?_, ?_, distinct, phase, requests⟩
    · exact (congrArg List.length none).symm
    · exact List.Perm.of_eq none.symm
  obtain ⟨ready, free⟩ := ready
  rcases b.startTurn_cases reply with ⟨-, started⟩ | ⟨asked, requested, ⟨-, started⟩ | ⟨-, started⟩⟩
  · rw [started]
    exact ready
  · rw [started]
    exact blocked_requestStream ready free requested
  · rw [started]
    have sent := blocked_requestStream ready free requested
    refine blocked_openStream sent ?_
    obtain ⟨schemas, temperature, maxTokens, model, -, rfl⟩ := requestStream_eq requested
    exact free

/-- **A call keeps the blocks**, under the guard. -/
theorem blocked_step (b : DefaultAgentBackend) (call : AgentCall) (blocked : b.Blocked [])
    (keeps : b.KeepsBlocks call) : (b.step call).Blocked [] := by
  cases call with
  | setSystemPrompt prompt =>
    exact blocked.change keeps ⟨_, [], rfl, rfl, .nil⟩
  | addUserMessage text =>
    have said : WellFormed [.say .user text] := .single Role.noConfusion rfl
    exact blocked.change keeps (settled_trimHistory ((blocked.settled keeps).append said))
  | addAssistantMessage text =>
    have said : WellFormed [.say .assistant text] := .single Role.noConfusion rfl
    exact blocked.change keeps ((blocked.settled keeps).append said)
  | startTurn reply => exact blocked_startTurn blocked reply keeps.1 keeps.2
  | recv wakes => exact blocked_recv blocked keeps.1 keeps.2
  | cancel => exact blocked_cancel blocked keeps
  | background event => exact blocked_background blocked event

/-! ## The guarantee -/

/-- **Every LLM call gets a well-formed conversation**, in every run of a session that leaves the open
blocks alone. -/
theorem requests_paired (library : AgentLibrary) (graph : Option AgentGraphDef)
    (config : AgentBackendConfig) (prompt : String) (calls : List AgentCall)
    (keeps : Along step KeepsBlocks ((new library graph config).setSystemPrompt prompt) calls) :
    ∀ request ∈ (run step ((new library graph config).setSystemPrompt prompt) calls).requests,
      ToolsPaired request.conversation := by
  have start : ((new library graph config).setSystemPrompt prompt).Blocked [] := by
    refine ⟨rfl, List.Perm.refl _, List.nodup_nil, ⟨⟨_, [], rfl, rfl, .nil⟩, rfl⟩, ?_⟩
    exact fun _ held => absurd held List.not_mem_nil
  intro request held
  exact ((invariant blocked_step start keeps).requests request held).toolsPaired

/-- The LLM calls a tool. -/
def asksTool (id : String) : AgentCall :=
  .recv [.llm (some (.toolCall ⟨"lookup", "", some id, none⟩)) ""]

/-- One tool is answered, and a turn is cancelled that waits for another. -/
theorem requests_paired_cancelled :
    let start := (new silentLibrary none {}).setSystemPrompt "You answer the phone."
    let calls := [.addUserMessage "Hello.", .startTurn ⟨[], .ok ()⟩, asksTool "one",
      .recv [.llm none "", .background (.toolDone 0 true "found"), .toolResult, .streamStarted (.ok ())],
      asksTool "two", .recv [.llm none ""], .cancel, .addUserMessage "Wait.", .startTurn ⟨[], .ok ()⟩]
    ∀ request ∈ (run step start calls).requests, ToolsPaired request.conversation := by
  intro start calls
  exact requests_paired silentLibrary none {} "You answer the phone." calls (by decide +kernel)

/-- **A tool result without a call.**  The turn is cancelled while the stream is open: the placeholder
enters the conversation, the message that made the call does not. -/
theorem placeholder_unasked :
    let start := (new silentLibrary none {}).setSystemPrompt "You answer the phone."
    let calls := [.startTurn ⟨[], .ok ()⟩, asksTool "one", .cancel, .addUserMessage "Wait.",
      .startTurn ⟨[], .ok ()⟩]
    ¬ ∀ request ∈ (run step start calls).requests, ToolsPaired request.conversation := by
  intro start calls paired
  let system : ChatMessage := .say .system (withSuffix silentLibrary "You answer the phone." none)
  let placeholder : ChatMessage := .toolResult "one" "Tool execution was interrupted by the user."
  have sent : ∃ request ∈ (run step start calls).requests,
      request.conversation = [system] ++ placeholder :: [.say .user "Wait."] := by
    decide +kernel
  obtain ⟨request, held, same⟩ := sent
  obtain ⟨before, caller, between, split, assistant, -, -⟩ :=
    (paired request held).preceded [system] placeholder _ same rfl
  -- Only the system message stands before it.
  rcases before with - | ⟨first, before⟩
  · injection split with same
    rw [← same] at assistant
    cases assistant
  · injection split with _ none
    exact List.append_ne_nil_of_right_ne_nil before (List.cons_ne_nil caller between) none.symm

end Feros.DefaultAgentBackend
