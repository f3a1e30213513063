import Feros.Agent.RigStream
/-! # Model streams that break off

The adapter ends in the same way whether the vendor's stream is complete or breaks off, so the
backend takes a broken stream for a complete one.  `Stage` follows a turn from the moment a stream
has been opened: the stream is read, its tools are waited for, and then the turn ends, or goes on
with another LLM call. -/

namespace Feros

open Run Suspension

/-! ## What a stream contains -/

namespace InnerLlmEvent

/-- The text of a token. -/
def token? : InnerLlmEvent → Option String
  | .token text => some text
  | _ => none

/-- The event calls `hang_up`. -/
def isHangUp : InnerLlmEvent → Bool
  | .toolCall call => call.name == hangUpToolName
  | _ => false

/-- The event calls a tool that is not intercepted. -/
def callsTool : InnerLlmEvent → Bool
  | .toolCall call => call.name != hangUpToolName && call.name != onHoldToolName
  | _ => false

end InnerLlmEvent

namespace RigStream

/-- The text of a stream. -/
def text (stream : RigStream) : String :=
  String.join (stream.forwarded.filterMap InnerLlmEvent.token?)

/-- The stream has a tool call to wait for. -/
def callsTool (stream : RigStream) : Bool := stream.forwarded.any InnerLlmEvent.callsTool

/-- The stream calls `hang_up`. -/
def hangsUp (stream : RigStream) : Bool := stream.forwarded.any InnerLlmEvent.isHangUp

/-- The adapter never sends an error. -/
theorem error_not_forwarded (stream : RigStream) (message : String) :
    .error message ∉ stream.forwarded := by
  intro sent
  obtain ⟨item, -, forwards⟩ := List.mem_filterMap.1 sent
  cases item with
  | text chunk =>
    simp only [RigContent.forward] at forwards
    split at forwards
    · cases forwards
    · injection forwards with same
      cases same
  | toolCall => cases forwards
  | final usage => cases usage <;> cases forwards
  | other => cases forwards

end RigStream

/-- The event says that the turn came to its end as it should. -/
def AgentEvent.isCompletion : AgentEvent → Bool
  | .finished _ | .hangUp _ _ => true
  | _ => false

namespace RigTurn

/-! ## Opened streams -/

/-- **A stream has just been opened**, in a turn of which no end was announced. -/
structure Opened (stream : RigStream) (s : RigTurn) : Prop where
  waiting : s.waiting = none
  running : s.ended = false
  channel : s.channel = []
  adapter : s.adapter = some stream
  phase : s.backend.phase = .streaming
  isOpen : s.backend.llmEventRx = true
  tokens : s.backend.pendingTokens = []
  alone : s.backend.toolsRemaining = 0
  talks : s.backend.pendingHangUp = none
  mute : ∀ event ∈ s.delivered ++ s.backend.eventBuffer, event.isTerminal = false
  resolved : ∃ params, s.backend.resolveLlmCallParams = .ok params

/-- **The turn is taken for a broken one**: it ends with an error and nothing else, no further LLM
call was made, and no text was stored as an answer. -/
def TakenAsBroken (before after : RigTurn) : Prop :=
  (∃ message, after.delivered.getLast? = some (.error message)) ∧
  (∀ event ∈ after.delivered, event.isCompletion = false) ∧
  after.backend.requests.length = before.backend.requests.length ∧
  ∀ m ∈ after.backend.conversation.drop before.backend.conversation.length,
    m.role = .assistant → m.content = none

/-! ## Stages -/

section Stages

variable (b₀ : DefaultAgentBackend)

/-- What a turn does not change. -/
structure SameTurn (b : DefaultAgentBackend) : Prop where
  requests : b.requests = b₀.requests
  rounds : b.toolRounds = b₀.toolRounds
  config : b.config = b₀.config
  swarm : b.swarm = b₀.swarm

/-- The backend reads the stream, of which `seen` has arrived. -/
structure Reads (seen : List InnerLlmEvent) (b : DefaultAgentBackend) : Prop where
  same : SameTurn b₀ b
  phase : b.phase = .streaming
  isOpen : b.llmEventRx = true
  conversation : b.conversation = b₀.conversation
  tokens : b.pendingTokens = seen.filterMap InnerLlmEvent.token?
  remaining : b.toolsRemaining = seen.countP InnerLlmEvent.callsTool
  hangUp : b.pendingHangUp.isSome = seen.any InnerLlmEvent.isHangUp

/-- Among the messages since `b₀` there is an answer exactly if the stream had text. -/
def Stored (text : String) (conversation : Conversation) : Prop :=
  ∃ added, conversation = b₀.conversation ++ added ∧
    ((∀ m ∈ added, m.role = .assistant → m.content = none) ↔ text = "")

/-- The backend waits for the tools of the stream. -/
structure Waits (stream : RigStream) (b : DefaultAgentBackend) : Prop where
  same : SameTurn b₀ b
  phase : b.phase = .waitingForTools
  stored : Stored b₀ stream.text b.conversation
  remaining : b.toolsRemaining ≠ 0
  hangUp : b.pendingHangUp.isSome = stream.hangsUp
  called : stream.callsTool = true

/-- The round of tools is followed by another LLM call. -/
structure GoesOn (stream : RigStream) (requests : List LlmRequest) : Prop where
  more : b₀.requests.length < requests.length
  called : stream.callsTool = true
  talks : stream.hangsUp = false
  again : b₀.toolRounds + 1 < b₀.config.maxToolRounds

/-- The backend waits for the next stream to be opened. -/
structure Asks (stream : RigStream) (event : AgentEvent) (b : DefaultAgentBackend) : Prop where
  event : event.isTerminal = false
  alone : b.toolsRemaining = 0
  noHangUp : b.pendingHangUp = none
  resolved : ∃ params, b.resolveLlmCallParams = .ok params
  goesOn : GoesOn b₀ stream b.requests

/-- **How a turn ends**, with all events that were delivered or still are buffered. -/
inductive Ending (stream : RigStream) (events : List AgentEvent) (conversation : Conversation)
    (requests : List LlmRequest) : Prop
  /-- As if the stream were complete. -/
  | completes (announced : ∃ event ∈ events, event.isCompletion = true)
      (why : stream.callsTool = false ∨ stream.hangsUp = true)
  /-- The last round of tools is over. -/
  | exhausted (front : List AgentEvent) (message : String) (announced : events = front ++ [.error message])
      (mute : ∀ event ∈ front, event.isTerminal = false) (same : requests = b₀.requests)
      (stored : Stored b₀ stream.text conversation) (called : stream.callsTool = true)
      (talks : stream.hangsUp = false) (last : b₀.config.maxToolRounds ≤ b₀.toolRounds + 1)
  /-- The next stream was refused. -/
  | refused (goesOn : GoesOn b₀ stream requests)

/-- **How far a turn has come** since the stream was opened in `b₀`, until the next one is. -/
inductive Stage (stream : RigStream) (s : RigTurn) : Prop
  | reads (seen : List InnerLlmEvent)
      (split : seen ++ (s.channel ++ (s.adapter.map RigStream.forwarded).getD []) = stream.forwarded)
      (point : s.waiting = none ∨ s.waiting = some .stream) (running : s.ended = false)
      (reads : Reads b₀ seen s.backend)
      (mute : ∀ event ∈ s.delivered ++ s.backend.eventBuffer, event.isTerminal = false)
  | waits
      (point : s.waiting = none ∨ (∃ filler, s.waiting = some (.tools filler)) ∨
        ∃ result, s.waiting = some (.transform result))
      (running : s.ended = false) (waits : Waits b₀ stream s.backend)
      (mute : ∀ event ∈ s.delivered ++ s.backend.eventBuffer, event.isTerminal = false)
  | asks (event : AgentEvent) (point : s.waiting = some (.startStream event))
      (running : s.ended = false) (asks : Asks b₀ stream event s.backend)
      (mute : ∀ event ∈ s.delivered ++ s.backend.eventBuffer, event.isTerminal = false)
  | closed (point : s.waiting = none) (idle : s.backend.phase = .idle)
      (drained : s.ended = true → s.backend.eventBuffer = [])
      (ending : Ending b₀ stream (s.delivered ++ s.backend.eventBuffer) s.backend.conversation
        s.backend.requests)

end Stages

/-! ## LLM calls only become more -/

/-- The result of a tool takes no request back. -/
theorem requests_finishResult (b : DefaultAgentBackend) (result : ToolTaskResult) (content : String) :
    b.requests.length ≤ (b.finishResult result content).1.requests.length := by
  rcases DefaultAgentBackend.finishResult_cases result content b with
    ⟨-, eq⟩ | ⟨-, ⟨_, -, eq⟩ | ⟨-, -, eq⟩ | ⟨-, -, ⟨asked, requested, eq⟩ | ⟨_, -, eq⟩⟩⟩
  · rw [eq]
    exact le_rfl
  · rw [eq]
    exact le_rfl
  · rw [eq]
    exact le_rfl
  · rw [eq]
    obtain ⟨_, _, _, _, -, rfl⟩ := DefaultAgentBackend.requestStream_eq requested
    show _ ≤ (b.requests ++ _).length
    rw [List.length_append]
    exact Nat.le_add_right _ _
  · rw [eq]
    exact le_rfl

/-- An item of the stream requests nothing. -/
theorem requests_handleStreamItem (b : DefaultAgentBackend) (item : InnerLlmEvent) (uuid : String) :
    (b.handleStreamItem item uuid).1.requests = b.requests := by
  cases item with
  | token | usage => rfl
  | error message =>
    obtain ⟨_, -, cancelled⟩ := b.cancel_eq
    unfold DefaultAgentBackend.handleStreamItem
    rw [cancelled]
  | toolCall call =>
    unfold DefaultAgentBackend.handleStreamItem DefaultAgentBackend.handleHangUp
    dsimp only
    split
    · split <;> rfl
    · split <;> rfl

/-- A stream that closes requests nothing. -/
theorem requests_closeStream (b : DefaultAgentBackend) :
    b.closeStream.1.requests = b.requests := by
  obtain ⟨_, -, ⟨-, ⟨_, -, eq⟩ | ⟨-, eq⟩⟩ | ⟨-, eq⟩⟩ := b.closeStream_cases
  · rw [eq]
  · rw [eq]
    rfl
  · rw [eq]

/-- A call that is entered requests nothing. -/
theorem requests_enter (b : DefaultAgentBackend) : b.enter.1.requests = b.requests := by
  unfold DefaultAgentBackend.enter DefaultAgentBackend.enterPhase
  split
  · rfl
  · split <;> rfl

/-- **A call that is resumed takes no request back.** -/
theorem requests_resume (b : DefaultAgentBackend) (point : RecvPoint) (wake : Wake) :
    b.requests.length ≤ (b.resume point wake).1.requests.length := by
  unfold DefaultAgentBackend.resume
  split
  · rename_i event
    obtain ⟨_, _, _, happened⟩ := DefaultAgentBackend.background_eq b event
    rw [happened]
  · rw [requests_handleStreamItem]
  · rw [requests_closeStream]
  · split
    · rename_i result rest _
      let taken : DefaultAgentBackend := { b with
        toolResults := rest
        pendingToolInfo := b.pendingToolInfo.filter (·.1 != result.callId) }
      unfold DefaultAgentBackend.handleResult
      dsimp only
      split
      · exact le_rfl
      · exact requests_finishResult taken result result.result
    · exact le_rfl
  · exact le_rfl
  · exact le_rfl
  · exact requests_finishResult b _ _
  · obtain ⟨_, opened⟩ := b.openStream_eq
    rw [opened]
  · exact le_rfl
  · exact le_rfl

/-! ## What keeps the stage -/

/-- What the rest of a turn wakes up for is given to the call that waits, if one does. -/
theorem step_wake (s : RigTurn) {wake : Wake} (noItem : ∀ item uuid, wake ≠ .llm item uuid)
    (noStream : ∀ reply, wake ≠ .streamStarted reply) :
    s.step (.wake wake) = s ∨
      ∃ point, s.waiting = some point ∧
        s.step (.wake wake) = s.proceed (s.backend.resume point wake) := by
  rcases waiting : s.waiting with - | point
  · left
    cases wake with
    | llm item uuid => exact absurd rfl (noItem item uuid)
    | streamStarted reply => exact absurd rfl (noStream reply)
    | background | toolResult | filler | transformed =>
      unfold step
      rw [waiting]
  · refine .inr ⟨point, rfl, ?_⟩
    cases wake with
    | llm item uuid => exact absurd rfl (noItem item uuid)
    | streamStarted reply => exact absurd rfl (noStream reply)
    | background | toolResult | filler | transformed =>
      unfold step
      rw [waiting]

section Keeps

variable {b₀ : DefaultAgentBackend} {stream : RigStream} {s : RigTurn}

/-- The backend of a turn that proceeds is the one it proceeds with. -/
@[simp] theorem proceed_backend (s : RigTurn) (result : DefaultAgentBackend × RecvStatus) :
    (s.proceed result).backend = result.1 := by
  rcases result with ⟨b, (- | event) | point⟩ <;> rfl

/-- The parameters of a request do not change within a turn. -/
theorem SameTurn.resolved {b : DefaultAgentBackend} (same : SameTurn b₀ b) :
    b.resolveLlmCallParams = b₀.resolveLlmCallParams := by
  unfold DefaultAgentBackend.resolveLlmCallParams
  rw [same.swarm, same.config]

/-- Events that are not terminal, one more of which is delivered. -/
theorem mute_deliver {delivered buffer : List AgentEvent} {event : AgentEvent}
    (mute : ∀ e ∈ delivered ++ buffer, e.isTerminal = false) (quiet : event.isTerminal = false) :
    ∀ e ∈ delivered ++ [event] ++ buffer, e.isTerminal = false := by
  intro e held
  rw [List.append_assoc, List.mem_append, List.singleton_append, List.mem_cons] at held
  rcases held with held | rfl | held
  · exact mute e (List.mem_append_left _ held)
  · exact quiet
  · exact mute e (List.mem_append_right _ held)

/-- Events that are not terminal, one more of which is buffered. -/
theorem mute_buffer {delivered buffer more : List AgentEvent}
    (mute : ∀ e ∈ delivered ++ buffer, e.isTerminal = false)
    (quiet : ∀ e ∈ more, e.isTerminal = false) :
    ∀ e ∈ delivered ++ (buffer ++ more), e.isTerminal = false := by
  intro e held
  rw [← List.append_assoc] at held
  rcases List.mem_append.1 held with held | held
  · exact mute e held
  · exact quiet e held

/-- **An item of the stream is read.** -/
theorem stage_item {seen rest : List InnerLlmEvent} {item : InnerLlmEvent}
    (split : seen ++ item :: (rest ++ (s.adapter.map RigStream.forwarded).getD []) =
      stream.forwarded)
    (running : s.ended = false) (reads : Reads b₀ seen s.backend)
    (mute : ∀ event ∈ s.delivered ++ s.backend.eventBuffer, event.isTerminal = false)
    (uuid : String) :
    Stage b₀ stream (({ s with channel := rest }).proceed (s.backend.handleStreamItem item uuid)) := by
  have split' : seen ++ [item] ++ (rest ++ (s.adapter.map RigStream.forwarded).getD []) =
      stream.forwarded := by
    rw [List.append_assoc]
    exact split
  -- What is no token leaves the text, what calls no tool leaves the number of tools, and so on.
  have tokens : item.token? = none →
      s.backend.pendingTokens = (seen ++ [item]).filterMap InnerLlmEvent.token? := by
    intro none_
    rw [List.filterMap_append, List.filterMap_cons_none none_, List.filterMap_nil, List.append_nil]
    exact reads.tokens
  have remaining : item.callsTool = false →
      s.backend.toolsRemaining = (seen ++ [item]).countP InnerLlmEvent.callsTool := by
    intro none_
    rw [List.countP_append, List.countP_singleton, none_]
    exact reads.remaining
  have hangUp : item.isHangUp = false →
      s.backend.pendingHangUp.isSome = (seen ++ [item]).any InnerLlmEvent.isHangUp := by
    intro none_
    rw [List.any_append, reads.hangUp, List.any_cons, none_]
    simp
  cases item with
  | token text =>
    refine .reads (seen ++ [InnerLlmEvent.token text]) split' (.inl rfl) running ⟨?_, reads.phase, reads.isOpen,
      reads.conversation, ?_, remaining rfl, hangUp rfl⟩ (mute_deliver mute rfl)
    · exact ⟨reads.same.requests, reads.same.rounds, reads.same.config, reads.same.swarm⟩
    · show s.backend.pendingTokens ++ [text] = _
      rw [reads.tokens, List.filterMap_append]
      rfl
  | usage promptTokens completionTokens cachedInputTokens =>
    refine .reads (seen ++ [InnerLlmEvent.usage promptTokens completionTokens cachedInputTokens])
      split' (.inr rfl) running ⟨?_, reads.phase, reads.isOpen,
      reads.conversation, tokens rfl, remaining rfl, hangUp rfl⟩ mute
    exact ⟨reads.same.requests, reads.same.rounds, reads.same.config, reads.same.swarm⟩
  | error message =>
    -- The adapter forwards no error.
    refine absurd ?_ (stream.error_not_forwarded message)
    rw [← split]
    exact List.mem_append_right _ List.mem_cons_self
  | toolCall call =>
    have same : SameTurn b₀ s.backend := reads.same
    by_cases isHangUp : call.name = hangUpToolName
    -- The goodbye is kept for the end of the stream.
    · have quiet : (InnerLlmEvent.toolCall call).callsTool = false := by
        simp [InnerLlmEvent.callsTool, isHangUp]
      have talks : (seen ++ [InnerLlmEvent.toolCall call]).any InnerLlmEvent.isHangUp = true := by
        simp [InnerLlmEvent.isHangUp, isHangUp]
      have handled : s.backend.handleStreamItem (.toolCall call) uuid =
          (s.backend.handleHangUp call, .pending .stream) := by
        simp only [DefaultAgentBackend.handleStreamItem, if_pos isHangUp]
      have pending : ∃ p, s.backend.handleHangUp call = { s.backend with pendingHangUp := some p } := by
        unfold DefaultAgentBackend.handleHangUp
        by_cases held : s.backend.pendingHangUp.isSome = true
        · obtain ⟨p, known⟩ := Option.isSome_iff_exists.1 held
          exact ⟨p, by rw [if_pos held, ← known]⟩
        · exact ⟨_, if_neg held⟩
      obtain ⟨p, pending⟩ := pending
      rw [handled, pending]
      exact .reads (seen ++ [InnerLlmEvent.toolCall call]) split' (.inr rfl) running
        ⟨⟨same.requests, same.rounds, same.config, same.swarm⟩, reads.phase, reads.isOpen,
          reads.conversation, tokens rfl, remaining quiet, talks.symm⟩ mute
    · have talks : (InnerLlmEvent.toolCall call).isHangUp = false := by
        simp [InnerLlmEvent.isHangUp, isHangUp]
      by_cases isOnHold : call.name = onHoldToolName
      -- A hold is reported at once, and answered by no tool.
      · have quiet : (InnerLlmEvent.toolCall call).callsTool = false := by
          simp [InnerLlmEvent.callsTool, isOnHold]
        have handled : s.backend.handleStreamItem (.toolCall call) uuid =
            (s.backend.handleOnHold call, .pending .stream) := by
          simp only [DefaultAgentBackend.handleStreamItem, if_neg isHangUp, if_pos isOnHold]
        rw [handled]
        refine .reads (seen ++ [InnerLlmEvent.toolCall call]) split' (.inr rfl) running
          ⟨⟨same.requests, same.rounds, same.config, same.swarm⟩, reads.phase, reads.isOpen,
            reads.conversation, tokens rfl, remaining quiet, hangUp talks⟩ (mute_buffer mute ?_)
        intro e held
        rw [List.mem_singleton.1 held]
        rfl
      -- Any other tool is started, and counted.
      · have calls : (InnerLlmEvent.toolCall call).callsTool = true := by
          simp [InnerLlmEvent.callsTool, isHangUp, isOnHold]
        have handled : s.backend.handleStreamItem (.toolCall call) uuid =
            (({ s.backend with pendingToolCalls := s.backend.pendingToolCalls ++
                [{ call with toolCallId := some (call.toolCallId.getD ("call_" ++ uuid)) }] } :
              DefaultAgentBackend).spawnTool (call.toolCallId.getD ("call_" ++ uuid)) call.name
                call.arguments (s.backend.isSideEffect call.name),
              .ready (some (.toolCallStarted (call.toolCallId.getD ("call_" ++ uuid)) call.name
                (s.backend.isSideEffect call.name)))) := by
          simp only [DefaultAgentBackend.handleStreamItem, if_neg isHangUp, if_neg isOnHold]
        rw [handled]
        refine .reads (seen ++ [InnerLlmEvent.toolCall call]) split' (.inl rfl) running
          ⟨⟨same.requests, same.rounds, same.config, same.swarm⟩, reads.phase, reads.isOpen,
            reads.conversation, tokens rfl, ?_, hangUp talks⟩ (mute_deliver mute rfl)
        show s.backend.toolsRemaining + 1 = _
        rw [reads.remaining, List.countP_append, List.countP_singleton, calls]
        rfl

/-- The stored message has text exactly if the stream had. -/
theorem stored_close {seen : List InnerLlmEvent} {b : DefaultAgentBackend} (reads : Reads b₀ seen b)
    (all : seen = stream.forwarded) :
    Stored b₀ stream.text (b.conversation ++ b.assistantMessage.toList) := by
  refine ⟨b.assistantMessage.toList, by rw [reads.conversation], ?_⟩
  have text : String.join b.pendingTokens = stream.text := by
    rw [reads.tokens, all]
    rfl
  have generated : b.generatedText = none ↔ stream.text = "" := by
    unfold DefaultAgentBackend.generatedText
    rw [text, ← String.isEmpty_iff]
    cases stream.text.isEmpty <;> simp
  rcases b.assistantMessage_eq with none_ | ⟨toolCalls, some_⟩
  · have empty : b.generatedText = none := by
      cases known : b.generatedText with
      | none => rfl
      | some said =>
        simp only [DefaultAgentBackend.assistantMessage, known, Option.isNone_some, Bool.false_and,
          Bool.false_eq_true, if_false] at none_
        cases none_
    rw [none_]
    simpa using generated.1 empty
  · rw [some_]
    simpa using generated

/-- The turn ends at the end of its stream. -/
theorem stage_completed {b : DefaultAgentBackend} {event : AgentEvent} (running : s.ended = false)
    (idle : b.phase = .idle) (completion : event.isCompletion = true)
    (none_called : stream.callsTool = false) :
    Stage b₀ stream (s.proceed (b, .ready (some event))) := by
  refine .closed rfl idle ?_ (.completes ⟨event, ?_, completion⟩ (.inl none_called))
  · intro ended
    exact absurd (ended.symm.trans running) Bool.noConfusion
  · exact List.mem_append_left _ (List.mem_append_right _ List.mem_cons_self)

/-- **The channel is closed**: broken or not, the stream is sealed. -/
theorem stage_close {seen : List InnerLlmEvent} (all : seen = stream.forwarded)
    (running : s.ended = false) (reads : Reads b₀ seen s.backend)
    (mute : ∀ event ∈ s.delivered ++ s.backend.eventBuffer, event.isTerminal = false) :
    Stage b₀ stream (s.proceed s.backend.closeStream) := by
  have none_called : s.backend.toolsRemaining = 0 → stream.callsTool = false := by
    intro alone
    rw [reads.remaining, all, List.countP_eq_zero] at alone
    exact List.any_eq_false.2 alone
  have hangUp : s.backend.pendingHangUp.isSome = stream.hangsUp := by
    rw [reads.hangUp, all]
    rfl
  obtain ⟨complete, metadata, ⟨alone, ⟨pending, -, eq⟩ | ⟨-, eq⟩⟩ | ⟨more, eq⟩⟩ :=
    s.backend.closeStream_cases
  · rw [eq]
    exact stage_completed running rfl rfl (none_called alone)
  · rw [eq]
    exact stage_completed running rfl rfl (none_called alone)
  · rw [eq]
    refine .waits (.inr (.inl ⟨_, rfl⟩)) running
      ⟨⟨reads.same.requests, reads.same.rounds, reads.same.config, reads.same.swarm⟩, rfl,
        stored_close reads all, more, ?_, ?_⟩ (mute_buffer mute ?_)
    · rw [← hangUp]
      exact Option.isSome_map
    · by_contra quiet
      rw [Bool.not_eq_true, RigStream.callsTool, List.any_eq_false, ← List.countP_eq_zero, ← all,
        ← reads.remaining] at quiet
      exact more quiet
    · intro e held
      obtain ⟨data, rfl⟩ := metadata e held
      rfl

/-- A message that is no answer leaves what is stored. -/
theorem Stored.push {text : String} {conversation : Conversation} (stored : Stored b₀ text conversation)
    {m : ChatMessage} (other : m.role ≠ .assistant) : Stored b₀ text (conversation ++ [m]) := by
  obtain ⟨added, grown, answers⟩ := stored
  refine ⟨added ++ [m], by rw [grown, List.append_assoc], ?_⟩
  rw [← answers, List.forall_mem_append, List.forall_mem_singleton]
  exact and_iff_left fun isAnswer => absurd isAnswer other

/-- An LLM call is made if its parameters are known. -/
theorem requestStream_ne_error {b : DefaultAgentBackend}
    (resolved : ∃ params, b.resolveLlmCallParams = .ok params) {message : String} :
    b.requestStream ≠ .error message := by
  obtain ⟨params, known⟩ := resolved
  unfold DefaultAgentBackend.requestStream
  rw [known]
  exact fun same => nomatch same

/-- **A tool result is counted.** -/
theorem stage_finish (resolved : ∃ params, b₀.resolveLlmCallParams = .ok params)
    (running : s.ended = false) (waits : Waits b₀ stream s.backend)
    (mute : ∀ event ∈ s.delivered ++ s.backend.eventBuffer, event.isTerminal = false)
    (result : ToolTaskResult) (content : String) :
    Stage b₀ stream (s.proceed (s.backend.finishResult result content)) := by
  have same := waits.same
  have stored : Stored b₀ stream.text
      (s.backend.conversation ++ [.toolResult result.callId content]) :=
    waits.stored.push Role.noConfusion
  have known : ∃ params, s.backend.resolveLlmCallParams = .ok params := by
    rw [same.resolved]
    exact resolved
  have notEnded : s.ended = true → False := by
    intro ended
    rw [running] at ended
    cases ended
  -- Without a hang-up waiting the stream asked for none.
  have talks : s.backend.pendingHangUp = none → stream.hangsUp = false := by
    intro none_
    rw [← waits.hangUp, none_]
    rfl
  rcases DefaultAgentBackend.finishResult_cases result content s.backend with
    ⟨left, eq⟩ | ⟨alone, ⟨pending, held, eq⟩ | ⟨none_, enough, eq⟩ |
      ⟨none_, more, ⟨asked, requested, eq⟩ | ⟨message, refused, eq⟩⟩⟩
  -- Another result is still to come.
  · rw [eq]
    exact .waits (.inl rfl) running ⟨⟨same.requests, same.rounds, same.config, same.swarm⟩,
      waits.phase, stored, left, waits.hangUp, waits.called⟩ (mute_deliver mute rfl)
  -- It was the last one, and the hang-up follows.
  · rw [eq]
    refine .closed rfl rfl (fun ended => (notEnded ended).elim)
      (.completes ⟨.hangUp pending.reason pending.content, ?_, rfl⟩ (.inr ?_))
    · exact List.mem_append_right _ (List.mem_append_right _ List.mem_cons_self)
    · rw [← waits.hangUp, held]
      rfl
  -- It was the last one, in the last round.
  · rw [eq]
    refine .closed rfl rfl (fun ended => (notEnded ended).elim)
      (.exhausted _ _ (List.append_assoc _ _ _).symm (mute_deliver mute rfl) same.requests stored
        waits.called (talks none_) ?_)
    rw [← same.config, ← same.rounds]
    exact enough
  -- It was the last one, and the next stream is asked for.
  · rw [eq]
    obtain ⟨_, _, _, _, -, rfl⟩ := DefaultAgentBackend.requestStream_eq requested
    refine .asks _ rfl running ⟨rfl, alone, none_, known, ?_, waits.called, talks none_, ?_⟩ mute
    · show b₀.requests.length < (s.backend.requests ++ [_]).length
      rw [same.requests, List.length_append]
      exact Nat.lt_succ_self _
    · rw [← same.config, ← same.rounds]
      exact more
  -- The parameters were resolved before, so they are now.
  · refine (requestStream_ne_error ?_ refused).elim
    exact known

/-! ## Steps -/

/-- The caller calls `recv`. -/
theorem stage_poll (stage : Stage b₀ stream s) (running : s.ended = false) (free : s.waiting = none) :
    Stage b₀ stream (s.proceed s.backend.enter) := by
  rcases events : s.backend.eventBuffer with - | ⟨event, rest⟩
  -- Nothing is buffered, so the call waits for what its phase waits for.
  · have entered : s.backend.enter = s.backend.enterPhase := by
      simp only [DefaultAgentBackend.enter, events]
    rw [entered]
    cases stage with
    | reads seen split _ _ reads mute =>
      have phase : s.backend.enterPhase = (s.backend, .pending .stream) := by
        simp only [DefaultAgentBackend.enterPhase, reads.phase, reads.isOpen, if_true]
      rw [phase]
      exact .reads seen split (.inr rfl) running reads mute
    | waits _ _ waits mute =>
      have phase : s.backend.enterPhase =
          ({ s.backend with fillerTask := none }, .pending (.tools s.backend.fillerTask)) := by
        simp only [DefaultAgentBackend.enterPhase, waits.phase]
      rw [phase]
      have same := waits.same
      exact .waits (.inr (.inl ⟨_, rfl⟩)) running ⟨⟨same.requests, same.rounds, same.config, same.swarm⟩,
        waits.phase, waits.stored, waits.remaining, waits.hangUp, waits.called⟩ mute
    | asks _ waiting => cases free.symm.trans waiting
    | closed _ idle _ ending =>
      have phase : s.backend.enterPhase = (s.backend, .ready none) := by
        simp only [DefaultAgentBackend.enterPhase, idle]
      rw [phase]
      exact .closed rfl idle (fun _ => events) ending
  -- The first buffered event is delivered.
  · have entered : s.backend.enter = ({ s.backend with eventBuffer := rest }, .ready (some event)) := by
      simp only [DefaultAgentBackend.enter, events]
    rw [entered]
    have moved : s.delivered ++ s.backend.eventBuffer = s.delivered ++ [event] ++ rest := by
      rw [events, List.append_assoc]
      rfl
    cases stage with
    | reads seen split _ _ reads mute =>
      have same := reads.same
      rw [moved] at mute
      exact .reads seen split (.inl rfl) running ⟨⟨same.requests, same.rounds, same.config, same.swarm⟩,
        reads.phase, reads.isOpen, reads.conversation, reads.tokens, reads.remaining, reads.hangUp⟩ mute
    | waits _ _ waits mute =>
      have same := waits.same
      rw [moved] at mute
      exact .waits (.inl rfl) running ⟨⟨same.requests, same.rounds, same.config, same.swarm⟩,
        waits.phase, waits.stored, waits.remaining, waits.hangUp, waits.called⟩ mute
    | asks _ waiting => cases free.symm.trans waiting
    | closed _ idle _ ending =>
      rw [moved] at ending
      refine .closed rfl idle ?_ ending
      intro ended
      exact absurd (ended.symm.trans running) Bool.noConfusion

/-- The adapter task takes one step. -/
theorem stage_adapt (stage : Stage b₀ stream s) : Stage b₀ stream s.adapt := by
  -- The adapter touches nothing but the channel and the source.
  have others : s.adapt.backend = s.backend ∧ s.adapt.waiting = s.waiting ∧
      s.adapt.ended = s.ended ∧ s.adapt.delivered = s.delivered := by
    unfold adapt
    split
    · split <;> exact ⟨rfl, rfl, rfl, rfl⟩
    · exact ⟨rfl, rfl, rfl, rfl⟩
    · exact ⟨rfl, rfl, rfl, rfl⟩
  -- It takes from the source what it puts into the channel.
  have sent : s.adapt.channel ++ (s.adapt.adapter.map RigStream.forwarded).getD [] =
      s.channel ++ (s.adapter.map RigStream.forwarded).getD [] := by
    unfold adapt
    split
    · rename_i item items failure source
      split
      · rw [source]
        show s.channel ++ item.forward.toList ++ items.filterMap RigContent.forward =
          s.channel ++ (item :: items).filterMap RigContent.forward
        rw [List.append_assoc]
        cases forwards : item.forward with
        | none => rw [List.filterMap_cons_none forwards]; rfl
        | some event => rw [List.filterMap_cons_some forwards]; rfl
      · rfl
    · rename_i source
      rw [source]
      rfl
    · rfl
  obtain ⟨backend, waiting, ended, delivered⟩ := others
  cases stage with
  | reads seen split point running reads mute =>
    rw [← sent] at split
    rw [← waiting] at point
    rw [← ended] at running
    rw [← backend] at reads
    rw [← backend, ← delivered] at mute
    exact .reads seen split point running reads mute
  | waits point running waits mute =>
    rw [← waiting] at point
    rw [← ended] at running
    rw [← backend] at waits
    rw [← backend, ← delivered] at mute
    exact .waits point running waits mute
  | asks event point running asks mute =>
    rw [← waiting] at point
    rw [← ended] at running
    rw [← backend] at asks
    rw [← backend, ← delivered] at mute
    exact .asks event point running asks mute
  | closed point idle drained ending =>
    rw [← waiting] at point
    rw [← backend] at idle
    rw [← ended, ← backend] at drained
    rw [← backend, ← delivered] at ending
    exact .closed point idle drained ending

/-- The background leaves the turn in its stage. -/
theorem stage_background (stage : Stage b₀ stream s) {point : RecvPoint}
    (waiting : s.waiting = some point) (event : Background) :
    Stage b₀ stream (s.proceed (s.backend.background event, .pending point)) := by
  obtain ⟨tasks, results, summarizer, happened⟩ :=
    DefaultAgentBackend.background_eq s.backend event
  rw [happened]
  cases stage with
  | reads seen split waits running reads mute =>
    have same := reads.same
    rw [waiting] at waits
    exact .reads seen split waits running ⟨⟨same.requests, same.rounds, same.config, same.swarm⟩,
      reads.phase, reads.isOpen, reads.conversation, reads.tokens, reads.remaining, reads.hangUp⟩ mute
  | waits at_ running waits mute =>
    have same := waits.same
    rw [waiting] at at_
    exact .waits at_ running ⟨⟨same.requests, same.rounds, same.config, same.swarm⟩,
      waits.phase, waits.stored, waits.remaining, waits.hangUp, waits.called⟩ mute
  | asks event at_ running asks mute =>
    rw [waiting] at at_
    exact .asks event at_ running
      ⟨asks.event, asks.alone, asks.noHangUp, asks.resolved, asks.goesOn⟩ mute
  | closed free => cases free.symm.trans waiting

/-- A turn that is waiting goes on waiting. -/
theorem stage_stay {point : RecvPoint} (waiting : s.waiting = some point)
    (stage : Stage b₀ stream s) : Stage b₀ stream (s.proceed (s.backend, .pending point)) := by
  have same : s.proceed (s.backend, .pending point) = s := by
    dsimp only [proceed]
    rw [← waiting]
  rw [same]
  exact stage

/-- A result is taken from the channel of the tools. -/
theorem stage_toolResult (resolved : ∃ params, b₀.resolveLlmCallParams = .ok params)
    (running : s.ended = false) (waits : Waits b₀ stream s.backend)
    (mute : ∀ event ∈ s.delivered ++ s.backend.eventBuffer, event.isTerminal = false)
    (result : ToolTaskResult) (rest : List ToolTaskResult) :
    Stage b₀ stream
      (s.proceed (({ s.backend with toolResults := rest } : DefaultAgentBackend).handleResult result)) := by
  have same := waits.same
  let taken : RigTurn := { s with backend := { s.backend with
    toolResults := rest
    pendingToolInfo := s.backend.pendingToolInfo.filter (·.1 != result.callId) } }
  have waits : Waits b₀ stream taken.backend := ⟨⟨same.requests, same.rounds, same.config, same.swarm⟩,
    waits.phase, waits.stored, waits.remaining, waits.hangUp, waits.called⟩
  have same_turn (outcome : DefaultAgentBackend × RecvStatus) :
      taken.proceed outcome = s.proceed outcome := by
    rcases outcome with ⟨b, (- | event) | point⟩ <;> rfl
  unfold DefaultAgentBackend.handleResult
  dsimp only
  by_cases long : (s.backend.config.toolSummarizer &&
      decide (result.result.utf8ByteSize ≥ DefaultAgentBackend.summaryMinLength)) = true
  · rw [if_pos long]
    exact .waits (.inr (.inr ⟨result, rfl⟩)) running waits mute
  · rw [if_neg long, ← same_turn]
    exact stage_finish (s := taken) resolved running waits mute result result.result

/-- **Whatever else `recv` waits for.** -/
theorem stage_wake (resolved : ∃ params, b₀.resolveLlmCallParams = .ok params)
    (stage : Stage b₀ stream s) {point : RecvPoint} (waiting : s.waiting = some point) (wake : Wake)
    (noItem : ∀ item uuid, wake ≠ .llm item uuid) (noStream : ∀ reply, wake ≠ .streamStarted reply) :
    Stage b₀ stream (s.proceed (s.backend.resume point wake)) := by
  by_cases isBackground : ∃ event, wake = .background event
  · obtain ⟨event, rfl⟩ := isBackground
    exact stage_background stage waiting event
  have stay := stage_stay waiting stage
  cases stage with
  | reads seen split at_ running reads mute =>
    rw [waiting] at at_
    -- While the stream is read, the call waits for nothing else.
    obtain rfl : point = .stream := by
      rcases at_ with none_ | same
      · cases none_
      · exact Option.some_inj.1 same
    cases wake with
    | background event => exact absurd ⟨event, rfl⟩ isBackground
    | llm item uuid => exact absurd rfl (noItem item uuid)
    | streamStarted reply => exact absurd rfl (noStream reply)
    | filler text => cases text <;> exact stay
    | toolResult | transformed => exact stay
  | waits at_ running waits mute =>
    rw [waiting] at at_
    rcases at_ with none_ | ⟨filler, same⟩ | ⟨result, same⟩
    · cases none_
    · obtain rfl := Option.some_inj.1 same
      cases wake with
      | background event => exact absurd ⟨event, rfl⟩ isBackground
      | llm item uuid => exact absurd rfl (noItem item uuid)
      | streamStarted reply => exact absurd rfl (noStream reply)
      | filler text =>
        rcases filler with - | task
        · cases text <;> exact stay
        · cases text with
          -- The filler is over, or it is spoken: the tools are still waited for.
          | none => exact .waits (.inr (.inl ⟨none, rfl⟩)) running waits mute
          | some text => exact .waits (.inl rfl) running waits (mute_deliver mute rfl)
      | transformed => cases filler <;> exact stay
      | toolResult =>
        rcases results : s.backend.toolResults with - | ⟨result, rest⟩
        -- The result was taken by another call.
        · have resumed : s.backend.resume (.tools filler) .toolResult =
              (s.backend, .pending (.tools filler)) := by
            cases filler <;> simp only [DefaultAgentBackend.resume, results]
          rw [resumed]
          exact stay
        · have resumed : s.backend.resume (.tools filler) .toolResult =
              ({ s.backend with toolResults := rest } : DefaultAgentBackend).handleResult result := by
            cases filler <;> simp only [DefaultAgentBackend.resume, results]
          rw [resumed]
          exact stage_toolResult resolved running waits mute result rest
    · obtain rfl := Option.some_inj.1 same
      cases wake with
      | background event => exact absurd ⟨event, rfl⟩ isBackground
      | llm item uuid => exact absurd rfl (noItem item uuid)
      | streamStarted reply => exact absurd rfl (noStream reply)
      | filler text => cases text <;> exact stay
      | toolResult => exact stay
      | transformed content => exact stage_finish resolved running waits mute result content
  | asks event at_ =>
    obtain rfl := Option.some_inj.1 (waiting.symm.trans at_)
    cases wake with
    | background event => exact absurd ⟨event, rfl⟩ isBackground
    | llm item uuid => exact absurd rfl (noItem item uuid)
    | streamStarted reply => exact absurd rfl (noStream reply)
    | filler text => cases text <;> exact stay
    | toolResult | transformed => exact stay
  | closed free => cases free.symm.trans waiting

/-- What is known while the next stream is asked for. -/
theorem Stage.asksAt {event : AgentEvent} (stage : Stage b₀ stream s)
    (waiting : s.waiting = some (.startStream event)) :
    Asks b₀ stream event s.backend ∧ s.ended = false ∧
      ∀ e ∈ s.delivered ++ s.backend.eventBuffer, e.isTerminal = false := by
  cases stage with
  | reads _ _ at_ =>
    rw [waiting] at at_
    rcases at_ with none_ | same
    · cases none_
    · cases same
  | waits at_ =>
    rw [waiting] at at_
    rcases at_ with none_ | ⟨_, same⟩ | ⟨_, same⟩
    · cases none_
    · cases same
    · cases same
  | asks event' at_ running asks mute =>
    obtain rfl : event = event' := by
      injection waiting.symm.trans at_ with same
      injection same
    exact ⟨asks, running, mute⟩
  | closed free => cases free.symm.trans waiting

/-- **The next stream is opened.** -/
theorem stage_opens {event : AgentEvent} (waiting : s.waiting = some (.startStream event))
    (stage : Stage b₀ stream s) (next : RigStream) :
    GoesOn b₀ stream (s.step (.streamStarted (.ok next))).backend.requests ∧
      Opened next (s.step (.streamStarted (.ok next))) := by
  obtain ⟨asks, running, mute⟩ := stage.asksAt waiting
  obtain ⟨obs, opened⟩ := s.backend.openStream_eq
  have stepped : s.step (.streamStarted (.ok next)) =
      ({ s with channel := [], adapter := some next }).proceed
        ({ s.backend.openStream with phase := .streaming }, .ready (some event)) := by
    simp only [step, waiting]
    rfl
  rw [stepped, opened]
  refine ⟨asks.goesOn, ⟨rfl, running, rfl, rfl, rfl, rfl, rfl, asks.alone, asks.noHangUp, ?_, ?_⟩⟩
  · exact mute_deliver mute asks.event
  · exact asks.resolved

/-- The next stream is refused. -/
theorem stage_refused {event : AgentEvent} (waiting : s.waiting = some (.startStream event))
    (stage : Stage b₀ stream s) (message : String) :
    Stage b₀ stream (s.step (.streamStarted (.error message))) := by
  obtain ⟨asks, running, -⟩ := stage.asksAt waiting
  have stepped : s.step (.streamStarted (.error message)) =
      s.proceed ({ s.backend with
        phase := .idle
        eventBuffer := s.backend.eventBuffer ++ [.error message] }, .ready (some event)) := by
    simp only [step, waiting]
    rfl
  rw [stepped]
  refine .closed rfl rfl ?_ (.refused asks.goesOn)
  intro ended
  exact absurd (ended.symm.trans running) Bool.noConfusion

/-- **One step** keeps the stage, unless it opens the next stream. -/
theorem stage_step (resolved : ∃ params, b₀.resolveLlmCallParams = .ok params)
    (stage : Stage b₀ stream s) (action : RigAction) :
    Stage b₀ stream (s.step action) ∨
      GoesOn b₀ stream (s.step action).backend.requests ∧ ∃ next, Opened next (s.step action) := by
  cases action with
  | poll =>
    unfold step
    dsimp only
    split
    · exact .inl stage
    · rename_i free
      rw [Bool.not_eq_true, Bool.or_eq_false_iff, Option.isSome_eq_false_iff,
        Option.isNone_iff_eq_none] at free
      exact .inl (stage_poll stage free.1 free.2)
  | adapt => exact .inl (stage_adapt stage)
  | receive uuid =>
    left
    unfold step
    dsimp only
    split
    · rename_i waiting
      cases stage with
      | reads seen split _ running reads mute =>
        rcases channel : s.channel with - | ⟨event, rest⟩
        · dsimp only
          split
          -- The channel is empty and nothing fills it any more: the stream closes.
          · rename_i dropped
            rw [channel, Option.isNone_iff_eq_none.1 dropped] at split
            refine stage_close ?_ running reads mute
            simpa using split
          · exact .reads seen split (.inr waiting) running reads mute
        · rw [channel, List.cons_append] at split
          exact stage_item split running reads mute uuid
      | waits at_ =>
        -- A call that waits for its tools reads no stream.
        rw [waiting] at at_
        rcases at_ with none_ | ⟨_, same⟩ | ⟨_, same⟩
        · cases none_
        · cases same
        · cases same
      | asks _ at_ => cases waiting.symm.trans at_
      | closed free => cases free.symm.trans waiting
    · exact stage
  | streamStarted reply =>
    rcases waiting : s.waiting with - | point
    · left
      unfold step
      rw [waiting]
      exact stage
    · by_cases isStart : ∃ event, point = .startStream event
      -- A stream that starts is the only step that opens the next stage.
      · obtain ⟨event, rfl⟩ := isStart
        cases reply with
        | ok next =>
          obtain ⟨goesOn, opened⟩ := stage_opens waiting stage next
          exact .inr ⟨goesOn, next, opened⟩
        | error message => exact .inl (stage_refused waiting stage message)
      · left
        have idle : s.step (.streamStarted reply) = s := by
          unfold step
          rw [waiting]
          cases point with
          | startStream event => exact absurd ⟨event, rfl⟩ isStart
          | stream | tools | transform | spinning => rfl
        rw [idle]
        exact stage
  | wake wake =>
    left
    -- Nothing else that wakes the call leaves the stage.
    have other (noItem : ∀ item uuid, wake ≠ .llm item uuid)
        (noStream : ∀ reply, wake ≠ .streamStarted reply) : Stage b₀ stream (s.step (.wake wake)) := by
      rcases s.step_wake noItem noStream with kept | ⟨point, waiting, woken⟩
      · rw [kept]
        exact stage
      · rw [woken]
        exact stage_wake resolved stage waiting wake noItem noStream
    cases wake with
    | llm item uuid => exact stage
    | streamStarted reply => exact stage
    | background event => exact other (fun _ _ => Wake.noConfusion) (fun _ => Wake.noConfusion)
    | toolResult => exact other (fun _ _ => Wake.noConfusion) (fun _ => Wake.noConfusion)
    | filler text => exact other (fun _ _ => Wake.noConfusion) (fun _ => Wake.noConfusion)
    | transformed content => exact other (fun _ _ => Wake.noConfusion) (fun _ => Wake.noConfusion)

end Keeps

/-! ## The guarantee -/

section Runs

variable {stream : RigStream} {s : RigTurn}

/-- A stream that has just been opened is read from its start. -/
theorem Opened.stage (opened : Opened stream s) : Stage s.backend stream s := by
  refine .reads [] ?_ (.inl opened.waiting) opened.running ?_ opened.mute
  · rw [opened.channel, opened.adapter]
    rfl
  · exact ⟨⟨rfl, rfl, rfl, rfl⟩, opened.phase, opened.isOpen, rfl, opened.tokens, opened.alone,
      congrArg Option.isSome opened.talks⟩

/-- LLM calls only become more along a turn. -/
theorem requests_step (s : RigTurn) (action : RigAction) :
    s.backend.requests.length ≤ (s.step action).backend.requests.length := by
  cases action with
  | poll =>
    unfold step
    dsimp only
    split
    · exact le_rfl
    · rw [proceed_backend, requests_enter]
  | adapt =>
    unfold step adapt
    dsimp only
    split
    · split <;> exact le_rfl
    · exact le_rfl
    · exact le_rfl
  | receive uuid =>
    unfold step
    dsimp only
    split
    · split
      · rw [proceed_backend]
        exact requests_resume s.backend _ _
      · split
        · rw [proceed_backend]
          exact requests_resume s.backend _ _
        · exact le_rfl
    · exact le_rfl
  | streamStarted reply =>
    unfold step
    dsimp only
    split
    · split
      all_goals
        rw [proceed_backend]
        exact requests_resume s.backend _ _
    · exact le_rfl
  | wake wake =>
    -- Nothing else takes a request back.
    have other (noItem : ∀ item uuid, wake ≠ .llm item uuid)
        (noStream : ∀ reply, wake ≠ .streamStarted reply) :
        s.backend.requests.length ≤ (s.step (.wake wake)).backend.requests.length := by
      rcases s.step_wake noItem noStream with kept | ⟨point, waiting, woken⟩
      · rw [kept]
      · rw [woken, proceed_backend]
        exact requests_resume s.backend point wake
    cases wake with
    | llm | streamStarted => exact le_rfl
    | background | toolResult | filler | transformed =>
      exact other (fun _ _ => Wake.noConfusion) (fun _ => Wake.noConfusion)

/-- A turn is in a stage of its stream, or has gone on to another one. -/
theorem stage_run (opened : Opened stream s) (actions : List RigAction) :
    Stage s.backend stream (run step s actions) ∨
      GoesOn s.backend stream (run step s actions).backend.requests := by
  have keeps (t : RigTurn) (action : RigAction)
      (held : Stage s.backend stream t ∨ GoesOn s.backend stream t.backend.requests) :
      Stage s.backend stream (t.step action) ∨
        GoesOn s.backend stream (t.step action).backend.requests := by
    rcases held with stage | goesOn
    · exact (stage_step opened.resolved stage action).imp_right And.left
    · refine .inr { goesOn with more := ?_ }
      exact Nat.lt_of_lt_of_le goesOn.more (requests_step t action)
  exact invariant_of_step keeps (.inl opened.stage) actions

/-- **Every stream of a turn is opened** in a state in which nothing of it has arrived: the first by
`startTurn`, and the others after a round of tools. -/
theorem opened_start {reply : TurnReply} {b : DefaultAgentBackend}
    (started : (b.startTurn reply).1 = .ok ()) (first : RigStream) :
    Opened first (start (b.startTurn reply).2 first) := by
  obtain ⟨conversation, summarizer, -, prepared⟩ := DefaultAgentBackend.prepareTurn_eq reply b
  rcases DefaultAgentBackend.startTurn_cases reply b with
    ⟨⟨message, failed⟩, -⟩ | ⟨asked, requested, ⟨⟨message, failed⟩, -⟩ | ⟨-, turned⟩⟩
  · cases failed.symm.trans started
  · cases failed.symm.trans started
  · obtain ⟨schemas, temperature, maxTokens, model, resolved, rfl⟩ :=
      DefaultAgentBackend.requestStream_eq requested
    obtain ⟨obs, opened⟩ := DefaultAgentBackend.openStream_eq
      { b.prepareTurn reply with requests := (b.prepareTurn reply).requests ++
          [⟨(b.prepareTurn reply).conversation, schemas, temperature, maxTokens, model⟩] }
    rw [turned, opened]
    refine ⟨rfl, rfl, rfl, rfl, rfl, rfl, rfl, ?_, ?_, ?_, ⟨_, resolved⟩⟩
    · exact congrArg (·.toolsRemaining) prepared
    · exact congrArg (·.pendingHangUp) prepared
    · have empty : (b.prepareTurn reply).eventBuffer = [] := congrArg (·.eventBuffer) prepared
      intro event held
      have buffered : event ∈ (b.prepareTurn reply).eventBuffer := held
      rw [empty] at buffered
      cases buffered

/-- In a turn there always is a stream whose stage it is in. -/
theorem stage_of_run {reply : TurnReply} {b : DefaultAgentBackend}
    (started : (b.startTurn reply).1 = .ok ()) (first : RigStream) (actions : List RigAction) :
    ∃ t stream, Opened stream t ∧
      Stage t.backend stream (run step (start (b.startTurn reply).2 first) actions) := by
  have opened := opened_start started first
  have keeps (s : RigTurn) (action : RigAction)
      (held : ∃ t stream, Opened stream t ∧ Stage t.backend stream s) :
      ∃ t stream, Opened stream t ∧ Stage t.backend stream (s.step action) := by
    obtain ⟨t, stream, opened, stage⟩ := held
    rcases stage_step opened.resolved stage action with kept | ⟨-, next, again⟩
    · exact ⟨t, stream, opened, kept⟩
    · exact ⟨_, next, again, again.stage⟩
  exact invariant_of_step keeps ⟨_, first, opened, opened.stage⟩ actions

/-- The streams of the later rounds are opened as the first one is. -/
theorem opened_of_run {reply : TurnReply} {b : DefaultAgentBackend}
    (started : (b.startTurn reply).1 = .ok ()) (first next : RigStream) (actions : List RigAction)
    {event : AgentEvent} (waiting : (run step (start (b.startTurn reply).2 first) actions).waiting =
      some (.startStream event)) :
    Opened next (run step (start (b.startTurn reply).2 first)
      (actions ++ [.streamStarted (.ok next)])) := by
  obtain ⟨t, stream, -, stage⟩ := stage_of_run started first actions
  rw [run_append]
  exact (stage_opens waiting stage next).2

/-- **A broken stream is taken for one only by accident.**  A turn whose stream breaks off ends with
an error and nothing else exactly if the stream had tool calls to wait for, no call of `hang_up` and
no text, and the round of these tools was the last one that is allowed. -/
theorem broken_stream_taken_iff (items : List RigContent) (message : String) (s : RigTurn)
    (opened : Opened ⟨items, some message⟩ s) (actions : List RigAction)
    (ended : (run step s actions).ended = true) :
    TakenAsBroken s (run step s actions) ↔
      RigStream.callsTool ⟨items, some message⟩ = true ∧
        RigStream.hangsUp ⟨items, some message⟩ = false ∧
        RigStream.text ⟨items, some message⟩ = "" ∧
        s.backend.config.maxToolRounds ≤ s.backend.toolRounds + 1 := by
  have stage := stage_run opened actions
  generalize run step s actions = t at ended stage
  -- A turn that asks again has rounds left, and is not taken as broken.
  have further (goesOn : GoesOn s.backend ⟨items, some message⟩ t.backend.requests) :
      TakenAsBroken s t ↔
        RigStream.callsTool ⟨items, some message⟩ = true ∧
          RigStream.hangsUp ⟨items, some message⟩ = false ∧
          RigStream.text ⟨items, some message⟩ = "" ∧
          s.backend.config.maxToolRounds ≤ s.backend.toolRounds + 1 := by
    have more := goesOn.more
    have again := goesOn.again
    constructor
    · rintro ⟨-, -, same, -⟩
      omega
    · rintro ⟨-, -, -, last⟩
      omega
  rcases stage with stage | goesOn
  swap
  · exact further goesOn
  cases stage with
  -- The turn has ended, so it is in none of these stages.
  | reads _ _ _ running => cases running.symm.trans ended
  | waits _ running => cases running.symm.trans ended
  | asks _ _ running => cases running.symm.trans ended
  | closed _ _ drained ending =>
    rw [drained ended, List.append_nil] at ending
    cases ending with
    | completes announced why =>
      obtain ⟨event, held, completion⟩ := announced
      -- The turn completed, with nothing to take for an error.
      constructor
      · rintro ⟨-, none_, -⟩
        rw [none_ event held] at completion
        cases completion
      · rintro ⟨called, talks, -⟩
        rcases why with uncalled | hungUp
        · cases uncalled.symm.trans called
        · cases talks.symm.trans hungUp
    | exhausted front message announced mute same stored called talks last =>
      obtain ⟨added, conversation, answers⟩ := stored
      unfold TakenAsBroken
      rw [conversation, List.drop_left, answers, announced, same]
      -- It ended in an error, with what was said before it stored.
      constructor
      · rintro ⟨-, -, -, silent⟩
        exact ⟨called, talks, silent, last⟩
      · rintro ⟨-, -, silent, -⟩
        refine ⟨⟨message, List.getLast?_concat⟩, fun event held => ?_, rfl, silent⟩
        rcases List.mem_append.1 held with held | held
        · have quiet := mute event held
          cases event <;> first | rfl | cases quiet
        · rw [List.mem_singleton.1 held]
          rfl
    | refused goesOn => exact further goesOn

end Runs

/-- A backend with a turn that has just been started. -/
def asking : DefaultAgentBackend :=
  ((DefaultAgentBackend.new DefaultAgentBackend.silentLibrary none {}).startTurn ⟨[], .ok ()⟩).2

/-- A stream that breaks off in the middle of a sentence. -/
def cutShort : RigStream := ⟨[.text "Your balance is"], some "connection reset"⟩

/-- The turn of a stream with one item is driven to its end. -/
def driven : List RigAction :=
  [.adapt, .adapt, .poll, .receive "", .poll, .receive "", .poll, .poll]

/-- A stream that is cut short after a tool call, in the last round. -/
theorem broken_stream_taken_iff_text :
    TakenAsBroken (start asking cutShort) (run step (start asking cutShort) driven) ↔
      RigStream.callsTool cutShort = true ∧ RigStream.hangsUp cutShort = false ∧
        RigStream.text cutShort = "" ∧ asking.config.maxToolRounds ≤ asking.toolRounds + 1 :=
  broken_stream_taken_iff [.text "Your balance is"] "connection reset" (start asking cutShort)
    (opened_start rfl cutShort) driven (by decide +kernel)

/-- **Half a sentence becomes the answer**: the turn ends with `Finished`, and the text is stored. -/
theorem broken_stream_finished :
    let after := run step (start asking cutShort) driven
    after.ended = true ∧ .finished (some "Your balance is") ∈ after.delivered ∧
      (∀ event ∈ after.delivered, ∀ message, event ≠ .error message) ∧
      .say .assistant "Your balance is" ∈ after.backend.conversation := by
  refine ⟨by decide +kernel, by decide +kernel, ?_, by decide +kernel⟩
  have delivered : (run step (start asking cutShort) driven).delivered.all (fun event =>
      match event with
      | .error _ => false
      | _ => true) = true := by decide +kernel
  rintro event held message rfl
  cases List.all_eq_true.1 delivered _ held

end RigTurn

end Feros
