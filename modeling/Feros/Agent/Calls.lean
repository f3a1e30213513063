import Feros.Agent.DefaultBackend
import Feros.Library.Run
/-! # Calls on the default backend

What the reactor may do with a backend, and in between the world: `step` is one call.  `recv_rule`
and `step_rule` reduce an invariant of all runs to the parts of the backend: it is kept where `recv`
is entered, resumed and dropped. -/

namespace Feros

/-! ## Events -/

namespace AgentEvent

/-- The event ends a turn. -/
def isTerminal : AgentEvent → Bool
  | finished _ | hangUp _ _ | error _ => true
  | _ => false

/-- The event belongs to the work of a turn. -/
def isWork : AgentEvent → Bool
  | token _ | toolCallStarted .. | toolCallCompleted .. => true
  | _ => false

/-- The id of a tool call that starts. -/
def startedId? : AgentEvent → Option String
  | toolCallStarted id _ _ => some id
  | _ => none

/-- The event answers the tool call with this id. -/
def completes (id : String) : AgentEvent → Bool
  | toolCallCompleted answered _ _ _ => answered == id
  | _ => false

/-- The event neither ends a turn nor belongs to its work. -/
def isPassive (event : AgentEvent) : Bool := !event.isTerminal && !event.isWork

end AgentEvent

/-! ## Calls -/

/-- **A call of the `AgentBackend` interface**, or something in the background. -/
inductive AgentCall where
  | setSystemPrompt (prompt : String)
  | addUserMessage (text : String)
  | addAssistantMessage (text : String)
  | startTurn (reply : TurnReply)
  /-- `recv` under a list of wakes; dropped if it is still suspended then. -/
  | recv (wakes : List Wake)
  | cancel
  | background (event : Background)

namespace DefaultAgentBackend

open Suspension

/-- A library that answers everything with nothing. -/
def silentLibrary : AgentLibrary where
  providerName := "llm"
  jsonReason _ := none
  jsonDurationMins _ := none
  conversationJson _ := "[]"
  toolsJson _ := none
  outputJson _ _ := ""
  promptSuffix _ := ""
  hashOrder entries := entries
  hashOrder_perm entries := List.Perm.refl entries

/-- One call. -/
def step (b : DefaultAgentBackend) : AgentCall → DefaultAgentBackend
  | .setSystemPrompt prompt => b.setSystemPrompt prompt
  | .addUserMessage text => b.addUserMessage text
  | .addAssistantMessage text => b.addAssistantMessage text
  | .startTurn reply => (b.startTurn reply).2
  | .recv wakes => (b.recv wakes).2
  | .cancel => b.cancel.2
  | .background event => b.background event

/-- The point at which a call of `recv` is dropped, if it is. -/
def droppedAt (wakes : List Wake) (b : DefaultAgentBackend) : Option RecvPoint :=
  match recvCall.drive wakes b with
  | (_, .pending point) => some point
  | (_, .ready _) => none

/-- **The rule for `recv`.** -/
theorem recv_rule {rest : DefaultAgentBackend → Prop} {waiting : DefaultAgentBackend → RecvPoint → Prop}
    {guard : DefaultAgentBackend → RecvPoint → Wake → Prop} {mayDrop : RecvPoint → Prop}
    (enters : ∀ b, rest b → Holds waiting (fun b _ => rest b) b.enter)
    (resumes : ∀ b point wake, waiting b point → guard b point wake →
      Holds waiting (fun b _ => rest b) (b.resume point wake))
    (drops : ∀ b point, waiting b point → mayDrop point → rest b)
    {b : DefaultAgentBackend} (start : rest b) {wakes : List Wake}
    (guarded : recvCall.Along guard wakes b)
    (dropped : ∀ point, b.droppedAt wakes = some point → mayDrop point) :
    rest (b.recv wakes).2 := by
  have driven : Holds waiting (fun b _ => rest b) (recvCall.drive wakes b) :=
    Call.drive_rule enters resumes start guarded
  unfold recv
  unfold droppedAt at dropped
  rcases result : recvCall.drive wakes b with ⟨t, event | point⟩
  · rw [result] at driven
    exact driven
  · rw [result] at driven dropped
    exact drops t point driven (dropped point rfl)

/-- Where a call of `recv` is after wakes that are all allowed. -/
theorem drive_rule {rest : DefaultAgentBackend → Prop}
    {waiting : DefaultAgentBackend → RecvPoint → Prop}
    (enters : ∀ b, rest b → Holds waiting (fun b _ => rest b) b.enter)
    (resumes : ∀ b point wake, waiting b point →
      Holds waiting (fun b _ => rest b) (b.resume point wake))
    {b : DefaultAgentBackend} (start : rest b) (wakes : List Wake) :
    Holds waiting (fun b _ => rest b) (recvCall.drive wakes b) := by
  have allowed : recvCall.Along (fun _ _ _ => True) wakes b :=
    Call.along_of_forall (fun _ _ _ => trivial) wakes b
  refine Call.drive_rule enters ?_ start allowed
  intro b point wake held _
  exact resumes b point wake held

/-- The rule for `recv` where every wake is allowed, and every drop. -/
theorem recv_rule_of_forall {rest : DefaultAgentBackend → Prop}
    {waiting : DefaultAgentBackend → RecvPoint → Prop}
    (enters : ∀ b, rest b → Holds waiting (fun b _ => rest b) b.enter)
    (resumes : ∀ b point wake, waiting b point →
      Holds waiting (fun b _ => rest b) (b.resume point wake))
    (drops : ∀ b point, waiting b point → rest b) {b : DefaultAgentBackend} (start : rest b)
    (wakes : List Wake) : rest (b.recv wakes).2 := by
  have allowed : recvCall.Along (fun _ _ _ => True) wakes b :=
    Call.along_of_forall (fun _ _ _ => trivial) wakes b
  have dropped : ∀ point, b.droppedAt wakes = some point → True := fun _ _ => trivial
  refine recv_rule enters ?_ ?_ start allowed dropped
  · intro b point wake held _
    exact resumes b point wake held
  · intro b point held _
    exact drops b point held

/-! ## Starting a turn -/

/-- The requests of a stream are opened from the state they leave. -/
theorem requestStream_eq {b asked : DefaultAgentBackend} (requested : b.requestStream = .ok asked) :
    ∃ schemas temperature maxTokens model,
      b.resolveLlmCallParams = .ok (schemas, temperature, maxTokens, model) ∧
      asked = { b with
        requests := b.requests ++ [⟨b.conversation, schemas, temperature, maxTokens, model⟩] } := by
  unfold requestStream at requested
  split at requested
  · rename_i schemas temperature maxTokens model resolved
    cases requested
    exact ⟨schemas, temperature, maxTokens, model, resolved, rfl⟩
  · cases requested

/-- An open stream is observed, and nothing of it has arrived. -/
theorem openStream_eq (b : DefaultAgentBackend) : ∃ obs, b.openStream =
    { b with obs := some obs, llmEventRx := true, pendingTokens := [], pendingToolCalls := [] } := by
  unfold openStream
  rcases b.resolveLlmCallParams with message | ⟨schemas, temperature, maxTokens, model⟩
  · exact ⟨_, rfl⟩
  · exact ⟨_, rfl⟩

/-- What happens in the background changes tasks and results, and the summarizer. -/
theorem background_eq (b : DefaultAgentBackend) (event : Background) :
    ∃ tasks results summarizer, b.background event =
      { b with toolTasks := tasks, toolResults := results, contextSummarizer := summarizer } := by
  cases event with
  | toolDone i success result =>
    unfold background
    dsimp only
    rcases b.toolTasks[i]? with - | task
    · exact ⟨_, _, _, rfl⟩
    · exact ⟨_, _, _, rfl⟩
  | summaryDone i summary => exact ⟨_, _, _, rfl⟩

/-- The background changes the tasks, the results and the summarizer. -/
theorem backgrounds_eq (b : DefaultAgentBackend) (events : List Background) :
    ∃ tasks results summarizer, events.foldl background b =
      { b with toolTasks := tasks, toolResults := results, contextSummarizer := summarizer } := by
  have keeps : ∀ (t : DefaultAgentBackend) (event : Background),
      (∃ tasks results summarizer, t = { b with
        toolTasks := tasks, toolResults := results, contextSummarizer := summarizer }) →
        ∃ tasks results summarizer, t.background event = { b with
          toolTasks := tasks, toolResults := results, contextSummarizer := summarizer } := by
    rintro t event ⟨tasks, results, summarizer, rfl⟩
    obtain ⟨tasks, results, summarizer, happened⟩ := background_eq
      { b with toolTasks := tasks, toolResults := results, contextSummarizer := summarizer } event
    exact ⟨tasks, results, summarizer, happened⟩
  exact Run.invariant_of_step keeps ⟨b.toolTasks, b.toolResults, b.contextSummarizer, rfl⟩ events

/-- With no tool running, only summaries are left in the background. -/
theorem background_alone {b : DefaultAgentBackend} (tasks : b.toolTasks = [])
    (events : List Background) :
    ∃ summarizer, events.foldl background b = { b with contextSummarizer := summarizer } := by
  have keeps : ∀ (t : DefaultAgentBackend) (event : Background),
      (∃ summarizer, t = { b with contextSummarizer := summarizer }) →
        ∃ summarizer, t.background event = { b with contextSummarizer := summarizer } := by
    rintro t event ⟨summarizer, rfl⟩
    cases event with
    | toolDone i success result =>
      refine ⟨summarizer, ?_⟩
      simp only [background, tasks, List.getElem?_nil]
    | summaryDone i summary => exact ⟨_, rfl⟩
  exact Run.invariant_of_step keeps ⟨b.contextSummarizer, rfl⟩ events

/-- A summary changes the conversation, and nothing else of a turn. -/
theorem tryApplySummary_eq (b : DefaultAgentBackend) : ∃ conversation summarizer,
    (conversation = b.conversation ∨ ∃ s, b.contextSummarizer = some s ∧
      conversation = (s.tryApply b.conversation).1) ∧
    b.tryApplySummary =
      { b with conversation := conversation, contextSummarizer := summarizer } := by
  rcases waiting : b.contextSummarizer with - | summarizer
  · have kept : b.tryApplySummary = b := by
      simp only [tryApplySummary, waiting]
    exact ⟨b.conversation, b.contextSummarizer, .inl rfl, kept⟩
  · refine ⟨(summarizer.tryApply b.conversation).1, some (summarizer.tryApply b.conversation).2,
      .inr ⟨summarizer, rfl, rfl⟩, ?_⟩
    simp only [tryApplySummary, waiting]

/-- Preparing a turn forgets what is left of the last one; its tools are left running. -/
theorem prepareTurn_eq (reply : TurnReply) (b : DefaultAgentBackend) :
    let before := reply.background.foldl background b
    ∃ conversation summarizer,
      (conversation = before.conversation ∨ ∃ s, before.contextSummarizer = some s ∧
        conversation = (s.tryApply before.conversation).1) ∧
      b.prepareTurn reply =
        { before with
          toolRounds := 0
          toolsRemaining := 0
          pendingToolInfo := []
          eventBuffer := []
          pendingHangUp := none
          turn := before.turn + 1
          conversation := conversation
          contextSummarizer := summarizer } := by
  intro before
  obtain ⟨conversation, summarizer, shorter, applied⟩ := tryApplySummary_eq
    { before with
      toolRounds := 0
      toolsRemaining := 0
      pendingToolInfo := []
      eventBuffer := []
      pendingHangUp := none
      turn := before.turn + 1 }
  let start := ContextSummarizer.maybeStart before.contextSummarizationConfig conversation
  exact ⟨conversation, summarizer.map start, shorter, congrArg maybeStartSummary applied⟩

/-- **What `startTurn` does**: prepare the turn, ask for a stream, and open it if all went well. -/
theorem startTurn_cases (reply : TurnReply) (b : DefaultAgentBackend) :
    ((∃ message, (b.startTurn reply).1 = .error message) ∧
      (b.startTurn reply).2 = b.prepareTurn reply) ∨
    ∃ asked, (b.prepareTurn reply).requestStream = .ok asked ∧
      ((∃ message, (b.startTurn reply).1 = .error message) ∧ (b.startTurn reply).2 = asked ∨
        (b.startTurn reply).1 = .ok () ∧
          (b.startTurn reply).2 = { asked.openStream with phase := .streaming }) := by
  rcases requested : (b.prepareTurn reply).requestStream with message | asked
  · exact .inl (by simp [startTurn, requested])
  · refine .inr ⟨asked, rfl, ?_⟩
    rcases opened : reply.stream with message | _
    · exact .inl (by simp [startTurn, requested, opened])
    · exact .inr (by simp [startTurn, requested, opened])

/-! ## Tool results -/

/-- **What the last part of a tool result does.** -/
theorem finishResult_cases (result : ToolTaskResult) (content : String) (b : DefaultAgentBackend) :
    let event : AgentEvent := .toolCallCompleted result.callId result.name result.success
      (if result.success then none else some content)
    let counted : DefaultAgentBackend :=
      { b.push (.toolResult result.callId content) with
        toolsRemaining := usizePred b.toolsRemaining
        handled := b.handled ++ [⟨result, b.turn, b.toolsRemaining⟩] }
    (counted.toolsRemaining ≠ 0 ∧
      b.finishResult result content = (counted, .ready (some event))) ∨
    (counted.toolsRemaining = 0 ∧
      let round := { counted with toolRounds := b.toolRounds + 1 }
      ((∃ pending, b.pendingHangUp = some pending ∧ b.finishResult result content =
          ({ round with
            pendingHangUp := none
            phase := .idle
            eventBuffer := b.eventBuffer ++ [.hangUp pending.reason pending.content] },
            .ready (some event))) ∨
        (b.pendingHangUp = none ∧ b.config.maxToolRounds ≤ b.toolRounds + 1 ∧
          b.finishResult result content =
            ({ round with
              phase := .idle
              eventBuffer := b.eventBuffer ++ [.error "Max tool rounds reached"] },
              .ready (some event))) ∨
        (b.pendingHangUp = none ∧ b.toolRounds + 1 < b.config.maxToolRounds ∧
          ((∃ asked, round.maybeStartSummary.requestStream = .ok asked ∧
              b.finishResult result content = (asked, .pending (.startStream event))) ∨
            ∃ message, round.maybeStartSummary.requestStream = .error message ∧
              b.finishResult result content =
                ({ round.maybeStartSummary with
                  phase := .idle
                  eventBuffer := b.eventBuffer ++ [.error message] }, .ready (some event)))))) := by
  intro event counted
  by_cases last : counted.toolsRemaining = 0
  · refine .inr ⟨last, ?_⟩
    intro round
    rcases waiting : b.pendingHangUp with - | pending
    · refine .inr ?_
      by_cases enough : round.toolRounds ≥ b.config.maxToolRounds
      · refine .inl ⟨rfl, enough, ?_⟩
        cases b
        cases waiting
        unfold finishResult
        exact (if_pos last).trans (if_pos enough)
      · refine .inr ⟨rfl, Nat.lt_of_not_le enough, ?_⟩
        rcases requested : round.maybeStartSummary.requestStream with message | asked
        · refine .inr ⟨message, rfl, ?_⟩
          cases b
          cases waiting
          unfold finishResult
          refine ((if_pos last).trans (if_neg enough)).trans ?_
          simp only [round, counted, push] at requested ⊢
          rw [requested]
          rfl
        · refine .inl ⟨asked, rfl, ?_⟩
          cases b
          cases waiting
          unfold finishResult
          refine ((if_pos last).trans (if_neg enough)).trans ?_
          simp only [round, counted, push] at requested ⊢
          rw [requested]
    · refine .inl ⟨pending, rfl, ?_⟩
      cases b
      cases waiting
      unfold finishResult
      exact if_pos last
  · refine .inl ⟨last, ?_⟩
    unfold finishResult
    exact if_neg last

/-! ## The end of a stream -/

/-- Observability events, which tell the reactor nothing about the turn. -/
def Metadata (events : List AgentEvent) : Prop := ∀ event ∈ events, ∃ data, event = .llmComplete data

/-- No message has metadata. -/
theorem metadata_nil : Metadata [] := fun _ held => absurd held List.not_mem_nil

/-- An LLM call is observed at most once. -/
theorem emitLlmComplete_eq (b : DefaultAgentBackend) : ∃ complete, Metadata complete ∧
    b.emitLlmComplete = { b with obs := none, eventBuffer := b.eventBuffer ++ complete } := by
  rcases observed : b.obs with - | obs
  · refine ⟨[], metadata_nil, ?_⟩
    have kept : b.emitLlmComplete = b := by
      simp only [emitLlmComplete, observed]
    rw [kept, List.append_nil, ← observed]
  · refine ⟨_, ?_, by rw [emitLlmComplete, observed]⟩
    intro event held
    exact ⟨_, List.mem_singleton.1 held⟩

/-- The placeholder results of the tools that are pending. -/
def placeholders (b : DefaultAgentBackend) : Conversation :=
  (b.library.hashOrder b.pendingToolInfo).map fun pending =>
    .toolResult pending.1 "Tool execution was interrupted by the user."

/-- **What `cancel` does**: the last buffered event is handed out, everything of the turn is
forgotten, and the pending tools get placeholder results. -/
theorem cancel_eq (b : DefaultAgentBackend) : ∃ complete, Metadata complete ∧ b.cancel =
    ((b.eventBuffer ++ complete).getLast?,
      { b with
        obs := none
        llmEventRx := false
        toolTasks := []
        toolResults := []
        conversation := b.conversation ++ b.placeholders
        pendingToolInfo := []
        pendingTokens := []
        pendingToolCalls := []
        toolsRemaining := 0
        toolRounds := 0
        eventBuffer := []
        pendingHangUp := none
        phase := .idle
        contextSummarizer := b.contextSummarizer.map (·.cancel) }) := by
  obtain ⟨complete, metadata, emitted⟩ := b.emitLlmComplete_eq
  refine ⟨complete, metadata, ?_⟩
  unfold cancel
  rw [emitted]
  rfl

/-- The text of the generation so far, if there is one. -/
def generatedText (b : DefaultAgentBackend) : Option String :=
  if (String.join b.pendingTokens).isEmpty then none else some (String.join b.pendingTokens)

/-- The assistant message of the generation so far, if there is one. -/
def assistantMessage (b : DefaultAgentBackend) : Option ChatMessage :=
  let toolCalls := if b.pendingToolCalls.isEmpty then none else some b.pendingToolCalls
  if b.generatedText.isNone && toolCalls.isNone then none
  else some ⟨.assistant, b.generatedText, toolCalls, none⟩

/-- A message of the assistant holds the text that was generated. -/
theorem assistantMessage_eq (b : DefaultAgentBackend) : b.assistantMessage = none ∨
    ∃ toolCalls, b.assistantMessage = some ⟨.assistant, b.generatedText, toolCalls, none⟩ := by
  unfold assistantMessage
  dsimp only
  by_cases silent : (b.generatedText.isNone &&
      (if b.pendingToolCalls.isEmpty then none else some b.pendingToolCalls).isNone) = true
  · exact .inl (if_pos silent)
  · exact .inr ⟨_, if_neg silent⟩

/-- The accumulated message goes to the end of the conversation. -/
theorem pushAssistantMessage_eq (b : DefaultAgentBackend) :
    b.pushAssistantMessage = (b.generatedText,
      { b with
        pendingTokens := []
        pendingToolCalls := []
        conversation := b.conversation ++ b.assistantMessage.toList }) := by
  unfold pushAssistantMessage assistantMessage generatedText
  by_cases silent : (String.join b.pendingTokens).isEmpty = true
  · by_cases idle : b.pendingToolCalls.isEmpty = true
    · simp [silent, idle]
    · simp [silent, idle, push]
  · simp [silent, push]

/-- **What the end of a stream does**: the message is sealed, and the turn ends unless there are
tools to wait for. -/
theorem closeStream_cases (b : DefaultAgentBackend) : ∃ complete, Metadata complete ∧
    let sealed : DefaultAgentBackend :=
      { b with
        obs := none
        llmEventRx := false
        eventBuffer := b.eventBuffer ++ complete
        pendingTokens := []
        pendingToolCalls := []
        conversation := b.conversation ++ b.assistantMessage.toList }
    (b.toolsRemaining = 0 ∧
      ((∃ pending, b.pendingHangUp = some pending ∧ b.closeStream =
          ({ sealed with phase := .idle, pendingHangUp := none },
            .ready (some (.hangUp pending.reason b.generatedText)))) ∨
        (b.pendingHangUp = none ∧ b.closeStream =
          (({ sealed with phase := .idle } : DefaultAgentBackend).maybeStartSummary,
            .ready (some (.finished b.generatedText)))))) ∨
    (b.toolsRemaining ≠ 0 ∧ b.closeStream =
      ({ sealed with
          phase := .waitingForTools
          fillerTask := none
          pendingHangUp := b.pendingHangUp.map fun pending => ⟨pending.reason, b.generatedText⟩ },
        .pending (.tools b.fillerTask))) := by
  obtain ⟨complete, metadata, emitted⟩ := b.emitLlmComplete_eq
  refine ⟨complete, metadata, ?_⟩
  intro sealed
  have message : (({ b.emitLlmComplete with llmEventRx := false } :
      DefaultAgentBackend)).pushAssistantMessage = (b.generatedText, sealed) := by
    rw [emitted, pushAssistantMessage_eq]
    rfl
  by_cases alone : b.toolsRemaining = 0
  · refine .inl ⟨alone, ?_⟩
    rcases waiting : b.pendingHangUp with - | pending
    · refine .inr ⟨rfl, ?_⟩
      unfold closeStream
      simp only [message, sealed, alone, waiting, if_true, Option.map_none]
    · refine .inl ⟨pending, rfl, ?_⟩
      unfold closeStream
      simp only [message, sealed, alone, waiting, if_true, Option.map_some]
  · refine .inr ⟨alone, ?_⟩
    unfold closeStream
    simp only [message, sealed, alone, if_false]
    rfl

end DefaultAgentBackend

end Feros
