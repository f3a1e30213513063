import Feros.Agent.Calls
/-! # What a call does to the history

Whatever a call on the backend does, it edits the history (the conversation, its summarizer and the
LLM calls) by a list of **`Edit`**s, and leaves the graph and the configuration as they are.  Only
`setSystemPrompt` does something else.  `edited_step` is the simulation; what holds for all lists of
edits holds for all runs of the backend. -/

namespace Feros

open Suspension

/-- **The history of a backend.** -/
structure History where
  conversation : Conversation
  summarizer : Option ContextSummarizer
  requests : List LlmRequest

/-- **One edit.** -/
inductive Edit where
  /-- A turn appends a message, or `cancel` a placeholder result. -/
  | append (m : ChatMessage) (other : m.role ≠ .system)
  | trim
  /-- The LLM is called with the conversation. -/
  | request
  | maybeStart
  /-- The `i`-th summary task sends its result. -/
  | complete (i : ℕ) (summary : String)
  | tryApply
  | cancel

/-- What does not change: thresholds of the summarizer, and what LLM calls are made with. -/
structure HistorySettings where
  summarization : ContextSummarizationConfig
  params : Except String (List ToolSchema × ℚ × ℕ × Option String)

/-- Apply an edit. -/
def History.edit (settings : HistorySettings) (h : History) : Edit → History
  | .append m _ => { h with conversation := h.conversation ++ [m] }
  | .trim => { h with conversation := trimHistory h.conversation }
  | .request =>
    match settings.params with
    | .ok (schemas, temperature, maxTokens, model) =>
      { h with requests := h.requests ++ [⟨h.conversation, schemas, temperature, maxTokens, model⟩] }
    | .error _ => h
  | .maybeStart =>
    let start := ContextSummarizer.maybeStart settings.summarization h.conversation
    { h with summarizer := h.summarizer.map start }
  | .complete i summary => { h with summarizer := h.summarizer.map (·.complete i summary) }
  | .tryApply =>
    match h.summarizer with
    | some summarizer =>
      { h with
        conversation := (summarizer.tryApply h.conversation).1
        summarizer := some (summarizer.tryApply h.conversation).2 }
    | none => h
  | .cancel => { h with summarizer := h.summarizer.map (·.cancel) }

namespace DefaultAgentBackend

/-- The history of a backend. -/
def history (b : DefaultAgentBackend) : History := ⟨b.conversation, b.contextSummarizer, b.requests⟩

/-- What does not change. -/
def settings (b : DefaultAgentBackend) : HistorySettings :=
  ⟨b.contextSummarizationConfig, b.resolveLlmCallParams⟩

/-- **The history was edited**, and nothing else of the session has changed. -/
def Edited (b t : DefaultAgentBackend) : Prop :=
  (t.library = b.library ∧ t.swarm = b.swarm ∧ t.config = b.config ∧
    t.contextSummarizationConfig = b.contextSummarizationConfig) ∧
  ∃ edits, t.history = Run.run (History.edit b.settings) b.history edits

variable {b t u : DefaultAgentBackend}

/-- Nothing has happened. -/
theorem edited_refl (b : DefaultAgentBackend) : Edited b b := ⟨⟨rfl, rfl, rfl, rfl⟩, [], rfl⟩

/-- Edits leave the settings. -/
theorem Edited.settings_eq (edited : Edited b t) : t.settings = b.settings := by
  obtain ⟨⟨-, swarm, config, summarization⟩, -⟩ := edited
  unfold settings resolveLlmCallParams
  rw [swarm, config, summarization]

/-- One more edit. -/
theorem Edited.edit (edited : Edited b t) (edit : Edit) (library : u.library = t.library)
    (swarm : u.swarm = t.swarm) (config : u.config = t.config)
    (summarization : u.contextSummarizationConfig = t.contextSummarizationConfig)
    (applied : u.history = t.history.edit t.settings edit) : Edited b u := by
  have settings := edited.settings_eq
  obtain ⟨⟨library', swarm', config', summarization'⟩, edits, same⟩ := edited
  refine ⟨⟨library.trans library', swarm.trans swarm', config.trans config',
    summarization.trans summarization'⟩, edits ++ [edit], ?_⟩
  rw [applied, same, settings, Run.run_append]
  rfl

/-- A message is appended. -/
theorem Edited.append (edited : Edited b t) (m : ChatMessage) (other : m.role ≠ .system) :
    Edited b (t.push m) :=
  edited.edit (.append m other) rfl rfl rfl rfl rfl

/-- Messages are appended, none of them a prompt. -/
theorem Edited.appendAll (edited : Edited b t) {more : Conversation}
    (others : ∀ m ∈ more, m.role ≠ .system) :
    Edited b { t with conversation := t.conversation ++ more } := by
  induction more generalizing t with
  | nil =>
    rw [List.append_nil]
    exact edited
  | cons m more ih =>
    rw [List.append_cons]
    have first := edited.append m (others m List.mem_cons_self)
    exact ih first fun m' held => others m' (List.mem_cons_of_mem m held)

/-- A summary may be started. -/
theorem Edited.maybeStartSummary (edited : Edited b t) : Edited b t.maybeStartSummary :=
  edited.edit .maybeStart rfl rfl rfl rfl rfl

/-- A summary may be applied. -/
theorem Edited.tryApplySummary (edited : Edited b t) : Edited b t.tryApplySummary := by
  rcases waiting : t.contextSummarizer with - | summarizer
  · have kept : t.tryApplySummary = t := by
      simp only [DefaultAgentBackend.tryApplySummary, waiting]
    rw [kept]
    exact edited
  · have applied : t.tryApplySummary = { t with
        conversation := (summarizer.tryApply t.conversation).1
        contextSummarizer := some (summarizer.tryApply t.conversation).2 } := by
      simp only [DefaultAgentBackend.tryApplySummary, waiting]
    rw [applied]
    refine edited.edit .tryApply rfl rfl rfl rfl ?_
    simp only [history, History.edit, waiting]

/-- A stream is requested. -/
theorem Edited.requestStream (edited : Edited b t) (requested : t.requestStream = .ok u) :
    Edited b u := by
  obtain ⟨schemas, temperature, maxTokens, model, resolved, rfl⟩ := requestStream_eq requested
  refine edited.edit .request rfl rfl rfl rfl ?_
  simp only [history, History.edit, settings, resolved]

/-- A stream is opened. -/
theorem Edited.openStream (edited : Edited b t) : Edited b t.openStream := by
  obtain ⟨obs, opened⟩ := t.openStream_eq
  rw [opened]
  exact edited

/-- Something goes on in the background. -/
theorem Edited.background (edited : Edited b t) (event : Background) :
    Edited b (t.background event) := by
  cases event with
  | toolDone i success result =>
    unfold DefaultAgentBackend.background
    dsimp only
    rcases t.toolTasks[i]? with - | task
    · exact edited
    · exact edited
  | summaryDone i summary => exact edited.edit (.complete i summary) rfl rfl rfl rfl rfl

/-- The turn is cancelled. -/
theorem Edited.cancel (edited : Edited b t) : Edited b t.cancel.2 := by
  obtain ⟨complete, -, cancelled⟩ := t.cancel_eq
  rw [cancelled]
  have others : ∀ m ∈ t.placeholders, m.role ≠ .system := by
    intro m held
    obtain ⟨pending, -, rfl⟩ := List.mem_map.1 held
    exact Role.noConfusion
  exact (edited.appendAll others).edit .cancel rfl rfl rfl rfl rfl

/-- A call of `recv` and where it waits. -/
abbrev EditedBy (b : DefaultAgentBackend) : DefaultAgentBackend × RecvStatus → Prop :=
  Holds (fun t _ => Edited b t) (fun t _ => Edited b t)

/-- A result is recorded. -/
theorem Edited.finishResult (edited : Edited b t) (result : ToolTaskResult) (content : String) :
    EditedBy b (t.finishResult result content) := by
  have pushed := edited.append (.toolResult result.callId content) Role.noConfusion
  rcases finishResult_cases result content t with
    ⟨-, finished⟩ | ⟨-, ⟨pending, -, finished⟩ | ⟨-, -, finished⟩ |
      ⟨-, -, ⟨asked, requested, finished⟩ | ⟨message, -, finished⟩⟩⟩
  · rw [finished]
    exact pushed
  · rw [finished]
    exact pushed
  · rw [finished]
    exact pushed
  · rw [finished]
    exact Edited.requestStream (Edited.maybeStartSummary (by exact pushed)) requested
  · rw [finished]
    exact Edited.maybeStartSummary (by exact pushed)

/-- The stream is closed. -/
theorem Edited.closeStream (edited : Edited b t) : EditedBy b t.closeStream := by
  have others : ∀ m ∈ t.assistantMessage.toList, m.role ≠ .system := by
    intro m held
    rcases t.assistantMessage_eq with none | ⟨toolCalls, some⟩
    · rw [none] at held
      cases held
    · rw [some] at held
      rw [List.mem_singleton.1 held]
      exact Role.noConfusion
  have sealed' := edited.appendAll others
  obtain ⟨complete, -, ⟨-, ⟨pending, -, closed⟩ | ⟨-, closed⟩⟩ | ⟨-, closed⟩⟩ := t.closeStream_cases
  · rw [closed]
    exact sealed'
  · rw [closed]
    exact Edited.maybeStartSummary (by exact sealed')
  · rw [closed]
    exact sealed'

/-- **An item of the stream is handled.** -/
theorem Edited.handleStreamItem (edited : Edited b t) (item : InnerLlmEvent) (uuid : String) :
    EditedBy b (t.handleStreamItem item uuid) := by
  cases item with
  | token text => exact edited
  | usage promptTokens completionTokens cachedInputTokens => exact edited
  | error message => exact edited.cancel
  | toolCall call =>
    unfold DefaultAgentBackend.handleStreamItem
    dsimp only
    split
    · unfold handleHangUp
      split
      · exact edited
      · exact edited
    · split
      · exact edited
      · exact edited

/-- **A call is resumed.** -/
theorem Edited.resume (edited : Edited b t) (point : RecvPoint) (wake : Wake) :
    EditedBy b (t.resume point wake) := by
  unfold DefaultAgentBackend.resume
  split
  · exact edited.background _
  · exact edited.handleStreamItem _ _
  · exact edited.closeStream
  · split
    · rename_i result rest taken
      unfold handleResult
      dsimp only
      split
      · exact edited
      · exact Edited.finishResult (by exact edited) result result.result
    · exact edited
  · exact edited
  · exact edited
  · exact edited.finishResult _ _
  · exact edited.openStream
  · exact edited
  · exact edited

/-- A call is entered. -/
theorem Edited.enter (edited : Edited b t) : EditedBy b t.enter := by
  unfold DefaultAgentBackend.enter enterPhase
  rcases t.eventBuffer with - | ⟨event, rest⟩
  · dsimp only
    rcases t.phase with - | - | -
    · exact edited
    · exact edited
    · exact edited
  · exact edited

/-- A turn is prepared. -/
theorem Edited.prepareTurn (edited : Edited b t) (reply : TurnReply) :
    Edited b (t.prepareTurn reply) := by
  have keeps : ∀ (u : DefaultAgentBackend) (event : Background), Edited b u →
      Edited b (u.background event) := fun _ event edited => edited.background event
  have before : Edited b (reply.background.foldl DefaultAgentBackend.background t) :=
    Run.invariant_of_step keeps edited reply.background
  exact Edited.maybeStartSummary (Edited.tryApplySummary (by exact before))

/-- A turn is started. -/
theorem Edited.startTurn (edited : Edited b t) (reply : TurnReply) :
    Edited b (t.startTurn reply).2 := by
  have prepared := edited.prepareTurn reply
  rcases t.startTurn_cases reply with ⟨-, started⟩ | ⟨asked, requested, ⟨-, started⟩ | ⟨-, started⟩⟩
  · rw [started]
    exact prepared
  · rw [started]
    exact prepared.requestStream requested
  · rw [started]
    exact (prepared.requestStream requested).openStream


end DefaultAgentBackend

/-- The call sets the system prompt. -/
def AgentCall.setsPrompt : AgentCall → Bool
  | .setSystemPrompt _ => true
  | _ => false

namespace DefaultAgentBackend

/-- **A call edits the history**, unless it sets the system prompt. -/
theorem edited_step (b : DefaultAgentBackend) (call : AgentCall) (keeps : call.setsPrompt = false) :
    Edited b (b.step call) := by
  have start := edited_refl b
  cases call with
  | setSystemPrompt prompt => cases keeps
  | addUserMessage text =>
    exact (start.append (.say .user text) Role.noConfusion).edit .trim rfl rfl rfl rfl rfl
  | addAssistantMessage text => exact start.append (.say .assistant text) Role.noConfusion
  | startTurn reply => exact start.startTurn reply
  | recv wakes =>
    exact recv_rule_of_forall (fun _ => Edited.enter) (fun _ point wake edited => edited.resume point wake)
      (fun _ _ edited => edited) start wakes
  | cancel => exact start.cancel
  | background event => exact start.background event

/-- One edit after the other. -/
theorem Edited.trans {b t u : DefaultAgentBackend} (first : Edited b t) (second : Edited t u) : Edited b u := by
  have settings := first.settings_eq
  obtain ⟨⟨library, swarm, config, summarization⟩, edits, same⟩ := first
  obtain ⟨⟨library', swarm', config', summarization'⟩, edits', same'⟩ := second
  refine ⟨⟨library'.trans library, swarm'.trans swarm, config'.trans config,
    summarization'.trans summarization⟩, edits ++ edits', ?_⟩
  rw [same', same, settings, Run.run_append]

/-- **A run edits the history**, unless it sets the system prompt. -/
theorem edited_run (b : DefaultAgentBackend) {calls : List AgentCall}
    (keeps : ∀ call ∈ calls, call.setsPrompt = false) : Edited b (Run.run step b calls) := by
  have goes : ∀ (t : DefaultAgentBackend) (call : AgentCall), Edited b t →
      call.setsPrompt = false → Edited b (t.step call) :=
    fun t call edited keeps => edited.trans (edited_step t call keeps)
  exact Run.invariant goes (edited_refl b) (Run.along_of_inputs keeps b)

end DefaultAgentBackend

end Feros
