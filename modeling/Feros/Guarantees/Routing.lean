import Feros.Agent.Edits
/-! # Routing between agents

The tool `transfer_to` is offered to the LLM, but a call of it is run like any other tool: nothing in
the receive loop calls `handleTransfer`, and neither does a caller of the backend.  So the entry of
the graph stays active for good.

* **`systemMessage`** is the system prompt at the head of a conversation; only `setSystemPrompt` and
  `handleTransfer` change it.
* **`PromptKept`** says what the LLM calls of a run were made with; every edit keeps it. -/

namespace Feros

open Run

/-! ## The system message -/

/-- The system message at the head of a conversation. -/
def systemMessage (conversation : Conversation) : Option ChatMessage :=
  conversation.head?.filter (·.role = .system)

/-- A message of another role leaves the system message. -/
theorem systemMessage_append {conversation more : Conversation}
    (others : ∀ m ∈ more, m.role ≠ .system) :
    systemMessage (conversation ++ more) = systemMessage conversation := by
  cases conversation with
  | nil =>
    cases more with
    | nil => rfl
    | cons m more =>
      have other : m.role ≠ .system := others m List.mem_cons_self
      simp [systemMessage, other]
  | cons m rest => rfl

/-- The hard trim keeps the message at index 0. -/
theorem systemMessage_trimHistory (conversation : Conversation) :
    systemMessage (trimHistory conversation) = systemMessage conversation := by
  unfold trimHistory
  dsimp only
  split
  · rfl
  · cases conversation with
    | nil => rfl
    | cons m rest => rfl

/-- A summary is put behind the system message. -/
theorem systemMessage_applySummary {conversation applied : Conversation} {summary : String}
    {lastSummarizedIndex snapshotLen minMessagesAfterSummary : ℕ}
    (succeeds : applySummary conversation summary lastSummarizedIndex snapshotLen
      minMessagesAfterSummary = some applied) :
    systemMessage applied = systemMessage conversation := by
  unfold applySummary at succeeds
  split at succeeds
  · cases succeeds
  · split at succeeds
    · cases succeeds
    · split at succeeds
      · cases succeeds
      · cases succeeds
        cases conversation with
        | nil => simp [systemMessage, summaryUserMsg, ChatMessage.say]
        | cons m rest =>
          by_cases first : m.role = .system
          · simp [systemMessage, first]
          · simp [systemMessage, first, summaryUserMsg, ChatMessage.say, Option.filter]

/-- A summary that is applied leaves the system message. -/
theorem systemMessage_tryApply (conversation : Conversation) (s : ContextSummarizer) :
    systemMessage (s.tryApply conversation).1 = systemMessage conversation := by
  unfold ContextSummarizer.tryApply
  rcases s.results with - | ⟨⟨summary, task⟩, results⟩
  · rfl
  · dsimp only
    split
    · rfl
    · rcases applied : applySummary conversation summary task.snapshot.lastSummarizedIndex
        task.snapshot.snapshotLen task.minKeep with - | shorter
      · rfl
      · exact systemMessage_applySummary applied

namespace DefaultAgentBackend

/-! ## Settings -/

/-- Tool schemas, temperature, token limit and model that the settings of a node give. -/
def nodeSettings (graph : AgentGraphDef) (config : AgentBackendConfig) (node : NodeDef) :
    List ToolSchema × ℚ × ℕ × Option String :=
  (buildNodeToolSchemas node graph.tools, node.temperature.getD config.temperature,
    node.maxTokens.getD config.maxTokens, node.model)

/-- **An LLM call is one of a node**: it uses the system prompt, the tool schemas and the model
settings of the node. -/
structure UsesNode (library : AgentLibrary) (graph : AgentGraphDef) (config : AgentBackendConfig)
    (node : NodeDef) (request : LlmRequest) : Prop where
  settings : (request.tools, request.temperature, request.maxTokens, request.model) =
    nodeSettings graph config node
  prompt : systemMessage request.conversation =
    some (.say .system (withSuffix library node.systemPrompt graph.timezone))

/-! ## The entry stays active -/

/-- **All LLM calls after the `made` ones used the settings `uses`**, and the system message `head`. -/
structure PromptKept (uses : List ToolSchema × ℚ × ℕ × Option String) (head : Option ChatMessage)
    (made : ℕ) (h : History) : Prop where
  prompt : systemMessage h.conversation = head
  earlier : made ≤ h.requests.length
  later : ∀ request ∈ h.requests.drop made,
    (request.tools, request.temperature, request.maxTokens, request.model) = uses ∧
      systemMessage request.conversation = head

/-- **No edit changes the system message.** -/
theorem promptKept_edit {uses : List ToolSchema × ℚ × ℕ × Option String} {head : Option ChatMessage}
    {made : ℕ} {settings : HistorySettings} (params : settings.params = .ok uses) (h : History)
    (edit : Edit) (kept : PromptKept uses head made h) :
    PromptKept uses head made (h.edit settings edit) := by
  cases edit with
  | append m other =>
    refine ⟨(systemMessage_append fun m' held => ?_).trans kept.prompt, kept.earlier, kept.later⟩
    rw [List.mem_singleton.1 held]
    exact other
  | trim =>
    exact ⟨(systemMessage_trimHistory _).trans kept.prompt, kept.earlier, kept.later⟩
  | request =>
    obtain ⟨schemas, temperature, maxTokens, model⟩ := uses
    have asked : h.edit settings .request = { h with requests := h.requests ++
        [⟨h.conversation, schemas, temperature, maxTokens, model⟩] } := by
      simp only [History.edit, params]
    rw [asked]
    refine ⟨kept.prompt, kept.earlier.trans (by simp), fun request held => ?_⟩
    rw [List.drop_append_of_le_length kept.earlier] at held
    rcases List.mem_append.1 held with held | held
    · exact kept.later request held
    · rw [List.mem_singleton.1 held]
      exact ⟨rfl, kept.prompt⟩
  | maybeStart => exact ⟨kept.prompt, kept.earlier, kept.later⟩
  | complete i summary => exact ⟨kept.prompt, kept.earlier, kept.later⟩
  | tryApply =>
    unfold History.edit
    dsimp only
    rcases h.summarizer with - | summarizer
    · exact kept
    · exact ⟨(systemMessage_tryApply _ summarizer).trans kept.prompt, kept.earlier, kept.later⟩
  | cancel => exact ⟨kept.prompt, kept.earlier, kept.later⟩

section

variable {graph : AgentGraphDef} {config : AgentBackendConfig} {entry : NodeDef}
  {b : DefaultAgentBackend}

/-- The entry is active in every run from a new backend. -/
theorem entered_run (library : AgentLibrary) (graph : AgentGraphDef) (config : AgentBackendConfig)
    (calls : List AgentCall) :
    let b := run step (new library (some graph) config) calls
    b.swarm = some ⟨graph.entry, graph⟩ ∧ b.config = config := by
  have keeps : ∀ (b : DefaultAgentBackend) (call : AgentCall),
      b.swarm = some ⟨graph.entry, graph⟩ ∧ b.config = config →
        (b.step call).swarm = some ⟨graph.entry, graph⟩ ∧ (b.step call).config = config := by
    rintro b call ⟨entered, base⟩
    rcases sets : call.setsPrompt with - | -
    · obtain ⟨⟨-, swarm, same, -⟩, -⟩ := edited_step b call sets
      exact ⟨swarm.trans entered, same.trans base⟩
    · cases call with
      | setSystemPrompt prompt => exact ⟨entered, base⟩
      | _ => cases sets
  exact invariant_of_step keeps ⟨rfl, rfl⟩ calls

/-- **A transfer that is possible leads to a node of the graph.** -/
theorem handleTransfer_isNode {swarm : SwarmState} (active : b.swarm = some swarm)
    (isNode : swarm.activeDef.isSome) (targetAgent : String) :
    ∃ swarm', (b.handleTransfer targetAgent).2.swarm = some swarm' ∧ swarm'.activeDef.isSome := by
  have stays : (swarm.transferTo targetAgent).1 = false →
      ∃ swarm', (b.handleTransfer targetAgent).2.swarm = some swarm' ∧ swarm'.activeDef.isSome := by
    intro denied
    refine ⟨swarm, ?_, isNode⟩
    unfold handleTransfer
    rw [active]
    dsimp only
    rcases transferred : swarm.transferTo targetAgent with ⟨- | -, swarm'⟩
    · exact active
    · rw [transferred] at denied
      cases denied
  rcases found : swarm.graph.nodes.lookup targetAgent with - | node
  · exact stays (by simp [SwarmState.transferTo, found])
  · rcases current : swarm.activeDef with - | currentDef
    · exact stays (by simp [SwarmState.transferTo, found, current])
    · by_cases edge : currentDef.edges.contains targetAgent = true
      · have goes : swarm.transferTo targetAgent = (true, { swarm with activeNode := targetAgent }) := by
          simp only [SwarmState.transferTo, found, current, edge, Option.isNone_some, Bool.false_eq_true,
            if_true, if_false]
        refine ⟨{ swarm with activeNode := targetAgent }, ?_, ?_⟩
        · unfold handleTransfer
          rw [active]
          dsimp only
          rw [goes]
        · simp only [SwarmState.activeDef, found, Option.isSome_some]
      · rw [Bool.not_eq_true] at edge
        refine stays ?_
        simp only [SwarmState.transferTo, found, current, edge, Option.isNone_some, Bool.false_eq_true,
          if_false]

end

/-! ## The guarantee -/

/-- **Routing does not work.**  In every run the entry of the graph is the active node, and an LLM
call uses another node exactly if that node cannot be told from the entry: its settings give the same
as those of the entry, and the system message is its prompt already. -/
theorem routed_iff (library : AgentLibrary) (graph : AgentGraphDef) (config : AgentBackendConfig)
    (entry : NodeDef) (isNode : graph.nodes.lookup graph.entry = some entry)
    (before after : List AgentCall) (keeps : ∀ call ∈ after, call.setsPrompt = false)
    (target : NodeDef) :
    let b := run step (new library (some graph) config) before
    let later := run step b after
    (∃ swarm, later.swarm = some swarm ∧ swarm.activeDef.isSome) ∧
      ∀ request ∈ later.requests.drop b.requests.length,
        (UsesNode library graph config target request ↔
          nodeSettings graph config target = nodeSettings graph config entry ∧
            systemMessage b.conversation =
              some (.say .system (withSuffix library target.systemPrompt graph.timezone))) := by
  intro b later
  obtain ⟨entered, base⟩ : b.swarm = some ⟨graph.entry, graph⟩ ∧ b.config = config :=
    entered_run library graph config before
  obtain ⟨⟨-, swarm, -, -⟩, edits, same⟩ := edited_run b keeps
  have params : b.settings.params = .ok (nodeSettings graph config entry) := by
    change b.resolveLlmCallParams = _
    unfold resolveLlmCallParams
    rw [entered]
    simp only [SwarmState.activeDef, isNode, base, nodeSettings]
  have start : PromptKept (nodeSettings graph config entry) (systemMessage b.conversation)
      b.requests.length b.history := by
    refine ⟨rfl, le_rfl, fun request held => ?_⟩
    rw [history, List.drop_length] at held
    cases held
  have kept : PromptKept (nodeSettings graph config entry) (systemMessage b.conversation)
      b.requests.length later.history := by
    rw [same]
    exact invariant_of_step (promptKept_edit params) start edits
  refine ⟨⟨_, swarm.trans entered, ?_⟩, fun request held => ?_⟩
  · rw [SwarmState.activeDef, isNode]
    rfl
  · obtain ⟨settings, prompt⟩ := kept.later request held
    constructor
    · rintro ⟨uses, told⟩
      exact ⟨uses.symm.trans settings, prompt.symm.trans told⟩
    · rintro ⟨same, told⟩
      exact ⟨settings.trans same.symm, prompt.trans told⟩

/-- Two agents, of which the first may transfer to the second. -/
def reception : AgentGraphDef where
  entry := "receptionist"
  nodes := [("receptionist", ⟨"You answer the phone.", [], ["booking"], none, none, none⟩),
    ("booking", ⟨"You book rooms.", ["book"], [], some "large", none, none⟩)]
  tools := [("book", ⟨"Book a room", "", [], true⟩)]
  timezone := none

/-- The LLM transfers to the second agent, and is called again with the result. -/
def transferring : List AgentCall :=
  [.recv [.llm (some (.toolCall ⟨transferToolName, "\x7b\"agent_id\": \"booking\"\x7d", some "one", none⟩)) ""],
    .recv [.llm none "", .background (.toolDone 0 false "Unknown tool"), .toolResult,
      .streamStarted (.ok ())]]

/-- A caller is transferred from the reception to the booking, which has a model of its own. -/
theorem routed_iff_reception :
    let entry : NodeDef := ⟨"You answer the phone.", [], ["booking"], none, none, none⟩
    let target : NodeDef := ⟨"You book rooms.", ["book"], [], some "large", none, none⟩
    let b := run step (new silentLibrary (some reception) {})
      [.setSystemPrompt "You answer the phone.", .startTurn ⟨[], .ok ()⟩]
    let later := run step b transferring
    (∃ swarm, later.swarm = some swarm ∧ swarm.activeDef.isSome) ∧
      ∀ request ∈ later.requests.drop b.requests.length,
        (UsesNode silentLibrary reception {} target request ↔
          nodeSettings reception {} target = nodeSettings reception {} entry ∧
            systemMessage b.conversation =
              some (.say .system (withSuffix silentLibrary target.systemPrompt none))) := by
  intro entry target
  refine routed_iff silentLibrary reception {} entry rfl _ transferring ?_ target
  intro call held
  simp only [transferring, List.mem_cons, List.not_mem_nil, or_false] at held
  rcases held with rfl | rfl <;> rfl

/-- **The transfer goes nowhere**: it was offered and called with an edge of the active node, the next
LLM call is made, and it is not one of the target. -/
theorem transfer_ignored :
    let target : NodeDef := ⟨"You book rooms.", ["book"], [], some "large", none, none⟩
    let b := run step (new silentLibrary (some reception) {})
      [.setSystemPrompt "You answer the phone.", .startTurn ⟨[], .ok ()⟩]
    let later := run step b transferring
    (b.requests.length = 1 ∧
        ∀ request ∈ b.requests, makeTransferToolSchema ["booking"] ∈ request.tools) ∧
      reception.nodes.lookup "booking" = some target ∧
      (later.requests.drop b.requests.length).length = 1 ∧
      ∀ request ∈ later.requests.drop b.requests.length,
        ¬ UsesNode silentLibrary reception {} target request := by
  intro target b later
  refine ⟨by decide +kernel, rfl, by decide +kernel, ?_⟩
  rintro request held ⟨settings, -⟩
  have base : ∀ request ∈ later.requests.drop b.requests.length, request.model = none := by
    decide +kernel
  have model : request.model = some "large" := congrArg (·.2.2.2) settings
  rw [base request held] at model
  cases model

end DefaultAgentBackend

end Feros
