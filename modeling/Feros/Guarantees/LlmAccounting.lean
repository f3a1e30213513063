import Feros.Agent.Calls
/-! # Accounting for LLM calls

Every LLM call whose stream was opened is to be accounted for by one `LlmComplete`.  The ledger
writes down the calls, what arrived on each stream, and the `LlmComplete` events that are delivered,
by `recv` or by `cancel`.

* **`Balanced`** says that the calls that are over are accounted for by what was delivered and what
  is still buffered, in this order, and that the observation of the open call is its own.
* It is kept wherever no `LlmComplete` is thrown away, which is what **`cancel`** does with all
  buffered events but the last. -/

namespace Feros

open Run Suspension

/-! ## Calls and what they amount to -/

/-- **An LLM call whose stream was opened**: what it was made with, in which round, and what has
arrived on its stream, with the ids drawn for tool calls that have none. -/
structure LlmCall where
  request : LlmRequest
  toolRounds : ℕ
  items : List (InnerLlmEvent × String)

namespace LlmCall

/-- The tokens of the stream. -/
def tokens (c : LlmCall) : List String :=
  c.items.filterMap fun
    | (.token text, _) => some text
    | _ => none

/-- The tool calls of the stream that are not intercepted. -/
def toolCalls (c : LlmCall) : List ToolCallEvent :=
  c.items.filterMap fun
    | (.toolCall call, uuid) =>
      if call.name = hangUpToolName then none
      else if call.name = onHoldToolName then none
      else some { call with toolCallId := some (call.toolCallId.getD ("call_" ++ uuid)) }
    | _ => none

/-- What an item says about the usage of a call. -/
def countUsage (obs : LlmCallObs) : InnerLlmEvent × String → LlmCallObs
  | (.usage promptTokens completionTokens cachedInputTokens, _) =>
    { obs with
      promptTokens := promptTokens
      completionTokens := completionTokens
      cacheReadTokens := if cachedInputTokens > 0 then some cachedInputTokens else none }
  | _ => obs

/-- What is to be observed of the call. -/
def observation (library : AgentLibrary) (c : LlmCall) : LlmCallObs :=
  c.items.foldl countUsage
    { model := c.request.model.getD "unknown"
      provider := library.providerName
      inputJson := library.conversationJson c.request.conversation
      toolsJson := if c.request.tools.isEmpty then none else library.toolsJson c.request.tools
      maxTokens := c.request.maxTokens
      promptTokens := 0
      completionTokens := 0
      cacheReadTokens := none }

/-- **What is to be reported of the call**: its own input, its own output, its own usage. -/
def complete (library : AgentLibrary) (c : LlmCall) : LlmCompletionData :=
  let obs := c.observation library
  { provider := obs.provider
    model := obs.model
    inputJson := obs.inputJson
    outputJson := library.outputJson (String.join c.tokens) c.toolCalls
    toolsJson := obs.toolsJson
    maxTokens := obs.maxTokens
    promptTokens := obs.promptTokens
    completionTokens := obs.completionTokens
    cacheReadTokens := obs.cacheReadTokens
    spanLabel :=
      if !c.toolCalls.isEmpty then "llm_tool_req"
      else if c.toolRounds > 0 then "llm_tool_resp"
      else "llm" }

/-- The call after one more item. -/
def add (c : LlmCall) (item : InnerLlmEvent) (uuid : String) : LlmCall :=
  { c with items := c.items ++ [(item, uuid)] }

/-- An item that is added is observed. -/
theorem observation_add (library : AgentLibrary) (c : LlmCall) (item : InnerLlmEvent) (uuid : String) :
    (c.add item uuid).observation library = countUsage (c.observation library) (item, uuid) :=
  List.foldl_append

end LlmCall

/-- The report that an event carries. -/
def AgentEvent.report? : AgentEvent → Option LlmCompletionData
  | .llmComplete data => some data
  | _ => none

/-! ## The ledger -/

/-- A backend with its LLM calls. -/
structure ObservedBackend where
  backend : DefaultAgentBackend
  calls : List LlmCall

namespace ObservedBackend

/-- The call whose stream was just opened. -/
def opened (b : DefaultAgentBackend) : List LlmCall :=
  (b.requests.getLast?.map fun request => ⟨request, b.toolRounds, []⟩).toList

/-- The calls after a wake: a stream is opened, or something arrives on the last one. -/
def callsAfter (s : ObservedBackend) : RecvPoint → Wake → List LlmCall
  | .startStream _, .streamStarted (.ok _) => s.calls ++ opened s.backend
  | .stream, .llm (some item) uuid => s.calls.dropLast ++ (s.calls.getLast?.map (·.add item uuid)).toList
  | _, _ => s.calls

/-- **`recv`, observed.** -/
def recvCall : Call ObservedBackend RecvPoint Wake (Option AgentEvent) where
  enter s :=
    let (b, status) := s.backend.enter
    (⟨b, s.calls⟩, status)
  resume s point wake :=
    let (b, status) := s.backend.resume point wake
    (⟨b, s.callsAfter point wake⟩, status)

/-- A call is entered under observation. -/
theorem recvCall_enter (s : ObservedBackend) :
    recvCall.enter s = (⟨s.backend.enter.1, s.calls⟩, s.backend.enter.2) := rfl

/-- A call is resumed under observation. -/
theorem recvCall_resume (s : ObservedBackend) (point : RecvPoint) (wake : Wake) :
    recvCall.resume s point wake =
      (⟨(s.backend.resume point wake).1, s.callsAfter point wake⟩,
        (s.backend.resume point wake).2) := rfl

/-- Observing `recv` does not change it. -/
theorem drive_eq (wakes : List Wake) (s : ObservedBackend) :
    ((recvCall.drive wakes s).1.backend, (recvCall.drive wakes s).2) =
      DefaultAgentBackend.recvCall.drive wakes s.backend := by
  have resumed : ∀ (wakes : List Wake) (s : ObservedBackend) (point : RecvPoint),
      ((recvCall.resumeAll s point wakes).1.backend, (recvCall.resumeAll s point wakes).2) =
        DefaultAgentBackend.recvCall.resumeAll s.backend point wakes := by
    intro wakes
    induction wakes with
    | nil => exact fun _ _ => rfl
    | cons wake wakes ih =>
      intro s point
      have plain : DefaultAgentBackend.recvCall.resume s.backend point wake =
          s.backend.resume point wake := rfl
      rw [Call.resumeAll, Call.resumeAll, recvCall_resume, plain]
      rcases s.backend.resume point wake with ⟨b, event | later⟩
      · rfl
      · exact ih ⟨b, _⟩ later
  have plain : DefaultAgentBackend.recvCall.enter s.backend = s.backend.enter := rfl
  rw [Call.drive, Call.drive, recvCall_enter, plain]
  rcases s.backend.enter with ⟨b, event | point⟩
  · rfl
  · exact resumed wakes ⟨b, _⟩ point

end ObservedBackend

/-- **The ledger of a backend**: its LLM calls and the reports that were delivered. -/
structure LlmLedger where
  observed : ObservedBackend
  delivered : List LlmCompletionData

namespace LlmLedger

/-- The backend of a ledger. -/
def backend (s : LlmLedger) : DefaultAgentBackend := s.observed.backend

/-- A ledger that begins with a backend. -/
def start (b : DefaultAgentBackend) : LlmLedger := ⟨⟨b, []⟩, []⟩

/-- **One call.**  The caller starts a turn only when none is active, as after `cancel`. -/
def step (s : LlmLedger) : AgentCall → LlmLedger
  | .startTurn reply =>
    if s.backend.isActive then s
    else
      match s.backend.startTurn reply with
      | (.ok _, b) => ⟨⟨b, s.observed.calls ++ ObservedBackend.opened b⟩, s.delivered⟩
      | (.error _, b) => ⟨⟨b, s.observed.calls⟩, s.delivered⟩
  | .recv wakes =>
    match ObservedBackend.recvCall.drive wakes s.observed with
    | (observed, .ready event) =>
      ⟨observed, s.delivered ++ (event.bind AgentEvent.report?).toList⟩
    | (observed, .pending _) => ⟨observed, s.delivered⟩
  | .cancel =>
    let (event, b) := s.backend.cancel
    ⟨⟨b, s.observed.calls⟩, s.delivered ++ (event.bind AgentEvent.report?).toList⟩
  | call => ⟨⟨s.backend.step call, s.observed.calls⟩, s.delivered⟩

/-- The reports that are buffered. -/
def buffered (b : DefaultAgentBackend) : List LlmCompletionData :=
  b.eventBuffer.filterMap AgentEvent.report?

/-- The calls whose streams have ended. -/
def closedCalls (s : ObservedBackend) : List LlmCall :=
  if s.backend.obs.isSome then s.calls.dropLast else s.calls

/-- **Every call that has ended is accounted for exactly once**, in order, by a report with its own
data that was delivered or waits to be. -/
def Accounted (s : LlmLedger) : Prop :=
  (closedCalls s.observed).map (LlmCall.complete s.backend.library) = s.delivered ++ buffered s.backend

/-- **No report is thrown away**: `cancel` is called when no report is buffered in front of the last
event, the report of the open call counted. -/
def Keeps (s : LlmLedger) : AgentCall → Prop
  | .cancel => ∀ event ∈ s.backend.emitLlmComplete.eventBuffer.dropLast, event.report? = none
  | _ => True

/-! ## What keeps the balance -/

/-- **The balance**: no stream is observed and all calls are accounted for, or one is, as the last
call says, and all others are accounted for. -/
inductive Balanced (library : AgentLibrary) (reported : List LlmCompletionData)
    (obs : Option LlmCallObs) (phase : AgentPhase) (llmEventRx : Bool) (pendingTokens : List String)
    (pendingToolCalls : List ToolCallEvent) (toolRounds : ℕ) (calls : List LlmCall) : Prop
  | settled (unobserved : obs = none) (idle : phase ≠ .streaming)
      (sum : calls.map (LlmCall.complete library) = reported)
  | streaming (closed : List LlmCall) (last : LlmCall) (split : calls = closed ++ [last])
      (observed : obs = some (last.observation library)) (busy : phase = .streaming)
      (isOpen : llmEventRx = true) (tokens : pendingTokens = last.tokens)
      (toolCalls : pendingToolCalls = last.toolCalls) (rounds : toolRounds = last.toolRounds)
      (sum : closed.map (LlmCall.complete library) = reported)

/-- The balance of an observed backend, after some reports. -/
def Balances (delivered : List LlmCompletionData) (s : ObservedBackend) : Prop :=
  Balanced s.backend.library (delivered ++ buffered s.backend) s.backend.obs s.backend.phase
    s.backend.llmEventRx s.backend.pendingTokens s.backend.pendingToolCalls s.backend.toolRounds
    s.calls

section Calls

variable (c : LlmCall) (uuid : String)

/-- A token is added. -/
@[simp] theorem tokens_add_token (text : String) :
    (c.add (.token text) uuid).tokens = c.tokens ++ [text] := by
  simp [LlmCall.tokens, LlmCall.add]

/-- A token calls no tool. -/
@[simp] theorem toolCalls_add_token (text : String) :
    (c.add (.token text) uuid).toolCalls = c.toolCalls := by
  simp [LlmCall.toolCalls, LlmCall.add]

/-- Usage adds no token. -/
@[simp] theorem tokens_add_usage (p q k : ℕ) : (c.add (.usage p q k) uuid).tokens = c.tokens := by
  simp [LlmCall.tokens, LlmCall.add]

/-- Usage calls no tool. -/
@[simp] theorem toolCalls_add_usage (p q k : ℕ) :
    (c.add (.usage p q k) uuid).toolCalls = c.toolCalls := by
  simp [LlmCall.toolCalls, LlmCall.add]

/-- A call of a tool adds no token. -/
@[simp] theorem tokens_add_toolCall (call : ToolCallEvent) :
    (c.add (.toolCall call) uuid).tokens = c.tokens := by
  simp [LlmCall.tokens, LlmCall.add]

/-- A call of a runtime tool that is intercepted does not count as one. -/
theorem toolCalls_add_intercepted {call : ToolCallEvent}
    (intercepted : call.name = hangUpToolName ∨ call.name = onHoldToolName) :
    (c.add (.toolCall call) uuid).toolCalls = c.toolCalls := by
  rcases intercepted with name | name <;> simp [LlmCall.toolCalls, LlmCall.add, name]

/-- A call of a tool is added. -/
theorem toolCalls_add_toolCall {call : ToolCallEvent} (hangUp : call.name ≠ hangUpToolName)
    (onHold : call.name ≠ onHoldToolName) : (c.add (.toolCall call) uuid).toolCalls =
      c.toolCalls ++ [{ call with toolCallId := some (call.toolCallId.getD ("call_" ++ uuid)) }] := by
  simp [LlmCall.toolCalls, LlmCall.add, hangUp, onHold]

/-- A broken stream is reported as it was before. -/
theorem complete_add_error (library : AgentLibrary) (message : String) :
    (c.add (.error message) uuid).complete library = c.complete library := by
  have tokens : (c.add (.error message) uuid).tokens = c.tokens := by
    simp [LlmCall.tokens, LlmCall.add]
  have toolCalls : (c.add (.error message) uuid).toolCalls = c.toolCalls := by
    simp [LlmCall.toolCalls, LlmCall.add]
  unfold LlmCall.complete
  rw [LlmCall.observation_add, tokens, toolCalls]
  rfl

end Calls

section Keeps

variable {b : DefaultAgentBackend} {calls : List LlmCall} {delivered : List LlmCompletionData}

/-- Sealing the open call buffers its own report. -/
theorem emitLlmComplete_own {last : LlmCall} (observed : b.obs = some (last.observation b.library))
    (tokens : b.pendingTokens = last.tokens) (toolCalls : b.pendingToolCalls = last.toolCalls)
    (rounds : b.toolRounds = last.toolRounds) :
    b.emitLlmComplete = { b with
      obs := none
      eventBuffer := b.eventBuffer ++ [.llmComplete (last.complete b.library)] } := by
  rw [DefaultAgentBackend.emitLlmComplete, observed]
  dsimp only
  rw [tokens, toolCalls, rounds]
  rfl

/-- What is not observed is not reported. -/
theorem emitLlmComplete_none (unobserved : b.obs = none) : b.emitLlmComplete = b := by
  rw [DefaultAgentBackend.emitLlmComplete, unobserved]

/-- The reports of events, one list after the other. -/
theorem buffered_append (events later : List AgentEvent) :
    (events ++ later).filterMap AgentEvent.report? =
      events.filterMap AgentEvent.report? ++ later.filterMap AgentEvent.report? :=
  List.filterMap_append

/-- **The end of a stream is reported**: sealing an LLM call settles the balance. -/
theorem Balances.emit (balances : Balances delivered ⟨b, calls⟩) :
    calls.map (LlmCall.complete b.library) = delivered ++ buffered b.emitLlmComplete := by
  rcases balances with ⟨unobserved, _, sum⟩ |
    ⟨closed, last, rfl, observed, _, _, tokens, toolCalls, rounds, sum⟩
  · rw [emitLlmComplete_none unobserved]
    exact sum
  · rw [emitLlmComplete_own observed tokens toolCalls rounds, List.map_append]
    unfold buffered
    rw [buffered_append, ← List.append_assoc]
    exact congrArg (· ++ _) sum

/-- What is settled stays so whatever else happens in the phases without a stream. -/
theorem Balances.of_sum {s : ObservedBackend} (unobserved : s.backend.obs = none)
    (idle : s.backend.phase ≠ .streaming)
    (sum : s.calls.map (LlmCall.complete s.backend.library) = delivered ++ buffered s.backend) :
    Balances delivered s := .settled unobserved idle sum

/-- Without a stream the calls are accounted for. -/
theorem Balances.sum_of_idle {s : ObservedBackend} (balances : Balances delivered s)
    (idle : s.backend.phase ≠ .streaming) : s.backend.obs = none ∧
      s.calls.map (LlmCall.complete s.backend.library) = delivered ++ buffered s.backend := by
  rcases balances with ⟨unobserved, _, sum⟩ | ⟨_, _, _, _, busy, _⟩
  · exact ⟨unobserved, sum⟩
  · exact absurd busy idle

/-! ## Inside `recv` -/

/-- The request of the stream that is being opened is the last one. -/
def Requested (b : DefaultAgentBackend) : Prop :=
  ∃ schemas temperature maxTokens model,
    b.resolveLlmCallParams = .ok (schemas, temperature, maxTokens, model) ∧
    b.requests.getLast? = some ⟨b.conversation, schemas, temperature, maxTokens, model⟩

/-- What is known where `recv` is suspended: while it waits for the stream no report is buffered. -/
def BalancedAt (delivered : List LlmCompletionData) (s : ObservedBackend) (point : RecvPoint) : Prop :=
  Balances delivered s ∧
    match point with
    | .stream => s.backend.phase = .streaming ∧ buffered s.backend = []
    | .startStream event => s.backend.phase ≠ .streaming ∧ Requested s.backend ∧ event.report? = none
    | .tools _ | .transform _ => s.backend.phase ≠ .streaming
    | .spinning => True

/-- What is known when `recv` has returned. -/
def BalancedAfter (delivered : List LlmCompletionData) (s : ObservedBackend)
    (event : Option AgentEvent) : Prop :=
  Balances (delivered ++ (event.bind AgentEvent.report?).toList) s

/-- An event that carries no report leaves the balance. -/
theorem Balances.after {s : ObservedBackend} (balances : Balances delivered s) {event : AgentEvent}
    (mute : event.report? = none) : BalancedAfter delivered s (some event) := by
  unfold BalancedAfter
  rw [Option.bind_some, mute, Option.toList_none, List.append_nil]
  exact balances

/-- A stream that is opened is observed from its start. -/
theorem balances_opened (requested : Requested b)
    (sum : calls.map (LlmCall.complete b.library) = delivered ++ buffered b) :
    Balances delivered
      ⟨{ b.openStream with phase := .streaming }, calls ++ ObservedBackend.opened b⟩ := by
  obtain ⟨schemas, temperature, maxTokens, model, resolved, last⟩ := requested
  have isOpened : ObservedBackend.opened b =
      [⟨⟨b.conversation, schemas, temperature, maxTokens, model⟩, b.toolRounds, []⟩] := by
    rw [ObservedBackend.opened, last]
    rfl
  refine .streaming calls _ (congrArg (calls ++ ·) isOpened) ?_ rfl ?_ ?_ ?_ ?_ ?_
  · unfold DefaultAgentBackend.openStream
    rw [resolved]
    rfl
  · rfl
  · rfl
  · rfl
  · rfl
  · exact sum

/-- **A call that enters its phase stays in balance.** -/
theorem balancedAt_enterPhase (balances : Balances delivered ⟨b, calls⟩) (empty : buffered b = []) :
    Holds (BalancedAt delivered) (BalancedAfter delivered)
      (⟨b.enterPhase.1, calls⟩, b.enterPhase.2) := by
  cases phase : b.phase with
  | idle =>
    have entered : b.enterPhase = (b, .ready none) := by
      simp only [DefaultAgentBackend.enterPhase, phase]
    rw [entered]
    show Balances _ _
    rw [Option.bind_none, Option.toList_none, List.append_nil]
    exact balances
  | streaming =>
    have entered : b.enterPhase = (b, .pending (if b.llmEventRx then .stream else .spinning)) := by
      simp only [DefaultAgentBackend.enterPhase, phase]
    rw [entered]
    cases b.llmEventRx with
    | true => exact ⟨balances, phase, empty⟩
    | false => exact ⟨balances, trivial⟩
  | waitingForTools =>
    have idle : b.phase ≠ .streaming := by
      rw [phase]
      exact AgentPhase.noConfusion
    have entered : b.enterPhase =
        ({ b with fillerTask := none }, .pending (.tools b.fillerTask)) := by
      simp only [DefaultAgentBackend.enterPhase, phase]
    rw [entered]
    exact ⟨balances, idle⟩

/-- A call that is entered stays in balance. -/
theorem balancedAt_enter (s : ObservedBackend) (balances : Balances delivered s) :
    Holds (BalancedAt delivered) (BalancedAfter delivered) (ObservedBackend.recvCall.enter s) := by
  obtain ⟨b, calls⟩ := s
  rw [ObservedBackend.recvCall_enter]
  dsimp only
  rcases events : b.eventBuffer with - | ⟨event, rest⟩
  · have entered : b.enter = b.enterPhase := by
      simp only [DefaultAgentBackend.enter, events]
    rw [entered]
    refine balancedAt_enterPhase balances ?_
    rw [buffered, events]
    rfl
  · have entered : b.enter = ({ b with eventBuffer := rest }, .ready (some event)) := by
      simp only [DefaultAgentBackend.enter, events]
    have moved : delivered ++ buffered b = delivered ++ (event.report?).toList ++
        rest.filterMap AgentEvent.report? := by
      rw [buffered, events, List.append_assoc, List.filterMap_cons]
      cases event.report? <;> rfl
    unfold Balances at balances
    dsimp only at balances
    rw [moved] at balances
    rw [entered]
    exact balances

/-- What happens in the background changes nothing here. -/
theorem balancedAt_background {point : RecvPoint} (at_ : BalancedAt delivered ⟨b, calls⟩ point)
    (event : Background) : BalancedAt delivered ⟨b.background event, calls⟩ point := by
  obtain ⟨tasks, results, summarizer, happened⟩ := DefaultAgentBackend.background_eq b event
  rw [happened]
  exact at_

/-- An item of the stream goes to the call it belongs to. -/
theorem balancedAt_item (at_ : BalancedAt delivered ⟨b, calls⟩ .stream) (item : InnerLlmEvent)
    (uuid : String) : Holds (BalancedAt delivered) (BalancedAfter delivered)
      (⟨(b.handleStreamItem item uuid).1,
        calls.dropLast ++ (calls.getLast?.map (·.add item uuid)).toList⟩,
        (b.handleStreamItem item uuid).2) := by
  obtain ⟨balances, phase, empty⟩ := at_
  dsimp only at phase empty
  rcases balances with ⟨_, idle, _⟩ |
    ⟨closed, last, rfl, observed, busy, isOpen, tokens, toolCalls, rounds, sum⟩
  · exact absurd phase idle
  dsimp only at observed busy isOpen tokens toolCalls rounds sum
  have added : (closed ++ [last]).dropLast ++
      (((closed ++ [last]).getLast?).map (·.add item uuid)).toList =
        closed ++ [last.add item uuid] := by simp
  rw [added]
  have unseen : LlmCall.countUsage (last.observation b.library) (item, uuid) =
      last.observation b.library → b.obs = some ((last.add item uuid).observation b.library) := by
    intro same
    rw [LlmCall.observation_add, same]
    exact observed
  cases item with
  | token text =>
    refine Balances.after (.streaming closed _ rfl (unseen rfl) busy isOpen ?_ ?_ rounds sum) rfl
    · rw [tokens_add_token, ← tokens]
      rfl
    · rw [toolCalls_add_token]
      exact toolCalls
  | usage promptTokens completionTokens cachedInputTokens =>
    refine ⟨.streaming closed _ rfl ?_ busy isOpen ?_ ?_ rounds sum, phase, empty⟩
    · rw [LlmCall.observation_add]
      exact congrArg (Option.map _) observed
    · rw [tokens_add_usage]
      exact tokens
    · rw [toolCalls_add_usage]
      exact toolCalls
  | error message =>
    have sealed := emitLlmComplete_own observed tokens toolCalls rounds
    have cancelled : b.cancel.1 = some (.llmComplete (last.complete b.library)) ∧
        b.cancel.2.obs = none ∧ b.cancel.2.eventBuffer = [] ∧ b.cancel.2.phase = .idle := by
      unfold DefaultAgentBackend.cancel
      rw [sealed]
      simp
    obtain ⟨reported, unobserved, cleared, idle⟩ := cancelled
    have handled : (b.handleStreamItem (.error message) uuid) =
        ({ b.cancel.2 with eventBuffer := [.llmComplete (last.complete b.library)] },
          .ready (some (.error message))) := by
      unfold DefaultAgentBackend.handleStreamItem
      dsimp only
      rw [reported, cleared]
      rfl
    have sameLibrary : b.cancel.2.library = b.library := by
      unfold DefaultAgentBackend.cancel
      rw [sealed]
    rw [handled]
    refine Balances.of_sum unobserved (idle ▸ AgentPhase.noConfusion) ?_
    show (closed ++ [_]).map (LlmCall.complete b.cancel.2.library) = _
    rw [sameLibrary, List.map_append, List.map_singleton, complete_add_error, sum, empty]
    simp [AgentEvent.report?, buffered]
  | toolCall call =>
    unfold DefaultAgentBackend.handleStreamItem
    dsimp only
    by_cases hangUp : call.name = hangUpToolName
    · rw [if_pos hangUp]
      have intercepted := toolCalls_add_intercepted last uuid (.inl hangUp)
      unfold DefaultAgentBackend.handleHangUp
      split
      all_goals
        refine ⟨.streaming closed _ rfl (unseen rfl) busy isOpen ?_ ?_ rounds sum, phase, empty⟩
        · rw [tokens_add_toolCall]
          exact tokens
        · rw [intercepted]
          exact toolCalls
    · rw [if_neg hangUp]
      by_cases onHold : call.name = onHoldToolName
      · rw [if_pos onHold]
        have silent : buffered (b.handleOnHold call) = buffered b := by
          unfold buffered DefaultAgentBackend.handleOnHold
          rw [buffered_append]
          exact List.append_nil _
        refine ⟨.streaming closed _ rfl (unseen rfl) busy isOpen ?_ ?_ rounds ?_, phase, ?_⟩
        · rw [tokens_add_toolCall]
          exact tokens
        · rw [toolCalls_add_intercepted last uuid (.inr onHold)]
          exact toolCalls
        · rw [silent]
          exact sum
        · exact silent.trans empty
      · rw [if_neg onHold]
        refine Balances.after (.streaming closed _ rfl (unseen rfl) busy isOpen ?_ ?_ rounds sum) rfl
        · rw [tokens_add_toolCall]
          exact tokens
        · rw [toolCalls_add_toolCall last uuid hangUp onHold, ← toolCalls]
          rfl

/-- The end of a stream buffers the report of its call. -/
theorem balancedAt_close (at_ : BalancedAt delivered ⟨b, calls⟩ .stream) :
    Holds (BalancedAt delivered) (BalancedAfter delivered)
      (⟨b.closeStream.1, calls⟩, b.closeStream.2) := by
  have sum := at_.1.emit
  have quiet : b.emitLlmComplete.obs = none ∧ b.emitLlmComplete.library = b.library := by
    obtain ⟨complete, -, emitted⟩ := b.emitLlmComplete_eq
    rw [emitted]
    exact ⟨rfl, rfl⟩
  obtain ⟨unobserved, sameLibrary⟩ := quiet
  rw [← sameLibrary] at sum
  unfold DefaultAgentBackend.closeStream
  simp only [DefaultAgentBackend.pushAssistantMessage_eq]
  by_cases alone : b.emitLlmComplete.toolsRemaining = 0
  · rw [if_pos alone]
    rcases b.emitLlmComplete.pendingHangUp with - | pending
    · exact (Balances.of_sum unobserved AgentPhase.noConfusion sum).after rfl
    · exact (Balances.of_sum unobserved AgentPhase.noConfusion sum).after rfl
  · rw [if_neg alone]
    exact ⟨Balances.of_sum unobserved AgentPhase.noConfusion sum, AgentPhase.noConfusion⟩

/-- Counting a tool result reports nothing. -/
theorem balancedAt_finishResult (balances : Balances delivered ⟨b, calls⟩)
    (idle : b.phase ≠ .streaming) (result : ToolTaskResult) (content : String) :
    Holds (BalancedAt delivered) (BalancedAfter delivered)
      (⟨(b.finishResult result content).1, calls⟩, (b.finishResult result content).2) := by
  obtain ⟨unobserved, sum⟩ := balances.sum_of_idle idle
  have silent (event : AgentEvent) (mute : event.report? = none) :
      (b.eventBuffer ++ [event]).filterMap AgentEvent.report? = buffered b := by
    rw [buffered_append, List.filterMap_cons_none mute]
    exact List.append_nil _
  rcases DefaultAgentBackend.finishResult_cases result content b with
    ⟨-, eq⟩ | ⟨-, ⟨pending, -, eq⟩ | ⟨-, -, eq⟩ | ⟨-, -, ⟨asked, requested, eq⟩ | ⟨message, -, eq⟩⟩⟩
  · rw [eq]
    exact (Balances.of_sum unobserved idle sum).after rfl
  · rw [eq]
    refine Balances.after ?_ ?_
    · exact Balances.of_sum unobserved AgentPhase.noConfusion
        (sum.trans (congrArg (delivered ++ ·) (silent _ rfl).symm))
    · rfl
  · rw [eq]
    refine Balances.after ?_ ?_
    · exact Balances.of_sum unobserved AgentPhase.noConfusion
        (sum.trans (congrArg (delivered ++ ·) (silent _ rfl).symm))
    · rfl
  · rw [eq]
    obtain ⟨schemas, temperature, maxTokens, model, resolved, rfl⟩ :=
      DefaultAgentBackend.requestStream_eq requested
    refine ⟨Balances.of_sum unobserved idle sum, idle, ?_, rfl⟩
    exact ⟨schemas, temperature, maxTokens, model, resolved, List.getLast?_concat⟩
  · rw [eq]
    refine Balances.after ?_ ?_
    · exact Balances.of_sum unobserved AgentPhase.noConfusion
        (sum.trans (congrArg (delivered ++ ·) (silent _ rfl).symm))
    · rfl

/-- A tool result is not reported on the way either. -/
theorem balancedAt_handleResult (balances : Balances delivered ⟨b, calls⟩)
    (idle : b.phase ≠ .streaming) (result : ToolTaskResult) :
    Holds (BalancedAt delivered) (BalancedAfter delivered)
      (⟨(b.handleResult result).1, calls⟩, (b.handleResult result).2) := by
  let taken : DefaultAgentBackend :=
    { b with pendingToolInfo := b.pendingToolInfo.filter (·.1 != result.callId) }
  have balances : Balances delivered ⟨taken, calls⟩ := balances
  unfold DefaultAgentBackend.handleResult
  dsimp only
  split
  · exact ⟨balances, idle⟩
  · exact balancedAt_finishResult balances idle result result.result

/-- **A call that is resumed stays in balance.** -/
theorem balancedAt_resume (s : ObservedBackend) (point : RecvPoint) (wake : Wake)
    (at_ : BalancedAt delivered s point) : Holds (BalancedAt delivered) (BalancedAfter delivered)
      (ObservedBackend.recvCall.resume s point wake) := by
  obtain ⟨b, calls⟩ := s
  rw [ObservedBackend.recvCall_resume]
  cases point with
  | stream =>
    rcases wake with event | ⟨- | item, uuid⟩ | - | (- | text) | content | (message | -)
    · exact balancedAt_background at_ event
    · exact balancedAt_close at_
    · exact balancedAt_item at_ item uuid
    all_goals exact at_
  | tools filler =>
    rcases wake with event | ⟨- | item, uuid⟩ | - | (- | text) | content | (message | -)
    · exact balancedAt_background at_ event
    · cases filler <;> exact at_
    · cases filler <;> exact at_
    -- A result is taken from the channel and handled.
    · obtain ⟨balances, idle⟩ := at_
      unfold DefaultAgentBackend.resume
      dsimp only
      rcases b.toolResults with - | ⟨result, rest⟩
      · cases filler <;> exact ⟨balances, idle⟩
      -- What is reported does not depend on the results.
      · let taken : DefaultAgentBackend := { b with toolResults := rest }
        have balances : Balances delivered ⟨taken, calls⟩ := balances
        cases filler <;> exact balancedAt_handleResult balances idle result
    · cases filler <;> exact at_
    · cases filler with
      | none => exact at_
      | some task => exact Balances.after at_.1 rfl
    all_goals cases filler <;> exact at_
  | transform result =>
    rcases wake with event | ⟨- | item, uuid⟩ | - | (- | text) | content | (message | -)
    · exact balancedAt_background at_ event
    · exact at_
    · exact at_
    · exact at_
    · exact at_
    · exact at_
    · exact balancedAt_finishResult at_.1 at_.2 result content
    · exact at_
    · exact at_
  | startStream event =>
    rcases wake with happened | ⟨- | item, uuid⟩ | - | (- | text) | content | (message | -)
    · exact balancedAt_background at_ happened
    · exact at_
    · exact at_
    · exact at_
    · exact at_
    · exact at_
    · exact at_
    -- The request was refused: the error is no report, and no stream is observed.
    · obtain ⟨balances, idle, _, mute⟩ := at_
      obtain ⟨unobserved, sum⟩ := balances.sum_of_idle idle
      refine Balances.after ?_ mute
      refine Balances.of_sum unobserved AgentPhase.noConfusion (sum.trans ?_)
      refine congrArg (delivered ++ ·) ?_
      show buffered b = (b.eventBuffer ++ [AgentEvent.error message]).filterMap AgentEvent.report?
      rw [buffered_append]
      exact (List.append_nil _).symm
    -- The stream is opened: a new call is observed.
    · obtain ⟨balances, idle, requested, mute⟩ := at_
      obtain ⟨_, sum⟩ := balances.sum_of_idle idle
      exact (balances_opened requested sum).after mute
  | spinning =>
    rcases wake with event | ⟨- | item, uuid⟩ | - | (- | text) | content | (message | -)
    · exact balancedAt_background at_ event
    all_goals exact at_

/-- **`recv` keeps the balance**, also where it is dropped. -/
theorem balances_recv {s : ObservedBackend} (balances : Balances delivered s) (wakes : List Wake) :
    Holds (BalancedAt delivered) (BalancedAfter delivered)
      (ObservedBackend.recvCall.drive wakes s) := by
  have allowed : ObservedBackend.recvCall.Along (fun _ _ _ => True) wakes s :=
    Call.along_of_forall (fun _ _ _ => trivial) wakes s
  refine Call.drive_rule balancedAt_enter ?_ balances allowed
  intro s point wake at_ _
  exact balancedAt_resume s point wake at_

/-! ## The other calls -/

/-- A turn that is started while none is active. -/
theorem balances_startTurn (balances : Balances delivered ⟨b, calls⟩) (idle : b.isActive = false)
    (reply : TurnReply) :
    Balances delivered ⟨(b.startTurn reply).2,
      match (b.startTurn reply).1 with
      | .ok _ => calls ++ ObservedBackend.opened (b.startTurn reply).2
      | .error _ => calls⟩ := by
  unfold DefaultAgentBackend.isActive at idle
  rw [Bool.or_eq_false_iff, bne_eq_false_iff_eq, Bool.not_eq_false', List.isEmpty_iff] at idle
  obtain ⟨phase, empty⟩ := idle
  have quiet : b.phase ≠ .streaming := by
    rw [phase]
    exact AgentPhase.noConfusion
  obtain ⟨unobserved, sum⟩ := balances.sum_of_idle quiet
  obtain ⟨tasks, results, summarizer, happened⟩ :=
    DefaultAgentBackend.backgrounds_eq b reply.background
  obtain ⟨conversation, summarizer', -, prepared⟩ := DefaultAgentBackend.prepareTurn_eq reply b
  rw [happened] at prepared
  have cleared : calls.map (LlmCall.complete b.library) = delivered ++ [] := by
    rw [← show buffered b = [] by rw [buffered, empty]; rfl]
    exact sum
  have ready : Balances delivered ⟨b.prepareTurn reply, calls⟩ := by
    rw [prepared]
    exact Balances.of_sum unobserved quiet cleared
  rcases DefaultAgentBackend.startTurn_cases reply b with
    ⟨⟨message, failed⟩, eq⟩ | ⟨asked, requested, ⟨⟨message, failed⟩, eq⟩ | ⟨opened, eq⟩⟩
  · rw [failed, eq]
    exact ready
  · obtain ⟨schemas, temperature, maxTokens, model, resolved, rfl⟩ :=
      DefaultAgentBackend.requestStream_eq requested
    rw [failed, eq]
    exact ready
  · obtain ⟨schemas, temperature, maxTokens, model, resolved, rfl⟩ :=
      DefaultAgentBackend.requestStream_eq requested
    rw [opened, eq]
    obtain ⟨_, sum⟩ := ready.sum_of_idle (by rw [prepared]; exact quiet)
    exact balances_opened ⟨schemas, temperature, maxTokens, model, resolved, List.getLast?_concat⟩ sum

/-- What `cancel` hands out, and leaves. -/
theorem cancel_parts (b : DefaultAgentBackend) :
    b.cancel.1 = b.emitLlmComplete.eventBuffer.getLast? ∧ b.cancel.2.obs = none ∧
      b.cancel.2.phase = .idle ∧ b.cancel.2.eventBuffer = [] ∧ b.cancel.2.library = b.library := by
  obtain ⟨complete, -, emitted⟩ := b.emitLlmComplete_eq
  unfold DefaultAgentBackend.cancel
  rw [emitted]
  exact ⟨rfl, rfl, rfl, rfl, rfl⟩

/-- The reports of a buffer are those in front and the last one. -/
theorem reports_split (events : List AgentEvent) : events.filterMap AgentEvent.report? =
    events.dropLast.filterMap AgentEvent.report? ++
      (events.getLast?.bind AgentEvent.report?).toList := by
  rcases List.eq_nil_or_concat events with rfl | ⟨front, last, rfl⟩
  · rfl
  · rw [List.concat_eq_append, buffered_append, List.dropLast_concat, List.getLast?_concat,
      Option.bind_some]
    cases report : last.report? with
    | none => rw [List.filterMap_cons_none report, List.filterMap_nil, Option.toList_none]
    | some data => rw [List.filterMap_cons_some report, List.filterMap_nil, Option.toList_some]

/-- After `cancel` what was delivered lacks the reports in front of the last event. -/
theorem sum_cancel (balances : Balances delivered ⟨b, calls⟩) :
    calls.map (LlmCall.complete b.cancel.2.library) =
      delivered ++ b.emitLlmComplete.eventBuffer.dropLast.filterMap AgentEvent.report? ++
        (b.cancel.1.bind AgentEvent.report?).toList := by
  obtain ⟨handed, -, -, -, sameLibrary⟩ := cancel_parts b
  rw [sameLibrary, handed, balances.emit, buffered, reports_split, List.append_assoc]

end Keeps

/-! ## Runs -/

/-- The balance of a ledger. -/
def InBalance (s : LlmLedger) : Prop := Balances s.delivered s.observed

/-- A ledger in balance accounts for its calls. -/
theorem InBalance.accounted (s : LlmLedger) (balance : s.InBalance) : s.Accounted := by
  unfold Accounted closedCalls backend
  rcases balance with ⟨unobserved, _, sum⟩ | ⟨closed, last, split, observed, _, _, _, _, _, sum⟩
  · rw [unobserved]
    exact sum
  · rw [observed, split]
    simpa using sum

/-- **No step but a `cancel` loses a report.** -/
theorem inBalance_step (s : LlmLedger) (call : AgentCall) (balance : s.InBalance)
    (keeps : s.Keeps call) : (s.step call).InBalance := by
  obtain ⟨⟨b, calls⟩, delivered⟩ := s
  cases call with
  | startTurn reply =>
    unfold step backend
    dsimp only
    cases active : b.isActive with
    | true => exact balance
    | false =>
      have started : Balances delivered _ := balances_startTurn balance active reply
      rw [if_neg Bool.false_ne_true]
      rcases result : b.startTurn reply with ⟨message | opened, t⟩
      · rw [result] at started
        exact started
      · rw [result] at started
        exact started
  | recv wakes =>
    have driven := balances_recv balance wakes
    unfold step
    dsimp only at driven ⊢
    rcases result : ObservedBackend.recvCall.drive wakes ⟨b, calls⟩ with ⟨t, event | point⟩
    · rw [result] at driven
      exact driven
    · rw [result] at driven
      exact driven.1
  | cancel =>
    have sum := sum_cancel balance
    obtain ⟨-, unobserved, idle, empty, -⟩ := cancel_parts b
    have front : b.emitLlmComplete.eventBuffer.dropLast.filterMap AgentEvent.report? = [] :=
      List.filterMap_eq_nil_iff.2 keeps
    rw [front, List.append_nil] at sum
    refine Balances.of_sum unobserved (idle ▸ AgentPhase.noConfusion) (sum.trans ?_)
    show _ = _ ++ buffered b.cancel.2
    rw [buffered, empty]
    exact (List.append_nil _).symm
  | background event =>
    obtain ⟨tasks, results, summarizer, happened⟩ := DefaultAgentBackend.background_eq b event
    show Balances delivered ⟨b.background event, calls⟩
    rw [happened]
    exact balance
  | setSystemPrompt | addUserMessage | addAssistantMessage => exact balance

/-- A `cancel` that throws reports away leaves calls unaccounted for. -/
theorem lost_of_cancel (s : LlmLedger) (call : AgentCall) (balance : s.InBalance)
    (loses : ¬ s.Keeps call) : ¬ (s.step call).Accounted := by
  obtain ⟨⟨b, calls⟩, delivered⟩ := s
  cases call with
  | cancel =>
    intro accounted
    have sum := congrArg List.length (sum_cancel balance)
    obtain ⟨-, unobserved, -, empty, -⟩ := cancel_parts b
    have counted : calls.map (LlmCall.complete b.cancel.2.library) =
        delivered ++ (b.cancel.1.bind AgentEvent.report?).toList ++ buffered b.cancel.2 := by
      have counted := accounted
      unfold Accounted closedCalls step backend at counted
      dsimp only at counted
      rw [unobserved] at counted
      exact counted
    have shorter := congrArg List.length counted
    rw [buffered, empty] at shorter
    simp only [List.length_append, List.filterMap_nil, List.length_nil] at sum shorter
    have front : b.emitLlmComplete.eventBuffer.dropLast.filterMap AgentEvent.report? = [] :=
      List.eq_nil_of_length_eq_zero (by omega)
    exact loses (List.filterMap_eq_nil_iff.1 front)
  | _ => exact absurd trivial loses

/-- At the start nothing was observed. -/
theorem inBalance_start (library : AgentLibrary) (agentGraph : Option AgentGraphDef)
    (config : AgentBackendConfig) :
    (start (DefaultAgentBackend.new library agentGraph config)).InBalance :=
  Balances.of_sum rfl AgentPhase.noConfusion rfl

/-- **Every LLM call is accounted for exactly once** all along a run of calls on a new backend
exactly if no `cancel` throws a buffered report away; and then whenever no turn is active, what was
delivered are the reports of all calls in order. -/
theorem accounted_once_iff (library : AgentLibrary) (agentGraph : Option AgentGraphDef)
    (config : AgentBackendConfig) (calls : List AgentCall) :
    let new := start (DefaultAgentBackend.new library agentGraph config)
    ((∀ front, front <+: calls → (run step new front).Accounted) ↔ Along step Keeps new calls) ∧
    (Along step Keeps new calls → (run step new calls).backend.isActive = false →
      (run step new calls).observed.calls.map
        (LlmCall.complete (run step new calls).backend.library) = (run step new calls).delivered) := by
  intro new
  have balanced := inBalance_start library agentGraph config
  refine ⟨?_, fun keeps rest => ?_⟩
  · exact good_iff_along InBalance.accounted inBalance_step lost_of_cancel balanced calls
  · have balance : (run step new calls).InBalance := invariant inBalance_step balanced keeps
    unfold DefaultAgentBackend.isActive at rest
    rw [Bool.or_eq_false_iff, bne_eq_false_iff_eq, Bool.not_eq_false', List.isEmpty_iff] at rest
    obtain ⟨phase, empty⟩ := rest
    obtain ⟨-, sum⟩ := Balances.sum_of_idle balance (phase ▸ AgentPhase.noConfusion)
    refine sum.trans ?_
    rw [buffered, show (run step new calls).observed.backend.eventBuffer = [] from empty]
    exact List.append_nil _

/-- A turn whose second LLM call has just begun: the report of the first is still buffered. -/
def secondRound : List AgentCall :=
  [.startTurn ⟨[], .ok ()⟩,
    .recv [.llm (some (.toolCall ⟨"lookup", "", some "one", none⟩)) ""],
    .recv [.llm none "", .background (.toolDone 0 true "found"), .toolResult,
      .streamStarted (.ok ())]]

/-- **A report is lost.**  When the turn is cancelled while the second call streams, `cancel` hands
out the report of the second call and clears that of the first. -/
theorem first_report_lost :
    let s := run step (start (.new DefaultAgentBackend.silentLibrary none {}))
      (secondRound ++ [.cancel])
    s.backend.isActive = false ∧ s.observed.calls.length = 2 ∧
      s.delivered.map (·.spanLabel) = ["llm_tool_resp"] ∧
      s.observed.calls.map (LlmCall.complete s.backend.library) ≠ s.delivered := by
  decide +kernel

end LlmLedger

end Feros
