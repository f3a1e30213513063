import Feros.Agent.Calls
import Mathlib.Data.List.Perm.Basic
/-! # The events of an agent turn

A turn that has started is driven by `recv` until it returns `none`.

* **`TurnProtocol`** says what its events must look like.
* **`Tally`** is what the events so far look like while some tool calls are not answered yet; it is
  a fact about lists of events alone.
* **`Live`** and **`Done`** relate the backend to the events before and after the terminal one, and
  **`LiveAt`** does where `recv` waits. -/

namespace Feros

open Run Suspension

/-! ## Traces of events -/

/-- The ids of the tool calls that have started. -/
def startedIds (events : List AgentEvent) : List String := events.filterMap AgentEvent.startedId?

/-- **The protocol of a turn.**  It has one terminal event, nothing of its work comes after it, and
every tool call is answered once after it started. -/
structure TurnProtocol (events : List AgentEvent) : Prop where
  ends : ∃ front last back, events = front ++ last :: back ∧ last.isTerminal = true ∧
    (∀ event ∈ front, event.isTerminal = false) ∧ ∀ event ∈ back, event.isPassive = true
  answered : ∀ front id name sideEffect back,
    events = front ++ .toolCallStarted id name sideEffect :: back →
      back.countP (AgentEvent.completes id) = 1

/-- **The tool calls of a trace**: those in `waiting` are not answered yet, the others once. -/
structure Tally (events : List AgentEvent) (waiting : List String) : Prop where
  distinct : waiting.Nodup
  started : ∀ id ∈ waiting, id ∈ startedIds events
  answered : ∀ front id name sideEffect back,
    events = front ++ .toolCallStarted id name sideEffect :: back →
      back.countP (AgentEvent.completes id) = if id ∈ waiting then 0 else 1

/-- An element of a list that grew at its end is the new one or was there before. -/
theorem split_concat {α : Type*} {events front back : List α} {last event : α}
    (split : events ++ [last] = front ++ event :: back) :
    (back = [] ∧ front = events ∧ event = last) ∨
      ∃ before, back = before ++ [last] ∧ events = front ++ event :: before := by
  rcases List.eq_nil_or_concat back with rfl | ⟨before, e, rfl⟩
  · obtain ⟨same, last⟩ := List.append_inj' split rfl
    exact .inl ⟨rfl, same.symm, (List.singleton_inj.1 last).symm⟩
  · rw [List.concat_eq_append, ← List.cons_append, ← List.append_assoc] at split
    obtain ⟨same, last⟩ := List.append_inj' split rfl
    rw [List.concat_eq_append, ← List.singleton_inj.1 last]
    exact .inr ⟨before, rfl, same⟩

namespace Tally

variable {events : List AgentEvent} {waiting : List String}

/-- Without events nothing waits. -/
theorem nil : Tally [] [] where
  distinct := List.nodup_nil
  started _ held := absurd held List.not_mem_nil
  answered front id name sideEffect back split := by
    have length := congrArg List.length split
    simp at length

/-- The order in which tools wait does not matter. -/
theorem perm {waiting' : List String} (tally : Tally events waiting) (same : waiting.Perm waiting') :
    Tally events waiting' where
  distinct := same.nodup tally.distinct
  started id held := tally.started id (same.mem_iff.2 held)
  answered front id name sideEffect back split := by
    rw [tally.answered front id name sideEffect back split]
    simp only [same.mem_iff]

/-- An event that neither starts nor answers a tool call. -/
theorem other (tally : Tally events waiting) {event : AgentEvent} (starts : event.startedId? = none)
    (answers : ∀ id, event.completes id = false) : Tally (events ++ [event]) waiting where
  distinct := tally.distinct
  started id held := by
    rw [startedIds, List.filterMap_append]
    exact List.mem_append_left _ (tally.started id held)
  answered front id name sideEffect back split := by
    rcases split_concat split with ⟨-, -, rfl⟩ | ⟨before, rfl, earlier⟩
    · cases starts
    · rw [List.countP_append, tally.answered front id name sideEffect before earlier,
        List.countP_singleton, answers id]
      simp

/-- A tool call starts that has a new id. -/
theorem start (tally : Tally events waiting) {id : String} (fresh : id ∉ startedIds events)
    (name : String) (sideEffect : Bool) :
    Tally (events ++ [.toolCallStarted id name sideEffect]) (id :: waiting) where
  distinct := List.nodup_cons.2 ⟨fun held => fresh (tally.started id held), tally.distinct⟩
  started i held := by
    rw [startedIds, List.filterMap_append, List.mem_append]
    rcases List.mem_cons.1 held with rfl | held
    · exact .inr (by simp [AgentEvent.startedId?])
    · exact .inl (tally.started i held)
  answered front i n s back split := by
    rcases split_concat split with ⟨rfl, -, same⟩ | ⟨before, rfl, earlier⟩
    · injection same with same
      subst same
      simp
    · -- An earlier call has another id.
      have known : i ∈ startedIds events := by
        rw [earlier, startedIds, List.filterMap_append]
        exact List.mem_append_right _ (by simp [AgentEvent.startedId?])
      have different : i ≠ id := fun same => fresh (same ▸ known)
      rw [List.countP_append, tally.answered front i n s before earlier]
      simp [different, AgentEvent.completes]

/-- A tool call that waits is answered. -/
theorem complete {id : String} (tally : Tally events (id :: waiting)) (name : String)
    (success : Bool) (errorMessage : Option String) :
    Tally (events ++ [.toolCallCompleted id name success errorMessage]) waiting where
  distinct := (List.nodup_cons.1 tally.distinct).2
  started i held := by
    rw [startedIds, List.filterMap_append]
    exact List.mem_append_left _ (tally.started i (List.mem_cons_of_mem id held))
  answered front i n s back split := by
    obtain ⟨other, -⟩ := List.nodup_cons.1 tally.distinct
    rcases split_concat split with ⟨-, -, same⟩ | ⟨before, rfl, earlier⟩
    · cases same
    · rw [List.countP_append, tally.answered front i n s before earlier, List.countP_singleton]
      by_cases same : id = i
      · subst same
        simp [AgentEvent.completes, other]
      · have different : ¬ i = id := fun h => same h.symm
        simp [AgentEvent.completes, same, different]

end Tally

/-! ## The backend in a turn -/

namespace DefaultAgentBackend

/-- **The tools that are outstanding** are those the trace waits for. -/
structure Awaited (tasks : List ToolTask) (results : List ToolTaskResult) (remaining : ℕ)
    (events : List AgentEvent) : Prop where
  tally : Tally events (tasks.map (·.callId) ++ results.map (·.callId))
  counted : remaining = tasks.length + results.length

/-- **Rounds**: one LLM call for each, after the `made` ones of earlier turns, and no more than the
`limit` allows. -/
structure Rounds (made limit calls toolRounds : ℕ) : Prop where
  calls : calls ≤ made + toolRounds + 1
  bounded : toolRounds + 1 ≤ max 1 limit

/-- **The turn goes on**: `recv` holds the results `held`, and `events` were delivered. -/
structure Live (made limit : ℕ) (held : List ToolTaskResult) (b : DefaultAgentBackend)
    (events : List AgentEvent) : Prop where
  active : b.phase ≠ .idle
  awaited : Awaited b.toolTasks (held ++ b.toolResults) b.toolsRemaining events
  config : b.config.maxToolRounds = limit
  rounds : Rounds made limit b.requests.length b.toolRounds
  running : ∀ event ∈ events, event.isTerminal = false
  passive : ∀ event ∈ b.eventBuffer, event.isPassive = true

/-- **The turn is over** when `events` and what is left in the buffer are delivered. -/
structure Done (made limit : ℕ) (b : DefaultAgentBackend) (events : List AgentEvent) : Prop where
  idle : b.phase = .idle
  calls : b.requests.length ≤ made + max 1 limit
  protocol : TurnProtocol (events ++ b.eventBuffer)

/-- Where `recv` waits in a turn. -/
def LiveAt (made limit : ℕ) (events : List AgentEvent) (b : DefaultAgentBackend) : RecvPoint → Prop
  | .transform result => b.Live made limit [result] events
  | .startStream event => b.Live made limit [] (events ++ [event]) ∧ b.toolsRemaining = 0
  | _ => b.Live made limit [] events

/-- Between the calls of `recv`. -/
def InTurn (made limit : ℕ) (events : List AgentEvent) (b : DefaultAgentBackend) : Prop :=
  b.Live made limit [] events ∨ b.Done made limit events

/-- What `recv` returns with. -/
def Returned (made limit : ℕ) (events : List AgentEvent) (b : DefaultAgentBackend) :
    Option AgentEvent → Prop
  | some event => b.InTurn made limit (events ++ [event])
  | none => b.Done made limit events ∧ b.eventBuffer = []

section

variable {tasks : List ToolTask} {results : List ToolTaskResult} {remaining : ℕ}
  {events : List AgentEvent}

/-- An event that neither starts a tool nor answers one. -/
theorem Awaited.other (awaited : Awaited tasks results remaining events) {event : AgentEvent}
    (starts : event.startedId? = none) (answers : ∀ id, event.completes id = false) :
    Awaited tasks results remaining (events ++ [event]) :=
  ⟨awaited.tally.other starts answers, awaited.counted⟩

/-- A tool is spawned. -/
theorem Awaited.spawn (awaited : Awaited tasks results remaining events) (task : ToolTask)
    (fresh : task.callId ∉ startedIds events) :
    Awaited (tasks ++ [task]) results (remaining + 1)
      (events ++ [.toolCallStarted task.callId task.name task.sideEffect]) where
  tally := by
    refine (awaited.tally.start fresh task.name task.sideEffect).perm ?_
    rw [List.map_append, List.append_assoc]
    exact List.perm_middle.symm
  counted := by
    have counted := awaited.counted
    rw [List.length_append, List.length_singleton]
    omega

/-- A task sends its result. -/
theorem Awaited.send (awaited : Awaited tasks results remaining events) {i : ℕ} {task : ToolTask}
    (found : tasks[i]? = some task) {result : ToolTaskResult} (same : result.callId = task.callId) :
    Awaited (tasks.eraseIdx i) (results ++ [result]) remaining events := by
  obtain ⟨inside, get⟩ := List.getElem?_eq_some_iff.1 found
  have moved : tasks.Perm (task :: tasks.eraseIdx i) := by
    rw [← get]
    exact (List.getElem_cons_eraseIdx_perm inside).symm
  constructor
  · refine awaited.tally.perm ?_
    have ids := (moved.map (·.callId)).append_right (results.map (·.callId))
    refine ids.trans ?_
    rw [List.map_append, List.map_cons, List.map_singleton, same, ← List.append_assoc]
    exact (List.perm_append_singleton _ _).symm
  · have counted := awaited.counted
    rw [List.length_append, List.length_singleton, List.length_eraseIdx_of_lt inside]
    omega

/-- A result is counted. -/
theorem Awaited.count {result : ToolTaskResult}
    (awaited : Awaited tasks (result :: results) remaining events) (success : Bool)
    (errorMessage : Option String) :
    Awaited tasks results (usizePred remaining)
      (events ++ [.toolCallCompleted result.callId result.name success errorMessage]) where
  tally := by
    refine Tally.complete (awaited.tally.perm ?_) result.name success errorMessage
    exact List.perm_middle
  counted := by
    have counted := awaited.counted
    rw [List.length_cons] at counted
    rw [usizePred, if_neg (by omega)]
    omega

/-- With nothing left to count, every tool call is answered. -/
theorem Awaited.settled (awaited : Awaited tasks results remaining events) (none : remaining = 0) :
    tasks = [] ∧ results = [] ∧ Tally events [] := by
  have counted := awaited.counted
  have noTasks : tasks = [] := List.eq_nil_of_length_eq_zero (by omega)
  have noResults : results = [] := List.eq_nil_of_length_eq_zero (by omega)
  have tally := awaited.tally
  rw [noTasks, noResults] at tally
  exact ⟨noTasks, noResults, tally⟩

end

variable {made limit : ℕ} {b : DefaultAgentBackend} {held : List ToolTaskResult}
  {events : List AgentEvent}

/-- A terminal event is delivered, with passive ones behind it. -/
theorem protocol_of_settled (running : ∀ event ∈ events, event.isTerminal = false)
    (settled : Tally events []) {front back : List AgentEvent} {last : AgentEvent}
    (passive : ∀ event ∈ front, event.isPassive = true) (terminal : last.isTerminal = true)
    (after : ∀ event ∈ back, event.isPassive = true) :
    TurnProtocol (events ++ (front ++ last :: back)) := by
  have quiet : ∀ event : AgentEvent, event.isPassive = true →
      event.isTerminal = false ∧ event.startedId? = none ∧ ∀ id, event.completes id = false := by
    intro event
    cases event <;> simp [AgentEvent.isPassive, AgentEvent.isTerminal, AgentEvent.isWork,
      AgentEvent.startedId?, AgentEvent.completes]
  have silent : last.startedId? = none ∧ ∀ id, last.completes id = false := by
    revert terminal
    cases last <;> simp [AgentEvent.isTerminal, AgentEvent.startedId?, AgentEvent.completes]
  -- The tally passes over all of them.
  have extend : ∀ more : List AgentEvent,
      (∀ event ∈ more, event.startedId? = none ∧ ∀ id, event.completes id = false) →
        Tally (events ++ more) [] := by
    intro more others
    induction more using List.reverseRecOn with
    | nil => rwa [List.append_nil]
    | append_singleton more event ih =>
      rw [← List.append_assoc]
      have known := others event (List.mem_append_right _ (List.mem_singleton.2 rfl))
      refine (ih fun e held => others e (List.mem_append_left _ held)).other known.1 known.2
  constructor
  · refine ⟨events ++ front, last, back, by rw [List.append_assoc], terminal, ?_, after⟩
    intro event held
    rcases List.mem_append.1 held with held | held
    · exact running event held
    · exact (quiet event (passive event held)).1
  · intro before id name sideEffect rest split
    have tally := extend (front ++ last :: back) ?_
    · rw [tally.answered before id name sideEffect rest split, if_neg List.not_mem_nil]
    · intro event held
      rcases List.mem_append.1 held with held | held
      · exact (quiet event (passive event held)).2
      · rcases List.mem_cons.1 held with rfl | held
        · exact silent
        · exact (quiet event (after event held)).2

/-- Metadata starts nothing and ends nothing. -/
theorem passive_of_metadata {complete : List AgentEvent} (metadata : Metadata complete) :
    ∀ event ∈ complete, event.isPassive = true := by
  intro event held
  obtain ⟨data, rfl⟩ := metadata event held
  rfl

/-- One list of events after the other. -/
theorem passive_append {front back : List AgentEvent}
    (first : ∀ event ∈ front, event.isPassive = true)
    (second : ∀ event ∈ back, event.isPassive = true) :
    ∀ event ∈ front ++ back, event.isPassive = true := by
  intro event held
  rcases List.mem_append.1 held with held | held
  · exact first event held
  · exact second event held

/-- An event that does not end the turn. -/
theorem running_append (running : ∀ event ∈ events, event.isTerminal = false) (last : AgentEvent)
    (goes : last.isTerminal = false) : ∀ event ∈ events ++ [last], event.isTerminal = false := by
  intro event held
  rcases List.mem_append.1 held with held | held
  · exact running event held
  · rw [List.mem_singleton.1 held]
    exact goes

/-! ## Steps of a turn -/

/-- What happens in the background leaves the counter to `recv`. -/
theorem background_toolsRemaining (b : DefaultAgentBackend) (event : Background) :
    (b.background event).toolsRemaining = b.toolsRemaining := by
  cases event with
  | toolDone i success result =>
    unfold background
    dsimp only
    rcases b.toolTasks[i]? with - | task <;> rfl
  | summaryDone i summary => rfl

/-- The background leaves the turn live. -/
theorem live_background (live : b.Live made limit held events) (event : Background) :
    (b.background event).Live made limit held events := by
  cases event with
  | toolDone i success result =>
    unfold background
    dsimp only
    rcases found : b.toolTasks[i]? with - | task
    · exact live
    · let sent : ToolTaskResult := ⟨task.callId, task.name, success, result, task.turn⟩
      have same : sent.callId = task.callId := rfl
      have after := live.awaited.send found same
      rw [List.append_assoc] at after
      exact ⟨live.active, after, live.config, live.rounds, live.running, live.passive⟩
  | summaryDone i summary =>
    exact ⟨live.active, live.awaited, live.config, live.rounds, live.running, live.passive⟩

/-- The turn ends with an event that is delivered at once. -/
theorem done_of_last {t : DefaultAgentBackend} (settled : Tally events [])
    (running : ∀ event ∈ events, event.isTerminal = false) {last : AgentEvent}
    (terminal : last.isTerminal = true) (idle : t.phase = .idle)
    (calls : t.requests.length ≤ made + max 1 limit)
    (passive : ∀ event ∈ t.eventBuffer, event.isPassive = true) :
    t.Done made limit (events ++ [last]) where
  idle := idle
  calls := calls
  protocol := by
    have none : ∀ event ∈ ([] : List AgentEvent), event.isPassive = true :=
      fun _ held => absurd held List.not_mem_nil
    have protocol := protocol_of_settled running settled none terminal passive
    rw [List.append_assoc]
    exact protocol

/-- The turn ends with an event at the end of the buffer. -/
theorem done_of_buffered {t : DefaultAgentBackend} (settled : Tally events [])
    (running : ∀ event ∈ events, event.isTerminal = false) {last : AgentEvent}
    (terminal : last.isTerminal = true) (idle : t.phase = .idle)
    (calls : t.requests.length ≤ made + max 1 limit) {front : List AgentEvent}
    (passive : ∀ event ∈ front, event.isPassive = true) (buffer : t.eventBuffer = front ++ [last]) :
    t.Done made limit events where
  idle := idle
  calls := calls
  protocol := by
    rw [buffer]
    exact protocol_of_settled running settled passive terminal
      (fun _ held => absurd held List.not_mem_nil)

/-- The calls of a turn that ends are within the bound. -/
theorem Rounds.total {calls toolRounds : ℕ} (rounds : Rounds made limit calls toolRounds) :
    calls ≤ made + max 1 limit := by
  have made := rounds.calls
  have bounded := rounds.bounded
  omega

/-- A result that is recorded leaves the turn live. -/
theorem live_finishResult {result : ToolTaskResult} (live : b.Live made limit [result] events)
    (content : String) :
    Holds (LiveAt made limit events) (Returned made limit events) (b.finishResult result content) := by
  have counted := live.awaited.count result.success (if result.success then none else some content)
  have running := running_append live.running (.toolCallCompleted result.callId result.name
    result.success (if result.success then none else some content)) rfl
  have calls : b.requests.length ≤ made + max 1 limit := live.rounds.total
  rcases finishResult_cases result content b with
    ⟨-, finished⟩ | ⟨last, ⟨pending, -, finished⟩ | ⟨-, -, finished⟩ |
      ⟨-, more, ⟨asked, requested, finished⟩ | ⟨message, -, finished⟩⟩⟩
  · rw [finished]
    exact .inl ⟨live.active, counted, live.config, live.rounds, running, live.passive⟩
  · rw [finished]
    obtain ⟨-, -, settled⟩ := counted.settled last
    exact .inr (done_of_buffered settled running rfl rfl calls live.passive rfl)
  · rw [finished]
    obtain ⟨-, -, settled⟩ := counted.settled last
    exact .inr (done_of_buffered settled running rfl rfl calls live.passive rfl)
  · rw [finished]
    obtain ⟨schemas, temperature, maxTokens, model, -, rfl⟩ := requestStream_eq requested
    refine ⟨⟨live.active, counted, live.config, ⟨?_, ?_⟩, running, live.passive⟩, last⟩
    · have before := live.rounds.calls
      change (b.requests ++ [_]).length ≤ made + (b.toolRounds + 1) + 1
      rw [List.length_append, List.length_singleton]
      omega
    · change b.toolRounds + 1 + 1 ≤ max 1 limit
      have config := live.config
      omega
  · rw [finished]
    obtain ⟨-, -, settled⟩ := counted.settled last
    exact .inr (done_of_buffered settled running rfl rfl calls live.passive rfl)

/-- A result leaves the turn live, and completes its tool. -/
theorem live_handleResult {result : ToolTaskResult} (live : b.Live made limit [result] events) :
    Holds (LiveAt made limit events) (Returned made limit events) (b.handleResult result) := by
  have known : ({ b with pendingToolInfo := b.pendingToolInfo.filter (·.1 != result.callId) } :
      DefaultAgentBackend).Live made limit [result] events :=
    ⟨live.active, live.awaited, live.config, live.rounds, live.running, live.passive⟩
  unfold handleResult
  dsimp only
  split
  · exact known
  · exact live_finishResult known result.result

/-- **A stream that closes** leaves the turn live, or ends it. -/
theorem live_closeStream (live : b.Live made limit [] events) :
    Holds (LiveAt made limit events) (Returned made limit events) b.closeStream := by
  obtain ⟨complete, metadata, ended⟩ := b.closeStream_cases
  have passive := passive_append live.passive (passive_of_metadata metadata)
  rcases ended with ⟨alone, ⟨pending, -, closed⟩ | ⟨-, closed⟩⟩ | ⟨-, closed⟩
  · rw [closed]
    obtain ⟨-, -, settled⟩ := live.awaited.settled alone
    exact .inr (done_of_last settled live.running rfl rfl live.rounds.total passive)
  · rw [closed]
    obtain ⟨-, -, settled⟩ := live.awaited.settled alone
    exact .inr (done_of_last settled live.running rfl rfl live.rounds.total passive)
  · rw [closed]
    exact ⟨AgentPhase.noConfusion, live.awaited, live.config, live.rounds, live.running, passive⟩

/-- The id under which a tool call of the stream is announced. -/
def announcedId (call : ToolCallEvent) (uuid : String) : String :=
  call.toolCallId.getD ("call_" ++ uuid)

/-- **A wake that keeps the protocol**, after `events` in the same turn: no mid-stream error cancels
a tool that is outstanding, and no tool call repeats an id. -/
def SoundWake (events : List AgentEvent) (b : DefaultAgentBackend) : RecvPoint → Wake → Prop
  | .stream, .llm (some (.error _)) _ => b.toolsRemaining = 0
  | .stream, .llm (some (.toolCall call)) uuid =>
    call.name = hangUpToolName ∨ call.name = onHoldToolName ∨
      announcedId call uuid ∉ startedIds events
  | _, _ => True

instance (events : List AgentEvent) (b : DefaultAgentBackend) :
    (point : RecvPoint) → (wake : Wake) → Decidable (SoundWake events b point wake)
  | .stream, .llm (some (.error _)) _ => inferInstanceAs (Decidable (_ = _))
  | .stream, .llm (some (.toolCall _)) _ => inferInstanceAs (Decidable (_ ∨ _ ∨ _))
  | .stream, .llm (some (.token _)) _ | .stream, .llm (some (.usage _ _ _)) _ | .stream, .llm none _
  | .stream, .background _ | .stream, .toolResult | .stream, .filler _ | .stream, .transformed _
  | .stream, .streamStarted _ | .tools _, _ | .transform _, _ | .startStream _, _ | .spinning, _ =>
    inferInstanceAs (Decidable True)

/-- The turn ends with a mid-stream error. -/
theorem done_error (live : b.Live made limit [] events) (alone : b.toolsRemaining = 0)
    (message uuid : String) : Holds (LiveAt made limit events) (Returned made limit events)
      (b.handleStreamItem (.error message) uuid) := by
  obtain ⟨complete, metadata, cancelled⟩ := b.cancel_eq
  obtain ⟨-, -, settled⟩ := live.awaited.settled alone
  have passive := passive_append live.passive (passive_of_metadata metadata)
  have last : ∀ event ∈ b.cancel.1.toList, event.isPassive = true := by
    intro event held
    rw [cancelled, Option.mem_toList] at held
    exact passive event (List.mem_of_getLast? held)
  have calls : b.cancel.2.requests.length ≤ made + max 1 limit := by
    rw [cancelled]
    exact live.rounds.total
  exact .inr (done_of_last settled live.running rfl rfl calls last)

/-- **An item of the stream leaves the turn live.** -/
theorem live_handleStreamItem (live : b.Live made limit [] events) (item : InnerLlmEvent) (uuid : String)
    (sound : SoundWake events b .stream (.llm (some item) uuid)) :
    Holds (LiveAt made limit events) (Returned made limit events) (b.handleStreamItem item uuid) := by
  cases item with
  | token text =>
    have running := running_append live.running (.token text) rfl
    exact .inl ⟨live.active, live.awaited.other rfl fun _ => rfl, live.config,
      live.rounds, running, live.passive⟩
  | usage promptTokens completionTokens cachedInputTokens =>
    exact ⟨live.active, live.awaited, live.config, live.rounds, live.running, live.passive⟩
  | error message => exact done_error live sound message uuid
  | toolCall call =>
    unfold handleStreamItem
    dsimp only
    split
    · unfold handleHangUp
      split
      · exact live
      · exact ⟨live.active, live.awaited, live.config, live.rounds, live.running, live.passive⟩
    · rename_i notHangUp
      split
      · refine ⟨live.active, live.awaited, live.config, live.rounds, live.running, ?_⟩
        refine passive_append live.passive fun event held => ?_
        rw [List.mem_singleton.1 held]
        rfl
      · rename_i notOnHold
        have fresh : announcedId call uuid ∉ startedIds events :=
          (sound.resolve_left notHangUp).resolve_left notOnHold
        have spawned := live.awaited.spawn ⟨announcedId call uuid, call.name, call.arguments,
          b.isSideEffect call.name, b.turn⟩ fresh
        have running := running_append live.running (.toolCallStarted
          (announcedId call uuid) call.name (b.isSideEffect call.name)) rfl
        exact .inl ⟨live.active, spawned, live.config, live.rounds, running, live.passive⟩

/-- The stream of the next round is live. -/
theorem live_openStream (live : b.Live made limit [] events) :
    ({ b.openStream with phase := .streaming } : DefaultAgentBackend).Live made limit [] events := by
  obtain ⟨obs, opened⟩ := b.openStream_eq
  rw [opened]
  exact ⟨AgentPhase.noConfusion, live.awaited, live.config, live.rounds, live.running, live.passive⟩

/-- **A call that is entered is in its turn.** -/
theorem live_enter (turn : b.InTurn made limit events) :
    Holds (LiveAt made limit events) (Returned made limit events) b.enter := by
  unfold enter enterPhase
  rcases buffer : b.eventBuffer with - | ⟨event, rest⟩
  · dsimp only
    rcases turn with live | done
    · rcases phase : b.phase with - | - | -
      · exact absurd phase live.active
      · dsimp only
        split
        · exact live
        · exact live
      · refine ⟨AgentPhase.noConfusion, live.awaited, live.config, live.rounds, live.running, ?_⟩
        exact fun _ held => absurd held List.not_mem_nil
    · rw [done.idle]
      exact ⟨done, buffer⟩
  · rcases turn with live | done
    · have passive := live.passive
      rw [buffer] at passive
      have quiet : event.isPassive = true := passive event List.mem_cons_self
      have known : event.isTerminal = false ∧ event.startedId? = none ∧
          ∀ id, event.completes id = false := by
        revert quiet
        cases event <;> simp [AgentEvent.isPassive, AgentEvent.isTerminal, AgentEvent.isWork,
          AgentEvent.startedId?, AgentEvent.completes]
      refine .inl ⟨live.active, live.awaited.other known.2.1 known.2.2, live.config, live.rounds,
        running_append live.running event known.1, fun e held => passive e (List.mem_cons_of_mem _ held)⟩
    · have protocol := done.protocol
      rw [buffer] at protocol
      refine .inr ⟨done.idle, done.calls, ?_⟩
      rw [List.append_assoc]
      exact protocol

/-- **A call that is resumed is in its turn.** -/
theorem live_resume {point : RecvPoint} (live : LiveAt made limit events b point) (wake : Wake)
    (sound : SoundWake events b point wake) :
    Holds (LiveAt made limit events) (Returned made limit events) (b.resume point wake) := by
  unfold resume
  split
  · rename_i event
    cases point with
    | transform result => exact live_background live event
    | startStream e =>
      refine ⟨live_background live.1 event, ?_⟩
      rw [background_toolsRemaining]
      exact live.2
    | stream => exact live_background live event
    | tools filler => exact live_background live event
    | spinning => exact live_background live event
  · exact live_handleStreamItem live _ _ sound
  · exact live_closeStream live
  · split
    · rename_i result rest taken
      -- The result moves from the channel to the call.
      have moved : ({ b with toolResults := rest } : DefaultAgentBackend).Live made limit [result] events := by
        have awaited : Awaited b.toolTasks b.toolResults b.toolsRemaining events := live.awaited
        rw [taken] at awaited
        exact ⟨live.active, awaited, live.config, live.rounds, live.running, live.passive⟩
      exact live_handleResult moved
    · exact live
  · rename_i text
    have running := running_append live.running (.token text) rfl
    exact .inl ⟨live.active, live.awaited.other rfl fun _ => rfl, live.config,
      live.rounds, running, live.passive⟩
  · exact live
  · exact live_finishResult live _
  · exact .inl (live_openStream live.1)
  · obtain ⟨live, alone⟩ := live
    obtain ⟨-, -, settled⟩ := live.awaited.settled alone
    exact .inr (done_of_buffered settled live.running rfl rfl live.rounds.total live.passive rfl)
  · exact live

/-! ## Driving a turn -/

/-- Where the caller is that drives a turn. -/
inductive Driving where
  /-- It calls `recv` again. -/
  | ongoing
  /-- The last call of `recv` waits and nothing more happens. -/
  | waiting
  /-- `recv` has returned `none`. -/
  | over
  deriving DecidableEq, Repr

/-- **A turn that is driven by `recv`**, and the events it has delivered. -/
structure DrivenTurn where
  backend : DefaultAgentBackend
  delivered : List AgentEvent
  driving : Driving

namespace DrivenTurn

/-- The turn that `startTurn` starts. -/
def start (reply : TurnReply) (b : DefaultAgentBackend) : DrivenTurn :=
  ⟨(b.startTurn reply).2, [], .ongoing⟩

/-- The next call of `recv`. -/
def step (s : DrivenTurn) (wakes : List Wake) : DrivenTurn :=
  match s.driving with
  | .ongoing =>
    match recvCall.drive wakes s.backend with
    | (b, .ready (some event)) => ⟨b, s.delivered ++ [event], .ongoing⟩
    | (b, .ready none) => ⟨b, s.delivered, .over⟩
    | (b, .pending _) => ⟨b, s.delivered, .waiting⟩
  | _ => s

/-- All wakes of the call keep the protocol. -/
def Sound (s : DrivenTurn) (wakes : List Wake) : Prop :=
  s.driving = .ongoing → recvCall.Along (SoundWake s.delivered) wakes s.backend

instance (s : DrivenTurn) (wakes : List Wake) : Decidable (s.Sound wakes) := by
  unfold Sound
  infer_instance

/-- What is known of a turn that is driven, after `made` LLM calls of earlier turns. -/
structure Kept (made limit : ℕ) (s : DrivenTurn) : Prop where
  calls : s.backend.requests.length ≤ made + max 1 limit
  ongoing : s.driving = .ongoing → s.backend.InTurn made limit s.delivered
  ended : s.driving = .over → TurnProtocol s.delivered

/-- A call keeps the protocol of the turn. -/
theorem kept_step (made limit : ℕ) (s : DrivenTurn) (wakes : List Wake)
    (kept : s.Kept made limit) (sound : s.Sound wakes) : (s.step wakes).Kept made limit := by
  rcases driving : s.driving with - | - | -
  · have driven : Holds (LiveAt made limit s.delivered) (Returned made limit s.delivered)
        (recvCall.drive wakes s.backend) := by
      refine Call.drive_rule ?_ ?_ (kept.ongoing driving) (sound driving)
      · exact fun b turn => live_enter turn
      · exact fun b point wake live good => live_resume live wake good
    unfold step
    rw [driving]
    dsimp only
    rcases result : recvCall.drive wakes s.backend with ⟨b, (- | event) | point⟩
    · rw [result] at driven
      obtain ⟨done, empty⟩ : b.Done made limit s.delivered ∧ b.eventBuffer = [] := driven
      have protocol := done.protocol
      rw [empty, List.append_nil] at protocol
      exact ⟨done.calls, Driving.noConfusion, fun _ => protocol⟩
    · rw [result] at driven
      have turn : b.InTurn made limit (s.delivered ++ [event]) := driven
      refine ⟨?_, fun _ => turn, Driving.noConfusion⟩
      rcases turn with live | done
      · exact live.rounds.total
      · exact done.calls
    · rw [result] at driven
      have waits : LiveAt made limit s.delivered b point := driven
      refine ⟨?_, Driving.noConfusion, Driving.noConfusion⟩
      cases point with
      | startStream event => exact waits.1.rounds.total
      | stream => exact Rounds.total waits.rounds
      | tools filler => exact Rounds.total waits.rounds
      | transform result => exact Rounds.total waits.rounds
      | spinning => exact Rounds.total waits.rounds
  · have same : s.step wakes = s := by
      simp only [step, driving]
    rw [same]
    exact kept
  · have same : s.step wakes = s := by
      simp only [step, driving]
    rw [same]
    exact kept

/-- A turn that starts with no tool outstanding. -/
theorem kept_start {b : DefaultAgentBackend} {reply : TurnReply}
    (started : (b.startTurn reply).1 = .ok ()) (tasks : b.toolTasks = [])
    (results : b.toolResults = []) :
    (start reply b).Kept b.requests.length b.config.maxToolRounds := by
  obtain ⟨arrived, before⟩ := background_alone tasks reply.background
  obtain ⟨conversation, summarizer, -, prepared⟩ := b.prepareTurn_eq reply
  rcases b.startTurn_cases reply with
    ⟨⟨message, failed⟩, -⟩ | ⟨asked, requested, ⟨⟨message, failed⟩, -⟩ | ⟨-, opened⟩⟩
  · rw [failed] at started
    cases started
  · rw [failed] at started
    cases started
  · obtain ⟨schemas, temperature, maxTokens, model, -, rfl⟩ := requestStream_eq requested
    have live : (start reply b).backend.Live b.requests.length b.config.maxToolRounds [] [] := by
      unfold start
      dsimp only
      rw [opened, prepared, before]
      obtain ⟨obs, observed⟩ := openStream_eq _
      rw [observed]
      dsimp only
      rw [tasks, results]
      refine ⟨AgentPhase.noConfusion, ⟨Tally.nil, rfl⟩, rfl, ⟨?_, ?_⟩, ?_, ?_⟩
      · exact (List.length_append).le
      · exact Nat.le_max_left 1 _
      · exact fun _ held => absurd held List.not_mem_nil
      · exact fun _ held => absurd held List.not_mem_nil
    exact ⟨live.rounds.total, fun _ => .inl live, Driving.noConfusion⟩

/-! ## The guarantee -/

/-- **A turn keeps its protocol**, and makes no more LLM calls than it may, if it starts with no tool
outstanding, no mid-stream error cancels one, and no tool call repeats an id. -/
theorem turn_protocol_kept (b : DefaultAgentBackend) (reply : TurnReply)
    (started : (b.startTurn reply).1 = .ok ()) (tasks : b.toolTasks = [])
    (results : b.toolResults = []) (calls : List (List Wake))
    (sound : Along step Sound (start reply b) calls) :
    let s := run step (start reply b) calls
    (s.driving = .over → TurnProtocol s.delivered) ∧
      s.backend.requests.length ≤ b.requests.length + max 1 b.config.maxToolRounds := by
  intro s
  have kept : s.Kept b.requests.length b.config.maxToolRounds :=
    invariant (kept_step _ _) (kept_start started tasks results) sound
  exact ⟨kept.ended, kept.calls⟩

/-- A tool call of the LLM. -/
def toolCallItem (id : String) : Wake := .llm (some (.toolCall ⟨"lookup", "", some id, none⟩)) ""

/-- Two rounds with a tool in between. -/
theorem turn_protocol_kept_rounds :
    let b := new silentLibrary none {}
    let calls := [[.llm (some (.token "one moment")) ""], [toolCallItem "one"],
      [.llm none "", .background (.toolDone 0 true "found"), .toolResult, .streamStarted (.ok ())],
      [], [.llm (some (.token "it is here")) ""], [.llm none ""], [], []]
    let s := run step (start ⟨[], .ok ()⟩ b) calls
    (s.driving = .over → TurnProtocol s.delivered) ∧
      s.backend.requests.length ≤ b.requests.length + max 1 b.config.maxToolRounds := by
  intro b calls
  exact turn_protocol_kept b ⟨[], .ok ()⟩ rfl rfl rfl calls (by decide +kernel)

/-- **Two turns without the protocol.**  In the first a mid-stream error ends the turn, and the tool
that was announced is never answered; in the second two tool calls have one id. -/
theorem tool_call_unanswered :
    let b := new silentLibrary none {}
    let broken := run step (start ⟨[], .ok ()⟩ b)
      [[toolCallItem "one"], [.llm (some (.error "closed")) ""], [], []]
    let repeated := run step (start ⟨[], .ok ()⟩ b)
      [[toolCallItem "one"], [toolCallItem "one"],
        [.llm none "", .background (.toolDone 0 true ""), .toolResult], [],
        [.background (.toolDone 0 true ""), .toolResult, .streamStarted (.ok ())],
        [.llm none ""], [], []]
    (broken.driving = .over ∧ ¬ TurnProtocol broken.delivered) ∧
      (repeated.driving = .over ∧ ¬ TurnProtocol repeated.delivered) := by
  intro b broken repeated
  constructor
  · refine ⟨by decide +kernel, fun protocol => ?_⟩
    have answered := protocol.answered [] "one" "lookup" false broken.delivered.tail
      (by decide +kernel)
    revert answered
    decide +kernel
  · refine ⟨by decide +kernel, fun protocol => ?_⟩
    have answered := protocol.answered [] "one" "lookup" false repeated.delivered.tail
      (by decide +kernel)
    revert answered
    decide +kernel

end DrivenTurn

end DefaultAgentBackend

end Feros
