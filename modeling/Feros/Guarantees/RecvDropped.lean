import Feros.Guarantees.ToolTurns
/-! # Dropping `recv`

The reactor drops a call of `recv` whenever another arm of its `select!` is ready, and calls it again
later.  That changes nothing exactly where the call holds nothing of its own and no event is buffered
behind it: in **`Harmless`** points.

* **`WaitsAt`** relates the backend to the point where a call waits; it holds in all runs.
* **`Stuck`** is what a dropped tool result leaves: no later call of `recv` ends the turn. -/

namespace Feros.DefaultAgentBackend

open Run Suspension

/-! ## Where a call waits -/

/-- The buffer holds nothing of the work of a turn. -/
def Quiet (b : DefaultAgentBackend) : Prop := ∀ event ∈ b.eventBuffer, event.isWork = false

/-- The backend is in the phase of the point. -/
def InPhaseOf (b : DefaultAgentBackend) : RecvPoint → Prop
  | .stream => b.phase = .streaming ∧ b.llmEventRx = true
  | .spinning => b.phase = .streaming ∧ b.llmEventRx = false ∧ b.eventBuffer = []
  | _ => b.phase = .waitingForTools ∧ b.fillerTask = none

/-- **What is known of the backend while a call waits.** -/
structure WaitsAt (b : DefaultAgentBackend) (point : RecvPoint) : Prop where
  quiet : b.Quiet
  phase : b.InPhaseOf point

/-- An empty buffer is quiet. -/
theorem quiet_nil {b : DefaultAgentBackend} (empty : b.eventBuffer = []) : b.Quiet := by
  intro event held
  rw [empty] at held
  exact absurd held List.not_mem_nil

/-- One list of events after the other. -/
theorem quiet_append {events more : List AgentEvent} (first : ∀ event ∈ events, event.isWork = false)
    (second : ∀ event ∈ more, event.isWork = false) :
    ∀ event ∈ events ++ more, event.isWork = false := by
  intro event held
  rcases List.mem_append.1 held with held | held
  · exact first event held
  · exact second event held

/-- One event. -/
theorem quiet_singleton {event : AgentEvent} (idle : event.isWork = false) :
    ∀ e ∈ [event], e.isWork = false := by
  intro e held
  rw [List.mem_singleton.1 held]
  exact idle

/-- Metadata is no work. -/
theorem quiet_of_metadata {complete : List AgentEvent} (metadata : Metadata complete) :
    ∀ event ∈ complete, event.isWork = false := by
  intro event held
  obtain ⟨data, rfl⟩ := metadata event held
  rfl

variable {b : DefaultAgentBackend}

/-- The background leaves a call that waits where it is. -/
theorem waitsAt_background {point : RecvPoint} (waits : b.WaitsAt point) (event : Background) :
    (b.background event).WaitsAt point := by
  obtain ⟨tasks, results, summarizer, happened⟩ := b.background_eq event
  rw [happened]
  refine ⟨waits.quiet, ?_⟩
  have phase := waits.phase
  cases point with
  | stream => exact phase
  | spinning => exact phase
  | tools filler => exact phase
  | transform result => exact phase
  | startStream e => exact phase

/-- A result that is recorded leads to a wait that can be dropped. -/
theorem waitsAt_finishResult (quiet : b.Quiet) (phase : b.phase = .waitingForTools)
    (filler : b.fillerTask = none) (result : ToolTaskResult) (content : String) :
    Holds WaitsAt (fun b _ => b.Quiet) (b.finishResult result content) := by
  rcases finishResult_cases result content b with
    ⟨-, finished⟩ | ⟨-, ⟨pending, -, finished⟩ | ⟨-, -, finished⟩ |
      ⟨-, -, ⟨asked, requested, finished⟩ | ⟨message, -, finished⟩⟩⟩
  · rw [finished]
    exact quiet
  · rw [finished]
    exact quiet_append quiet (quiet_singleton rfl)
  · rw [finished]
    exact quiet_append quiet (quiet_singleton rfl)
  · rw [finished]
    obtain ⟨schemas, temperature, maxTokens, model, -, rfl⟩ := requestStream_eq requested
    exact ⟨quiet, phase, filler⟩
  · rw [finished]
    exact quiet_append quiet (quiet_singleton rfl)

/-- A result leads to a wait that can be dropped. -/
theorem waitsAt_handleResult (quiet : b.Quiet) (phase : b.phase = .waitingForTools)
    (filler : b.fillerTask = none) (result : ToolTaskResult) :
    Holds WaitsAt (fun b _ => b.Quiet) (b.handleResult result) := by
  unfold handleResult
  dsimp only
  split
  · exact ⟨quiet, phase, filler⟩
  · exact waitsAt_finishResult (by exact quiet) (by exact phase) (by exact filler) result result.result

/-- The end of the stream leads to a wait that can be dropped. -/
theorem waitsAt_closeStream (quiet : b.Quiet) :
    Holds WaitsAt (fun b _ => b.Quiet) b.closeStream := by
  obtain ⟨complete, metadata, ended⟩ := b.closeStream_cases
  have all : ∀ event ∈ b.eventBuffer ++ complete, event.isWork = false :=
    quiet_append quiet (quiet_of_metadata metadata)
  rcases ended with ⟨-, ⟨pending, -, closed⟩ | ⟨-, closed⟩⟩ | ⟨-, closed⟩
  · rw [closed]
    exact all
  · rw [closed]
    exact all
  · rw [closed]
    exact ⟨all, rfl, rfl⟩

/-- `cancel` hands the last event out and forgets the others. -/
theorem cancel_quiet (quiet : b.Quiet) :
    b.cancel.2.eventBuffer = [] ∧ ∀ event ∈ b.cancel.1.toList, event.isWork = false := by
  obtain ⟨complete, metadata, cancelled⟩ := b.cancel_eq
  refine ⟨rfl, fun event held => ?_⟩
  rw [cancelled, Option.mem_toList] at held
  exact quiet_append quiet (quiet_of_metadata metadata) event (List.mem_of_getLast? held)

/-- An item of the stream leads to a wait that can be dropped. -/
theorem waitsAt_handleStreamItem (waits : b.WaitsAt .stream) (item : InnerLlmEvent)
    (uuid : String) : Holds WaitsAt (fun b _ => b.Quiet) (b.handleStreamItem item uuid) := by
  cases item with
  | token text => exact waits.quiet
  | usage promptTokens completionTokens cachedInputTokens => exact ⟨waits.quiet, waits.phase⟩
  | error message =>
    obtain ⟨-, last⟩ := cancel_quiet waits.quiet
    exact last
  | toolCall call =>
    unfold handleStreamItem
    dsimp only
    split
    · unfold handleHangUp
      split
      · exact waits
      · exact ⟨waits.quiet, waits.phase⟩
    · split
      · exact ⟨quiet_append waits.quiet (quiet_singleton rfl), waits.phase⟩
      · exact waits.quiet

/-- A call that is entered leads to a wait that can be dropped. -/
theorem waitsAt_enter (quiet : b.Quiet) : Holds WaitsAt (fun b _ => b.Quiet) b.enter := by
  unfold enter enterPhase
  rcases buffer : b.eventBuffer with - | ⟨event, rest⟩
  · dsimp only
    rcases phase : b.phase with - | - | -
    · exact quiet
    · dsimp only
      rcases rx : b.llmEventRx with - | -
      · exact ⟨quiet, phase, rx, buffer⟩
      · exact ⟨quiet, phase, rx⟩
    · exact ⟨quiet_nil rfl, rfl, rfl⟩
  · intro e held
    refine quiet e ?_
    rw [buffer]
    exact List.mem_cons_of_mem event held

/-- **A call that is resumed leads to a wait that can be dropped.** -/
theorem waitsAt_resume {point : RecvPoint} (waits : b.WaitsAt point) (wake : Wake) :
    Holds WaitsAt (fun b _ => b.Quiet) (b.resume point wake) := by
  unfold resume
  split
  · exact waitsAt_background waits _
  · exact waitsAt_handleStreamItem waits _ _
  · exact waitsAt_closeStream waits.quiet
  · split
    · exact waitsAt_handleResult (by exact waits.quiet) (by exact waits.phase.1)
        (by exact waits.phase.2) _
    · exact waits
  · exact waits.quiet
  · exact ⟨waits.quiet, waits.phase⟩
  · exact waitsAt_finishResult waits.quiet waits.phase.1 waits.phase.2 _ _
  · obtain ⟨obs, opened⟩ := b.openStream_eq
    rw [opened]
    exact waits.quiet
  · exact quiet_append waits.quiet (quiet_singleton rfl)
  · exact waits

/-- Every call leaves the buffer quiet. -/
theorem quiet_step (b : DefaultAgentBackend) (call : AgentCall) (quiet : b.Quiet) :
    (b.step call).Quiet := by
  cases call with
  | setSystemPrompt prompt => exact quiet
  | addUserMessage text => exact quiet
  | addAssistantMessage text => exact quiet
  | startTurn reply =>
    obtain ⟨conversation, summarizer, -, prepared⟩ := b.prepareTurn_eq reply
    rcases b.startTurn_cases reply with
      ⟨-, started⟩ | ⟨asked, requested, ⟨-, started⟩ | ⟨-, started⟩⟩
    · refine quiet_nil ?_
      rw [step, started, prepared]
    · obtain ⟨schemas, temperature, maxTokens, model, -, rfl⟩ := requestStream_eq requested
      refine quiet_nil ?_
      rw [step, started, prepared]
    · obtain ⟨schemas, temperature, maxTokens, model, -, rfl⟩ := requestStream_eq requested
      obtain ⟨obs, opened⟩ := openStream_eq _
      refine quiet_nil ?_
      rw [step, started, opened, prepared]
  | recv wakes =>
    exact recv_rule_of_forall (fun _ => waitsAt_enter) (fun _ _ wake waits => waitsAt_resume waits wake)
      (fun _ _ waits => waits.quiet) quiet wakes
  | cancel => exact quiet_nil (cancel_quiet quiet).1
  | background event =>
    obtain ⟨tasks, results, summarizer, happened⟩ := b.background_eq event
    rw [step, happened]
    exact quiet

/-- Where a call of `recv` waits in a run. -/
theorem waitsAt_reached (library : AgentLibrary) (graph : Option AgentGraphDef)
    (config : AgentBackendConfig) (calls : List AgentCall) {wakes : List Wake} {point : RecvPoint}
    (reached : recvCall.drive wakes (run step (new library graph config) calls)
      = (b, .pending point)) : b.WaitsAt point := by
  have quiet : (run step (new library graph config) calls).Quiet :=
    invariant_of_step quiet_step (quiet_nil rfl) calls
  have driven : Holds WaitsAt (fun b _ => b.Quiet)
      (recvCall.drive wakes (run step (new library graph config) calls)) :=
    drive_rule (fun _ => waitsAt_enter) (fun _ _ wake waits => waitsAt_resume waits wake) quiet wakes
  rw [reached] at driven
  exact driven

/-! ## What is delivered -/

/-- Events that wait are handed out first. -/
theorem enter_of_buffer {event : AgentEvent} {rest : List AgentEvent}
    (buffer : b.eventBuffer = event :: rest) :
    b.enter = ({ b with eventBuffer := rest }, .ready (some event)) := by
  rw [enter, buffer]

/-- The buffer is delivered before anything else. -/
theorem delivers_buffer {wakes : List Wake} {results : List AgentEvent} {t : DefaultAgentBackend}
    (delivers : recvCall.Delivers wakes b.enter results t) :
    ∃ more, results = b.eventBuffer ++ more := by
  induction buffer : b.eventBuffer generalizing b results with
  | nil => exact ⟨results, rfl⟩
  | cons event rest ih =>
    rw [enter_of_buffer buffer] at delivers
    cases delivers with
    | calls delivers =>
      obtain ⟨more, rfl⟩ := ih delivers rfl
      exact ⟨more, rfl⟩

/-- Once the buffer is delivered, `recv` enters the phase that is due. -/
theorem delivers_enter {wakes : List Wake} {results : List AgentEvent} {t : DefaultAgentBackend}
    (delivers : recvCall.Delivers wakes ({ b with eventBuffer := [] } : DefaultAgentBackend).enterPhase
      results t) : recvCall.Delivers wakes b.enter (b.eventBuffer ++ results) t := by
  induction buffer : b.eventBuffer generalizing b with
  | nil =>
    have same : ({ b with eventBuffer := [] } : DefaultAgentBackend) = b := by
      rw [← buffer]
    rw [same] at delivers
    rw [enter, buffer]
    exact delivers
  | cons event rest ih =>
    rw [enter_of_buffer buffer]
    exact .calls (ih delivers rfl)

/-- A caller gets something under all wakes. -/
theorem exists_delivers (wakes : List Wake) (start : DefaultAgentBackend × RecvStatus) :
    ∃ results t, recvCall.Delivers wakes start results t := by
  have entered : ∀ wakes, (∀ b point, ∃ results t, recvCall.Delivers wakes (b, .pending point) results t) →
      ∀ b : DefaultAgentBackend, ∃ results t, recvCall.Delivers wakes b.enter results t := by
    intro wakes pending b
    have phase : ∃ results t, recvCall.Delivers wakes
        ({ b with eventBuffer := [] } : DefaultAgentBackend).enterPhase results t := by
      unfold enterPhase
      rcases b.phase with - | - | -
      · exact ⟨_, _, .ends _ _⟩
      · exact pending _ _
      · exact pending _ _
    obtain ⟨results, t, delivers⟩ := phase
    exact ⟨_, t, delivers_enter delivers⟩
  have all : ∀ wakes, (∀ b point, ∃ results t, recvCall.Delivers wakes (b, .pending point) results t) →
      ∀ start, ∃ results t, recvCall.Delivers wakes start results t := by
    rintro wakes pending ⟨b, (- | event) | point⟩
    · exact ⟨_, _, .ends _ _⟩
    · obtain ⟨results, t, delivers⟩ := entered wakes pending b
      exact ⟨_, t, .calls delivers⟩
    · exact pending b point
  refine all wakes ?_ start
  induction wakes with
  | nil => exact fun b point => ⟨_, _, .waits b point⟩
  | cons wake wakes ih =>
    intro b point
    obtain ⟨results, t, delivers⟩ := all wakes ih (b.resume point wake)
    exact ⟨results, t, .wakes delivers⟩

/-! ## Where a drop is seen -/

/-- A wake for which `recv` would not go on waiting for tools. -/
def IgnoredByTools (wake : Wake) : Prop :=
  ∀ t : DefaultAgentBackend, t.resume (.tools none) wake = (t, .pending (.tools none))

/-- A new call that has tools to wait for delivers the buffer, and then it waits. -/
theorem delivers_waiting (phase : b.phase = .waitingForTools) (filler : b.fillerTask = none)
    {wakes : List Wake} (ignored : ∀ wake ∈ wakes, IgnoredByTools wake) :
    ∃ t, recvCall.Delivers wakes b.enter b.eventBuffer t := by
  have waits : ∀ t : DefaultAgentBackend, recvCall.Delivers wakes (t, .pending (.tools none)) [] t := by
    intro t
    induction wakes with
    | nil => exact .waits _ _
    | cons wake wakes ih =>
      have goes : recvCall.resume t (.tools none) wake = (t, .pending (.tools none)) :=
        ignored wake List.mem_cons_self t
      refine .wakes ?_
      rw [goes]
      exact ih fun w held => ignored w (List.mem_cons_of_mem wake held)
  refine ⟨{ b with eventBuffer := [], fillerTask := none }, ?_⟩
  have last : recvCall.Delivers wakes
      ({ b with eventBuffer := [] } : DefaultAgentBackend).enterPhase []
      { b with eventBuffer := [], fillerTask := none } := by
    unfold enterPhase
    dsimp only
    rw [phase, filler]
    exact waits _
  have delivers := delivers_enter last
  rwa [List.append_nil] at delivers

variable {point : RecvPoint} {wakes : List Wake} {c : DefaultAgentBackend} {event : AgentEvent}

/-- **The event of a dropped call is lost**: a new call waits for tools, and what would have ended
the old one says nothing to it. -/
theorem not_dropSafe_of_lost (phase : b.phase = .waitingForTools) (filler : b.fillerTask = none)
    (ignored : ∀ wake ∈ wakes, IgnoredByTools wake)
    (returns : recvCall.resumeAll b point wakes = (c, .ready (some event)))
    (kept : b.eventBuffer <+: c.eventBuffer) :
    ¬ recvCall.DropSafe (·.conversation) b point := by
  intro safe
  obtain ⟨results, t, first⟩ := exists_delivers wakes (b, .pending point)
  obtain ⟨u, second⟩ := delivers_waiting phase filler ignored
  obtain ⟨same, -⟩ := safe wakes results b.eventBuffer t u ⟨_, by rw [returns]⟩ first second
  obtain ⟨left, rest, split, after⟩ := first.of_resumeAll returns
  obtain ⟨more, rfl⟩ := delivers_buffer after
  obtain ⟨added, buffer⟩ := kept
  -- The first call delivers an event more than the buffer holds.
  have length := congrArg List.length (same.symm.trans split)
  rw [← buffer] at length
  simp only [List.length_cons, List.length_append] at length
  omega

/-- **The events change their order**: a new call delivers the buffer first. -/
theorem not_dropSafe_of_order {head : AgentEvent} {rest : List AgentEvent}
    (buffer : b.eventBuffer = head :: rest)
    (returns : recvCall.resumeAll b point wakes = (c, .ready (some event)))
    (different : event ≠ head) : ¬ recvCall.DropSafe (·.conversation) b point := by
  intro safe
  obtain ⟨results, t, first⟩ := exists_delivers wakes (b, .pending point)
  obtain ⟨results', u, second⟩ := exists_delivers wakes b.enter
  obtain ⟨same, -⟩ := safe wakes results results' t u ⟨_, by rw [returns]⟩ first second
  obtain ⟨left, later, split, -⟩ := first.of_resumeAll returns
  obtain ⟨more, again⟩ := delivers_buffer second
  rw [split, again, buffer, List.cons_append] at same
  exact different (List.cons.inj same).1

/-- Work that is delivered differs from what a quiet buffer holds. -/
theorem WaitsAt.ne_head (waits : b.WaitsAt point) {head : AgentEvent} {rest : List AgentEvent}
    (buffer : b.eventBuffer = head :: rest) (works : event.isWork = true) : event ≠ head := by
  rintro rfl
  have idle := waits.quiet event (by rw [buffer]; exact List.mem_cons_self)
  rw [works] at idle
  cases idle

/-! ## The points of `recv` -/

/-- What may follow while a result is finished. -/
def finishing : List Wake := [.transformed "", .streamStarted (.ok ())]

/-- What finishes a turn is ignored while tools run. -/
theorem ignored_finishing : ∀ wake ∈ finishing, IgnoredByTools wake := by
  intro wake held
  rcases List.mem_cons.1 held with rfl | held
  · exact fun _ => rfl
  · rw [List.mem_singleton.1 held]
    exact fun _ => rfl

/-- A call that waits for the next stream returns when it is opened. -/
theorem startStream_returns (b : DefaultAgentBackend) (event : AgentEvent) :
    ∃ c, b.resume (.startStream event) (.streamStarted (.ok ())) = (c, .ready (some event)) ∧
      c.eventBuffer = b.eventBuffer := by
  obtain ⟨obs, opened⟩ := b.openStream_eq
  refine ⟨{ b.openStream with phase := .streaming }, rfl, ?_⟩
  rw [opened]

/-- A call that finishes a result returns at the latest when the next stream is opened. -/
theorem finishResult_returns (result : ToolTaskResult) (content : String) (b : DefaultAgentBackend) :
    ∃ c event, event.isWork = true ∧ b.eventBuffer <+: c.eventBuffer ∧
      (b.finishResult result content = (c, .ready (some event)) ∨
        b.finishResult result content = (c, .pending (.startStream event))) := by
  rcases finishResult_cases result content b with
    ⟨-, finished⟩ | ⟨-, ⟨pending, -, finished⟩ | ⟨-, -, finished⟩ |
      ⟨-, -, ⟨asked, requested, finished⟩ | ⟨message, -, finished⟩⟩⟩
  · refine ⟨_, _, ?_, ?_, .inl finished⟩
    · rfl
    · exact List.prefix_rfl
  · refine ⟨_, _, ?_, ?_, .inl finished⟩
    · rfl
    · exact List.prefix_append _ _
  · refine ⟨_, _, ?_, ?_, .inl finished⟩
    · rfl
    · exact List.prefix_append _ _
  · obtain ⟨schemas, temperature, maxTokens, model, -, rfl⟩ := requestStream_eq requested
    refine ⟨_, _, ?_, ?_, .inr finished⟩
    · rfl
    · exact List.prefix_rfl
  · refine ⟨_, _, ?_, ?_, .inl finished⟩
    · rfl
    · exact List.prefix_append _ _

/-- So does one that waits for the transformed text of a result. -/
theorem transform_returns (result : ToolTaskResult) (b : DefaultAgentBackend) :
    ∃ c event, event.isWork = true ∧ b.eventBuffer <+: c.eventBuffer ∧
      recvCall.resumeAll b (.transform result) finishing = (c, .ready (some event)) := by
  obtain ⟨c, event, works, kept, finished | finished⟩ := b.finishResult_returns result ""
  · refine ⟨c, event, works, kept, ?_⟩
    have resumed : recvCall.resume b (.transform result) (.transformed "") =
        (c, .ready (some event)) := finished
    rw [finishing, Call.resumeAll, resumed]
  · obtain ⟨d, opened, same⟩ := c.startStream_returns event
    refine ⟨d, event, works, same ▸ kept, ?_⟩
    have resumed : recvCall.resume b (.transform result) (.transformed "") =
        (c, .pending (.startStream event)) := finished
    have then' : recvCall.resume c (.startStream event) (.streamStarted (.ok ())) =
        (d, .ready (some event)) := opened
    simp only [finishing, Call.resumeAll, resumed, then']

/-- A call that takes a result returns. -/
theorem result_returns {result : ToolTaskResult} {rest : List ToolTaskResult}
    (results : b.toolResults = result :: rest) :
    ∃ c event, event.isWork = true ∧
      recvCall.resumeAll b (.tools none) (.toolResult :: finishing) = (c, .ready (some event)) := by
  have taken : recvCall.resume b (.tools none) .toolResult =
      ({ b with toolResults := rest } : DefaultAgentBackend).handleResult result := by
    simp only [recvCall, resume, results]
  let known : DefaultAgentBackend := { b with
    toolResults := rest
    pendingToolInfo := b.pendingToolInfo.filter (·.1 != result.callId) }
  have handled : ({ b with toolResults := rest } : DefaultAgentBackend).handleResult result =
      if b.config.toolSummarizer && result.result.utf8ByteSize ≥ summaryMinLength then
        (known, .pending (.transform result))
      else known.finishResult result result.result := rfl
  rw [Call.resumeAll, taken, handled]
  by_cases long : (b.config.toolSummarizer && result.result.utf8ByteSize ≥ summaryMinLength) = true
  · rw [if_pos long]
    obtain ⟨c, event, works, -, returns⟩ := known.transform_returns result
    exact ⟨c, event, works, returns⟩
  · rw [if_neg long]
    obtain ⟨c, event, works, -, finished | finished⟩ :=
      known.finishResult_returns result result.result
    · rw [finished]
      exact ⟨c, event, works, rfl⟩
    · obtain ⟨d, opened, -⟩ := c.startStream_returns event
      have waited : recvCall.resume c (.startStream event) (.transformed "") =
          (c, .pending (.startStream event)) := rfl
      have started : recvCall.resume c (.startStream event) (.streamStarted (.ok ())) =
          (d, .ready (some event)) := opened
      rw [finished]
      refine ⟨d, event, works, ?_⟩
      simp only [finishing, Call.resumeAll, waited, started]

/-- A call that waits for tools returns if there is a tool to wait for. -/
theorem tools_returns (outstanding : b.toolTasks ≠ [] ∨ b.toolResults ≠ []) :
    ∃ wakes c event, AgentEvent.isWork event = true ∧
      recvCall.resumeAll b (.tools none) wakes = (c, .ready (some event)) := by
  rcases results : b.toolResults with - | ⟨result, rest⟩
  · rcases tasks : b.toolTasks with - | ⟨task, tasks'⟩
    · exact absurd (outstanding.resolve_left fun h => h tasks) fun h => h results
    · have sent : (b.background (.toolDone 0 true "")).toolResults =
          [⟨task.callId, task.name, true, "", task.turn⟩] := by
        simp only [background, tasks, List.getElem?_cons_zero, results, List.nil_append]
      have waited : recvCall.resume b (.tools none) (.background (.toolDone 0 true "")) =
          (b.background (.toolDone 0 true ""), .pending (.tools none)) := rfl
      obtain ⟨c, event, works, returns⟩ := result_returns sent
      refine ⟨.background (.toolDone 0 true "") :: .toolResult :: finishing, c, event, works, ?_⟩
      rw [Call.resumeAll, waited]
      exact returns
  · obtain ⟨c, event, works, returns⟩ := result_returns results
    exact ⟨.toolResult :: finishing, c, event, works, returns⟩

/-- With no tool to wait for a call does not return. -/
theorem tools_wait (tasks : b.toolTasks = []) (results : b.toolResults = []) (wakes : List Wake) :
    ∃ t, recvCall.resumeAll b (.tools none) wakes = (t, .pending (.tools none)) := by
  induction wakes generalizing b with
  | nil => exact ⟨b, rfl⟩
  | cons wake wakes ih =>
    have waited : ∃ t : DefaultAgentBackend, t.toolTasks = [] ∧ t.toolResults = [] ∧
        recvCall.resume b (.tools none) wake = (t, .pending (.tools none)) := by
      cases wake with
      | background event =>
        obtain ⟨summarizer, happened⟩ := background_alone tasks [event]
        have happened : b.background event = { b with contextSummarizer := summarizer } := happened
        refine ⟨_, ?_, ?_, rfl⟩
        · rw [happened]
          exact tasks
        · rw [happened]
          exact results
      | toolResult => exact ⟨b, tasks, results, by simp only [recvCall, resume, results]⟩
      | llm item uuid =>
        cases item with
        | none => exact ⟨b, tasks, results, rfl⟩
        | some item => exact ⟨b, tasks, results, rfl⟩
      | filler text =>
        cases text with
        | none => exact ⟨b, tasks, results, rfl⟩
        | some text => exact ⟨b, tasks, results, rfl⟩
      | transformed content => exact ⟨b, tasks, results, rfl⟩
      | streamStarted reply =>
        cases reply with
        | error message => exact ⟨b, tasks, results, rfl⟩
        | ok _ => exact ⟨b, tasks, results, rfl⟩
    obtain ⟨t, noTasks, noResults, resumed⟩ := waited
    rw [Call.resumeAll, resumed]
    exact ih noTasks noResults

/-- A call that spins does not return. -/
theorem spinning_waits (wakes : List Wake) :
    ∃ t, recvCall.resumeAll b .spinning wakes = (t, .pending .spinning) := by
  induction wakes generalizing b with
  | nil => exact ⟨b, rfl⟩
  | cons wake wakes ih =>
    have waited : ∃ t, recvCall.resume b .spinning wake = (t, .pending .spinning) := by
      cases wake with
      | background event => exact ⟨b.background event, rfl⟩
      | toolResult => exact ⟨b, rfl⟩
      | llm item uuid => exact ⟨b, by cases item <;> rfl⟩
      | filler text => exact ⟨b, by cases text <;> rfl⟩
      | transformed content => exact ⟨b, rfl⟩
      | streamStarted reply => exact ⟨b, by cases reply <;> rfl⟩
    obtain ⟨t, resumed⟩ := waited
    rw [Call.resumeAll, resumed]
    exact ih

/-- The event that waits for the next stream is lost. -/
theorem not_dropSafe_startStream (phase : b.phase = .waitingForTools) (filler : b.fillerTask = none)
    (event : AgentEvent) : ¬ recvCall.DropSafe (·.conversation) b (.startStream event) := by
  obtain ⟨c, opened, same⟩ := b.startStream_returns event
  have returns : recvCall.resumeAll b (.startStream event) [.streamStarted (.ok ())] =
      (c, .ready (some event)) := by
    have resumed : recvCall.resume b (.startStream event) (.streamStarted (.ok ())) =
        (c, .ready (some event)) := opened
    rw [Call.resumeAll, resumed]
  refine not_dropSafe_of_lost phase filler ?_ returns (same ▸ List.prefix_rfl)
  intro wake held
  rw [List.mem_singleton.1 held]
  exact fun _ => rfl

/-! ## The guarantee -/

/-- **A point at which a drop is harmless**: the call holds nothing, and no event is buffered that
the old call would deliver later than a new one. -/
def Harmless (b : DefaultAgentBackend) : RecvPoint → Prop
  | .stream => b.eventBuffer = []
  | .tools none => b.eventBuffer = [] ∨ b.toolTasks = [] ∧ b.toolResults = []
  | .tools (some _) => False
  | .transform _ => False
  | .startStream _ => False
  | .spinning => True

/-- **Dropping `recv` changes nothing exactly at the harmless points**, in every run and wherever a
call waits: a new call delivers the same events in the same order, and leaves the same
conversation. -/
theorem recv_dropSafe_iff (library : AgentLibrary) (graph : Option AgentGraphDef)
    (config : AgentBackendConfig) (calls : List AgentCall) (wakes : List Wake)
    (b : DefaultAgentBackend) (point : RecvPoint)
    (reached : recvCall.drive wakes (run step (new library graph config) calls)
      = (b, .pending point)) :
    recvCall.DropSafe (·.conversation) b point ↔ b.Harmless point := by
  have waits := waitsAt_reached library graph config calls reached
  have phase := waits.phase
  cases point with
  | stream =>
    obtain ⟨streaming, rx⟩ : b.phase = .streaming ∧ b.llmEventRx = true := phase
    rcases buffer : b.eventBuffer with - | ⟨head, rest⟩
    -- Nothing is buffered: the next call waits for the stream again.
    · refine ⟨fun _ => buffer, fun _ => Call.Resumes.dropSafe ?_ _⟩
      change b.enter = _
      rw [enter, buffer, enterPhase, streaming, rx]
      rfl
    -- Something is buffered: it comes before the token, where without the drop the token comes first.
    · have returns : recvCall.resumeAll b .stream [.llm (some (.token "")) ""] =
          ({ b with pendingTokens := b.pendingTokens ++ [""] }, .ready (some (.token ""))) := rfl
      refine ⟨fun safe => absurd safe ?_, fun empty => absurd (buffer.symm.trans empty) ?_⟩
      · exact not_dropSafe_of_order buffer returns (waits.ne_head buffer rfl)
      · exact List.cons_ne_nil head rest
  | tools filler =>
    obtain ⟨waiting, taken⟩ : b.phase = .waitingForTools ∧ b.fillerTask = none := phase
    cases filler with
    | none =>
      -- Neither a task nor a result is there, so no call returns.
      by_cases alone : b.toolTasks = [] ∧ b.toolResults = []
      · refine ⟨fun _ => .inr alone, fun _ wakes kept again t u returns _ _ => ?_⟩
        obtain ⟨s, waited⟩ := tools_wait alone.1 alone.2 wakes
        obtain ⟨result, returns⟩ := returns
        rw [waited] at returns
        cases returns
      · rcases buffer : b.eventBuffer with - | ⟨head, rest⟩
        · refine ⟨fun _ => .inl buffer, fun _ => Call.Resumes.dropSafe ?_ _⟩
          have same : ({ b with fillerTask := none } : DefaultAgentBackend) = b := by
            rw [← taken]
          have entered : b.enter = ({ b with fillerTask := none }, .pending (.tools b.fillerTask)) := by
            simp only [enter, buffer, enterPhase, waiting]
          change b.enter = _
          rw [entered, taken, same]
        -- A result is still to come, and the buffered event gets ahead of it.
        · have outstanding : b.toolTasks ≠ [] ∨ b.toolResults ≠ [] := by
            by_cases tasks : b.toolTasks = []
            · exact .inr fun results => alone ⟨tasks, results⟩
            · exact .inl tasks
          obtain ⟨wakes, c, event, works, returns⟩ := tools_returns outstanding
          refine ⟨fun safe => absurd safe ?_, fun harmless => ?_⟩
          · exact not_dropSafe_of_order buffer returns (waits.ne_head buffer works)
          · rcases harmless with empty | none
            · exact absurd (buffer.symm.trans empty) (List.cons_ne_nil head rest)
            · exact absurd none alone
    | some filler =>
      -- The filler task was taken by the dropped call.
      refine ⟨fun safe => absurd safe ?_, False.elim⟩
      have returns : recvCall.resumeAll b (.tools (some filler)) [.filler (some "")] =
          (b, .ready (some (.token ""))) := rfl
      refine not_dropSafe_of_lost waiting taken ?_ returns List.prefix_rfl
      intro wake held
      rw [List.mem_singleton.1 held]
      exact fun _ => rfl
  | transform result =>
    obtain ⟨waiting, taken⟩ : b.phase = .waitingForTools ∧ b.fillerTask = none := phase
    -- The result that is transformed was taken by the dropped call.
    obtain ⟨c, event, -, kept, returns⟩ := b.transform_returns result
    refine ⟨fun safe => absurd safe ?_, False.elim⟩
    exact not_dropSafe_of_lost waiting taken ignored_finishing returns kept
  | startStream event =>
    obtain ⟨waiting, taken⟩ : b.phase = .waitingForTools ∧ b.fillerTask = none := phase
    exact ⟨fun safe => not_dropSafe_startStream waiting taken event safe, False.elim⟩
  | spinning =>
    refine ⟨fun _ => trivial, fun _ wakes kept again t u returns _ _ => ?_⟩
    obtain ⟨s, waited⟩ := spinning_waits (b := b) wakes
    obtain ⟨result, returns⟩ := returns
    rw [waited] at returns
    cases returns

/-- A turn that waits for its stream. -/
theorem recv_dropSafe_iff_streaming :
    let s := recvCall.drive [] (run step (new silentLibrary none {}) [.startTurn ⟨[], .ok ()⟩])
    recvCall.DropSafe (·.conversation) s.1 .stream ↔ s.1.Harmless .stream := by
  intro s
  have waiting : s.2 = .pending .stream := by decide +kernel
  exact recv_dropSafe_iff silentLibrary none {} [.startTurn ⟨[], .ok ()⟩] [] s.1 .stream
    (Prod.ext rfl waiting)

/-- **A tool result is lost**: it is in the conversation and counted, but the call that is to report
it is dropped while the next LLM stream is opened. -/
theorem recv_drop_loses_event :
    let s := recvCall.drive [.llm none "", .background (.toolDone 0 true "found"), .toolResult]
      (run step (new silentLibrary none {}) [.startTurn ⟨[], .ok ()⟩,
        .recv [.llm (some (.toolCall ⟨"lookup", "", some "one", none⟩)) ""]])
    let event := AgentEvent.toolCallCompleted "one" "lookup" true none
    s.2 = .pending (.startStream event) ∧
      ¬ recvCall.DropSafe (·.conversation) s.1 (.startStream event) := by
  intro s event
  have waiting : s.1.phase = .waitingForTools ∧ s.1.fillerTask = none := by decide +kernel
  exact ⟨by decide +kernel, not_dropSafe_startStream waiting.1 waiting.2 event⟩

/-! ## A turn that is stuck -/

/-- **Fewer tool results can come than are waited for**, or none at all. -/
def Stuck (b : DefaultAgentBackend) : Prop :=
  b.phase = .waitingForTools ∧
    (b.toolTasks.length + b.toolResults.length < b.toolsRemaining ∨
      b.toolTasks = [] ∧ b.toolResults = [])

/-- Where `recv` waits in a stuck turn. -/
def StuckAt (b : DefaultAgentBackend) : RecvPoint → Prop
  | .tools _ => b.Stuck
  | .transform _ => b.phase = .waitingForTools ∧
      b.toolTasks.length + b.toolResults.length + 1 < b.toolsRemaining
  | _ => False

/-- Nothing in the background adds a tool. -/
theorem background_tools (b : DefaultAgentBackend) (event : Background) :
    let t := b.background event
    t.phase = b.phase ∧ t.toolsRemaining = b.toolsRemaining ∧
      t.toolTasks.length + t.toolResults.length = b.toolTasks.length + b.toolResults.length := by
  cases event with
  | toolDone i success result =>
    unfold background
    dsimp only
    rcases found : b.toolTasks[i]? with - | task
    · exact ⟨rfl, rfl, rfl⟩
    · obtain ⟨inside, -⟩ := List.getElem?_eq_some_iff.1 found
      refine ⟨rfl, rfl, ?_⟩
      dsimp only
      rw [List.length_append, List.length_singleton, List.length_eraseIdx_of_lt inside]
      omega
  | summaryDone i summary => exact ⟨rfl, rfl, rfl⟩

/-- The background does not bring a lost result. -/
theorem stuck_background (stuck : b.Stuck) (event : Background) : (b.background event).Stuck := by
  obtain ⟨phase, remaining, tools⟩ := b.background_tools event
  refine ⟨phase.trans stuck.1, ?_⟩
  rcases stuck.2 with fewer | ⟨tasks, results⟩
  · refine .inl ?_
    rw [remaining, tools]
    exact fewer
  · rw [tasks, results, List.length_nil, List.length_nil] at tools
    exact .inr ⟨List.eq_nil_of_length_eq_zero (by omega), List.eq_nil_of_length_eq_zero (by omega)⟩

/-- A result that is recorded does not bring a lost one. -/
theorem stuck_finishResult (phase : b.phase = .waitingForTools)
    (fewer : b.toolTasks.length + b.toolResults.length + 1 < b.toolsRemaining)
    (result : ToolTaskResult) (content : String) :
    Holds StuckAt (fun b _ => b.Stuck) (b.finishResult result content) := by
  have left : usizePred b.toolsRemaining = b.toolsRemaining - 1 := if_neg (by omega)
  rcases finishResult_cases result content b with ⟨-, finished⟩ | ⟨last, -⟩
  · rw [finished]
    refine ⟨phase, .inl ?_⟩
    change b.toolTasks.length + b.toolResults.length < usizePred b.toolsRemaining
    omega
  · change usizePred b.toolsRemaining = 0 at last
    omega

/-- **A stuck call stays stuck.** -/
theorem stuck_resume {point : RecvPoint} (stuck : b.StuckAt point) (wake : Wake) :
    Holds StuckAt (fun b _ => b.Stuck) (b.resume point wake) := by
  unfold resume
  split
  · rename_i event
    cases point with
    | tools filler => exact stuck_background stuck event
    | transform result =>
      obtain ⟨phase, remaining, tools⟩ := b.background_tools event
      refine ⟨phase.trans stuck.1, ?_⟩
      rw [remaining, tools]
      exact stuck.2
    | stream => exact stuck.elim
    | startStream e => exact stuck.elim
    | spinning => exact stuck.elim
  · exact stuck.elim
  · exact stuck.elim
  · split
    · rename_i result rest results
      have fewer : b.toolTasks.length + rest.length + 1 < b.toolsRemaining := by
        rcases stuck.2 with fewer | ⟨-, none⟩
        · rw [results, List.length_cons] at fewer
          omega
        · rw [results] at none
          cases none
      unfold handleResult
      dsimp only
      split
      · exact ⟨stuck.1, fewer⟩
      · exact stuck_finishResult (by exact stuck.1) (by exact fewer) result result.result
    · exact stuck
  · exact stuck
  · exact stuck
  · exact stuck_finishResult stuck.1 stuck.2 _ _
  · exact stuck.elim
  · exact stuck.elim
  · exact stuck

/-- **A stuck turn stays stuck**, however often `recv` is called. -/
theorem stuck_recv (stuck : b.Stuck) (wakes : List Wake) : (b.recv wakes).2.Stuck := by
  refine recv_rule_of_forall ?_ (fun _ _ wake stuck => stuck_resume stuck wake) ?_ stuck wakes
  · intro b stuck
    unfold enter enterPhase
    rcases b.eventBuffer with - | ⟨event, rest⟩
    · dsimp only
      rw [stuck.1]
      exact ⟨rfl, stuck.2⟩
    · exact stuck
  · intro b point stuck
    cases point with
    | tools filler => exact stuck
    | transform result => exact ⟨stuck.1, .inl (by have := stuck.2; omega)⟩
    | stream => exact stuck.elim
    | startStream event => exact stuck.elim
    | spinning => exact stuck.elim

/-- **After a drop while a tool result is summarized the turn never ends**: whatever tools and streams
do, it waits for the lost result in every later call of `recv`. -/
theorem transform_drop_stuck (library : AgentLibrary) (graph : Option AgentGraphDef)
    (config : AgentBackendConfig) (calls : List AgentCall)
    (settled : Along step SettledTurn (new library graph config) calls) (wakes : List Wake)
    (result : ToolTaskResult)
    (reached : recvCall.drive wakes (run step (new library graph config) calls)
      = (b, .pending (.transform result))) (later : List (List Wake)) :
    (run (fun b wakes => (b.recv wakes).2) b later).phase = .waitingForTools := by
  have waits := waitsAt_reached library graph config calls reached
  have owned : b.Owned [result] := by
    have driven := owned_drive (owned_run library graph config calls settled) wakes
    rw [reached] at driven
    exact driven
  have counted := owned.counted
  rw [List.singleton_append, List.length_cons] at counted
  have stuck : b.Stuck := ⟨waits.phase.1, .inl (by omega)⟩
  have keeps : ∀ (b : DefaultAgentBackend) (wakes : List Wake), b.Stuck → (b.recv wakes).2.Stuck :=
    fun _ wakes held => stuck_recv held wakes
  exact (invariant_of_step keeps stuck later).1

end Feros.DefaultAgentBackend
