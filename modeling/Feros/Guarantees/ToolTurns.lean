import Feros.Agent.Calls
/-! # Tools and the turns they belong to

A tool result is counted in the turn its tool was spawned in.  `cancel` replaces the result channel,
so what the tools of a cancelled turn send is lost; `startTurn` keeps the channel, so the law needs
that no tool is outstanding when it is called.

* **`OneTurn`** says that all outstanding tools are of the current turn, and are counted.
* It is kept where `recv` is entered, resumed and dropped, and by the other calls. -/

namespace Feros.DefaultAgentBackend

open Run Suspension

/-! ## The invariant -/

/-- **The outstanding tools are those of one turn**, and `toolsRemaining` counts them. -/
structure OneTurn (turn remaining : ℕ) (tasks : List ToolTask) (results : List ToolTaskResult)
    (handled : List HandledResult) : Prop where
  counted : tasks.length + results.length ≤ remaining
  tasks : ∀ task ∈ tasks, task.turn = turn
  results : ∀ result ∈ results, result.turn = turn
  handled : ∀ h ∈ handled, h.result.turn = h.turn ∧ 0 < h.remaining

/-- The outstanding tools of a backend, when a call of `recv` has taken `held` from the channel. -/
def Owned (held : List ToolTaskResult) (b : DefaultAgentBackend) : Prop :=
  OneTurn b.turn b.toolsRemaining b.toolTasks (held ++ b.toolResults) b.handled

/-- The results that a suspended call of `recv` holds. -/
def RecvPoint.held : RecvPoint → List ToolTaskResult
  | .transform result => [result]
  | _ => []

/-- What a call of `recv` holds is owned too. -/
def OwnedAt (b : DefaultAgentBackend) (point : RecvPoint) : Prop := b.Owned (RecvPoint.held point)

/-! ## What keeps it -/

section Keeps

variable {turn remaining : ℕ} {tasks : List ToolTask} {results : List ToolTaskResult}
  {handled : List HandledResult}

/-- A tool is spawned. -/
theorem OneTurn.spawn (one : OneTurn turn remaining tasks results handled) {task : ToolTask}
    (current : task.turn = turn) :
    OneTurn turn (remaining + 1) (tasks ++ [task]) results handled where
  counted := by
    have counted := one.counted
    rw [List.length_append, List.length_singleton]
    omega
  tasks := by
    intro t held
    rcases List.mem_append.1 held with held | held
    · exact one.tasks t held
    · rw [List.mem_singleton.1 held]
      exact current
  results := one.results
  handled := one.handled

/-- A task sends its result. -/
theorem OneTurn.send (one : OneTurn turn remaining tasks results handled) {i : ℕ} {task : ToolTask}
    (found : tasks[i]? = some task) {result : ToolTaskResult} (same : result.turn = task.turn) :
    OneTurn turn remaining (tasks.eraseIdx i) (results ++ [result]) handled where
  counted := by
    obtain ⟨inside, -⟩ := List.getElem?_eq_some_iff.1 found
    have counted := one.counted
    rw [List.length_append, List.length_singleton, List.length_eraseIdx_of_lt inside]
    omega
  tasks t held := one.tasks t (List.mem_of_mem_eraseIdx held)
  results := by
    intro r held
    rcases List.mem_append.1 held with held | held
    · exact one.results r held
    · rw [List.mem_singleton.1 held, same]
      exact one.tasks task (List.mem_of_getElem? found)
  handled := one.handled

/-- A result is counted. -/
theorem OneTurn.count {result : ToolTaskResult}
    (one : OneTurn turn remaining tasks (result :: results) handled) :
    OneTurn turn (usizePred remaining) tasks results (handled ++ [⟨result, turn, remaining⟩]) := by
  have counted := one.counted
  rw [List.length_cons] at counted
  have positive : 0 < remaining := by omega
  constructor
  · rw [usizePred, if_neg positive.ne']
    omega
  · exact one.tasks
  · exact fun r held => one.results r (List.mem_cons_of_mem result held)
  · intro h held
    rcases List.mem_append.1 held with held | held
    · exact one.handled h held
    · rw [List.mem_singleton.1 held]
      exact ⟨one.results result List.mem_cons_self, positive⟩

/-- A result that is taken from the channel may be lost. -/
theorem OneTurn.lose {result : ToolTaskResult}
    (one : OneTurn turn remaining tasks (result :: results) handled) :
    OneTurn turn remaining tasks results handled where
  counted := by
    have counted := one.counted
    rw [List.length_cons] at counted
    omega
  tasks := one.tasks
  results r held := one.results r (List.mem_cons_of_mem result held)
  handled := one.handled

/-- With no tool outstanding, any turn is owned. -/
theorem oneTurn_none (turn remaining : ℕ)
    (counted : ∀ h ∈ handled, h.result.turn = h.turn ∧ 0 < h.remaining) :
    OneTurn turn remaining [] [] handled where
  counted := Nat.zero_le remaining
  tasks _ held := absurd held List.not_mem_nil
  results _ held := absurd held List.not_mem_nil
  handled := counted

end Keeps

variable {b : DefaultAgentBackend} {held : List ToolTaskResult}

/-- What the background does leaves every held result owned. -/
theorem owned_background (owned : b.Owned held) (event : Background) :
    (b.background event).Owned held := by
  cases event with
  | toolDone i success result =>
    unfold background
    dsimp only
    rcases found : b.toolTasks[i]? with - | task
    · exact owned
    · let sent : ToolTaskResult := ⟨task.callId, task.name, success, result, task.turn⟩
      have same : sent.turn = task.turn := rfl
      have after := OneTurn.send owned found same
      rw [List.append_assoc] at after
      exact after
  | summaryDone i summary => exact owned

/-- Opening a stream leaves every held result owned. -/
theorem owned_openStream (owned : b.Owned held) : b.openStream.Owned held := by
  obtain ⟨obs, opened⟩ := b.openStream_eq
  rw [opened]
  exact owned

/-- A stream that was requested leaves every held result owned. -/
theorem owned_requestStream {asked : DefaultAgentBackend} (owned : b.Owned held)
    (requested : b.requestStream = .ok asked) : asked.Owned held := by
  obtain ⟨schemas, temperature, maxTokens, model, -, rfl⟩ := requestStream_eq requested
  exact owned

/-- After `cancel` no tool is outstanding, whatever was before. -/
theorem owned_cancel (counted : ∀ h ∈ b.handled, h.result.turn = h.turn ∧ 0 < h.remaining) :
    b.cancel.2.Owned [] := by
  obtain ⟨complete, -, cancelled⟩ := b.cancel_eq
  rw [cancelled]
  exact oneTurn_none b.turn 0 counted

/-- **A result that was finished is held no longer.** -/
theorem owned_finishResult {result : ToolTaskResult} (owned : b.Owned [result]) (content : String) :
    Holds OwnedAt (fun b _ => b.Owned []) (b.finishResult result content) := by
  have counted : OneTurn b.turn (usizePred b.toolsRemaining) b.toolTasks b.toolResults
      (b.handled ++ [⟨result, b.turn, b.toolsRemaining⟩]) := OneTurn.count owned
  rcases finishResult_cases result content b with
    ⟨-, finished⟩ | ⟨-, ⟨pending, -, finished⟩ | ⟨-, -, finished⟩ |
      ⟨-, -, ⟨asked, requested, finished⟩ | ⟨message, -, finished⟩⟩⟩
  · rw [finished]
    exact counted
  · rw [finished]
    exact counted
  · rw [finished]
    exact counted
  · rw [finished]
    have rounded : DefaultAgentBackend.Owned [] { b with
        toolsRemaining := usizePred b.toolsRemaining
        handled := b.handled ++ [⟨result, b.turn, b.toolsRemaining⟩] } := counted
    obtain ⟨schemas, temperature, maxTokens, model, -, rfl⟩ := requestStream_eq requested
    exact rounded
  · rw [finished]
    exact counted

/-- A result that was handled is held no longer. -/
theorem owned_handleResult {result : ToolTaskResult} (owned : b.Owned [result]) :
    Holds OwnedAt (fun b _ => b.Owned []) (b.handleResult result) := by
  have known : ({ b with pendingToolInfo := b.pendingToolInfo.filter (·.1 != result.callId) } :
      DefaultAgentBackend).Owned [result] := owned
  unfold handleResult
  dsimp only
  split
  · exact owned
  · exact owned_finishResult known result.result

/-- A stream that closes leaves every result owned. -/
theorem owned_closeStream (owned : b.Owned []) :
    Holds OwnedAt (fun b _ => b.Owned []) b.closeStream := by
  obtain ⟨complete, -, ⟨-, ⟨pending, -, closed⟩ | ⟨-, closed⟩⟩ | ⟨-, closed⟩⟩ := b.closeStream_cases
  · rw [closed]
    exact owned
  · rw [closed]
    exact owned
  · rw [closed]
    exact owned

/-- An item of the stream leaves every result owned. -/
theorem owned_handleStreamItem (owned : b.Owned []) (item : InnerLlmEvent) (uuid : String) :
    Holds OwnedAt (fun b _ => b.Owned []) (b.handleStreamItem item uuid) := by
  cases item with
  | token text => exact owned
  | usage promptTokens completionTokens cachedInputTokens => exact owned
  | error message => exact owned_cancel owned.handled
  | toolCall call =>
    unfold handleStreamItem
    dsimp only
    split
    · unfold handleHangUp
      split
      · exact owned
      · exact owned
    · split
      · exact owned
      · exact OneTurn.spawn owned rfl

/-! ## Calls -/

/-- A call that is entered leaves every result owned. -/
theorem owned_enter (owned : b.Owned []) : Holds OwnedAt (fun b _ => b.Owned []) b.enter := by
  unfold enter enterPhase
  rcases b.eventBuffer with - | ⟨event, rest⟩
  · dsimp only
    rcases b.phase with - | - | -
    · exact owned
    · dsimp only
      split
      · exact owned
      · exact owned
    · exact owned
  · exact owned

/-- **A call that is resumed leaves every result owned**, whatever woke it. -/
theorem owned_resume {point : RecvPoint} (owned : OwnedAt b point) (wake : Wake) :
    Holds OwnedAt (fun b _ => b.Owned []) (b.resume point wake) := by
  unfold resume
  split
  · exact owned_background owned _
  · exact owned_handleStreamItem owned _ _
  · exact owned_closeStream owned
  · split
    · rename_i result rest taken
      -- The result moves from the channel to the call.
      have moved : ({ b with toolResults := rest } : DefaultAgentBackend).Owned [result] := by
        have owned : OneTurn b.turn b.toolsRemaining b.toolTasks b.toolResults b.handled := owned
        rw [taken] at owned
        exact owned
      exact owned_handleResult moved
    · exact owned
  · exact owned
  · exact owned
  · exact owned_finishResult owned _
  · have opened : b.openStream.Owned [] := owned_openStream owned
    exact opened
  · exact owned
  · exact owned

/-- Where a call of `recv` waits, it keeps to the turn. -/
theorem owned_drive (owned : b.Owned []) (wakes : List Wake) :
    Holds OwnedAt (fun b _ => b.Owned []) (recvCall.drive wakes b) :=
  drive_rule (fun _ => owned_enter) (fun _ _ wake held => owned_resume held wake) owned wakes

/-- `recv` keeps to the turn, also if it is dropped. -/
theorem owned_recv (owned : b.Owned []) (wakes : List Wake) : (b.recv wakes).2.Owned [] := by
  refine recv_rule_of_forall (fun _ => owned_enter) (fun _ _ wake held => owned_resume held wake)
    ?_ owned wakes
  · intro b point held
    cases point with
    | transform result => exact OneTurn.lose held
    | stream => exact held
    | tools filler => exact held
    | startStream event => exact held
    | spinning => exact held

/-- **No tool is outstanding when a turn is started.** -/
def SettledTurn (b : DefaultAgentBackend) : AgentCall → Prop
  | .startTurn _ => b.toolTasks = [] ∧ b.toolResults = []
  | _ => True

instance (b : DefaultAgentBackend) : (call : AgentCall) → Decidable (b.SettledTurn call)
  | .startTurn _ => inferInstanceAs (Decidable (_ ∧ _))
  | .setSystemPrompt _ | .addUserMessage _ | .addAssistantMessage _ | .recv _ | .cancel | .background _ =>
    inferInstanceAs (Decidable True)

/-- A turn that starts with nothing left owns every result. -/
theorem owned_startTurn (owned : b.Owned []) (reply : TurnReply) (tasks : b.toolTasks = [])
    (results : b.toolResults = []) : (b.startTurn reply).2.Owned [] := by
  have prepared : (b.prepareTurn reply).Owned [] := by
    obtain ⟨arrived, before⟩ := background_alone tasks reply.background
    obtain ⟨conversation, summarizer, -, prepared⟩ := b.prepareTurn_eq reply
    rw [prepared, before]
    unfold Owned
    dsimp only
    rw [tasks, results]
    exact oneTurn_none _ 0 owned.handled
  rcases b.startTurn_cases reply with ⟨-, started⟩ | ⟨asked, requested, ⟨-, started⟩ | ⟨-, started⟩⟩
  · rw [started]
    exact prepared
  · rw [started]
    exact owned_requestStream prepared requested
  · rw [started]
    have opened : asked.openStream.Owned [] :=
      owned_openStream (owned_requestStream prepared requested)
    exact opened

/-- **A call keeps the tools to their turn**, if no tool is outstanding when a turn is started. -/
theorem owned_step (b : DefaultAgentBackend) (call : AgentCall) (owned : b.Owned [])
    (settled : b.SettledTurn call) : (b.step call).Owned [] := by
  cases call with
  | setSystemPrompt prompt => exact owned
  | addUserMessage text => exact owned
  | addAssistantMessage text => exact owned
  | startTurn reply => exact owned_startTurn owned reply settled.1 settled.2
  | recv wakes => exact owned_recv owned wakes
  | cancel => exact owned_cancel owned.handled
  | background event => exact owned_background owned event

/-- What is outstanding after a run. -/
theorem owned_run (library : AgentLibrary) (graph : Option AgentGraphDef)
    (config : AgentBackendConfig) (calls : List AgentCall)
    (settled : Along step SettledTurn (new library graph config) calls) :
    (run step (new library graph config) calls).Owned [] := by
  have start : (new library graph config).Owned [] :=
    oneTurn_none 0 0 fun _ held => absurd held List.not_mem_nil
  exact invariant owned_step start settled

/-! ## The guarantee -/

/-- **A tool result is counted in the turn of its tool**, and there is one to count, in every run
that starts its turns with no tool outstanding. -/
theorem results_kept_in_turn (library : AgentLibrary) (graph : Option AgentGraphDef)
    (config : AgentBackendConfig) (calls : List AgentCall)
    (settled : Along step SettledTurn (new library graph config) calls) :
    ∀ h ∈ (run step (new library graph config) calls).handled,
      h.result.turn = h.turn ∧ 0 < h.remaining := by
  exact (owned_run library graph config calls settled).handled

/-- The LLM calls a tool, and its stream ends. -/
def callsTool (id : String) : List AgentCall :=
  [.recv [.llm (some (.toolCall ⟨"lookup", "", some id, none⟩)) ""], .recv [.llm none ""],
    .recv []]

/-- The turn that called a tool is cancelled before the next one calls another. -/
theorem results_kept_in_turn_cancelled :
    let calls := .startTurn ⟨[], .ok ()⟩ :: callsTool "one" ++
      .cancel :: .startTurn ⟨[], .ok ()⟩ :: callsTool "two" ++
      [.background (.toolDone 0 true "late"), .recv [.toolResult]]
    ∀ h ∈ (run step (new silentLibrary none {}) calls).handled,
      h.result.turn = h.turn ∧ 0 < h.remaining := by
  intro calls
  exact results_kept_in_turn silentLibrary none {} calls (by decide +kernel)

/-- **A result is counted in a later turn.**  With no `cancel` between the turns the result of the
first tool is counted as one of the second turn; and where the second turn has no tools, as its LLM
call failed, the counter underflows. -/
theorem late_result_counted :
    (¬ ∀ h ∈ (run step (new silentLibrary none {})
        (.startTurn ⟨[], .ok ()⟩ :: callsTool "one" ++ .startTurn ⟨[], .ok ()⟩ :: callsTool "two" ++
          [.background (.toolDone 0 true "late"), .recv [.toolResult]])).handled,
      h.result.turn = h.turn) ∧
    ¬ ∀ h ∈ (run step (new silentLibrary none {})
        (.startTurn ⟨[], .ok ()⟩ :: callsTool "one" ++ [.startTurn ⟨[], .error "refused"⟩,
          .background (.toolDone 0 true "late"), .recv [.toolResult]])).handled,
      0 < h.remaining := by
  decide +kernel

end Feros.DefaultAgentBackend
