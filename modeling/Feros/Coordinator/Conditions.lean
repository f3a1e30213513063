import Feros.Coordinator.Outcome
/-! # Conditions on an input

What an input is about to do, said of the state before it: predicates the exact conditions of the
guarantees are made of, each with the outcome that has it and the result it has. -/

namespace Feros

/-- The kind of timer that fires on an input, if one is due. -/
def Coordination.fires {β : Type} [AgentBackend β] (c : Coordination β) (input : Input β) :
    Option TimerKey :=
  match input with
  | .timer key => (c.timers.due key c.world.now).map Delayed.value
  | _ => none

/-- A timer that is due fires. -/
theorem Coordination.fires_of_due {β : Type} [AgentBackend β] {c : Coordination β} {key : Key}
    {entry : Delayed TimerKey} {kind : TimerKey}
    (due : c.timers.due key c.world.now = some entry) (value : entry.value = kind) :
    c.fires (.timer key) = some kind := by
  have fires : c.fires (.timer key) = some entry.value := congrArg (Option.map Delayed.value) due
  rw [fires, value]

/-! ## What an input starts or cancels -/

section Conditions

variable {β : Type} [AgentBackend β] (c : Coordination β) (input : Input β)

/-- Speech is about to end that was talked over an active pipeline. -/
def Coordination.endsBargeIn : Bool :=
  match input with
  | .vad (.speechEnded _) _ => !c.seGuard.isActive && decide (c.turnPhase = .userSpeaking true)
  | _ => false

/-- The last tool in flight is about to complete. -/
def Coordination.completesLast : Bool :=
  match c.yielded input with
  | some (.toolCallCompleted _ _ _ _) => decide (c.seGuard.inFlight ≤ 1)
  | _ => false

/-- The watchdog is about to close a window. -/
def Coordination.closesWindow : Bool :=
  decide (c.fires input = some .sideEffectTimeout) && c.seGuard.isActive

/-- A deferred transcript is about to be replayed. -/
def Coordination.replaysDeferred : Bool :=
  (c.completesLast input || c.closesWindow input) && c.seGuard.deferredTranscript.isSome

/-- The wait after a ○ or ◐ is about to end over an idle pipeline. -/
def Coordination.endsWait : Bool :=
  decide (c.fires input = some .turnCompletion) && !c.isPipelineActive &&
    c.reengagement.onTurnCompletionFired.isSome

/-- The wait after a ○ or ◐ will end with the replay of a suppressed response. -/
def Coordination.hasResponse : Bool :=
  match c.llmTurn with
  | .suppressing response => response.isSome
  | _ => false

/-- A silent user is about to be nudged. -/
def Coordination.nudgesIdle : Bool :=
  decide (c.fires input = some .userIdle) &&
    match c.reengagement.onUserIdleFired with
    | some (retryCount, _) => shouldNudgeIdle c.isPipelineActive c.config.idleTimeoutSecs
        retryCount c.config.idleMaxNudges
    | none => false

variable {c}

/-- There is a suppressed response exactly where there is a response. -/
theorem suppressedResponse_isSome {c : Coordinator β} :
    c.suppressedResponse.isSome = c.hasResponse := by
  unfold Coordinator.suppressedResponse Coordination.hasResponse
  cases c.llmTurn <;> rfl

/-- The last tool of a window completes it. -/
theorem Coordination.completesLast_of_recv {poll : AgentBackend.Poll β} {llm : β}
    {id name : String} {success : Bool} {errorMessage : Option String}
    (active : AgentBackend.isActive c.llm = true)
    (yields : LlmStage.recv poll c.llm =
      (some (.toolCallCompleted id name success errorMessage), llm))
    (last : c.seGuard.inFlight ≤ 1) : c.completesLast (.llm poll) = true := by
  unfold completesLast
  rw [yielded_of_recv active yields]
  exact decide_eq_true last

/-- The timeout closes a window that is open. -/
theorem Coordination.closesWindow_of_due {key : Key} {entry : Delayed TimerKey}
    (due : c.timers.due key c.world.now = some entry) (value : entry.value = .sideEffectTimeout)
    (window : c.seGuard.isActive = true) : c.closesWindow (.timer key) = true := by
  unfold closesWindow
  rw [fires_of_due due value, window]
  rfl

/-- The tool that completes the window replays what was deferred. -/
theorem Coordination.replaysDeferred_of_last {input : Input β} {text : String}
    (last : c.completesLast input = true) (deferred : c.seGuard.deferredTranscript = some text) :
    c.replaysDeferred input = true := by
  unfold replaysDeferred
  rw [last, deferred]
  rfl

/-- A window that closes replays what was deferred. -/
theorem Coordination.replaysDeferred_of_closes {input : Input β} {text : String}
    (closes : c.closesWindow input = true)
    (deferred : c.seGuard.deferredTranscript = some text) : c.replaysDeferred input = true := by
  unfold replaysDeferred
  rw [closes, deferred, Bool.or_true]
  rfl

/-- **A turn completion that fires ends the wait.** -/
theorem Coordination.endsWait_of_due {key : Key} {entry : Delayed TimerKey}
    {next : Bool × ReengagementTimer} (due : c.timers.due key c.world.now = some entry)
    (value : entry.value = .turnCompletion)
    (armed : c.reengagement.onTurnCompletionFired = some next)
    (idle : c.isPipelineActive = false) : c.endsWait (.timer key) = true := by
  unfold endsWait
  rw [fires_of_due due value, armed, idle]
  rfl

/-- **An idle timer that fires nudges** as long as nudges are left. -/
theorem Coordination.nudgesIdle_of_due {key : Key} {entry : Delayed TimerKey} {retryCount : ℕ}
    {reengagement : ReengagementTimer} (due : c.timers.due key c.world.now = some entry)
    (value : entry.value = .userIdle)
    (armed : c.reengagement.onUserIdleFired = some (retryCount, reengagement))
    (nudge : shouldNudgeIdle c.isPipelineActive c.config.idleTimeoutSecs retryCount
      c.config.idleMaxNudges = true) : c.nudgesIdle (.timer key) = true := by
  unfold nudgesIdle
  rw [fires_of_due due value, armed]
  exact nudge

end Conditions

namespace Coordinator

variable {β : Type} [AgentBackend β]

/-! ## Inputs whose outcome is known -/

section Known

variable {c : Coordinator β} {input : Input β} (remaining : Duration)

/-- What the LLM yields is handled. -/
theorem handle_of_yielded {event : LlmEvent} (yields : c.yielded input = some event) :
    ∃ llm, c.handle input remaining = (c.polled event llm).llmEvent event := by
  cases input with
  | llm poll =>
    unfold Coordination.yielded at yields
    unfold handle
    dsimp only at yields ⊢
    cases active : AgentBackend.isActive c.llm with
    | false =>
      rw [active] at yields
      cases yields
    | true =>
      rw [active, if_pos rfl] at yields
      rw [if_pos rfl]
      rcases recv : LlmStage.recv poll c.llm with ⟨_ | event', llm⟩
      · rw [recv] at yields
        cases yields
      · rw [recv] at yields
        cases yields
        exact ⟨llm, rfl⟩
  | vad event verdict | stt event | tts event | timer key => cases yields

/-- A timer that fires is handled. -/
theorem handle_of_fires {kind : TimerKey} (fires : c.fires input = some kind) :
    ∃ key, c.handle input remaining = (c.fired key).timerFired kind := by
  cases input with
  | timer key =>
    obtain ⟨entry, due, value⟩ := Option.map_eq_some_iff.1 fires
    refine ⟨key, ?_⟩
    unfold handle
    dsimp only
    rw [due, ← value]
  | vad event verdict | stt event | llm poll | tts event => cases fires

/-- Speech that was talked over an active pipeline ends. -/
theorem handle_of_endsBargeIn (ends : c.endsBargeIn input = true) :
    c.handle input remaining = (c.setTurnPhase .bargeInWordCount).cancelPipeline := by
  unfold Coordination.endsBargeIn at ends
  split at ends
  · simp only [Bool.and_eq_true, Bool.not_eq_true', decide_eq_true_eq] at ends
    obtain ⟨window, speaking⟩ := ends
    unfold handle speechEnded endSpeech
    dsimp only
    rw [window, if_neg Bool.false_ne_true, speaking]
  · cases ends

/-- The last tool completes. -/
theorem handle_of_completesLast (last : c.completesLast input = true) :
    ∃ event llm id, c.handle input remaining =
      match c.seGuard.deferredTranscript with
      | some text => ((c.polled event llm).endWindow id).replayDeferred text
      | none => (c.polled event llm).endWindow id := by
  unfold Coordination.completesLast at last
  split at last
  · rename_i id name success errorMessage yields
    obtain ⟨llm, handled⟩ := handle_of_yielded remaining yields
    have few : ¬ 1 < c.seGuard.inFlight := not_lt.2 (of_decide_eq_true last)
    exact ⟨.toolCallCompleted id name success errorMessage, llm, id,
      handled.trans (if_neg few)⟩
  · cases last

/-- The watchdog closes the window. -/
theorem handle_of_closesWindow (closes : c.closesWindow input = true) :
    ∃ key, c.handle input remaining =
      match c.seGuard.deferredTranscript with
      | some text => (c.fired key).closeWindow.replayDeferred text
      | none => (c.fired key).closeWindow.cancelPipeline := by
  unfold Coordination.closesWindow at closes
  obtain ⟨fires, window⟩ := Bool.and_eq_true_iff.1 closes
  obtain ⟨key, handled⟩ := handle_of_fires remaining (of_decide_eq_true fires)
  exact ⟨key, handled.trans (if_pos window)⟩

/-- A deferred transcript is replayed. -/
theorem handle_of_replaysDeferred (replays : c.replaysDeferred input = true) :
    ∃ (d : Coordinator β) (text : String), c.handle input remaining = d.replayDeferred text ∧ d.turnPhase = c.turnPhase ∧
      c.trail <+: d.trail := by
  unfold Coordination.replaysDeferred at replays
  obtain ⟨ends, deferred⟩ := Bool.and_eq_true_iff.1 replays
  obtain ⟨text, deferred⟩ := Option.isSome_iff_exists.1 deferred
  rcases Bool.or_eq_true_iff.1 ends with last | closes
  · obtain ⟨event, llm, id, handled⟩ := handle_of_completesLast remaining last
    rw [deferred] at handled
    exact ⟨_, text, handled, rfl, List.prefix_append _ _⟩
  · obtain ⟨key, handled⟩ := handle_of_closesWindow remaining closes
    rw [deferred] at handled
    exact ⟨_, text, handled, rfl, List.prefix_refl _⟩

/-- The wait after a ○ or ◐ ends. -/
theorem handle_of_endsWait (ends : c.endsWait input = true) :
    ∃ (d : Coordinator β) (isShort : Bool), d.turnPhase = c.turnPhase ∧ d.trail = c.trail ∧
      d.shouldExit = c.shouldExit ∧ c.handle input remaining =
      match c.suppressedResponse with
      | some _ => (d.setLlmTurn .idle).startTtsForTurn
      | none => d.startNudgeTurn (TurnCompletion.nudgePrompt isShort) := by
  unfold Coordination.endsWait at ends
  simp only [Bool.and_eq_true, decide_eq_true_eq, Bool.not_eq_true'] at ends
  obtain ⟨⟨fires, idle⟩, armed⟩ := ends
  obtain ⟨⟨isShort, reengagement⟩, armed⟩ := Option.isSome_iff_exists.1 armed
  obtain ⟨key, handled⟩ := handle_of_fires remaining fires
  refine ⟨(c.fired key).setReengagement reengagement, isShort, rfl, rfl, rfl,
    handled.trans ?_⟩
  unfold timerFired turnCompletionFired
  rw [show (c.fired key).reengagement = c.reengagement from rfl, armed]
  dsimp only
  unfold replayOrNudge
  exact if_neg (by
    rw [show ((c.fired key).setReengagement reengagement).isPipelineActive = c.isPipelineActive
      from rfl, idle]
    exact Bool.false_ne_true)

/-- A silent user is nudged. -/
theorem handle_of_nudgesIdle (nudges : c.nudgesIdle input = true) :
    ∃ d : Coordinator β, d.turnPhase = c.turnPhase ∧ d.trail = c.trail ∧
      c.handle input remaining = d.startNudgeTurn Reactor.idleNudge := by
  unfold Coordination.nudgesIdle at nudges
  obtain ⟨fires, due⟩ := Bool.and_eq_true_iff.1 nudges
  obtain ⟨key, handled⟩ := handle_of_fires remaining (of_decide_eq_true fires)
  cases armed : c.reengagement.onUserIdleFired with
  | none =>
    rw [armed] at due
    cases due
  | some next =>
    obtain ⟨retryCount, reengagement⟩ := next
    rw [armed] at due
    refine ⟨(c.fired key).setReengagement reengagement, rfl, rfl, handled.trans ?_⟩
    unfold timerFired userIdleFired
    rw [show (c.fired key).reengagement = c.reengagement from rfl, armed]
    exact if_pos due

end Known

end Coordinator

end Feros
