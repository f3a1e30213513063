import Feros.Coordinator.Machine
/-! # The operations of the reactor refine those of the coordinator machine

One lemma for each operation the handlers share, tagged `simp` where it always rewrites: the core
after the operation is the machine's operation on the core. -/

namespace Feros

namespace Reactor

variable {β : Type} [AgentBackend β]

/-! ## Effects that leave no mark -/

/-- An effect leaves its mark. -/
theorem core_note (effect : Effect) (r : Reactor β) :
    (r.note effect).core = { r.core with trail := r.trail ++ effect.mark.toList } := by
  cases h : effect.mark <;> simp [note, core, trail, h]

/-- An effect leaves the state. -/
@[simp] theorem toCoordination_note (effect : Effect) (r : Reactor β) :
    (r.note effect).toCoordination = r.toCoordination := rfl

/-- An effect without a mark is not seen. -/
theorem core_note_of_none {effect : Effect} (h : effect.mark = none) (r : Reactor β) :
    (r.note effect).core = r.core := by
  rw [core_note, h]
  simp [core]

/-- An effect with a mark leaves it. -/
theorem core_note_of_some {effect : Effect} {mark : Mark} (h : effect.mark = some mark)
    (r : Reactor β) : (r.note effect).core = r.core.leave mark := by
  rw [core_note, h]
  rfl

/-- An event the coordinator does not see. -/
def Silent (event : Event) : Prop := ∀ speaking, (Effect.event speaking event).mark = none

/-- A silent event leaves no mark. -/
theorem core_emit_silent {event : Event} (h : Silent event) (r : Reactor β) :
    (r.emit event).core = r.core :=
  core_note_of_none (h _) r

/-- A transcript is shown only. -/
@[simp] theorem core_emit_transcript (role text : String) (r : Reactor β) :
    (r.emit (.transcript role text)).core = r.core :=
  core_emit_silent (fun _ => rfl) r

/-- The activity of a tool is shown only. -/
@[simp] theorem core_emit_toolActivity (id : Option String) (name status : String)
    (errorMessage : Option String) (r : Reactor β) :
    (r.emit (.toolActivity id name status errorMessage)).core = r.core :=
  core_emit_silent (fun _ => rfl) r

/-- An event of the agent is shown only. -/
@[simp] theorem core_emitAgentEvent (kind : String) (r : Reactor β) :
    (r.emitAgentEvent kind).core = r.core :=
  core_emit_silent (fun _ => rfl) r

/-- Silent events leave no mark. -/
theorem core_emitAll_silent {events : List Event} (h : ∀ event ∈ events, Silent event)
    (r : Reactor β) : (r.emitAll events).core = r.core := by
  unfold emitAll
  induction events generalizing r with
  | nil => rfl
  | cons event events ih =>
    rw [List.foldl_cons, ih (fun e he => h e (List.mem_cons_of_mem _ he)),
      core_emit_silent (h event List.mem_cons_self)]

/-- A tracer whose events are silent leaves no mark. -/
theorem core_withTracer {method : Tracer → Tracer × List Event} {r : Reactor β}
    (h : ∀ event ∈ (method r.tracer).2, Silent event) : (r.withTracer method).core = r.core :=
  core_emitAll_silent h _

/-- A label in the trace leaves no mark. -/
@[simp] theorem core_trace (label : String) (r : Reactor β) : (r.trace label).core = r.core :=
  core_withTracer fun event h => by
    simp only [Tracer.trace, List.mem_singleton] at h
    subst h
    exact fun _ => rfl

/-- A turn that is cancelled in the tracer leaves no mark. -/
theorem core_cancelTurn (r : Reactor β) : (r.withTracer Tracer.cancelTurn).core = r.core :=
  core_withTracer fun event h => by
    simp only [Tracer.cancelTurn] at h
    split at h
    · rw [List.mem_singleton.1 h]
      exact fun _ => rfl
    · cases h

/-- **An interruption leaves its mark.** -/
@[simp] theorem core_emitInterrupt (r : Reactor β) :
    (r.emit .interrupt).core = r.core.leave .interrupt :=
  core_note_of_some rfl r

/-! ## Assignments -/

/-- The LLM is set. -/
@[simp] theorem core_setLlm (llm : β) (r : Reactor β) :
    (r.setLlm llm).core = r.core.setLlm llm := rfl

/-- The TTS is set. -/
@[simp] theorem core_setTts (tts : TtsStage) (r : Reactor β) :
    (r.setTts tts).core = { r.core with tts := tts } := rfl

/-- The timers are set. -/
@[simp] theorem core_setTimers (timers : DelayQueue TimerKey) (r : Reactor β) :
    (r.setTimers timers).core = { r.core with timers := timers } := rfl

/-- The reengagement is set, with the timers. -/
@[simp] theorem core_setReengagement (result : ReengagementTimer × DelayQueue TimerKey)
    (r : Reactor β) :
    (r.setReengagement result).core =
      { r.core with reengagement := result.1, timers := result.2 } := rfl

/-- The phase of the turn is set. -/
@[simp] theorem core_setTurnPhase (phase : TurnPhase) (r : Reactor β) :
    (r.setTurnPhase phase).core = r.core.setTurnPhase phase := rfl

/-- The guard is set. -/
@[simp] theorem core_setSeGuard (guard : SideEffectToolsGuard) (r : Reactor β) :
    (r.setSeGuard guard).core = { r.core with seGuard := guard } := rfl

/-- The phase of the session is set. -/
@[simp] theorem core_setSessionPhase (phase : SessionPhase) (r : Reactor β) :
    (r.setSessionPhase phase).core = { r.core with sessionPhase := phase } := rfl

/-- The phase of the turn of the LLM is set. -/
@[simp] theorem core_setLlmTurn (phase : LlmTurnPhase) (r : Reactor β) :
    (r.setLlmTurn phase).core = r.core.setLlmTurn phase := rfl

/-- The hang-up is set. -/
@[simp] theorem core_setHangUp (phase : HangUpPhase) (r : Reactor β) :
    (r.setHangUp phase).core = r.core.setHangUp phase := rfl

/-- Whether audio was sent is set. -/
@[simp] theorem core_setBotAudioSent (sent : Bool) (r : Reactor β) :
    (r.setBotAudioSent sent).core = { r.core with botAudioSent := sent } := rfl

/-- The session is to end. -/
@[simp] theorem core_setShouldExit (r : Reactor β) :
    r.setShouldExit.core = { r.core with shouldExit := true } := rfl

/-- The world is set. -/
@[simp] theorem core_setWorld (world : World β) (r : Reactor β) :
    (r.setWorld world).core = r.core.setWorld world := rfl

/-- The phase that is there is set again. -/
theorem setTurnPhase_self {phase : TurnPhase} {r : Reactor β} (h : r.turnPhase = phase) :
    r.setTurnPhase phase = r := by
  subst h
  rfl

/-- The playback is a matter of the log. -/
@[simp] theorem core_resetPlayback (r : Reactor β) : r.resetPlayback.core = r.core := rfl

/-- The text of the turn is a matter of the log. -/
@[simp] theorem core_clearTurnText (r : Reactor β) : r.clearTurnText.core = r.core := rfl

/-- The cursor is a matter of the log. -/
@[simp] theorem core_beginCursorTurn (r : Reactor β) : r.beginCursorTurn.core = r.core := rfl

/-! ## Calls on the stages -/

/-- The TTS is cancelled. -/
@[simp] theorem core_cancelTts (r : Reactor β) :
    r.cancelTts.core = r.core.cancelTts :=
  core_note_of_none rfl _

/-- A message of the user is added. -/
@[simp] theorem core_addUserMessage (text : String) (r : Reactor β) :
    (r.addUserMessage text).core = r.core.addUserMessage text :=
  core_note_of_some rfl _

/-- A message of the assistant is added. -/
@[simp] theorem core_addAssistantMessage (text : String) (r : Reactor β) :
    (r.addAssistantMessage text).core =
      r.core.setLlm (AgentBackend.addAssistantMessage text r.core.llm) :=
  core_note_of_none rfl _

/-- The text that is fed is a matter of the log. -/
@[simp] theorem core_feedToken (token : String) (r : Reactor β) :
    (r.feedToken token).core = r.core := by
  unfold feedToken
  split
  · exact core_note_of_none rfl r
  · rfl

/-- The flush of the TTS is a matter of the log. -/
@[simp] theorem core_flushTts (r : Reactor β) : r.flushTts.core = r.core := by
  unfold flushTts
  split
  · exact core_note_of_none rfl r
  · rfl

/-- The token for the TTS is a matter of the log. -/
@[simp] theorem core_sendTtsToken (token : String) (r : Reactor β) :
    (r.sendTtsToken token).core = r.core := by
  unfold sendTtsToken
  dsimp only
  split
  · rfl
  · rw [core_feedToken]
    rfl

/-- The request for a transcript is a matter of the log. -/
@[simp] theorem core_finalizeStt (r : Reactor β) : r.finalizeStt.core = r.core :=
  core_note_of_none rfl r

/-- The text of the assistant is shown only. -/
@[simp] theorem core_emitAssistant (text : String) (r : Reactor β) :
    (r.emitAssistant text).core = r.core := by
  unfold emitAssistant
  dsimp only
  split
  · rfl
  · exact core_emit_silent (fun _ => rfl) r

/-- The state of the session is shown only. -/
@[simp] theorem core_setState (state : SessionState) (r : Reactor β) :
    (r.setState state).core = r.core := by
  unfold setState
  split
  · rw [core_emit_silent (fun _ => rfl)]
    rfl
  · rfl

/-- The state of the session is computed and shown only. -/
@[simp] theorem core_computeAndEmitState (r : Reactor β) :
    r.computeAndEmitState.core = r.core :=
  core_setState _ r

/-! ## Idle timer -/

/-- **The idle timer is started.** -/
@[simp] theorem core_startIdleTimerInner (offset : Duration) (force : Bool) (r : Reactor β) :
    (r.startIdleTimerInner offset force).core = r.core.startIdleTimer offset force := by
  unfold startIdleTimerInner Coordinator.startIdleTimer
  rw [show r.core.config = r.config from rfl, show r.core.sessionPhase = r.sessionPhase from rfl]
  split
  · rfl
  · split <;> rfl

/-- The idle timer is started without an offset. -/
@[simp] theorem core_startIdleTimer (r : Reactor β) :
    r.startIdleTimer.core = r.core.startIdleTimer 0 false :=
  core_startIdleTimerInner _ _ r

/-! ## Cancelling -/

/-- A timer is removed. -/
@[simp] theorem core_removeTimer (key : Option Key) (r : Reactor β) :
    (r.removeTimer key).core =
      { r.core with timers := match key with
          | some key => r.core.timers.remove key
          | none => r.core.timers } := by
  cases key <;> rfl

/-- The reengagement is cancelled. -/
@[simp] theorem core_cancelReengagement (r : Reactor β) :
    r.cancelReengagement.core =
      { r.core with
        reengagement := .default
        timers := (r.core.reengagement.cancel r.core.timers).2 } := by
  rw [← ReengagementTimer.cancel_fst r.core.reengagement r.core.timers]
  rfl

/-- The LLM is cancelled. -/
theorem core_cancelLlm (r : Reactor β) :
    r.cancelLlm.core =
      { r.core.leave .cancel with llm := (AgentBackend.cancel r.core.llm).2 } := by
  have noted : ∀ llm : β,
      ((r.setLlm llm).note (.backend (AgentBackend.isActive r.llm) .cancel)).core =
        { r.core.leave .cancel with llm := llm } :=
    fun llm => core_note_of_some rfl _
  rw [← LlmStage.cancel_snd]
  unfold cancelLlm
  dsimp only
  split
  · rw [core_emit_silent (fun _ => rfl)]
    exact noted _
  · exact noted _

/-- The greeting is left. -/
theorem core_leaveGreeting (r : Reactor β) :
    r.leaveGreeting.core =
      { r.core with sessionPhase :=
          if r.core.sessionPhase = .greetingPlaying then .active else r.core.sessionPhase } := by
  unfold leaveGreeting
  rw [show r.core.sessionPhase = r.sessionPhase from rfl]
  split <;> rfl

/-- The delay of a hang-up is removed. -/
theorem core_removeHangUpDelay (r : Reactor β) :
    r.removeHangUpDelay.core = { r.core with timers := r.core.hangUp.release r.core.timers } := by
  unfold removeHangUpDelay HangUpPhase.release
  rw [show r.core.hangUp = r.hangUp from rfl]
  cases r.hangUp <;> rfl

/-- The guard is cancelled, with its timer. -/
theorem core_cancelSeGuard (r : Reactor β) :
    r.cancelSeGuard.core =
      { r.core with
        seGuard := .default
        timers := r.core.seGuard.release r.core.timers } := by
  have silent : ∀ event ∈ r.seGuard.toolIds.map (fun tool =>
      Event.toolActivity (some tool.1) tool.2 "orphaned" none), Silent event := by
    intro event h
    obtain ⟨tool, -, rfl⟩ := List.mem_map.1 h
    exact fun _ => rfl
  simp only [cancelSeGuard, SideEffectToolsGuard.cancel]
  rw [core_emitAll_silent silent, core_removeTimer]
  rfl

/-- **Cancelling refines.** -/
@[simp] theorem core_cancelPipeline (r : Reactor β) :
    r.cancelPipeline.core = r.core.cancelPipeline := by
  simp only [cancelPipeline, core_setBotAudioSent, core_cancelReengagement, core_setLlmTurn,
    core_setHangUp, core_clearTurnText, core_cancelTurn, core_cancelSeGuard,
    core_removeHangUpDelay, core_emitInterrupt, core_leaveGreeting, core_cancelTts,
    core_cancelLlm, Coordinator.cancelPipeline, Coordinator.releasedTimers, Coordinator.leave,
    Coordinator.cancelTts, Coordinator.setLlmTurn, Coordinator.setHangUp, List.append_assoc,
    List.cons_append, List.nil_append]

/-- The end of the session is shown only. -/
@[simp] theorem core_emitSessionEnded (r : Reactor β) : r.emitSessionEnded.core = r.core := by
  have ended : ({ r.emit .sessionEnded with sessionEndedEmitted := true } : Reactor β).core =
      (r.emit .sessionEnded).core := rfl
  unfold emitSessionEnded
  split
  · rfl
  · rw [ended, core_emit_silent (fun _ => rfl)]

/-- **The session is shut down.** -/
@[simp] theorem core_initiateShutdown (r : Reactor β) :
    r.initiateShutdown.core = r.core.initiateShutdown := by
  have closed : ∀ r : Reactor β, r.closeTransport.core = r.core :=
    fun r => core_note_of_none rfl r
  simp only [initiateShutdown, Coordinator.initiateShutdown, core_setShouldExit, closed,
    core_cancelPipeline, core_emitSessionEnded]

/-! ## Starting a turn -/

/-- The TTS is opened. -/
theorem core_openTts (r : Reactor β) :
    r.openTts.core = { r.core with tts := r.core.openedTts } := by
  have started : ∀ tts : TtsStage,
      ((r.setTts tts).note (.tts .start)).core = { r.core with tts := tts } :=
    fun _ => core_note_of_none rfl _
  unfold openTts Coordinator.openedTts
  rw [show r.core.wsTtsCmdTx = r.wsTtsCmdTx from rfl, show r.core.ttsMode = r.ttsMode from rfl]
  cases r.wsTtsCmdTx
  · cases r.ttsMode
    · exact started _
    · rfl
  · exact started _

/-- `start_tts_for_turn` is the machine's, and reports whether the user is speaking. -/
theorem core_startTtsForTurn (r : Reactor β) :
    r.startTtsForTurn.1 = r.turnPhase.isSpeaking ∧
      r.startTtsForTurn.2.core = r.core.startTtsForTurn := by
  have noted : ∀ speaking, (r.note (.startTtsForTurn speaking)).core =
      r.core.leave (.startTts speaking) := fun _ => core_note_of_some rfl r
  unfold startTtsForTurn Coordinator.startTtsForTurn
  rw [show r.core.turnPhase = r.turnPhase from rfl]
  dsimp only
  cases r.turnPhase.isSpeaking
  · refine ⟨rfl, ?_⟩
    simp only [Bool.false_eq_true, if_false, core_openTts, core_beginCursorTurn, noted]
    rfl
  · exact ⟨rfl, by simp only [if_true, core_cancelPipeline, noted]⟩

/-- **The LLM runs.** -/
theorem core_runLlm (r : Reactor β) : r.runLlm.core = r.core.startLlm := by
  have noted : ∀ llm : β,
      ((r.setLlm llm).note (.backend (AgentBackend.isActive r.llm) .startTurn)).core =
        { r.core.leave (.startTurn (AgentBackend.isActive r.llm)) with llm := llm } :=
    fun llm => core_note_of_some rfl _
  unfold runLlm startLlm Coordinator.startLlm
  rw [show r.core.world = r.world from rfl, show r.core.llm = r.llm from rfl]
  dsimp only
  cases (AgentBackend.startTurn r.world.reply r.llm).1 with
  | ok => exact noted _
  | error =>
    simp only [core_startIdleTimer, core_cancelTts, noted]
    rfl

/-- A turn is prepared. -/
theorem core_prepareTurn (r : Reactor β) : r.prepareTurn.core = r.core.prepareTurn := rfl

/-- **Starting a turn refines.** -/
@[simp] theorem core_startLlmTurn (r : Reactor β) :
    r.startLlmTurn.core = r.core.startLlmTurn := by
  obtain ⟨speaking, started⟩ := core_startTtsForTurn r.prepareTurn
  unfold startLlmTurn Coordinator.startLlmTurn
  rw [← core_prepareTurn, ← started, show r.core.turnPhase = r.prepareTurn.turnPhase from rfl,
    ← speaking]
  cases h : r.prepareTurn.startTtsForTurn.1
  · rw [show r.prepareTurn.startTtsForTurn = (false, r.prepareTurn.startTtsForTurn.2) from
      Prod.ext h rfl]
    exact core_runLlm _
  · rw [show r.prepareTurn.startTtsForTurn = (true, r.prepareTurn.startTtsForTurn.2) from
      Prod.ext h rfl]
    rfl

/-- The span of a turn is a matter of the tracer. -/
@[simp] theorem core_startTurnSpan (text : String) (r : Reactor β) :
    (r.startTurnSpan text).core = r.core :=
  core_withTracer fun event h => by
    simp only [Tracer.startTurn, Tracer.cancelTurn, List.mem_append, List.mem_cons,
      List.not_mem_nil, or_false] at h
    rcases h with h | h | h
    · split at h
      · split at h
        · rw [List.mem_singleton.1 h]
          exact fun _ => rfl
        · cases h
      · cases h
    · exact h ▸ fun _ => rfl
    · exact h ▸ fun _ => rfl

/-- **The text of a turn is committed.** -/
@[simp] theorem core_commitTurnText (text : String) (r : Reactor β) :
    (r.commitTurnText text).core = r.core.commitTurnText text := by
  have remembered : ∀ r : Reactor β, (r.setLastUserMessage text).core = r.core := fun _ => rfl
  simp only [commitTurnText, Coordinator.commitTurnText, core_startLlmTurn, core_startTurnSpan,
    remembered, core_addUserMessage, core_emit_transcript]

/-- A deferred transcript is replayed. -/
@[simp] theorem core_replayDeferred (text : String) (r : Reactor β) :
    (r.replayDeferred text).core = r.core.replayDeferred text := by
  simp only [replayDeferred, Coordinator.replayDeferred, core_startLlmTurn,
    core_emit_transcript, core_addUserMessage, core_cancelPipeline]

/-- The check of the marker is skipped. -/
theorem core_skipMarkerCheck (r : Reactor β) :
    r.skipMarkerCheck.core = r.core.skipMarkerCheck := by
  unfold skipMarkerCheck Coordinator.skipMarkerCheck
  rw [show r.core.llmTurn = r.llmTurn from rfl]
  cases r.llmTurn <;> rfl

/-- A nudge starts a turn. -/
@[simp] theorem core_startNudgeTurn (nudge : String) (r : Reactor β) :
    (r.startNudgeTurn nudge).core = r.core.startNudgeTurn nudge := by
  simp only [startNudgeTurn, Coordinator.startNudgeTurn, core_skipMarkerCheck, core_startLlmTurn,
    core_addUserMessage]

/-! ## Turn completion -/

/-- The wait for the rest of a turn begins. -/
@[simp] theorem core_armTurnCompletionWait (marker : TurnCompletion) (r : Reactor β) :
    (r.armTurnCompletionWait marker).core = r.core.armTurnCompletionWait marker := by
  have armed : ∀ r : Reactor β, (r.armTurnCompletion marker).core =
      { r.core with
        reengagement := (r.core.reengagement.armTurnCompletion r.core.world.now
          (Duration.fromSecs marker.timeoutSecs) (decide (marker = .incompleteShort))
          r.core.timers).1
        timers := (r.core.reengagement.armTurnCompletion r.core.world.now
          (Duration.fromSecs marker.timeoutSecs) (decide (marker = .incompleteShort))
          r.core.timers).2 } := fun _ => rfl
  simp only [armTurnCompletionWait, Coordinator.armTurnCompletionWait, Coordinator.cancelTts,
    armed, core_cancelTts, core_trace]

/-- A suppressed response is saved. -/
@[simp] theorem core_saveSuppressedResponse (content : Option String) (r : Reactor β) :
    (r.saveSuppressedResponse content).core = r.core.saveSuppressedResponse content := by
  unfold saveSuppressedResponse Coordinator.saveSuppressedResponse
  cases content with
  | none => rfl
  | some text =>
    dsimp only
    split
    · rfl
    · rw [core_setLlmTurn, core_addAssistantMessage]
      rfl

end Reactor

end Feros
