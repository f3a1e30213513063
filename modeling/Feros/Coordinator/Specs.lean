import Feros.Coordinator.Machine
/-! # What the operations of the coordinator do

For each operation with a branch in it, what it leaves alone and what it changes; the guarantees
cite these lemmas and do not unfold the operations.  A turn started while the user speaks is
cancelled at once, so the lemmas about turns come in two versions. -/

namespace Feros

namespace Coordinator

variable {β : Type} [AgentBackend β]

/-! ## Idle timer -/

/-- Starting the idle timer touches nothing but re-engagement and the queue. -/
theorem startIdleTimer_eq (offset : Duration) (force : Bool) (c : Coordinator β) :
    c.startIdleTimer offset force =
      { c with
        reengagement := (c.startIdleTimer offset force).reengagement
        timers := (c.startIdleTimer offset force).timers } := by
  unfold startIdleTimer
  split
  · rfl
  · split <;> rfl

section IdleTimer

variable (offset : Duration) (force : Bool) (c : Coordinator β)

/-- Starting the idle timer leaves the config. -/
@[simp] theorem startIdleTimer_config : (c.startIdleTimer offset force).config = c.config := by
  rw [startIdleTimer_eq]

/-- Starting the idle timer leaves the LLM. -/
@[simp] theorem startIdleTimer_llm : (c.startIdleTimer offset force).llm = c.llm := by
  rw [startIdleTimer_eq]

/-- Starting the idle timer leaves the speech. -/
@[simp] theorem startIdleTimer_tts : (c.startIdleTimer offset force).tts = c.tts := by
  rw [startIdleTimer_eq]

/-- Starting the idle timer leaves the turn phase. -/
@[simp] theorem startIdleTimer_turnPhase :
    (c.startIdleTimer offset force).turnPhase = c.turnPhase := by
  rw [startIdleTimer_eq]

/-- Starting the idle timer leaves the guard of the tools. -/
@[simp] theorem startIdleTimer_seGuard : (c.startIdleTimer offset force).seGuard = c.seGuard := by
  rw [startIdleTimer_eq]

/-- Starting the idle timer leaves the session phase. -/
@[simp] theorem startIdleTimer_sessionPhase :
    (c.startIdleTimer offset force).sessionPhase = c.sessionPhase := by
  rw [startIdleTimer_eq]

/-- Starting the idle timer leaves the phase of the LLM turn. -/
@[simp] theorem startIdleTimer_llmTurn : (c.startIdleTimer offset force).llmTurn = c.llmTurn := by
  rw [startIdleTimer_eq]

/-- Starting the idle timer leaves the hang-up. -/
@[simp] theorem startIdleTimer_hangUp : (c.startIdleTimer offset force).hangUp = c.hangUp := by
  rw [startIdleTimer_eq]

/-- Starting the idle timer leaves whether audio was sent. -/
@[simp] theorem startIdleTimer_botAudioSent :
    (c.startIdleTimer offset force).botAudioSent = c.botAudioSent := by
  rw [startIdleTimer_eq]

/-- Starting the idle timer leaves whether the session ends. -/
@[simp] theorem startIdleTimer_shouldExit :
    (c.startIdleTimer offset force).shouldExit = c.shouldExit := by
  rw [startIdleTimer_eq]

/-- Starting the idle timer leaves the trail. -/
@[simp] theorem startIdleTimer_trail : (c.startIdleTimer offset force).trail = c.trail := by
  rw [startIdleTimer_eq]

/-- Starting the idle timer leaves whether the pipeline is active. -/
@[simp] theorem startIdleTimer_isPipelineActive :
    (c.startIdleTimer offset force).isPipelineActive = c.isPipelineActive := by
  simp [Coordination.isPipelineActive]

end IdleTimer

/-! ## Cancelling -/

section Cancel

variable (c : Coordinator β)

/-- A cancelled pipeline has no LLM turn. -/
@[simp] theorem cancelPipeline_isActive : AgentBackend.isActive c.cancelPipeline.llm = false :=
  AgentBackend.isActive_cancel c.llm

/-- A cancelled pipeline speaks no more. -/
@[simp] theorem cancelPipeline_tts : c.cancelPipeline.tts.isActive = false := rfl

/-- Cancelling the pipeline leaves the turn phase. -/
@[simp] theorem cancelPipeline_turnPhase : c.cancelPipeline.turnPhase = c.turnPhase := rfl

/-- A cancelled pipeline waits for no tool. -/
@[simp] theorem cancelPipeline_seGuard : c.cancelPipeline.seGuard = .default := rfl

/-- A cancelled pipeline engages nobody again. -/
@[simp] theorem cancelPipeline_reengagement : c.cancelPipeline.reengagement = .default := rfl

/-- **A cancelled pipeline forgets the hang-up.** -/
@[simp] theorem cancelPipeline_hangUp : c.cancelPipeline.hangUp = .idle := rfl

/-- A cancelled pipeline has sent no audio. -/
@[simp] theorem cancelPipeline_botAudioSent : c.cancelPipeline.botAudioSent = false := rfl

/-- Cancelling the pipeline leaves whether the session ends. -/
@[simp] theorem cancelPipeline_shouldExit : c.cancelPipeline.shouldExit = c.shouldExit := rfl

/-- Cancelling the pipeline leaves the config. -/
@[simp] theorem cancelPipeline_config : c.cancelPipeline.config = c.config := rfl

/-- Cancelling the pipeline leaves its two marks. -/
@[simp] theorem cancelPipeline_trail :
    c.cancelPipeline.trail = c.trail ++ [.cancel, .interrupt] := rfl

/-- A cancelled pipeline is not active. -/
@[simp] theorem cancelPipeline_isPipelineActive : c.cancelPipeline.isPipelineActive = false := by
  simp [Coordination.isPipelineActive, SideEffectToolsGuard.default,
    SideEffectToolsGuard.isActive]

end Cancel

/-! ## Starting a turn -/

/-- **The speech of a turn is cancelled at once** while the user speaks. -/
theorem startTtsForTurn_of_speaking {c : Coordinator β} (h : c.turnPhase.isSpeaking = true) :
    c.startTtsForTurn = (c.leave (.startTts true)).cancelPipeline :=
  if_pos h

/-- The speech of a turn is opened while the user is quiet. -/
theorem startTtsForTurn_of_quiet {c : Coordinator β} (h : c.turnPhase.isSpeaking = false) :
    c.startTtsForTurn = { c.leave (.startTts false) with tts := c.openedTts } :=
  if_neg (by rw [h]; exact Bool.false_ne_true)

/-! Calling the backend touches the LLM, and after a failure TTS and re-engagement. -/

section StartLlm

variable (c : Coordinator β)

/-- Starting the LLM leaves the config. -/
@[simp] theorem startLlm_config : c.startLlm.config = c.config := by
  unfold startLlm
  dsimp only
  split <;> simp [leave, setLlm, cancelTts]

/-- Starting the LLM leaves the turn phase. -/
@[simp] theorem startLlm_turnPhase : c.startLlm.turnPhase = c.turnPhase := by
  unfold startLlm
  dsimp only
  split <;> simp [leave, setLlm, cancelTts]

/-- Starting the LLM leaves the guard of the tools. -/
@[simp] theorem startLlm_seGuard : c.startLlm.seGuard = c.seGuard := by
  unfold startLlm
  dsimp only
  split <;> simp [leave, setLlm, cancelTts]

/-- Starting the LLM leaves the session phase. -/
@[simp] theorem startLlm_sessionPhase : c.startLlm.sessionPhase = c.sessionPhase := by
  unfold startLlm
  dsimp only
  split <;> simp [leave, setLlm, cancelTts]

/-- Starting the LLM leaves the hang-up. -/
@[simp] theorem startLlm_hangUp : c.startLlm.hangUp = c.hangUp := by
  unfold startLlm
  dsimp only
  split <;> simp [leave, setLlm, cancelTts]

/-- Starting the LLM leaves whether audio was sent. -/
@[simp] theorem startLlm_botAudioSent : c.startLlm.botAudioSent = c.botAudioSent := by
  unfold startLlm
  dsimp only
  split <;> simp [leave, setLlm, cancelTts]

/-- Starting the LLM leaves whether the session ends. -/
@[simp] theorem startLlm_shouldExit : c.startLlm.shouldExit = c.shouldExit := by
  unfold startLlm
  dsimp only
  split <;> simp [leave, setLlm, cancelTts]

/-- Starting the LLM leaves the mark of a turn that starts. -/
@[simp] theorem startLlm_trail :
    c.startLlm.trail = c.trail ++ [.startTurn (AgentBackend.isActive c.llm)] := by
  unfold startLlm
  dsimp only
  split <;> simp [leave, setLlm, cancelTts]

end StartLlm

/-- **A turn started while the user speaks is cancelled.** -/
theorem startLlmTurn_of_speaking {c : Coordinator β} (h : c.turnPhase.isSpeaking = true) :
    c.startLlmTurn = (c.prepareTurn.leave (.startTts true)).cancelPipeline := by
  unfold startLlmTurn
  rw [if_pos h]
  exact startTtsForTurn_of_speaking h

/-- A turn opens its speech and starts the LLM while the user is quiet. -/
theorem startLlmTurn_of_quiet {c : Coordinator β} (h : c.turnPhase.isSpeaking = false) :
    c.startLlmTurn =
      { c.prepareTurn.leave (.startTts false) with tts := c.openedTts }.startLlm := by
  unfold startLlmTurn
  rw [if_neg (by rw [h]; exact Bool.false_ne_true)]
  exact congrArg startLlm (startTtsForTurn_of_quiet h)

/-- The marks the start of a turn leaves. -/
def turnMarks (speaking active : Bool) : List Mark :=
  if speaking then [.startTts true, .cancel, .interrupt] else [.startTts false, .startTurn active]

section StartTurn

variable (c : Coordinator β)

/-- A turn that starts leaves the turn phase. -/
@[simp] theorem startLlmTurn_turnPhase : c.startLlmTurn.turnPhase = c.turnPhase := by
  cases h : c.turnPhase.isSpeaking with
  | true =>
    rw [startLlmTurn_of_speaking h]
    rfl
  | false =>
    rw [startLlmTurn_of_quiet h, startLlm_turnPhase]
    rfl

/-- A turn that starts leaves whether the session ends. -/
@[simp] theorem startLlmTurn_shouldExit : c.startLlmTurn.shouldExit = c.shouldExit := by
  cases h : c.turnPhase.isSpeaking with
  | true =>
    rw [startLlmTurn_of_speaking h]
    rfl
  | false =>
    rw [startLlmTurn_of_quiet h, startLlm_shouldExit]
    rfl

/-- A turn that starts leaves the config. -/
@[simp] theorem startLlmTurn_config : c.startLlmTurn.config = c.config := by
  cases h : c.turnPhase.isSpeaking with
  | true =>
    rw [startLlmTurn_of_speaking h]
    rfl
  | false =>
    rw [startLlmTurn_of_quiet h, startLlm_config]
    rfl

/-- **A turn that starts leaves its marks.** -/
@[simp] theorem startLlmTurn_trail :
    c.startLlmTurn.trail =
      c.trail ++ turnMarks c.turnPhase.isSpeaking (AgentBackend.isActive c.llm) := by
  cases h : c.turnPhase.isSpeaking with
  | true =>
    rw [startLlmTurn_of_speaking h]
    simp [leave, prepareTurn, turnMarks]
  | false =>
    rw [startLlmTurn_of_quiet h, startLlm_trail]
    simp [leave, prepareTurn, turnMarks]

/-- A turn that starts while the user is quiet leaves the guard of the tools. -/
@[simp] theorem startLlmTurn_seGuard (h : c.turnPhase.isSpeaking = false) :
    c.startLlmTurn.seGuard = c.seGuard := by
  rw [startLlmTurn_of_quiet h, startLlm_seGuard]
  rfl

/-- A turn that starts while the user is quiet leaves the session phase. -/
@[simp] theorem startLlmTurn_sessionPhase (h : c.turnPhase.isSpeaking = false) :
    c.startLlmTurn.sessionPhase = c.sessionPhase := by
  rw [startLlmTurn_of_quiet h, startLlm_sessionPhase]
  rfl

/-- A turn that starts while the user is quiet leaves the hang-up. -/
@[simp] theorem startLlmTurn_hangUp (h : c.turnPhase.isSpeaking = false) :
    c.startLlmTurn.hangUp = c.hangUp := by
  rw [startLlmTurn_of_quiet h, startLlm_hangUp]
  rfl

/-- A turn that starts while the user is quiet leaves whether audio was sent. -/
@[simp] theorem startLlmTurn_botAudioSent (h : c.turnPhase.isSpeaking = false) :
    c.startLlmTurn.botAudioSent = c.botAudioSent := by
  rw [startLlmTurn_of_quiet h, startLlm_botAudioSent]
  rfl

end StartTurn

/-- Skipping the marker check touches the state of the generation. -/
theorem skipMarkerCheck_eq (c : Coordinator β) :
    c.skipMarkerCheck = c.setLlmTurn c.skipMarkerCheck.llmTurn := by
  unfold skipMarkerCheck
  split <;> rfl



/-! ## The side-effect window -/

/-- Buffering touches nothing but the guard. -/
theorem bufferTranscript_eq (text : String) (c : Coordinator β) :
    ∃ guard : SideEffectToolsGuard, guard = c.seGuard.bufferTranscript text ∧
      c.bufferTranscript text = { c with seGuard := guard } :=
  ⟨_, rfl, rfl⟩

/-- A transcript that is kept back leaves whether the pipeline is active. -/
@[simp] theorem bufferTranscript_isPipelineActive (text : String) (c : Coordinator β) :
    (c.bufferTranscript text).isPipelineActive = c.isPipelineActive := by
  have same := c.seGuard.bufferTranscript_isActive text
  obtain ⟨guard, is, eq⟩ := bufferTranscript_eq text c
  rw [← is] at same
  rw [eq]
  unfold Coordination.isPipelineActive
  rw [same]

/-- A window that is not open can be closed. -/
theorem closeWindow_isPipelineActive {c : Coordinator β} (window : c.seGuard.isActive = false) :
    c.closeWindow.isPipelineActive = c.isPipelineActive := by
  unfold Coordination.isPipelineActive
  rw [window]
  rfl

/-! ## Trails

The marks of every operation that a handler ends with. -/

section Trails

variable (c : Coordinator β)

/-- What is left is the newest mark. -/
@[simp] theorem leave_trail (mark : Mark) : (c.leave mark).trail = c.trail ++ [mark] := rfl

/-- The speech of a turn leaves its mark, and those of the cancel while the user speaks. -/
@[simp] theorem startTtsForTurn_trail :
    c.startTtsForTurn.trail = c.trail ++ .startTts c.turnPhase.isSpeaking ::
      (if c.turnPhase.isSpeaking then [.cancel, .interrupt] else []) := by
  cases speaking : c.turnPhase.isSpeaking with
  | true =>
    rw [startTtsForTurn_of_speaking speaking]
    simp
  | false =>
    rw [startTtsForTurn_of_quiet speaking]
    simp

/-- **A text that is committed leaves the user's message and the marks of its turn.** -/
@[simp] theorem commitTurnText_trail (text : String) :
    (c.commitTurnText text).trail =
      c.trail ++ .userMessage text ::
        turnMarks c.turnPhase.isSpeaking (AgentBackend.isActive c.llm) := by
  unfold commitTurnText
  rw [startLlmTurn_trail]
  simp [addUserMessage, leave]

/-- A text that is replayed leaves the cancel before the marks of its turn. -/
@[simp] theorem replayDeferred_trail (text : String) :
    (c.replayDeferred text).trail =
      c.trail ++ .cancel :: .interrupt :: .userMessage text ::
        turnMarks c.turnPhase.isSpeaking false := by
  unfold replayDeferred
  rw [startLlmTurn_trail]
  simp [addUserMessage, leave, cancelPipeline]

/-- A nudge leaves its message and the marks of its turn. -/
@[simp] theorem startNudgeTurn_trail (nudge : String) :
    (c.startNudgeTurn nudge).trail =
      c.trail ++ .userMessage nudge ::
        turnMarks c.turnPhase.isSpeaking (AgentBackend.isActive c.llm) := by
  unfold startNudgeTurn
  rw [skipMarkerCheck_eq]
  refine (startLlmTurn_trail _).trans ?_
  simp [addUserMessage, leave]

/-- A shutdown leaves the marks of the cancel. -/
@[simp] theorem initiateShutdown_trail :
    c.initiateShutdown.trail = c.trail ++ [.cancel, .interrupt] := rfl

/-- A hang-up whose delay is over leaves the marks of the cancel. -/
@[simp] theorem hangUpDelayFired_trail :
    c.hangUpDelayFired.trail = c.trail ++ [.cancel, .interrupt] := rfl

/-- An event that was polled leaves its mark. -/
@[simp] theorem polled_trail (event : LlmEvent) (llm : β) :
    (c.polled event llm).trail = c.trail ++ [.llmEvent event] := rfl

/-- Audio that is sent leaves its mark. -/
@[simp] theorem sendAudio_trail : c.sendAudio.trail = c.trail ++ [.audio false] := rfl

/-! Most operations leave no mark. -/

/-- Setting the LLM leaves the trail. -/
@[simp] theorem setLlm_trail (llm : β) : (c.setLlm llm).trail = c.trail := rfl

/-- Setting the re-engagement leaves the trail. -/
@[simp] theorem setReengagement_trail (reengagement : ReengagementTimer) :
    (c.setReengagement reengagement).trail = c.trail := rfl

/-- Setting the phase of the LLM turn leaves the trail. -/
@[simp] theorem setLlmTurn_trail (phase : LlmTurnPhase) :
    (c.setLlmTurn phase).trail = c.trail := rfl

/-- Setting the hang-up leaves the trail. -/
@[simp] theorem setHangUp_trail (phase : HangUpPhase) : (c.setHangUp phase).trail = c.trail := rfl

/-- Setting the turn phase leaves the trail. -/
@[simp] theorem setTurnPhase_trail (phase : TurnPhase) :
    (c.setTurnPhase phase).trail = c.trail := rfl

/-- Speech that is over leaves the trail. -/
@[simp] theorem quietTts_trail : c.quietTts.trail = c.trail := rfl

/-- Cancelling the speech leaves the trail. -/
@[simp] theorem cancelTts_trail : c.cancelTts.trail = c.trail := rfl

/-- Waiting for a transcript leaves the trail. -/
@[simp] theorem waitForTranscript_trail : c.waitForTranscript.trail = c.trail := rfl

/-- Starting the fallback of the end of the turn leaves the trail. -/
@[simp] theorem startEotFallback_trail : c.startEotFallback.trail = c.trail := rfl

/-- Listening leaves the trail. -/
@[simp] theorem listen_trail : c.listen.trail = c.trail := rfl

/-- Re-engagement leaves the trail. -/
@[simp] theorem engage_trail : c.engage.trail = c.trail := rfl

/-- Draining leaves the trail. -/
@[simp] theorem drain_trail : c.drain.trail = c.trail := rfl

/-- A transcript that is kept back leaves the trail. -/
@[simp] theorem bufferTranscript_trail (text : String) :
    (c.bufferTranscript text).trail = c.trail := rfl

/-- The wait for the end of a turn leaves the trail. -/
@[simp] theorem armTurnCompletionWait_trail (marker : TurnCompletion) :
    (c.armTurnCompletionWait marker).trail = c.trail := rfl

/-- Counting a tool leaves the trail. -/
@[simp] theorem countTool_trail (id : String) : (c.countTool id).trail = c.trail := rfl

/-- A tool that ends its window leaves the trail. -/
@[simp] theorem endWindow_trail (id : String) : (c.endWindow id).trail = c.trail := rfl

/-- The delay of a hang-up leaves the trail. -/
@[simp] theorem delayHangUp_trail (remaining : Duration) :
    (c.delayHangUp remaining).trail = c.trail := rfl

/-- A greeting that is over leaves the trail. -/
@[simp] theorem finishGreeting_trail (remaining : Duration) :
    (c.finishGreeting remaining).trail = c.trail := by
  unfold finishGreeting
  rw [startIdleTimer_trail]

/-- A timer that fired leaves the trail. -/
@[simp] theorem fired_trail (key : Key) : (c.fired key).trail = c.trail := rfl

/-- A window that is closed leaves the trail. -/
@[simp] theorem closeWindow_trail : c.closeWindow.trail = c.trail := rfl

/-- **Speech that begins leaves the interrupt of the audio that was sent.** -/
theorem beginSpeech_trail {active : Bool} (quiet : c.turnPhase.isSpeaking = false) :
    (c.beginSpeech active).trail =
      if c.botAudioSent then c.trail ++ [.interrupt] else c.trail := by
  unfold beginSpeech
  rw [if_neg (by rw [quiet]; exact Bool.false_ne_true)]
  rfl

/-- A tool that starts leaves the trail. -/
@[simp] theorem toolCallStarted_trail (id name : String) (sideEffect : Bool) :
    (c.toolCallStarted id name sideEffect).trail = c.trail := by
  unfold toolCallStarted
  split <;> rfl

/-- A response that is kept back leaves the trail. -/
@[simp] theorem saveSuppressedResponse_trail (content : Option String) :
    (c.saveSuppressedResponse content).trail = c.trail := by
  unfold saveSuppressedResponse
  cases content with
  | none => rfl
  | some text =>
    dsimp only
    split <;> rfl

end Trails

/-! ## Turn phases and hang-ups -/

section Phases

variable (c : Coordinator β)

/-- The speech of a turn leaves the turn phase. -/
@[simp] theorem startTtsForTurn_turnPhase : c.startTtsForTurn.turnPhase = c.turnPhase := by
  unfold startTtsForTurn
  split <;> rfl

/-- A text that is committed leaves the turn phase. -/
@[simp] theorem commitTurnText_turnPhase (text : String) :
    (c.commitTurnText text).turnPhase = c.turnPhase :=
  startLlmTurn_turnPhase _

/-- A text that is replayed leaves the turn phase. -/
@[simp] theorem replayDeferred_turnPhase (text : String) :
    (c.replayDeferred text).turnPhase = c.turnPhase :=
  startLlmTurn_turnPhase _

/-- A nudge leaves the turn phase. -/
@[simp] theorem startNudgeTurn_turnPhase (nudge : String) :
    (c.startNudgeTurn nudge).turnPhase = c.turnPhase := by
  unfold startNudgeTurn
  rw [skipMarkerCheck_eq]
  exact startLlmTurn_turnPhase _

/-- A tool that starts leaves the turn phase. -/
@[simp] theorem toolCallStarted_turnPhase (id name : String) (sideEffect : Bool) :
    (c.toolCallStarted id name sideEffect).turnPhase = c.turnPhase := by
  unfold toolCallStarted
  split <;> rfl

/-- A response that is kept back leaves the turn phase. -/
@[simp] theorem saveSuppressedResponse_turnPhase (content : Option String) :
    (c.saveSuppressedResponse content).turnPhase = c.turnPhase := by
  unfold saveSuppressedResponse
  cases content with
  | none => rfl
  | some text =>
    dsimp only
    split <;> rfl

/-! A tool that starts touches the window; a response that is saved touches the LLM. -/

/-- A tool that starts leaves the hang-up. -/
@[simp] theorem toolCallStarted_hangUp (id name : String) (sideEffect : Bool) :
    (c.toolCallStarted id name sideEffect).hangUp = c.hangUp := by
  unfold toolCallStarted
  split <;> rfl

/-- A response that is kept back leaves the hang-up. -/
@[simp] theorem saveSuppressedResponse_hangUp (content : Option String) :
    (c.saveSuppressedResponse content).hangUp = c.hangUp := by
  unfold saveSuppressedResponse
  cases content with
  | none => rfl
  | some text =>
    dsimp only
    split <;> rfl

end Phases

end Coordinator

end Feros
