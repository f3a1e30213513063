import Feros.Coordinator.Conditions
import Feros.Guarantees.TimerOwnership
/-! # A quiet session has a timer that goes on with it

* **`Quiet`**: the session is active, nothing is going on in it, and silence is timed.
* **`Wakes`**: a quiet session has a timer queued, other than the watchdog of a side-effect window.
* **`stalls`**: what leaves a quiet session without one, said of the state before it.
* **`wakes_along`**: a session that nothing stalls always has one. -/

namespace Feros

/-! ## Quiet sessions -/

/-- The phase waits for a timer. -/
def TurnPhase.isTimed : TurnPhase → Bool
  | .waitingForTranscript _ => true
  | .eotFallback _ => true
  | _ => false

/-- One of the two timers is armed. -/
def ReengagementTimer.isArmed (t : ReengagementTimer) : Bool :=
  match t.state with
  | .idle => false
  | _ => true

/-- The timer goes on with a quiet session: it asks for the transcript, nudges the user or ends the call. -/
def TimerKey.goesOn : TimerKey → Bool
  | .sideEffectTimeout => false
  | _ => true

section Conditions

variable {β : Type} [AgentBackend β] (c : Coordination β) (input : Input β)

/-- **Nothing is going on** in an active session that times silence. -/
structure Coordination.Quiet : Prop where
  timed : 0 < c.config.idleTimeoutSecs
  phase : c.sessionPhase = .active
  running : c.shouldExit = false
  idle : c.isPipelineActive = false
  unheard : c.turnPhase.isSpeaking = false

/-- **A quiet session has a timer queued.** -/
def Coordination.Wakes : Prop :=
  c.Quiet → ∃ key kind, (key, kind) ∈ c.timers.held ∧ kind.goesOn = true

/-- An owner of a timer waits for it. -/
def Coordination.isAwaiting : Bool := c.turnPhase.isTimed || c.reengagement.isArmed || c.hangUp.isDelayed

/-- In a quiet session somebody waits for a timer. -/
def Coordination.Awake : Prop := c.Quiet → c.isAwaiting = true

/-! ## What stalls a session -/

/-- The user is not speaking, and the turn phase waits for no timer. -/
def Coordination.isUntimed : Bool := !c.turnPhase.isSpeaking && !c.turnPhase.isTimed

/-- Speech starts over an idle pipeline behind a goodbye that was never spoken, and does not count. -/
def Coordination.ignoresSpeech : Bool :=
  match input with
  | .vad .speechStarted _ => decide (c.hangUp = .waitingForTts) && !c.isPipelineActive && c.isUntimed
  | _ => false

/-- Speech ends that was talked over an active pipeline: it is cancelled, with all timers. -/
def Coordination.talksOver : Bool := c.endsBargeIn input && c.sessionPhase.allowsIdleTimer

/-- The watchdog cancels the pipeline, with all timers, and nothing was deferred. -/
def Coordination.abandonsWindow : Bool :=
  c.closesWindow input && c.seGuard.deferredTranscript.isNone && c.isUntimed && c.sessionPhase.allowsIdleTimer

/-- What the LLM stage yields arms no timer, starts no turn and leaves no window open. -/
def Coordination.armsNothing (event : Option LlmEvent) : Bool :=
  match event with
  | some (.token text) =>
    !c.seGuard.isActive &&
      match (c.llmTurn.processToken text c.config.turnCompletionEnabled).2 with
      | .markerCheckCompleted (some marker) _ => decide (marker = .complete)
      | _ => true
  | some (.toolCallStarted _ _ sideEffect) => !c.seGuard.isActive && !sideEffect
  | some (.toolCallCompleted _ _ _ _) =>
    decide (c.seGuard.inFlight ≤ 1) && c.seGuard.deferredTranscript.isNone
  | some (.finished _) =>
    !c.seGuard.isActive &&
      match c.llmTurn with
      | .suppressing _ => false
      | phase =>
        match (phase.processLateFlush c.config.turnCompletionEnabled).2 with
        | some (.markerCheckCompleted (some marker) _) => decide (marker = .complete)
        | _ => true
  | some (.llmComplete _) => !c.seGuard.isActive
  | some (.error _) => false
  | some (.onHold _) => false
  | some (.hangUp _ _) => false
  | none => !c.seGuard.isActive

/-- The backend ends its turn when nothing is being spoken and nobody waits for a timer. -/
def Coordination.fallsSilent : Bool :=
  match input with
  | .llm poll =>
    AgentBackend.isActive c.llm && !AgentBackend.isActive (LlmStage.recv poll c.llm).2 && !c.tts.isActive &&
      !c.isAwaiting && !c.turnPhase.isSpeaking && decide (c.sessionPhase = .active) &&
      c.armsNothing (LlmStage.recv poll c.llm).1
  | _ => false

/-- A suppressed response is to be replayed, and there is no voice for it. -/
def Coordination.replaysMute : Bool :=
  c.endsWait input && c.hasResponse && !c.wsTtsCmdTx && decide (c.ttsMode = .streaming) && c.isUntimed &&
    !c.hangUp.isDelayed && decide (c.sessionPhase = .active)

/-- The idle timer fires, and nudges are switched off. -/
def Coordination.idlesOut : Bool :=
  decide (c.fires input = some .userIdle) && c.reengagement.onUserIdleFired.isSome && !c.isPipelineActive &&
    decide (c.config.idleMaxNudges = 0) && c.isUntimed && !c.hangUp.isDelayed && decide (c.sessionPhase = .active)

/-- **The session is about to stall.** -/
def Coordination.stalls : Bool :=
  decide (0 < c.config.idleTimeoutSecs) && (c.ignoresSpeech input || c.talksOver input ||
    c.abandonsWindow input || c.fallsSilent input || c.replaysMute input || c.idlesOut input)

end Conditions

/-- What is not quiet more often, and waits as long. -/
theorem Coordination.Awake.mono {β : Type} [AgentBackend β] {c d : Coordination β} (awake : c.Awake)
    (quiet : d.Quiet → c.Quiet) (waits : c.isAwaiting = true → d.isAwaiting = true) : d.Awake :=
  fun still => waits (awake (quiet still))

/-- What the timers have to do with did not change. -/
theorem Coordination.Awake.frame {β : Type} [AgentBackend β] {c d : Coordination β} (awake : c.Awake)
    (config : d.config = c.config) (phase : d.sessionPhase = c.sessionPhase) (exits : d.shouldExit = c.shouldExit)
    (idle : d.isPipelineActive = c.isPipelineActive) (turnPhase : d.turnPhase = c.turnPhase)
    (reengagement : d.reengagement = c.reengagement) (hangUp : d.hangUp = c.hangUp) : d.Awake := by
  refine awake.mono (fun quiet => ⟨?_, ?_, ?_, ?_, ?_⟩) fun waits => ?_
  · exact config ▸ quiet.timed
  · exact phase ▸ quiet.phase
  · exact exits ▸ quiet.running
  · exact idle ▸ quiet.idle
  · exact turnPhase ▸ quiet.unheard
  · unfold isAwaiting
    rw [turnPhase, reengagement, hangUp]
    exact waits

namespace Coordinator

variable {β : Type} [AgentBackend β] {c d : Coordinator β}

/-! ## What keeps a session awake -/

/-- A pipeline that works wakes the session. -/
theorem awake_of_busy (busy : c.isPipelineActive = true) : c.Awake :=
  fun quiet => absurd (busy.symm.trans quiet.idle) nofun

/-- A user who speaks wakes the session. -/
theorem awake_of_speaking (speaking : c.turnPhase.isSpeaking = true) : c.Awake :=
  fun quiet => absurd (speaking.symm.trans quiet.unheard) nofun

/-- A session that ends need not be woken. -/
theorem awake_of_exit (exits : c.shouldExit = true) : c.Awake :=
  fun quiet => absurd (exits.symm.trans quiet.running) nofun

/-- A phase with a timer is woken by it. -/
theorem awake_of_timed (timed : c.turnPhase.isTimed = true) : c.Awake := by
  intro
  simp [Coordination.isAwaiting, timed]

/-- A timer that was armed is armed. -/
theorem isArmed_armIdle (t : ReengagementTimer) (now : Instant) (duration : Duration)
    (timers : DelayQueue TimerKey) : (t.armIdle now duration timers).1.isArmed = true := by
  unfold ReengagementTimer.armIdle ReengagementTimer.isArmed
  cases state : t.state with
  | idle => rfl
  | turnCompletion key isShort => simp [state]
  | userIdle key => rfl

/-- The idle timer wakes a session. -/
theorem awake_startIdleTimer (offset : Duration) (force : Bool) (c : Coordinator β) :
    (c.startIdleTimer offset force).Awake := by
  intro quiet
  have timed : ¬c.config.idleTimeoutSecs = 0 := by
    have := quiet.timed
    rw [startIdleTimer_config] at this
    omega
  have phase : c.sessionPhase = .active := by
    have := quiet.phase
    rwa [startIdleTimer_sessionPhase] at this
  have allowed : ¬(!force && !c.sessionPhase.allowsIdleTimer) = true := by
    rw [phase]
    cases force <;> decide
  unfold startIdleTimer Coordination.isAwaiting
  rw [if_neg timed, if_neg allowed]
  simp [isArmed_armIdle]

/-- So does a turn, which fails with the idle timer armed. -/
theorem awake_startLlm (c : Coordinator β) : c.startLlm.Awake := by
  unfold startLlm
  dsimp only
  cases reply : (AgentBackend.startTurn c.world.reply c.llm).1 with
  | ok =>
      have active := AgentBackend.isActive_startTurn c.world.reply c.llm reply
      refine awake_of_busy ?_
      simp [Coordination.isPipelineActive, setLlm, active]
  | error message => exact awake_startIdleTimer 0 false _

/-- A turn of the LLM is awake. -/
theorem awake_startLlmTurn (c : Coordinator β) : c.startLlmTurn.Awake := by
  cases speaking : c.turnPhase.isSpeaking with
  | true =>
      refine awake_of_speaking ?_
      rw [startLlmTurn_turnPhase]
      exact speaking
  | false =>
      rw [startLlmTurn_of_quiet speaking]
      exact awake_startLlm _

/-- A text that is committed starts a turn. -/
theorem awake_commitTurnText (text : String) (c : Coordinator β) : (c.commitTurnText text).Awake :=
  awake_startLlmTurn _

/-- A transcript that was deferred starts a turn. -/
theorem awake_replayDeferred (text : String) (c : Coordinator β) : (c.replayDeferred text).Awake :=
  awake_startLlmTurn _

/-- A nudge starts a turn. -/
theorem awake_startNudgeTurn (nudge : String) (c : Coordinator β) : (c.startNudgeTurn nudge).Awake := by
  unfold startNudgeTurn
  rw [skipMarkerCheck_eq]
  exact (awake_startLlmTurn (c.addUserMessage nudge)).frame rfl rfl rfl rfl rfl rfl rfl

/-- The wait for the rest of a turn is one. -/
theorem isAwaiting_armTurnCompletionWait (marker : TurnCompletion) (c : Coordinator β) :
    (c.armTurnCompletionWait marker).isAwaiting = true := by
  unfold armTurnCompletionWait Coordination.isAwaiting
  simp [ReengagementTimer.armTurnCompletion, ReengagementTimer.isArmed]

/-- The delay of a hang-up is awake. -/
theorem awake_delayHangUp (remaining : Duration) (c : Coordinator β) : (c.delayHangUp remaining).Awake := by
  intro
  simp [Coordination.isAwaiting, delayHangUp, HangUpPhase.isDelayed]

/-! ## Each input -/

section Inputs

variable {input : Input β}

/-- None of the ways to stall. -/
theorem not_stalls (timed : 0 < c.config.idleTimeoutSecs) (calm : c.stalls input = false) :
    c.ignoresSpeech input = false ∧ c.talksOver input = false ∧ c.abandonsWindow input = false ∧
      c.fallsSilent input = false ∧ c.replaysMute input = false ∧ c.idlesOut input = false := by
  unfold Coordination.stalls at calm
  simpa [timed, and_assoc] using calm

/-- What an idle pipeline is. -/
theorem pipeline_idle (idle : c.isPipelineActive = false) :
    AgentBackend.isActive c.llm = false ∧ c.tts.isActive = false ∧ c.seGuard.isActive = false := by
  unfold Coordination.isPipelineActive at idle
  simpa [and_assoc] using idle

/-- Without a voice, no TTS session is opened. -/
theorem openedTts_silent (silent : c.openedTts.isActive = false) : c.wsTtsCmdTx = false ∧ c.ttsMode = .streaming := by
  unfold openedTts at silent
  split at silent
  · cases silent
  · rename_i http
    refine ⟨eq_false_of_ne_true http, ?_⟩
    cases mode : c.ttsMode with
    | http =>
        rw [mode] at silent
        cases silent
    | streaming => rfl

/-- A session that is active behind a cancelled pipeline had begun. -/
theorem allowsIdleTimer_of_cancelled (active : c.cancelPipeline.sessionPhase = .active) :
    c.sessionPhase.allowsIdleTimer = true := by
  unfold cancelPipeline at active
  cases session : c.sessionPhase with
  | nascent => simp [session] at active
  | greetingPlaying => rfl
  | active => rfl

/-- The turn phase or the hang-up still waits. -/
theorem awaiting_of_waits (waits : d.turnPhase.isTimed = true ∨ d.hangUp.isDelayed = true) :
    d.isAwaiting = true := by
  unfold Coordination.isAwaiting
  rcases waits with timed | delayed
  · simp [timed]
  · simp [delayed]

/-- An event of the VAD leaves the session awake. -/
theorem awake_vad {event : VadEvent} {verdict : Bool} (awake : c.Awake)
    (calm : c.stalls (.vad event verdict) = false) (o : Outcome c (.vad event verdict) d) : d.Awake := by
  cases o with
  | nothing => exact awake
  | engaged h =>
      intro quiet
      -- If nothing else is under way, the idle timer would have to run.
      have timed : 0 < c.config.idleTimeoutSecs := quiet.timed
      obtain ⟨ignored, -⟩ := not_stalls timed calm
      have unheard : c.turnPhase.isSpeaking = false := quiet.unheard
      have idle : c.isPipelineActive = false := quiet.idle
      have pending : c.hangUp.isPending = true := h.resolve_right (by rw [unheard]; nofun)
      unfold Coordination.isAwaiting engage
      cases phase : c.hangUp with
      | idle =>
          rw [phase] at pending
          cases pending
      | waitingForDelay key => simp [HangUpPhase.isDelayed]
      | waitingForTts =>
          -- Only the turn phase can still wait.
          have waits : c.turnPhase.isTimed = true := by
            simpa [Coordination.ignoresSpeech, Coordination.isUntimed, phase, idle, unheard] using ignored
          simp [waits]
  | speechBegun free quiet =>
      refine awake_of_speaking ?_
      have fresh : ¬c.engage.turnPhase.isSpeaking = true := by
        rw [show c.engage.turnPhase = c.turnPhase from rfl, quiet]
        exact Bool.false_ne_true
      unfold beginSpeech
      rw [if_neg fresh]
      rfl
  | shielded window =>
      refine awake_of_busy ?_
      have still : c.listen.seGuard.isActive = true := window
      simp [Coordination.isPipelineActive, still]
  | awaiting window phase => exact awake_of_timed rfl
  | heldBack window phase => exact awake_of_timed rfl
  | talkedOver window phase =>
      intro quiet
      have timed : 0 < c.config.idleTimeoutSecs := quiet.timed
      obtain ⟨-, talked, -⟩ := not_stalls timed calm
      -- A barge-in that ends with nothing to count stalls the call.
      have ends : ∀ audio, c.endsBargeIn (.vad (.speechEnded audio) verdict) = true := by
        simp [Coordination.endsBargeIn, window, phase]
      have session : c.sessionPhase.allowsIdleTimer = true := allowsIdleTimer_of_cancelled quiet.phase
      unfold Coordination.talksOver at talked
      rw [ends, session] at talked
      cases talked

/-- A transcript arms the idle timer, starts a turn or changes nothing. -/
theorem awake_stt {event : SttEvent} (awake : c.Awake) (o : Outcome c (.stt event) d) : d.Awake := by
  cases o with
  | nothing => exact awake
  | unheard h => exact awake.frame rfl rfl rfl rfl rfl rfl rfl
  | @buffered text free h =>
      have same := bufferTranscript_isPipelineActive text (c.leave (.transcript text))
      obtain ⟨guard, -, eq⟩ := bufferTranscript_eq text (c.leave (.transcript text))
      rw [eq] at same ⊢
      exact awake.frame rfl rfl rfl same rfl rfl rfl
  | blankTurn free window phase blank => exact awake_startIdleTimer _ _ _
  | turnCommitted free window phase spoken fresh => exact awake_commitTurnText _ _
  | bargeInCommitted free window phase accepted => exact awake_commitTurnText _ _
  | bargeInRejected free window phase rejected => exact awake_startIdleTimer _ _ _
  | lateDropped free window phase busy =>
      refine awake_of_busy ?_
      exact busy
  | lateCommitted free window phase idle => exact awake_commitTurnText _ _

/-- An event of the TTS leaves the session awake. -/
theorem awake_tts {event : TtsEvent} (o : Outcome c (.tts event) d) (awake : c.Awake) : d.Awake := by
  cases o with
  | nothing => exact awake
  | audioSent active quiet =>
      refine awake_of_busy ?_
      simp [Coordination.isPipelineActive, sendAudio, leave, active]
  | roundSpoken active busy =>
      refine awake_of_busy ?_
      rcases Bool.or_eq_true_iff.1 busy with llm | window
      · simp [Coordination.isPipelineActive, quietTts, llm]
      · simp [Coordination.isPipelineActive, quietTts, window]
  | greetingSpoken remaining active idle greeting => exact awake_startIdleTimer _ _ _
  | goodbyePlayed active idle greeted pending => exact awake_of_exit rfl
  | goodbyeSpoken remaining active idle greeted pending => exact awake_delayHangUp _ _
  | turnSpoken remaining active idle greeted stays => exact awake_startIdleTimer _ _ _
  | ttsFailed active => exact awake_startIdleTimer _ _ _

/-- A timer leaves the session awake. -/
theorem awake_timer {key : Key} (awake : c.Awake) (calm : c.stalls (.timer key) = false)
    (o : Outcome c (.timer key) d) : d.Awake := by
  cases o with
  | nothing => exact awake
  | staleTimer due stale =>
      exact awake.frame rfl rfl rfl rfl rfl rfl rfl
  | fallbackFired due value phase => exact awake_of_timed rfl
  | transcriptOverdue due value phase => exact awake_startIdleTimer _ _ _
  | waitOvertaken due value fires busy => exact awake_of_busy busy
  | responseReplayed due value fires idle saved =>
      have ends := Coordination.endsWait_of_due due value fires idle
      have response : c.hasResponse = true := by rw [← suppressedResponse_isSome, saved]; rfl
      cases speaking : c.turnPhase.isSpeaking with
      | true =>
          refine awake_of_speaking ?_
          rw [startTtsForTurn_turnPhase]
          exact speaking
      | false =>
          rw [startTtsForTurn_of_quiet (by exact speaking)]
          intro quiet
          have timed : 0 < c.config.idleTimeoutSecs := quiet.timed
          have session : c.sessionPhase = .active := quiet.phase
          obtain ⟨-, -, -, -, mute, -⟩ := not_stalls timed calm
          have silent : c.openedTts.isActive = false := (pipeline_idle quiet.idle).2.1
          -- There is no voice, and what was awaited has fired.
          obtain ⟨http, streaming⟩ := openedTts_silent silent
          have waits : c.turnPhase.isTimed = true ∨ c.hangUp.isDelayed = true := by
            unfold Coordination.replaysMute Coordination.isUntimed at mute
            rw [ends] at mute
            simpa [response, http, streaming, speaking, session, imp_iff_not_or] using mute
          exact awaiting_of_waits waits
  | waitNudged due value fires idle unsaved => exact awake_startNudgeTurn _ _
  | idleNudged due value fires nudge => exact awake_startNudgeTurn _ _
  | idleHungUp due value fires idle => exact awake_of_exit rfl
  | idleIgnored due value fires h =>
      have fired := Coordination.fires_of_due due value
      rcases h with busy | off | untimed
      · exact awake_of_busy busy
      · intro quiet
        have timed : 0 < c.config.idleTimeoutSecs := quiet.timed
        have idle : c.isPipelineActive = false := quiet.idle
        have session : c.sessionPhase = .active := quiet.phase
        have unheard : c.turnPhase.isSpeaking = false := quiet.unheard
        obtain ⟨-, -, -, -, -, out⟩ := not_stalls timed calm
        have waits : c.turnPhase.isTimed = true ∨ c.hangUp.isDelayed = true := by
          unfold Coordination.idlesOut Coordination.isUntimed at out
          rw [fired, fires] at out
          simpa [idle, off, unheard, session, imp_iff_not_or] using out
        exact awaiting_of_waits waits
      · intro quiet
        have timed : 0 < c.config.idleTimeoutSecs := quiet.timed
        omega
  | watchdogLate due value window =>
      have same := closeWindow_isPipelineActive (c := c.fired key) window
      exact awake.frame rfl rfl rfl same rfl rfl rfl
  | watchdogReplayed due value window deferred => exact awake_replayDeferred _ _
  | watchdogCancelled due value window deferred =>
      have closes := Coordination.closesWindow_of_due due value window
      intro quiet
      have timed : 0 < c.config.idleTimeoutSecs := quiet.timed
      have unheard : c.turnPhase.isSpeaking = false := quiet.unheard
      obtain ⟨-, -, abandons, -⟩ := not_stalls timed calm
      have session : c.sessionPhase.allowsIdleTimer = true := allowsIdleTimer_of_cancelled quiet.phase
      have waits : c.turnPhase.isTimed = true := by
        unfold Coordination.abandonsWindow Coordination.isUntimed at abandons
        simpa [closes, deferred, unheard, session] using abandons
      exact awaiting_of_waits (.inl waits)
  | delayOver due value => exact awake_of_exit rfl

section Llm

variable {poll : AgentBackend.Poll β} {llm : β}

/-- An event that changes nothing but the LLM side. -/
theorem awake_of_passive {event : Option LlmEvent} (calm : c.stalls (.llm poll) = false)
    (active : AgentBackend.isActive c.llm = true) (yields : LlmStage.recv poll c.llm = (event, llm))
    (same : d.llm = llm ∧ d.tts = c.tts ∧ d.config = c.config ∧ d.sessionPhase = c.sessionPhase ∧
      d.turnPhase = c.turnPhase ∧ d.reengagement = c.reengagement ∧ d.hangUp = c.hangUp)
    (nothing : d.seGuard.isActive = false → c.armsNothing event = true) : d.Awake := by
  obtain ⟨backend, tts, config, session, turnPhase, reengagement, hangUp⟩ := same
  rintro ⟨timed, phase, -, idle, unheard⟩
  obtain ⟨ended, silent, closed⟩ := pipeline_idle idle
  rw [config] at timed
  rw [session] at phase
  rw [turnPhase] at unheard
  rw [backend] at ended
  rw [tts] at silent
  obtain ⟨-, -, -, falls, -⟩ := not_stalls timed calm
  have waits : c.isAwaiting = true := by
    unfold Coordination.fallsSilent at falls
    simpa [active, yields, ended, silent, unheard, phase, nothing closed] using falls
  unfold Coordination.isAwaiting at waits ⊢
  rwa [turnPhase, reengagement, hangUp]

/-- A token leaves the session awake. -/
theorem awake_token {text : String} (calm : c.stalls (.llm poll) = false)
    (active : AgentBackend.isActive c.llm = true)
    (yields : LlmStage.recv poll c.llm = (some (.token text), llm)) :
    ((c.polled (.token text) llm).token text).Awake := by
  have suppressed : ∀ marker (d : Coordinator β),
      ((d.armTurnCompletionWait marker).setLlmTurn (.suppressing none)).Awake :=
    fun marker d _ => isAwaiting_armTurnCompletionWait marker d
  unfold token
  dsimp only
  split
  · exact suppressed _ _
  · exact suppressed _ _
  · rename_i short long
    refine awake_of_passive calm active yields ⟨rfl, rfl, rfl, rfl, rfl, rfl, rfl⟩ fun closed => ?_
    have window : c.seGuard.isActive = false := closed
    unfold Coordination.armsNothing
    dsimp only
    rw [window]
    split
    · rename_i marker emitted found
      cases marker with
      | complete => rfl
      | incompleteShort => exact absurd found (short emitted)
      | incompleteLong => exact absurd found (long emitted)
    · rfl

/-- A response that is saved does not end the wait. -/
theorem isAwaiting_saveSuppressedResponse (content : Option String) (c : Coordinator β) :
    (c.saveSuppressedResponse content).isAwaiting = c.isAwaiting := by
  unfold saveSuppressedResponse
  cases content with
  | none => rfl
  | some text =>
      dsimp only
      split
      · rfl
      · rfl

/-- The end of the LLM leaves the session awake. -/
theorem awake_finished {content : Option String} (calm : c.stalls (.llm poll) = false)
    (active : AgentBackend.isActive c.llm = true)
    (yields : LlmStage.recv poll c.llm = (some (.finished content), llm)) :
    ((c.polled (.finished content) llm).finished content).Awake := by
  have suppressed : ∀ marker (d : Coordinator β),
      ((d.armTurnCompletionWait marker).saveSuppressedResponse content).Awake := by
    intro marker d _
    rw [isAwaiting_saveSuppressedResponse]
    exact isAwaiting_armTurnCompletionWait marker d
  unfold finished
  rw [show (c.polled (.finished content) llm).llmTurn = c.llmTurn from rfl,
    show (c.polled (.finished content) llm).config = c.config from rfl]
  split
  · exact awake_startIdleTimer _ _ _
  · rename_i plain
    dsimp only
    unfold streamEnded
    split
    · exact suppressed _ _
    · exact suppressed _ _
    · rename_i short long
      refine awake_of_passive calm active yields ⟨rfl, rfl, rfl, rfl, rfl, rfl, rfl⟩ fun closed => ?_
      have window : c.seGuard.isActive = false := closed
      unfold Coordination.armsNothing
      dsimp only
      rw [window]
      split
      · rename_i response phase
        exact absurd phase (plain response)
      · split
        · rename_i marker emitted found
          cases marker with
          | complete => rfl
          | incompleteShort => exact absurd found (short emitted)
          | incompleteLong => exact absurd found (long emitted)
        · rfl

/-- A tool that has ended leaves the session awake. -/
theorem awake_toolCallCompleted {id name : String} {success : Bool} {errorMessage : Option String}
    (calm : c.stalls (.llm poll) = false) (active : AgentBackend.isActive c.llm = true)
    (yields : LlmStage.recv poll c.llm = (some (.toolCallCompleted id name success errorMessage), llm)) :
    ((c.polled (.toolCallCompleted id name success errorMessage) llm).toolCallCompleted id).Awake := by
  unfold toolCallCompleted
  rw [show (c.polled (.toolCallCompleted id name success errorMessage) llm).seGuard = c.seGuard from rfl]
  split
  · -- Other tools are in flight, so the window stays open.
    rename_i more
    refine awake_of_busy ?_
    have others : 0 < c.seGuard.inFlight - 1 := by omega
    simp [Coordination.isPipelineActive, countTool, polled, leave, SideEffectToolsGuard.toolCompleted, others,
      SideEffectToolsGuard.isActive]
  · rename_i last
    cases deferred : c.seGuard.deferredTranscript with
    | some text => exact awake_replayDeferred _ _
    | none =>
        refine awake_of_passive calm active yields ⟨rfl, rfl, rfl, rfl, rfl, rfl, rfl⟩ fun _ => ?_
        have few : c.seGuard.inFlight ≤ 1 := by omega
        simp [Coordination.armsNothing, few, deferred]

/-- **An event of the LLM leaves the session awake.** -/
theorem awake_llm (remaining : Duration) (awake : c.Awake) (calm : c.stalls (.llm poll) = false) :
    (c.handle (.llm poll) remaining).Awake := by
  unfold handle
  dsimp only
  cases active : AgentBackend.isActive c.llm with
  | false => exact awake
  | true =>
      rw [if_pos rfl]
      rcases yields : LlmStage.recv poll c.llm with ⟨_ | event, llm⟩
      -- The event is passed on, and the window decides whether the call waits.
      · refine awake_of_passive calm active yields ⟨rfl, rfl, rfl, rfl, rfl, rfl, rfl⟩ fun closed => ?_
        have window : c.seGuard.isActive = false := closed
        simp [Coordination.armsNothing, window]
      · unfold llmEvent
        cases event with
        | token text => exact awake_token calm active yields
        | toolCallStarted id name sideEffect =>
            dsimp only
            unfold toolCallStarted
            cases sideEffect with
            | true =>
                refine awake_of_busy ?_
                simp [Coordination.isPipelineActive, SideEffectToolsGuard.toolStarted,
                  SideEffectToolsGuard.setWatchdogKey, SideEffectToolsGuard.isActive]
            | false =>
                refine awake_of_passive calm active yields ⟨rfl, rfl, rfl, rfl, rfl, rfl, rfl⟩ fun closed => ?_
                have window : c.seGuard.isActive = false := closed
                simp [Coordination.armsNothing, window]
        | toolCallCompleted id name success errorMessage => exact awake_toolCallCompleted calm active yields
        | finished content => exact awake_finished calm active yields
        | error message => exact awake_startIdleTimer _ _ _
        | onHold durationSecs => exact awake_startIdleTimer _ _ _
        | hangUp reason content =>
            dsimp only
            unfold agentHangUp
            split
            · rename_i speaking
              refine awake_of_busy ?_
              have still : c.tts.isActive = true := speaking
              simp [Coordination.isPipelineActive, setHangUp, polled, leave, still]
            · exact awake_of_exit rfl
        | llmComplete data =>
            refine awake_of_passive calm active yields ⟨rfl, rfl, rfl, rfl, rfl, rfl, rfl⟩ fun closed => ?_
            have window : c.seGuard.isActive = false := closed
            simp [Coordination.armsNothing, window]

end Llm

/-- **A step that stalls nothing keeps a session awake.** -/
theorem awake_handle (remaining : Duration) (awake : c.Awake) (calm : c.stalls input = false) :
    (c.handle input remaining).Awake := by
  cases input with
  | vad event verdict => exact awake_vad awake calm (handle_outcome _ _ _)
  | stt event => exact awake_stt awake (handle_outcome _ _ _)
  | llm poll => exact awake_llm remaining awake calm
  | tts event => exact awake_tts (handle_outcome _ _ _) awake
  | timer key => exact awake_timer awake calm (handle_outcome _ _ _)

/-- A session that has just started is not active yet. -/
theorem Opened.awake (opened : c.Opened) : c.Awake := by
  rintro ⟨-, phase, -⟩
  cases opened with
  | waiting fresh offset =>
      rw [startIdleTimer_sessionPhase, fresh.sessionPhase] at phase
      cases phase
  | greeted fresh offset =>
      rw [startIdleTimer_sessionPhase] at phase
      have nascent := fresh.sessionPhase.symm.trans phase
      cases nascent
  | greeting fresh ws => cases phase

/-- Who waits for a timer has it queued. -/
theorem wakes_of_awake (awake : c.Awake) (accounts : c.AccountedFor) : c.Wakes := by
  intro quiet
  obtain ⟨strays, -, accounted⟩ := accounts
  have queued : ∀ key kind, c.awaited kind = some key → (key, kind) ∈ c.timers.held := by
    intro key kind awaited
    rw [accounted.held_eq, ← add_assoc, ← add_assoc, ← add_assoc, Multiset.mem_add, add_assoc, add_assoc]
    exact .inl (mem_owned_iff_awaited.2 awaited)
  have waits := awake quiet
  unfold Coordination.isAwaiting at waits
  simp only [Bool.or_eq_true] at waits
  rcases waits with (timed | armed) | delayed
  · cases phase : c.turnPhase with
    | waitingForTranscript key =>
        exact ⟨key, .sttTimeout, queued key _ (by simp [Coordination.awaited, phase]), rfl⟩
    | eotFallback key =>
        exact ⟨key, .endOfTurnFallback, queued key _ (by simp [Coordination.awaited, phase]), rfl⟩
    | listening | userSpeaking active | transcriptTimedOut | bargeInWordCount =>
        rw [phase] at timed
        cases timed
  · unfold ReengagementTimer.isArmed at armed
    cases state : c.reengagement.state with
    | idle =>
        rw [state] at armed
        cases armed
    | turnCompletion key isShort =>
        exact ⟨key, .turnCompletion, queued key _ (by simp [Coordination.awaited, state]), rfl⟩
    | userIdle key => exact ⟨key, .userIdle, queued key _ (by simp [Coordination.awaited, state]), rfl⟩
  · cases phase : c.hangUp with
    | waitingForDelay key =>
        exact ⟨key, .hangUpDelay, queued key _ (by simp [Coordination.awaited, phase]), rfl⟩
    | idle | waitingForTts =>
        rw [phase] at delayed
        cases delayed

end Inputs

end Coordinator

/-! ## Runs -/

namespace Reactor

variable {β : Type} [AgentBackend β]

/-- The step stalls the session, unless it is over. -/
def stallsAt (r : Reactor β) (m : Moment β) : Bool :=
  !r.shouldExit && (r.setWorld m.world).stalls m.input

/-- A step that stalls nothing keeps the session awake. -/
theorem awake_step {r : Reactor β} {m : Moment β} (awake : r.core.Awake) (calm : r.stallsAt m = false) :
    (r.step m).core.Awake := by
  cases exits : r.shouldExit with
  | true =>
      rw [step_of_shouldExit exits]
      exact awake
  | false =>
      have still : (r.core.setWorld m.world).stalls m.input = false := by
        unfold stallsAt at calm
        rw [exits] at calm
        exact calm
      rw [step_core exits]
      exact Coordinator.awake_handle _ (awake.frame rfl rfl rfl rfl rfl rfl rfl) still

/-- **A session never stalls**, as long as no step stalls it: in every state of a run whose steps are all
calm, a quiet session has a timer queued that goes on with it. -/
theorem wakes_along {r₀ : Reactor β} (started : Started r₀) {moments : List (Moment β)}
    (calm : Run.Along step (fun r m => r.stallsAt m = false) r₀ moments) {front : List (Moment β)}
    (here : front <+: moments) : (Run.run step r₀ front).Wakes := by
  have preserved : ∀ (r : Reactor β) (m : Moment β), r.core.Awake → r.stallsAt m = false →
      (r.step m).core.Awake := fun _ _ => awake_step
  have awake : (Run.run step r₀ front).core.Awake :=
    Run.invariant preserved started.opened.awake (calm.of_prefix here)
  exact Coordinator.wakes_of_awake awake (accountedFor_run started front)

/-- The user asks something, and the agent answers. -/
def helloExchange : List (Moment AnyBackend) :=
  [calmly 1 (.vad .speechStarted true), calmly 2 (.vad (.speechEnded []) true),
    calmly 3 (.stt (.transcript "hello")), calmly 4 (yields (.token "✓ Hi there.") true),
    calmly 4 (yields (.finished none) false), calmly 5 (.tts (.audio [0, 0])), calmly 6 (.tts .finished)]

/-- Behind the answer the idle timer runs. -/
theorem wakes_along_answered : (Run.run step (session {}) helloExchange).Wakes :=
  wakes_along (started_session {}) (by decide +kernel : Run.Along step _ _ helloExchange) List.prefix_rfl

/-- The user speaks while the agent is thinking, and the transcript does not come. -/
def interruption : List (Moment AnyBackend) :=
  helloExchange.take 3 ++ [calmly 4 (.vad .speechStarted true), calmly 5 (.vad (.speechEnded []) true)]

/-- **A session that stalls**: no timer is left. -/
theorem stalled :
    (Run.run step (session {}) interruption).Quiet ∧ (Run.run step (session {}) interruption).timers.held = 0 ∧
      ¬(Run.run step (session {}) interruption).Wakes := by
  have quiet : (Run.run step (session {}) interruption).Quiet :=
    ⟨by decide +kernel, by decide +kernel, by decide +kernel, by decide +kernel, by decide +kernel⟩
  have empty : (Run.run step (session {}) interruption).timers.held = 0 := by decide +kernel
  refine ⟨quiet, empty, fun wakes => ?_⟩
  obtain ⟨key, kind, held, -⟩ := wakes quiet
  rw [empty] at held
  exact Multiset.notMem_zero _ held

end Reactor

end Feros
