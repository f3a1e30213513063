import Feros.Coordinator.Conditions
import Feros.Coordinator.Runs
import Feros.Coordinator.Specs
/-! # Turns that overlap, and turns that cancel themselves

While the coordinator waits for a transcript, or for the user to go on, the pipeline is idle and no
re-engagement timer runs.  From this it follows exactly when a turn is started over one that is
still active, and when a turn is started while the user speaks. -/

namespace Feros

/-! ## Quiet phases -/

/-- The phases in which the coordinator waits for the user over an idle pipeline. -/
def TurnPhase.isQuiet : TurnPhase → Bool
  | .userSpeaking false => true
  | .waitingForTranscript _ => true
  | .eotFallback _ => true
  | .bargeInWordCount => true
  | _ => false

/-- **A transcript is about to be committed over an active turn**: it comes while the coordinator
listens, with neither a hang-up nor a side-effect window in its way. -/
def Coordination.commitsOverTurn {β : Type} [AgentBackend β] (c : Coordination β)
    (input : Input β) : Bool :=
  match input with
  | .stt (.transcript text) =>
    !c.shouldExit && !c.hangUp.isPending && !c.seGuard.isActive &&
      decide (c.turnPhase = .listening) && !isBlank text && AgentBackend.isActive c.llm
  | _ => false

namespace Coordinator

variable {β : Type} [AgentBackend β]

/-- **In a quiet phase the pipeline is idle** and re-engagement is not armed. -/
def Quiet (c : Coordinator β) : Prop :=
  c.turnPhase.isQuiet = true → c.isPipelineActive = false ∧ c.reengagement.state = .idle

namespace Quiet

variable {c d : Coordinator β}

/-- A phase that is not quiet has nothing to show. -/
theorem of_loud (loud : d.turnPhase.isQuiet = false) : d.Quiet :=
  fun quiet => absurd (loud.symm.trans quiet) Bool.false_ne_true

/-- An active pipeline was in no quiet phase, and is in none if the phase stays. -/
theorem of_busy (h : c.Quiet) (busy : c.isPipelineActive = true)
    (phase : d.turnPhase = c.turnPhase) : d.Quiet := by
  intro quiet
  have idle := (h (phase ▸ quiet)).1
  exact absurd (idle.symm.trans busy) Bool.false_ne_true

/-- Nor was an armed re-engagement machine. -/
theorem of_armed (h : c.Quiet) (armed : c.reengagement.state ≠ .idle)
    (phase : d.turnPhase = c.turnPhase) : d.Quiet :=
  fun quiet => absurd (h (phase ▸ quiet)).2 armed

/-- Whatever is cancelled is quiet. -/
theorem cancelPipeline : c.cancelPipeline.Quiet :=
  fun _ => ⟨cancelPipeline_isPipelineActive c, rfl⟩

/-- A session that is shut down is quiet. -/
theorem initiateShutdown : c.initiateShutdown.Quiet :=
  fun _ => ⟨cancelPipeline_isPipelineActive c, rfl⟩

/-- A pipeline whose LLM is active is busy. -/
theorem busy_of_llm (active : AgentBackend.isActive c.llm = true) : c.isPipelineActive = true := by
  unfold Coordination.isPipelineActive
  rw [active]
  rfl

/-- A pipeline whose TTS is active is busy. -/
theorem busy_of_tts (active : c.tts.isActive = true) : c.isPipelineActive = true := by
  unfold Coordination.isPipelineActive
  rw [active, Bool.or_true]
  rfl

/-- A pipeline with a window is busy. -/
theorem busy_of_window (window : c.seGuard.isActive = true) : c.isPipelineActive = true := by
  unfold Coordination.isPipelineActive
  rw [window, Bool.or_true]

/-- The timer of an incomplete turn was armed. -/
theorem armed_of_completion {next : Bool × ReengagementTimer}
    (fires : c.reengagement.onTurnCompletionFired = some next) :
    c.reengagement.state ≠ .idle := by
  intro idle
  unfold ReengagementTimer.onTurnCompletionFired at fires
  rw [idle] at fires
  cases fires

/-- The idle timer was armed. -/
theorem armed_of_idle {next : ℕ × ReengagementTimer}
    (fires : c.reengagement.onUserIdleFired = some next) : c.reengagement.state ≠ .idle := by
  intro idle
  unfold ReengagementTimer.onUserIdleFired at fires
  rw [idle] at fires
  cases fires

/-- Buffering a transcript starts nothing. -/
theorem bufferTranscript {text : String} (h : c.Quiet) : (c.bufferTranscript text).Quiet := by
  have same := bufferTranscript_isPipelineActive text c
  obtain ⟨guard, -, eq⟩ := bufferTranscript_eq text c
  rw [eq] at same ⊢
  exact fun quiet => ⟨same.trans (h quiet).1, (h quiet).2⟩

/-- **Every outcome keeps quiet phases quiet.** -/
theorem outcome {input : Input β} (h : c.Quiet) (o : Outcome c input d) : d.Quiet := by
  -- While the LLM or the speech is active nobody is quiet.
  have llm : AgentBackend.isActive c.llm = true → d.turnPhase = c.turnPhase → d.Quiet :=
    fun active => h.of_busy (busy_of_llm active)
  have tts : c.tts.isActive = true → d.turnPhase = c.turnPhase → d.Quiet :=
    fun active => h.of_busy (busy_of_tts active)
  cases o with
  | nothing | unheard _ => exact h
  | engaged _ => exact fun quiet => ⟨(h quiet).1, rfl⟩
  | speechBegun _ silent =>
    unfold beginSpeech
    rw [if_neg (by rw [show c.engage.turnPhase = c.turnPhase from rfl, silent]
                   exact Bool.false_ne_true)]
    -- Speech that begins leaves an active pipeline alone.
    cases active : c.isPipelineActive with
    | true => exact of_loud rfl
    | false => exact fun _ => ⟨active, rfl⟩
  | shielded _ => exact of_loud rfl
  | awaiting _ phase | heldBack _ phase =>
    -- Waiting for the transcript counts as listening.
    have idle := h (by rw [phase]; rfl)
    exact fun _ => idle
  | talkedOver _ _ => exact cancelPipeline
  | buffered _ _ => exact Quiet.bufferTranscript h
  | blankTurn _ _ _ _ | bargeInRejected _ _ _ _ => exact of_loud (by simp [listen, leave, drain, TurnPhase.isQuiet])
  | turnCommitted _ _ _ _ _ | bargeInCommitted _ _ _ _ | lateCommitted _ _ _ _ =>
    exact of_loud (by simp [listen, leave, drain, TurnPhase.isQuiet])
  | lateDropped _ _ _ _ => exact of_loud rfl
  | noEvent active _ | streamed active _ | suppressed active _ _ _ | toolCounted active _ _
  | windowEnded active _ _ _ | finished active _ | hangUpPending active _ _ | hungUp active _ _
  | reported active _ => exact llm active rfl
  | toolStarted active _ => exact llm active (by simp [polled, leave])
  | windowReplayed active _ _ _ => exact llm active (by simp [endWindow, countTool, polled, leave])
  | suppressedFinished active _ _ => exact llm active (by simp [polled, leave])
  | lateSuppressed active _ _ _ =>
    exact llm active (by simp [armTurnCompletionWait, setLlmTurn, polled, leave])
  | llmFailed active _ => exact llm active (by simp [cancelTts, polled, leave])
  | held active _ => exact llm active (by simp [setReengagement, polled, leave])
  | audioSent active _ | roundSpoken active _ | goodbyeSpoken _ active _ _ _
  | goodbyePlayed active _ _ _ => exact tts active rfl
  | greetingSpoken _ active _ _ => exact tts active (by simp [finishGreeting, quietTts])
  | turnSpoken _ active _ _ _ | ttsFailed active => exact tts active (by simp [quietTts])
  | staleTimer _ _ => exact h
  | fallbackFired _ _ phase =>
    have idle := h (by rw [phase]; rfl)
    exact fun _ => idle
  | transcriptOverdue _ _ _ => exact of_loud (by simp [setTurnPhase, TurnPhase.isQuiet])
  | waitOvertaken _ _ fires _ => exact h.of_armed (armed_of_completion fires) rfl
  | responseReplayed _ _ fires _ _ =>
    exact h.of_armed (armed_of_completion fires) (by simp [setLlmTurn, setReengagement, fired])
  | waitNudged _ _ fires _ _ =>
    exact h.of_armed (armed_of_completion fires) (by simp [setReengagement, fired])
  | idleNudged _ _ fires _ =>
    exact h.of_armed (armed_of_idle fires) (by simp [setReengagement, fired])
  | idleHungUp _ _ _ _ | delayOver _ _ => exact initiateShutdown
  | idleIgnored _ _ fires _ => exact h.of_armed (armed_of_idle fires) rfl
  | watchdogLate _ _ window =>
    have same : c.closeWindow.isPipelineActive = c.isPipelineActive :=
      closeWindow_isPipelineActive window
    exact fun quiet => ⟨same.trans (h quiet).1, (h quiet).2⟩
  | watchdogReplayed _ _ window _ =>
    exact h.of_busy (busy_of_window window) (by simp [closeWindow, fired])
  | watchdogCancelled _ _ _ _ => exact cancelPipeline

end Quiet

/-- A session starts listening, which is no quiet phase. -/
theorem Opened.quiet {c : Coordinator β} (h : c.Opened) : c.Quiet := by
  have start : ∀ {c : Coordinator β}, c.Fresh → c.turnPhase.isQuiet = false := by
    intro c fresh
    rw [fresh.turnPhase]
    rfl
  cases h with
  | waiting fresh => exact Quiet.of_loud (by simpa using start fresh)
  | greeted fresh => exact Quiet.of_loud (by simpa [sendAudio, leave] using start fresh)
  | greeting fresh ws => exact Quiet.of_loud (by simpa using start fresh)

/-! ## Trails only grow -/

/-- The opening leaves at most one mark. -/
theorem Opened.trail {c : Coordinator β} (h : c.Opened) :
    c.trail = [] ∨ c.trail = [.audio false] ∨ c.trail = [.startTts false] := by
  cases h with
  | waiting fresh =>
    left
    rw [startIdleTimer_trail, fresh.trail]
  | greeted fresh =>
    right; left
    rw [startIdleTimer_trail, sendAudio_trail, fresh.trail, List.nil_append]
  | @greeting c fresh ws =>
    right; right
    have marked := startTtsForTurn_trail c
    rwa [fresh.turnPhase, fresh.trail] at marked

/-- **No outcome takes a mark back.** -/
theorem trail_prefix {c d : Coordinator β} {input : Input β} (o : Outcome c input d) :
    c.trail <+: d.trail := by
  cases o with
  | speechBegun _ silent =>
    rw [beginSpeech_trail c.engage silent]
    split
    · exact List.prefix_append _ _
    · exact List.prefix_refl _
  | _ => simp

/-! ## Turns over turns -/

/-- Text behind a deferred transcript is still text. -/
theorem isBlank_prepend {text : String} (deferred : Option String)
    (spoken : isBlank text = false) :
    isBlank (SideEffectToolsGuard.prepend deferred text) = false := by
  cases deferred with
  | none => exact spoken
  | some front =>
    unfold SideEffectToolsGuard.prepend
    rw [isBlank_append, spoken, Bool.and_false]

/-- In an idle pipeline the LLM is inactive. -/
theorem inactive_of_idle {c : Coordinator β} (idle : c.isPipelineActive = false) :
    AgentBackend.isActive c.llm = false := by
  cases active : AgentBackend.isActive c.llm with
  | false => rfl
  | true => exact absurd (idle.symm.trans (Quiet.busy_of_llm active)) Bool.false_ne_true

/-- A turn overlaps if it starts, over an active LLM. -/
@[simp] theorem overlap_mem_turnMarks (speaking active : Bool) :
    Mark.startTurn true ∈ turnMarks speaking active ↔ speaking = false ∧ active = true := by
  cases speaking <;> cases active <;> decide

/-- A transcript that is committed overlaps only with an active LLM. -/
theorem overlap_of_commit (c : Coordinator β) {d : Coordinator β} {text heard : String}
    (overlap : .startTurn true ∈ (d.commitTurnText text).trail)
    (trail : d.trail = c.trail ++ [.transcript heard]) (llm : d.llm = c.llm) :
    .startTurn true ∈ c.trail ∨ AgentBackend.isActive c.llm = true := by
  rw [commitTurnText_trail, trail, llm] at overlap
  simp only [List.mem_append, List.mem_cons, List.not_mem_nil, or_false, reduceCtorEq, false_or,
    overlap_mem_turnMarks] at overlap
  exact overlap.imp_right And.right

/-- So does a nudge. -/
theorem overlap_of_nudge (c : Coordinator β) {d : Coordinator β} {nudge : String}
    (overlap : .startTurn true ∈ (d.startNudgeTurn nudge).trail) (trail : d.trail = c.trail)
    (llm : d.llm = c.llm) :
    .startTurn true ∈ c.trail ∨ AgentBackend.isActive c.llm = true := by
  rw [startNudgeTurn_trail, trail, llm] at overlap
  simp only [List.mem_append, List.mem_cons, reduceCtorEq, false_or,
    overlap_mem_turnMarks] at overlap
  exact overlap.imp_right And.right

/-- A nudge finds the pipeline idle. -/
theorem idle_of_nudge {c : Coordinator β} {retryCount : ℕ}
    (nudge : shouldNudgeIdle c.isPipelineActive c.config.idleTimeoutSecs retryCount
      c.config.idleMaxNudges = true) : c.isPipelineActive = false := by
  cases busy : c.isPipelineActive with
  | false => rfl
  | true =>
    rw [busy] at nudge
    cases nudge

/-- **Only a commit from `listening` starts a turn over another.** -/
theorem overlap_of_outcome {c d : Coordinator β} {input : Input β} (quiet : c.Quiet)
    (running : c.shouldExit = false) (o : Outcome c input d)
    (overlap : .startTurn true ∈ d.trail) :
    .startTurn true ∈ c.trail ∨ c.commitsOverTurn input = true := by
  have inactive : ∀ {P : Prop}, c.isPipelineActive = false →
      P ∨ AgentBackend.isActive c.llm = true → P ∨ c.commitsOverTurn input = true :=
    fun idle => Or.imp_right fun active =>
      absurd ((inactive_of_idle idle).symm.trans active) Bool.false_ne_true
  cases o with
  | speechBegun _ silent =>
    rw [beginSpeech_trail c.engage silent] at overlap
    split at overlap
    · exact .inl (by simpa using overlap)
    · exact .inl overlap
  | @turnCommitted text free window phase _ fresh =>
    have overlaps := overlap_of_commit c overlap rfl rfl
    cases listening : c.turnPhase with
    | listening =>
      refine overlaps.imp_right fun active => ?_
      simp [Coordination.commitsOverTurn, running, free, window, listening, fresh listening, active]
    | waitingForTranscript key | eotFallback key =>
      have idle := quiet (by rw [listening]; rfl)
      exact inactive idle.1 overlaps
    | userSpeaking busy | transcriptTimedOut | bargeInWordCount =>
      rw [listening] at phase
      cases phase
  | bargeInCommitted _ _ phase _ =>
    have idle := quiet (by rw [phase]; rfl)
    exact inactive idle.1 (overlap_of_commit c overlap rfl rfl)
  | lateCommitted _ _ _ idle => exact inactive idle (overlap_of_commit c overlap rfl rfl)
  | windowReplayed _ _ _ _ | watchdogReplayed _ _ _ _ =>
    rw [replayDeferred_trail] at overlap
    exact .inl (by simpa using overlap)
  | waitNudged _ _ _ idle _ =>
    exact inactive idle (overlap_of_nudge c overlap rfl rfl)
  | idleNudged _ _ _ nudge =>
    exact inactive (idle_of_nudge nudge) (overlap_of_nudge c overlap rfl rfl)
  | responseReplayed _ _ _ _ _ =>
    rw [startTtsForTurn_trail] at overlap
    split at overlap <;> exact .inl (by simpa using overlap)
  | _ => exact .inl (by simpa using overlap)

/-- A transcript heard while listening is committed. -/
theorem transcript_of_listening {c : Coordinator β} {text : String}
    (free : c.hangUp.isPending = false) (window : c.seGuard.isActive = false)
    (listening : c.turnPhase = .listening) (spoken : isBlank text = false) :
    c.transcript text = c.drain.commitTurnText (c.fullText text) := by
  have full : isBlank (c.fullText text) = false := isBlank_prepend _ spoken
  unfold transcript
  rw [free, window, if_neg Bool.false_ne_true, if_neg Bool.false_ne_true]
  unfold hear
  rw [listening]
  dsimp only
  rw [spoken, if_neg Bool.false_ne_true]
  unfold commitTurn
  rw [full, if_neg Bool.false_ne_true]

/-- Such a commit does start a turn over another. -/
theorem overlap_of_commitsOverTurn {c : Coordinator β} {input : Input β} (remaining : Duration)
    (commits : c.commitsOverTurn input = true) :
    c.shouldExit = false ∧ .startTurn true ∈ (c.handle input remaining).trail := by
  unfold Coordination.commitsOverTurn at commits
  split at commits
  · rename_i text
    simp only [Bool.and_eq_true, Bool.not_eq_true', decide_eq_true_eq] at commits
    obtain ⟨⟨⟨⟨⟨running, free⟩, window⟩, listening⟩, spoken⟩, active⟩ := commits
    have committed : c.handle (.stt (.transcript text)) remaining =
        (c.leave (.transcript text)).drain.commitTurnText (c.fullText text) :=
      transcript_of_listening free window listening spoken
    refine ⟨running, ?_⟩
    rw [committed, commitTurnText_trail]
    simp [listening, active, leave, drain, TurnPhase.isSpeaking]
  · cases commits

end Coordinator

/-! ## Marks that appear exactly where a guard is missed -/

namespace Reactor

variable {β : Type} [AgentBackend β]

/-- **The exact rule for marks.**  If an input leaves a mark exactly where a condition holds, the
mark is missing from a session exactly if the condition holds at none of its inputs. -/
theorem run_unmarked_iff {inv : Coordinator β → Prop} {mark : Mark}
    {leaves : Coordination β → Input β → Bool}
    (opened : ∀ {c : Coordinator β}, c.Opened → inv c ∧ mark ∉ c.trail)
    (world : ∀ {c : Coordinator β} world, inv c → inv (c.setWorld world))
    (outcome : ∀ {c d : Coordinator β} {input}, inv c → c.Outcome input d → inv d)
    (only : ∀ {c d : Coordinator β} {input}, inv c → c.shouldExit = false →
      c.Outcome input d → mark ∈ d.trail → mark ∈ c.trail ∨ leaves c.toCoordination input = true)
    (always : ∀ {c : Coordinator β} {input} remaining, leaves c.toCoordination input = true →
      c.shouldExit = false ∧ mark ∈ (c.handle input remaining).trail)
    {r₀ : Reactor β} (started : Started r₀) (moments : List (Moment β)) :
    mark ∉ (Run.run step r₀ moments).trail ↔
      Run.Along step (fun r m => leaves (r.setWorld m.world).toCoordination m.input = false)
        r₀ moments := by
  have preserved : ∀ (r : Reactor β) (m : Moment β), inv r.core → inv (r.step m).core :=
    fun r m => step_keeps world outcome
  have exactly : ∀ (r : Reactor β) (m : Moment β), inv r.core → (mark ∈ (r.step m).trail ↔
      mark ∈ r.trail ∨ ¬ leaves (r.setWorld m.world).toCoordination m.input = false) := by
    intro r m h
    have ready : inv (r.core.setWorld m.world) := world m.world h
    have leaving : leaves (r.core.setWorld m.world).toCoordination m.input = true →
        r.shouldExit = false ∧ mark ∈ ((r.core.setWorld m.world).handle m.input
          (r.playback.remainingPlayback m.world.now)).trail := always _
    rw [Bool.not_eq_false]
    cases exits : r.shouldExit with
    | true =>
      rw [step_of_shouldExit exits, iff_self_or]
      intro here
      exact absurd (exits.symm.trans (leaving here).1) Bool.false_ne_true.symm
    | false =>
      have outcome := step_outcome exits m
      refine ⟨only ready exits outcome, ?_⟩
      rintro (marked | here)
      · exact (Coordinator.trail_prefix outcome).subset marked
      · have marked := (leaving here).2
        rwa [← step_core exits] at marked
  obtain ⟨start, unmarked⟩ := opened started.opened
  exact Run.clear_iff_along (fun r => mark ∈ r.trail) preserved exactly start unmarked moments

/-! ## Turns never overlap -/

/-- A start of a turn is in the log exactly if its mark is in the trail. -/
theorem startTurn_mem_trail {r : Reactor β} {active : Bool} :
    Mark.startTurn active ∈ r.trail ↔ Effect.backend active .startTurn ∈ r.log := by
  unfold trail
  rw [List.mem_filterMap]
  constructor
  · rintro ⟨effect, mem, mark⟩
    have effect_eq : effect = .backend active .startTurn := by
      unfold Effect.mark at mark
      split at mark <;> cases mark
      rfl
    exact effect_eq ▸ mem
  · intro mem
    exact ⟨_, mem, rfl⟩

/-- **Turns never overlap, except where a transcript is committed over an active turn.**  In a
session every `start_turn` finds the backend inactive exactly if no step commits a transcript from
`listening` while a turn is active. -/
theorem turns_apart_iff {r₀ : Reactor β} (started : Started r₀) (moments : List (Moment β)) :
    Effect.backend true .startTurn ∉ (Run.run step r₀ moments).log ↔
      Run.Along step (fun r m => (r.setWorld m.world).commitsOverTurn m.input = false)
        r₀ moments := by
  rw [← startTurn_mem_trail]
  refine run_unmarked_iff ?_ (fun _ h => h) Coordinator.Quiet.outcome
    Coordinator.overlap_of_outcome Coordinator.overlap_of_commitsOverTurn started moments
  intro c opened
  refine ⟨opened.quiet, ?_⟩
  rcases opened.trail with trail | trail | trail <;> rw [trail] <;> decide

/-- A session in which the user speaks, and is answered. -/
theorem turns_apart_answered :
    Effect.backend true .startTurn ∉ (Run.run step (session {}) [calmly 1 (.vad .speechStarted true),
      calmly 2 (.vad (.speechEnded []) true), calmly 3 (.stt (.transcript "hello")),
      calmly 4 (yields (.finished none) false)]).log :=
  (turns_apart_iff (started_session {}) _).2 (by decide)

/-- The provider sends two final transcripts in a row: the second turn starts over the first. -/
theorem turns_overlap :
    Effect.backend true .startTurn ∈ (Run.run step (session {}) [calmly 1 (.vad .speechStarted true),
      calmly 2 (.vad (.speechEnded []) true), calmly 3 (.stt (.transcript "hello")),
      calmly 4 (.stt (.transcript "again"))]).log := by
  decide

/-! ## A turn that cancels itself -/

end Reactor

/-- **A turn is about to be started while the user speaks**: a deferred transcript is replayed,
the wait after a ○ or ◐ ends, or a nudge is due. -/
def Coordination.answersSpeaker {β : Type} [AgentBackend β] (c : Coordination β)
    (input : Input β) : Bool :=
  !c.shouldExit && c.turnPhase.isSpeaking &&
    (c.replaysDeferred input || c.endsWait input || c.nudgesIdle input)

namespace Coordinator

variable {β : Type} [AgentBackend β]

/-- The start of a turn is cancelled if the user speaks. -/
@[simp] theorem cancelled_mem_turnMarks (speaking active : Bool) :
    Mark.startTts true ∈ turnMarks speaking active ↔ speaking = true := by
  cases speaking <;> cases active <;> decide

/-- A turn of the TTS starts over the user exactly while the user speaks. -/
theorem mem_startTtsForTurn {c : Coordinator β} :
    .startTts true ∈ c.startTtsForTurn.trail ↔
      .startTts true ∈ c.trail ∨ c.turnPhase.isSpeaking = true := by
  rw [startTtsForTurn_trail]
  cases c.turnPhase.isSpeaking <;> simp

/-- A text that is committed starts one over the user exactly while the user speaks. -/
theorem mem_commitTurnText {c : Coordinator β} {text : String} :
    .startTts true ∈ (c.commitTurnText text).trail ↔
      .startTts true ∈ c.trail ∨ c.turnPhase.isSpeaking = true := by
  simp

/-- A replay starts one over the user exactly while the user speaks. -/
theorem mem_replayDeferred {c : Coordinator β} {text : String} :
    .startTts true ∈ (c.replayDeferred text).trail ↔
      .startTts true ∈ c.trail ∨ c.turnPhase.isSpeaking = true := by
  simp

/-- A nudge starts one over the user exactly while the user speaks. -/
theorem mem_startNudgeTurn {c : Coordinator β} {nudge : String} :
    .startTts true ∈ (c.startNudgeTurn nudge).trail ↔
      .startTts true ∈ c.trail ∨ c.turnPhase.isSpeaking = true := by
  simp

/-- **Only these inputs cancel the turn they start.** -/
theorem cancelled_of_outcome {c d : Coordinator β} {input : Input β}
    (running : c.shouldExit = false) (o : Outcome c input d)
    (cancelled : .startTts true ∈ d.trail) :
    .startTts true ∈ c.trail ∨ c.answersSpeaker input = true := by
  -- A turn that starts while the user speaks answers the speaker.
  have answers : (c.replaysDeferred input || c.endsWait input || c.nudgesIdle input) = true →
      c.turnPhase.isSpeaking = true → c.answersSpeaker input = true := by
    intro starts speaking
    unfold Coordination.answersSpeaker
    rw [running, speaking, starts]
    rfl
  -- A transcript is committed in `listening`.
  have heard : ∀ {e : Coordinator β} {text heard : String}, e.turnPhase = .listening →
      e.trail = c.trail ++ [.transcript heard] → .startTts true ∈ (e.commitTurnText text).trail →
      .startTts true ∈ c.trail := by
    intro e text heard listening trail mem
    rw [mem_commitTurnText, listening, trail] at mem
    simpa [TurnPhase.isSpeaking] using mem
  cases o with
  | speechBegun _ silent =>
    rw [beginSpeech_trail c.engage silent] at cancelled
    split at cancelled
    · exact .inl (by simpa using cancelled)
    · exact .inl cancelled
  | turnCommitted _ _ _ _ _ | bargeInCommitted _ _ _ _ | lateCommitted _ _ _ _ =>
    exact .inl (heard rfl rfl cancelled)
  | windowReplayed active yields last deferred =>
    have replays : c.replaysDeferred _ = true :=
      Coordination.replaysDeferred_of_last
        (Coordination.completesLast_of_recv active yields last) deferred
    rcases mem_replayDeferred.1 cancelled with old | speaking
    · exact .inl (by simpa using old)
    · exact .inr (answers (by rw [replays]; rfl) speaking)
  | watchdogReplayed due value window deferred =>
    have replays : c.replaysDeferred _ = true :=
      Coordination.replaysDeferred_of_closes
        (Coordination.closesWindow_of_due due value window) deferred
    exact (mem_replayDeferred.1 cancelled).imp_right (answers (by rw [replays]; rfl))
  | waitNudged due value fires idle unsaved =>
    have ends := Coordination.endsWait_of_due due value fires idle
    exact (mem_startNudgeTurn.1 cancelled).imp_right (answers (by rw [ends]; simp))
  | responseReplayed due value fires idle saved =>
    have ends := Coordination.endsWait_of_due due value fires idle
    exact (mem_startTtsForTurn.1 cancelled).imp_right (answers (by rw [ends]; simp))
  | idleNudged due value fires nudge =>
    have nudges := Coordination.nudgesIdle_of_due due value fires nudge
    exact (mem_startNudgeTurn.1 cancelled).imp_right (answers (by rw [nudges]; simp))
  | _ => exact .inl (by simpa using cancelled)

/-- And these do. -/
theorem cancelled_of_answersSpeaker {c : Coordinator β} {input : Input β} (remaining : Duration)
    (answers : c.answersSpeaker input = true) :
    c.shouldExit = false ∧ .startTts true ∈ (c.handle input remaining).trail := by
  unfold Coordination.answersSpeaker at answers
  simp only [Bool.and_eq_true, Bool.or_eq_true, Bool.not_eq_true'] at answers
  obtain ⟨⟨running, speaking⟩, (replays | ends) | nudges⟩ := answers
  · obtain ⟨d, text, handled, phase, -⟩ := handle_of_replaysDeferred remaining replays
    refine ⟨running, ?_⟩
    rw [handled, mem_replayDeferred, phase]
    exact .inr speaking
  · obtain ⟨d, isShort, phase, -, -, handled⟩ := handle_of_endsWait remaining ends
    refine ⟨running, ?_⟩
    rw [handled]
    cases c.suppressedResponse with
    | some text => exact mem_startTtsForTurn.2 (.inr (phase ▸ speaking))
    | none => exact mem_startNudgeTurn.2 (.inr (phase ▸ speaking))
  · obtain ⟨d, phase, -, handled⟩ := handle_of_nudgesIdle remaining nudges
    refine ⟨running, ?_⟩
    rw [handled, mem_startNudgeTurn, phase]
    exact .inr speaking

end Coordinator

namespace Reactor

variable {β : Type} [AgentBackend β]

/-- A call of `start_tts_for_turn` is in the log exactly if its mark is in the trail. -/
theorem startTts_mem_trail {r : Reactor β} {speaking : Bool} :
    Mark.startTts speaking ∈ r.trail ↔ Effect.startTtsForTurn speaking ∈ r.log := by
  unfold trail
  rw [List.mem_filterMap]
  constructor
  · rintro ⟨effect, mem, mark⟩
    have effect_eq : effect = .startTtsForTurn speaking := by
      unfold Effect.mark at mark
      split at mark <;> cases mark
      rfl
    exact effect_eq ▸ mem
  · intro mem
    exact ⟨_, mem, rfl⟩

/-- **A turn is not cancelled by its own start, except where one is started while the user
speaks.**  In a session no call of `start_tts_for_turn` finds the user speaking exactly if no step
replays a deferred transcript, ends a wait or nudges while `turn_phase` is `UserSpeaking`. -/
theorem turns_answered_iff {r₀ : Reactor β} (started : Started r₀) (moments : List (Moment β)) :
    Effect.startTtsForTurn true ∉ (Run.run step r₀ moments).log ↔
      Run.Along step (fun r m => (r.setWorld m.world).answersSpeaker m.input = false)
        r₀ moments := by
  rw [← startTts_mem_trail]
  have kept : ∀ {c d : Coordinator β} {input : Input β}, True → c.Outcome input d → True :=
    fun _ _ => trivial
  refine run_unmarked_iff ?_ (fun _ h => h) kept
    (fun _ => Coordinator.cancelled_of_outcome) Coordinator.cancelled_of_answersSpeaker started
    moments
  intro c opened
  refine ⟨trivial, ?_⟩
  rcases opened.trail with trail | trail | trail <;> rw [trail] <;> decide

/-- A session in which the user speaks while a tool runs, and is answered when it has completed. -/
theorem turns_answered_deferred :
    Effect.startTtsForTurn true ∉ (Run.run step (session {}) [calmly 1 (.vad .speechStarted true),
      calmly 2 (.vad (.speechEnded []) true), calmly 3 (.stt (.transcript "book")),
      calmly 4 (yields (.toolCallStarted "id" "book" true) true),
      calmly 5 (.vad .speechStarted true), calmly 6 (.stt (.transcript "please")),
      calmly 7 (.vad (.speechEnded []) true),
      calmly 8 (yields (.toolCallCompleted "id" "book" true none) true)]).log :=
  (turns_answered_iff (started_session {}) _).2 (by decide)

/-- The user still speaks when the tool completes: the deferred transcript is committed, and its
turn is cancelled at once. -/
theorem turns_cancelled_by_start :
    Effect.startTtsForTurn true ∈ (Run.run step (session {}) [calmly 1 (.vad .speechStarted true),
      calmly 2 (.vad (.speechEnded []) true), calmly 3 (.stt (.transcript "book")),
      calmly 4 (yields (.toolCallStarted "id" "book" true) true),
      calmly 5 (.vad .speechStarted true), calmly 6 (.stt (.transcript "please")),
      calmly 7 (yields (.toolCallCompleted "id" "book" true none) true)]).log := by
  decide

end Reactor

end Feros
