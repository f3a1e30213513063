import Feros.Coordinator.Conditions
import Feros.Coordinator.Runs
import Feros.Coordinator.Specs
/-! # The budget of nudges

`idle_retries` is to say how many nudges a silent user has been sent, so that the call ends after the last
one.  It counts the firings of `UserIdle`, also those that find the pipeline active and send nothing, and it
is reset whenever the pipeline is cancelled, not only by the user.

`nudges_counted_iff` says in which runs it is the number of nudges nevertheless. -/

namespace Feros

open Run

/-! ## The retry count -/

namespace ReengagementTimer

variable (t : ReengagementTimer) (timers : DelayQueue TimerKey)

/-- Disarming leaves the count. -/
@[simp] theorem idleRetries_disarm : (t.disarm timers).1.idleRetries = t.idleRetries := by
  unfold disarm
  cases t.state <;> rfl

/-- The wait for the rest of a turn leaves the count. -/
@[simp] theorem idleRetries_armTurnCompletion (now : Instant) (duration : Duration) (isShort : Bool) :
    (t.armTurnCompletion now duration isShort timers).1.idleRetries = t.idleRetries :=
  t.idleRetries_disarm timers

/-- Arming leaves the count. -/
@[simp] theorem idleRetries_armIdle (now : Instant) (duration : Duration) :
    (t.armIdle now duration timers).1.idleRetries = t.idleRetries := by
  unfold armIdle
  cases t.state <;> rfl

/-- A hold leaves the count. -/
@[simp] theorem idleRetries_extendByHold (now : Instant) (duration : Duration) :
    (t.extendByHold now duration).2.idleRetries = t.idleRetries := by
  unfold extendByHold
  split
  · split <;> rfl
  · rfl

/-- The timer of an incomplete turn leaves the count. -/
theorem idleRetries_onTurnCompletionFired {isShort : Bool} {next : ReengagementTimer}
    (fires : t.onTurnCompletionFired = some (isShort, next)) : next.idleRetries = t.idleRetries := by
  unfold onTurnCompletionFired at fires
  split at fires
  · cases fires
    rfl
  · cases fires

/-- **The idle timer counts up.** -/
theorem idleRetries_onUserIdleFired {retryCount : ℕ} {next : ReengagementTimer}
    (fires : t.onUserIdleFired = some (retryCount, next)) :
    retryCount = t.idleRetries + 1 ∧ next.idleRetries = t.idleRetries + 1 := by
  unfold onUserIdleFired at fires
  split at fires
  · cases fires
    exact ⟨rfl, rfl⟩
  · cases fires

end ReengagementTimer

namespace Coordinator

variable {β : Type} [AgentBackend β]

section Retries

variable (c : Coordinator β)

/-- Starting the idle timer leaves the count. -/
@[simp] theorem startIdleTimer_idleRetries (offset : Duration) (force : Bool) :
    (c.startIdleTimer offset force).reengagement.idleRetries = c.reengagement.idleRetries := by
  unfold startIdleTimer
  split
  · rfl
  · split
    · rfl
    · dsimp only
      rw [ReengagementTimer.idleRetries_armIdle, ReengagementTimer.idleRetries_extendByHold]

/-- A turn of the LLM leaves the count. -/
@[simp] theorem startLlm_idleRetries : c.startLlm.reengagement.idleRetries = c.reengagement.idleRetries := by
  unfold startLlm
  dsimp only
  split
  · rfl
  · exact startIdleTimer_idleRetries _ 0 false

variable {c}

/-- A turn that starts while nobody speaks leaves the count. -/
theorem startLlmTurn_idleRetries (quiet : c.turnPhase.isSpeaking = false) :
    c.startLlmTurn.reengagement.idleRetries = c.reengagement.idleRetries := by
  rw [startLlmTurn_of_quiet quiet, startLlm_idleRetries]
  exact c.reengagement.idleRetries_disarm c.timers

/-- The turn that a nudge starts keeps the count, if the user is not speaking. -/
theorem startNudgeTurn_idleRetries (nudge : String) (quiet : c.turnPhase.isSpeaking = false) :
    (c.startNudgeTurn nudge).reengagement.idleRetries = c.reengagement.idleRetries := by
  unfold startNudgeTurn
  rw [skipMarkerCheck_eq]
  exact startLlmTurn_idleRetries (c := c.addUserMessage nudge) quiet

/-- Otherwise it is cancelled, and the count with it. -/
theorem startNudgeTurn_of_speaking (nudge : String) (speaking : c.turnPhase.isSpeaking = true) :
    (c.startNudgeTurn nudge).reengagement = .default := by
  unfold startNudgeTurn
  rw [skipMarkerCheck_eq, startLlmTurn_of_speaking (c := c.addUserMessage nudge) speaking]
  rfl

/-- A deferred transcript counts as the user's. -/
theorem replayDeferred_idleRetries (text : String) : (c.replayDeferred text).reengagement.idleRetries = 0 := by
  unfold replayDeferred
  cases speaking : c.turnPhase.isSpeaking with
  | true =>
      rw [startLlmTurn_of_speaking (c := c.cancelPipeline.addUserMessage text) speaking]
      rfl
  | false =>
      rw [startLlmTurn_idleRetries (c := c.cancelPipeline.addUserMessage text) speaking]
      rfl

end Retries

end Coordinator

/-! ## Silence -/

/-- The user keeps silent: no speech starts, and no transcript comes. -/
def Input.isSilent {β : Type} [AgentBackend β] : Input β → Bool
  | .vad .speechStarted _ => false
  | .stt (.transcript _) => false
  | _ => true

section Conditions

variable {β : Type} [AgentBackend β] (c : Coordination β) (input : Input β)

/-- The pipeline is about to be cancelled, and the count with it, while the call goes on. -/
def Coordination.resetsNudges : Bool :=
  c.endsBargeIn input || c.closesWindow input || c.replaysDeferred input ||
    (c.endsWait input && c.turnPhase.isSpeaking)

/-- The user is silent, and the nudges are used up. -/
def Coordination.usesUpNudges : Bool :=
  decide (c.fires input = some .userIdle) && !c.isPipelineActive &&
    match c.reengagement.onUserIdleFired with
    | some (retryCount, _) => decide (c.config.idleMaxNudges < retryCount) && decide (0 < c.config.idleMaxNudges)
    | none => false

/-- **The count is kept**: when `UserIdle` fires, a nudge is sent that is not cancelled at once, or the call
ends; and the pipeline is not cancelled before the call ends, unless nothing was counted. -/
def Coordination.CountsNudges : Prop :=
  (c.fires input = some .userIdle → c.reengagement.onUserIdleFired.isSome = true →
      (c.nudgesIdle input = true ∧ c.turnPhase.isSpeaking = false) ∨ c.usesUpNudges input = true) ∧
    (c.resetsNudges input = true → c.reengagement.idleRetries = 0)

instance : Decidable (c.CountsNudges input) := inferInstanceAs (Decidable ((_ → _ → _ ∨ _) ∧ (_ → _)))

end Conditions

namespace Coordinator

variable {β : Type} [AgentBackend β] {c d : Coordinator β} {input : Input β}

/-- **What becomes of the count** in silence, unless `UserIdle` fires. -/
inductive Counted (c : Coordinator β) (input : Input β) (d : Coordinator β) : Prop
  | keeps (config : d.config = c.config) (count : d.reengagement.idleRetries = c.reengagement.idleRetries)
  | resets (config : d.config = c.config) (resets : c.resetsNudges input = true)
      (count : d.reengagement.idleRetries = 0)
  | ends (config : d.config = c.config) (exits : d.shouldExit = true)

/-- Behind the idle timer nothing else happens to it. -/
theorem Counted.startIdleTimer {offset : Duration} {force : Bool} (config : d.config = c.config)
    (count : d.reengagement.idleRetries = c.reengagement.idleRetries) :
    Counted c input (d.startIdleTimer offset force) :=
  .keeps ((d.startIdleTimer_config offset force).trans config)
    ((d.startIdleTimer_idleRetries offset force).trans count)

/-- A response that is saved leaves the count. -/
theorem saveSuppressedResponse_counted (content : Option String) :
    (c.saveSuppressedResponse content).config = c.config ∧
      (c.saveSuppressedResponse content).reengagement = c.reengagement := by
  unfold saveSuppressedResponse
  split
  · split <;> exact ⟨rfl, rfl⟩
  · exact ⟨rfl, rfl⟩

/-- The wait for the rest of a turn leaves the count. -/
theorem armTurnCompletionWait_idleRetries (c : Coordinator β) (marker : TurnCompletion) :
    (c.armTurnCompletionWait marker).reengagement.idleRetries = c.reengagement.idleRetries :=
  c.reengagement.idleRetries_armTurnCompletion c.timers c.world.now (Duration.fromSecs marker.timeoutSecs) _

/-- A tool that starts leaves the count. -/
theorem toolCallStarted_reengagement (id name : String) (sideEffect : Bool) :
    (c.toolCallStarted id name sideEffect).config = c.config ∧
      (c.toolCallStarted id name sideEffect).reengagement = c.reengagement := by
  unfold toolCallStarted
  split <;> exact ⟨rfl, rfl⟩

/-- A turn of the TTS leaves the settings. -/
theorem startTtsForTurn_config : c.startTtsForTurn.config = c.config := by
  cases speaking : c.turnPhase.isSpeaking with
  | true =>
      rw [startTtsForTurn_of_speaking speaking]
      rfl
  | false =>
      rw [startTtsForTurn_of_quiet speaking]
      rfl

/-- A replay resets the count. -/
theorem resetsNudges_of_replays (replays : c.replaysDeferred input = true) : c.resetsNudges input = true := by
  unfold Coordination.resetsNudges
  rw [replays, Bool.or_true, Bool.true_or]

/-- A window that closes resets the count. -/
theorem resetsNudges_of_closes (closes : c.closesWindow input = true) : c.resetsNudges input = true := by
  unfold Coordination.resetsNudges
  rw [closes, Bool.or_true, Bool.true_or, Bool.true_or]

/-- The end of a wait resets the count while the user speaks. -/
theorem resetsNudges_of_endsWait (ends : c.endsWait input = true) (speaking : c.turnPhase.isSpeaking = true) :
    c.resetsNudges input = true := by
  unfold Coordination.resetsNudges
  rw [ends, speaking, Bool.true_and, Bool.or_true]

/-- A replay leaves the settings. -/
theorem replayDeferred_config (text : String) : (c.replayDeferred text).config = c.config := by
  unfold replayDeferred
  rw [startLlmTurn_config]
  rfl

/-- A nudge does not end the session. -/
theorem startNudgeTurn_shouldExit (nudge : String) : (c.startNudgeTurn nudge).shouldExit = c.shouldExit := by
  unfold startNudgeTurn
  rw [skipMarkerCheck_eq]
  exact startLlmTurn_shouldExit _

/-- A nudge leaves the settings. -/
theorem startNudgeTurn_config (nudge : String) : (c.startNudgeTurn nudge).config = c.config := by
  unfold startNudgeTurn
  rw [skipMarkerCheck_eq]
  exact startLlmTurn_config _

/-- The end of the wait after a ○ or ◐ counts nothing. -/
theorem counted_of_endsWait {key : Key} {entry : Delayed TimerKey} {isShort : Bool} {next : ReengagementTimer}
    (due : c.timers.due key c.world.now = some entry) (value : entry.value = .turnCompletion)
    (fires : c.reengagement.onTurnCompletionFired = some (isShort, next)) (idle : c.isPipelineActive = false)
    (config : d.config = c.config)
    (quiet : c.turnPhase.isSpeaking = false → d.reengagement.idleRetries = next.idleRetries)
    (speaking : c.turnPhase.isSpeaking = true → d.reengagement = .default) : Counted c (.timer key) d := by
  cases phase : c.turnPhase.isSpeaking with
  | false => exact .keeps config ((quiet phase).trans (c.reengagement.idleRetries_onTurnCompletionFired fires))
  | true =>
      have ends := Coordination.endsWait_of_due due value fires idle
      refine .resets config (resetsNudges_of_endsWait ends phase) ?_
      rw [speaking phase]
      rfl

/-- **In silence** the count changes only when the pipeline is cancelled, or `UserIdle` fires. -/
theorem counted_of_outcome (out : Outcome c input d) (silent : input.isSilent = true)
    (other : c.fires input ≠ some .userIdle) : Counted c input d := by
  cases out with
  | nothing => exact .keeps rfl rfl
  | engaged | speechBegun | unheard | buffered | blankTurn | turnCommitted | bargeInCommitted | bargeInRejected
  -- A silent input brings no speech and no transcript.
  | lateDropped | lateCommitted => cases silent
  | shielded | awaiting | heldBack => exact .keeps rfl rfl
  | talkedOver window phase =>
      -- A barge-in that ends resets the count, and so does a transcript that is replayed.
      refine .resets rfl ?_ rfl
      unfold Coordination.resetsNudges Coordination.endsBargeIn
      dsimp only
      rw [window, phase]
      rfl
  | noEvent | streamed | toolCounted | windowEnded | finished | hangUpPending | reported => exact .keeps rfl rfl
  | suppressed active yields found incomplete => exact .keeps rfl (armTurnCompletionWait_idleRetries _ _)
  | toolStarted =>
      obtain ⟨config, timer⟩ := toolCallStarted_reengagement (c := c.polled _ _) _ _ _
      exact .keeps config (congrArg ReengagementTimer.idleRetries timer)
  | windowReplayed active yields last deferred =>
      have ends := Coordination.completesLast_of_recv active yields last
      refine .resets (replayDeferred_config _) ?_ (replayDeferred_idleRetries _)
      exact resetsNudges_of_replays (Coordination.replaysDeferred_of_last ends deferred)
  | @suppressedFinished poll llm content response active yields phase =>
      obtain ⟨config, count⟩ := saveSuppressedResponse_counted (c := c.polled (.finished content) llm) content
      exact .startIdleTimer config (congrArg ReengagementTimer.idleRetries count)
  | @lateSuppressed poll llm content marker emitted active yields found incomplete =>
      obtain ⟨config, timer⟩ := saveSuppressedResponse_counted (c := ((c.polled (.finished content) llm).setLlmTurn
        (c.llmTurn.processLateFlush c.config.turnCompletionEnabled).1).armTurnCompletionWait marker) content
      exact .keeps config ((congrArg ReengagementTimer.idleRetries timer).trans
        (armTurnCompletionWait_idleRetries _ _))
  | llmFailed | held => exact .startIdleTimer rfl rfl
  | hungUp | goodbyePlayed | delayOver => exact .ends rfl rfl
  | audioSent | roundSpoken | goodbyeSpoken => exact .keeps rfl rfl
  | greetingSpoken => exact .startIdleTimer rfl rfl
  | turnSpoken | ttsFailed => exact .startIdleTimer rfl rfl
  | staleTimer | fallbackFired => exact .keeps rfl rfl
  | transcriptOverdue => exact .startIdleTimer rfl rfl
  | waitOvertaken due value fires busy =>
      exact .keeps rfl (c.reengagement.idleRetries_onTurnCompletionFired fires)
  | responseReplayed due value fires idle saved =>
      -- While the user is quiet the response is spoken, and the count is kept.
      refine counted_of_endsWait due value fires idle ?_ (fun quiet => ?_) fun speaking => ?_
      · exact startTtsForTurn_config
      · rw [startTtsForTurn_of_quiet (by exact quiet)]
        rfl
      · rw [startTtsForTurn_of_speaking (by exact speaking)]
        rfl
  | waitNudged due value fires idle unsaved =>
      refine counted_of_endsWait due value fires idle ?_ (fun quiet => ?_) fun speaking => ?_
      · exact startNudgeTurn_config _
      · exact startNudgeTurn_idleRetries _ quiet
      · exact startNudgeTurn_of_speaking _ speaking
  | idleNudged due value | idleHungUp due value | idleIgnored due value =>
      -- This case is left to the idle timer.
      exact absurd (Coordination.fires_of_due due value) other
  | watchdogLate => exact .keeps rfl rfl
  | watchdogReplayed due value window deferred =>
      refine .resets (replayDeferred_config _) ?_ (replayDeferred_idleRetries _)
      exact resetsNudges_of_closes (Coordination.closesWindow_of_due due value window)
  | watchdogCancelled due value window =>
      exact .resets rfl (resetsNudges_of_closes (Coordination.closesWindow_of_due due value window)) rfl

/-! ## Where the count goes wrong, and where it does not -/

/-- A replay does not end the session. -/
theorem replayDeferred_shouldExit (text : String) : (c.replayDeferred text).shouldExit = c.shouldExit := by
  unfold replayDeferred
  rw [startLlmTurn_shouldExit]
  rfl

/-- **A reset** while the call goes on. -/
theorem reset_of_resetsNudges (remaining : Duration) (resets : c.resetsNudges input = true) :
    (c.handle input remaining).reengagement.idleRetries = 0 ∧
      (c.handle input remaining).shouldExit = c.shouldExit := by
  unfold Coordination.resetsNudges at resets
  simp only [Bool.or_eq_true, Bool.and_eq_true] at resets
  rcases resets with ((bargeIn | closes) | replays) | ⟨ends, speaking⟩
  · rw [handle_of_endsBargeIn remaining bargeIn]
    exact ⟨rfl, rfl⟩
  · obtain ⟨key, handled⟩ := handle_of_closesWindow remaining closes
    rw [handled]
    cases c.seGuard.deferredTranscript with
    | none => exact ⟨rfl, rfl⟩
    | some text => exact ⟨replayDeferred_idleRetries _, replayDeferred_shouldExit _⟩
  · obtain ⟨finishes, deferred⟩ := Bool.and_eq_true_iff.1 replays
    obtain ⟨text, deferred⟩ := Option.isSome_iff_exists.1 deferred
    rcases Bool.or_eq_true_iff.1 finishes with last | closes
    · obtain ⟨event, llm, id, handled⟩ := handle_of_completesLast remaining last
      rw [handled, deferred]
      exact ⟨replayDeferred_idleRetries _, replayDeferred_shouldExit _⟩
    · obtain ⟨key, handled⟩ := handle_of_closesWindow remaining closes
      rw [handled, deferred]
      exact ⟨replayDeferred_idleRetries _, replayDeferred_shouldExit _⟩
  · obtain ⟨d, isShort, phase, -, exits, handled⟩ := handle_of_endsWait remaining ends
    rw [← phase] at speaking
    rw [handled]
    cases c.suppressedResponse with
    | none =>
        dsimp only
        rw [startNudgeTurn_of_speaking _ speaking, startNudgeTurn_shouldExit]
        exact ⟨rfl, exits⟩
    | some text =>
        dsimp only
        rw [startTtsForTurn_of_speaking (by exact speaking)]
        exact ⟨rfl, exits⟩

/-- **What a firing of the idle timer can do**: nothing, send a nudge, end the call, or only count. -/
inductive IdleFired (c : Coordinator β) (input : Input β) (d : Coordinator β) : Prop
  | stale (unarmed : c.reengagement.onUserIdleFired.isSome = false)
      (count : d.reengagement.idleRetries = c.reengagement.idleRetries)
      (said : userMessages d.trail = userMessages c.trail) (exits : d.shouldExit = c.shouldExit)
      (config : d.config = c.config)
  | nudged (armed : c.reengagement.onUserIdleFired.isSome = true)
      (nudges : c.nudgesIdle input = true) (stays : c.usesUpNudges input = false)
      (few : c.reengagement.idleRetries < c.config.idleMaxNudges)
      (count : d.reengagement.idleRetries =
        if c.turnPhase.isSpeaking then 0 else c.reengagement.idleRetries + 1)
      (said : userMessages d.trail = userMessages c.trail ++ [Reactor.idleNudge])
      (exits : d.shouldExit = c.shouldExit) (config : d.config = c.config)
  | hungUp (unsaid : c.nudgesIdle input = false) (exhausted : c.usesUpNudges input = true)
      (many : c.config.idleMaxNudges ≤ c.reengagement.idleRetries)
      (said : userMessages d.trail = userMessages c.trail) (exits : d.shouldExit = true)
      (config : d.config = c.config)
  | ignored (armed : c.reengagement.onUserIdleFired.isSome = true)
      (unsaid : c.nudgesIdle input = false) (stays : c.usesUpNudges input = false)
      (count : d.reengagement.idleRetries = c.reengagement.idleRetries + 1)
      (said : userMessages d.trail = userMessages c.trail) (exits : d.shouldExit = c.shouldExit)
      (config : d.config = c.config)

/-- An idle timer that is armed nudges or hangs up. -/
theorem idleFired_of_armed (remaining : Duration) {retryCount : ℕ} {next : ReengagementTimer}
    (fires : c.fires input = some .userIdle) (armed : c.reengagement.onUserIdleFired = some (retryCount, next)) :
    IdleFired c input (c.handle input remaining) := by
  obtain ⟨key, handled⟩ := handle_of_fires remaining fires
  have fired : c.handle input remaining = ((c.fired key).setReengagement next).nudgeOrHangUp retryCount := by
    rw [handled]
    unfold timerFired userIdleFired
    rw [show (c.fired key).reengagement = c.reengagement from rfl, armed]
  obtain ⟨counted, kept⟩ := c.reengagement.idleRetries_onUserIdleFired armed
  have isArmed : c.reengagement.onUserIdleFired.isSome = true := congrArg Option.isSome armed
  -- Whether it nudges depends on the count and on the pipeline alone.
  have nudges : c.nudgesIdle input =
      shouldNudgeIdle c.isPipelineActive c.config.idleTimeoutSecs retryCount c.config.idleMaxNudges := by
    unfold Coordination.nudgesIdle
    rw [fires, armed]
    rfl
  have usesUp : c.usesUpNudges input = (!c.isPipelineActive &&
      (decide (c.config.idleMaxNudges < retryCount) && decide (0 < c.config.idleMaxNudges))) := by
    unfold Coordination.usesUpNudges
    rw [fires, armed]
    rfl
  rw [fired]
  unfold nudgeOrHangUp
  rw [show ((c.fired key).setReengagement next).isPipelineActive = c.isPipelineActive from rfl,
    show ((c.fired key).setReengagement next).config = c.config from rfl, ← nudges]
  by_cases nudged : c.nudgesIdle input = true
  · rw [if_pos nudged]
    -- A nudge is only sent while one is left.
    have few : c.reengagement.idleRetries < c.config.idleMaxNudges := by
      rw [nudges] at nudged
      unfold shouldNudgeIdle at nudged
      simp only [Bool.and_eq_true, decide_eq_true_eq] at nudged
      omega
    -- So the nudges were not used up by it.
    have stays : c.usesUpNudges input = false := by
      have enough : ¬ c.config.idleMaxNudges < retryCount := by omega
      rw [usesUp, decide_eq_false enough, Bool.false_and, Bool.and_false]
    refine .nudged isArmed nudged stays few ?_ ?_ (startNudgeTurn_shouldExit _) (startNudgeTurn_config _)
    · cases speaking : c.turnPhase.isSpeaking with
      | true => exact congrArg ReengagementTimer.idleRetries (startNudgeTurn_of_speaking _ (by exact speaking))
      | false => exact (startNudgeTurn_idleRetries _ (by exact speaking)).trans kept
    · rw [startNudgeTurn_trail, userMessages_append]
      exact congrArg (userMessages c.trail ++ Reactor.idleNudge :: ·) (userMessages_turnMarks _ _)
  · rw [if_neg nudged]
    have unsaid := eq_false_of_ne_true nudged
    cases busy : c.isPipelineActive with
    | true =>
        rw [busy, Bool.not_true, Bool.false_and] at usesUp
        rw [if_pos rfl]
        exact .ignored isArmed unsaid usesUp kept rfl rfl rfl
    | false =>
        rw [busy, Bool.not_false, Bool.true_and, ← Bool.decide_and] at usesUp
        rw [if_neg Bool.false_ne_true]
        -- No nudge is left: the session ends, unless none were ever allowed.
        by_cases exhausted : c.config.idleMaxNudges < retryCount ∧ 0 < c.config.idleMaxNudges
        · rw [if_pos exhausted]
          refine .hungUp unsaid (usesUp.trans (decide_eq_true exhausted)) (by omega) ?_ rfl rfl
          rw [initiateShutdown_trail, userMessages_append]
          exact List.append_nil _
        · rw [if_neg exhausted]
          exact .ignored isArmed unsaid (usesUp.trans (decide_eq_false exhausted)) kept rfl rfl rfl

/-- **An idle timer that fires** nudges or hangs up, or was not armed any more. -/
theorem idleFired_of_fires (remaining : Duration) (fires : c.fires input = some .userIdle) :
    IdleFired c input (c.handle input remaining) := by
  cases armed : c.reengagement.onUserIdleFired with
  | some next => exact idleFired_of_armed remaining fires armed
  | none =>
      obtain ⟨key, handled⟩ := handle_of_fires remaining fires
      have still : c.handle input remaining = c.fired key := by
        rw [handled]
        unfold timerFired userIdleFired
        rw [show (c.fired key).reengagement = c.reengagement from rfl, armed]
      rw [still]
      exact .stale (by rw [armed]; rfl) rfl rfl rfl rfl

/-- Nothing that resets the count fires the idle timer. -/
theorem fires_of_resetsNudges (resets : c.resetsNudges input = true) : c.fires input ≠ some .userIdle := by
  intro fires
  have noClose : c.closesWindow input = false := by
    unfold Coordination.closesWindow
    rw [fires]
    rfl
  unfold Coordination.resetsNudges Coordination.replaysDeferred Coordination.endsWait at resets
  rw [fires, noClose] at resets
  cases input with
  | timer key => cases resets
  | vad event verdict | stt event | llm poll | tts event => cases fires

end Coordinator

/-! ## Counting the nudges of a run -/

namespace Reactor

variable {β : Type} [AgentBackend β]

/-- How many nudges a step sends to the agent, if the idle timer fires. -/
def nudgesSent (r : Reactor β) (m : Moment β) : ℕ :=
  if (r.setWorld m.world).fires m.input = some .userIdle then
    ((r.step m).log.filterMap Effect.said).count idleNudge - (r.log.filterMap Effect.said).count idleNudge
  else 0

/-- The idle timer fires and ends the call. -/
def idleEnds (r : Reactor β) (m : Moment β) : Bool :=
  !r.shouldExit && decide ((r.setWorld m.world).fires m.input = some .userIdle) && (r.step m).shouldExit

end Reactor

/-- **A session and the nudges it has sent**; `ended` is how many it had sent when the idle timer ended the
call. -/
structure NudgeCount (β : Type) [AgentBackend β] where
  reactor : Reactor β
  nudges : ℕ
  ended : Option ℕ

namespace NudgeCount

variable {β : Type} [AgentBackend β]

def step (s : NudgeCount β) (m : Moment β) : NudgeCount β where
  reactor := s.reactor.step m
  nudges := s.nudges + s.reactor.nudgesSent m
  ended := if s.reactor.idleEnds m then some s.nudges else s.ended

/-- A session at whose start the nudges sent are those it has counted. -/
def start (r : Reactor β) : NudgeCount β := ⟨r, r.reengagement.idleRetries, none⟩

/-- **The retry count is the number of nudges** until the call ends, which the idle timer does after the
last nudge only. -/
def Exact (s : NudgeCount β) : Prop :=
  (s.reactor.shouldExit = false → s.reactor.reengagement.idleRetries = s.nudges) ∧
    ∀ sent, s.ended = some sent → sent = s.reactor.config.idleMaxNudges

/-- Each step of a call that goes on keeps the count. -/
def Counts (s : NudgeCount β) (m : Moment β) : Prop :=
  s.reactor.shouldExit = false → (s.reactor.setWorld m.world).CountsNudges m.input

instance (s : NudgeCount β) (m : Moment β) : Decidable (s.Counts m) := inferInstanceAs (Decidable (_ → _))

/-- The count is exact, and no more nudges are sent than the configuration allows. -/
structure Within (s : NudgeCount β) : Prop where
  exact : s.Exact
  bounded : s.nudges ≤ s.reactor.config.idleMaxNudges

variable {s : NudgeCount β} {m : Moment β}

/-- What the agent is told in a step, as the trail has it. -/
theorem nudgesSent_of_said {r : Reactor β} {texts : List String}
    (fires : (r.setWorld m.world).fires m.input = some .userIdle)
    (said : userMessages (r.step m).core.trail = userMessages (r.core.setWorld m.world).trail ++ texts) :
    r.nudgesSent m = texts.count Reactor.idleNudge := by
  have before : userMessages (r.core.setWorld m.world).trail = r.log.filterMap Effect.said := userMessages_marks r.log
  have after : userMessages (r.step m).core.trail = (r.step m).log.filterMap Effect.said :=
    userMessages_marks (r.step m).log
  unfold Reactor.nudgesSent
  rw [if_pos fires, ← after, said, before, List.count_append, Nat.add_sub_cancel_left]

/-- A session that is over stays as it is. -/
theorem step_of_over (exits : s.reactor.shouldExit = true) : s.step m = s := by
  have still : s.reactor.step m = s.reactor := Reactor.step_of_shouldExit exits m
  have sent : s.reactor.nudgesSent m = 0 := by
    unfold Reactor.nudgesSent
    rw [still, Nat.sub_self, ite_self]
  have ends : s.reactor.idleEnds m = false := by
    unfold Reactor.idleEnds
    rw [exits]
    rfl
  unfold step
  rw [still, sent, ends]
  rfl

/-- A step at which the idle timer does not fire sends no nudge. -/
theorem step_of_other (other : (s.reactor.setWorld m.world).fires m.input ≠ some .userIdle) :
    (s.step m).nudges = s.nudges ∧ (s.step m).ended = s.ended := by
  have sent : s.reactor.nudgesSent m = 0 := if_neg other
  have ends : s.reactor.idleEnds m = false := by
    unfold Reactor.idleEnds
    rw [decide_eq_false other, Bool.and_false, Bool.false_and]
  constructor
  · exact congrArg (s.nudges + ·) sent
  · exact if_neg (by rw [ends]; exact Bool.false_ne_true)

/-- Nor does one that ends the call for another reason, or does not end it, name its number. -/
theorem ended_of_running (running : (s.reactor.step m).shouldExit = false) : (s.step m).ended = s.ended := by
  have ends : s.reactor.idleEnds m = false := by
    unfold Reactor.idleEnds
    rw [running, Bool.and_false]
  exact if_neg (by rw [ends]; exact Bool.false_ne_true)

/-- A step that keeps the configuration, and adds the same to the count and to the nudges. -/
theorem Within.of_step {sent : ℕ} (within : s.Within) (config : (s.reactor.step m).config = s.reactor.config)
    (count : (s.reactor.step m).shouldExit = false →
      (s.reactor.step m).reengagement.idleRetries = s.nudges + sent)
    (nudges : s.reactor.nudgesSent m = sent) (few : s.nudges + sent ≤ s.reactor.config.idleMaxNudges)
    (ended : (s.step m).ended = s.ended) : (s.step m).Within := by
  have total : (s.step m).nudges = s.nudges + sent := congrArg (s.nudges + ·) nudges
  have same : s.reactor.config.idleMaxNudges = (s.reactor.step m).config.idleMaxNudges :=
    congrArg SessionConfig.idleMaxNudges config.symm
  refine ⟨⟨fun running => ?_, fun n named => ?_⟩, ?_⟩
  · rw [total]
    exact count running
  · rw [ended] at named
    exact (within.exact.2 n named).trans same
  · rw [total]
    exact few.trans same.le

/-- **A silent step that keeps the count.** -/
theorem within_step (within : s.Within) (silent : m.input.isSilent = true) (counts : s.Counts m) :
    (s.step m).Within := by
  cases before : s.reactor.shouldExit with
  | true =>
      rw [step_of_over before]
      exact within
  | false =>
      obtain ⟨fired, kept⟩ := counts before
      have exact := within.exact.1 before
      -- Only an idle timer that fires can nudge.
      by_cases fires : (s.reactor.setWorld m.world).fires m.input = some .userIdle
      · have idle := Coordinator.idleFired_of_fires (c := s.reactor.core.setWorld m.world)
          (s.reactor.playback.remainingPlayback m.world.now) fires
        rw [← Reactor.step_core before m] at idle
        cases idle with
        | stale unarmed count said exits config =>
            -- It was stale: nothing is sent and nothing is counted.
            have sent : s.reactor.nudgesSent m = 0 := nudgesSent_of_said fires (said.trans (List.append_nil _).symm)
            refine within.of_step config (fun _ => ?_) sent within.bounded (ended_of_running (exits.trans before))
            exact count.trans exact
        | nudged armed nudges stays few count said exits config =>
            have sent : s.reactor.nudgesSent m = 1 := nudgesSent_of_said fires said
            -- The user is quiet, or the nudge would have come to nothing.
            have quiet : s.reactor.turnPhase.isSpeaking = false := by
              rcases fired fires armed with ⟨-, quiet⟩ | exhausted
              · exact quiet
              · exact absurd (stays.symm.trans exhausted) Bool.false_ne_true
            refine within.of_step config (fun _ => ?_) sent (exact ▸ few) (ended_of_running (exits.trans before))
            have counted : (s.reactor.step m).reengagement.idleRetries = s.reactor.reengagement.idleRetries + 1 :=
              count.trans (if_neg fun speaking => Bool.false_ne_true (quiet.symm.trans speaking))
            exact counted.trans (congrArg (· + 1) exact)
        | hungUp unsaid exhausted many said exits config =>
            -- No nudge is left: as many were sent as are allowed.
            have sent : s.reactor.nudgesSent m = 0 := nudgesSent_of_said fires (said.trans (List.append_nil _).symm)
            have ends : s.reactor.idleEnds m = true := by
              unfold Reactor.idleEnds
              rw [before, fires, show (s.reactor.step m).shouldExit = true from exits]
              rfl
            have ended : (s.step m).ended = some s.nudges := if_pos ends
            have total : (s.step m).nudges = s.nudges := congrArg (s.nudges + ·) sent
            have last : s.nudges = s.reactor.config.idleMaxNudges := le_antisymm within.bounded (exact ▸ many)
            have same := congrArg SessionConfig.idleMaxNudges config
            refine ⟨⟨fun running => absurd (running.symm.trans exits) Bool.false_ne_true, fun n named => ?_⟩, ?_⟩
            · rw [ended] at named
              cases named
              exact last.trans same.symm
            · rw [total]
              exact (last.trans same.symm).le
        | ignored armed unsaid stays count said exits config =>
            -- The timer was armed, so it nudges or ends the session.
            rcases fired fires armed with ⟨nudged, -⟩ | exhausted
            · exact absurd (unsaid.symm.trans nudged) Bool.false_ne_true
            · exact absurd (stays.symm.trans exhausted) Bool.false_ne_true
      · obtain ⟨-, ended⟩ := step_of_other fires
        have sent : s.reactor.nudgesSent m = 0 := if_neg fires
        cases Coordinator.counted_of_outcome (Reactor.step_outcome before m) silent fires with
        | keeps config count =>
            refine within.of_step config (fun _ => ?_) sent within.bounded ended
            exact count.trans exact
        | resets config resets count =>
            -- Nothing had been counted, so nothing is lost.
            refine within.of_step config (fun _ => ?_) sent within.bounded ended
            exact count.trans ((kept resets).symm.trans exact)
        | ends config exits =>
            refine within.of_step config (fun running => ?_) sent within.bounded ended
            exact absurd (running.symm.trans exits) Bool.false_ne_true

/-- **A step that miscounts.** -/
theorem not_exact_step (within : s.Within) (miscounts : ¬ s.Counts m) : ¬ (s.step m).Exact := by
  obtain ⟨before, miscounts⟩ := Classical.not_imp.1 miscounts
  have exact := within.exact.1 before
  rintro ⟨kept, -⟩
  rcases not_and_or.1 miscounts with fired | reset
  · obtain ⟨fires, rest⟩ := Classical.not_imp.1 fired
    obtain ⟨armed, missed⟩ := Classical.not_imp.1 rest
    obtain ⟨unsent, goesOn⟩ := not_or.1 missed
    have idle := Coordinator.idleFired_of_fires (c := s.reactor.core.setWorld m.world)
      (s.reactor.playback.remainingPlayback m.world.now) fires
    rw [← Reactor.step_core before m] at idle
    cases idle with
    | stale unarmed count said exits config =>
        exact Bool.false_ne_true (unarmed.symm.trans armed)
    | nudged armed nudges stays few count said exits config =>
        -- The user is speaking: the turn of the nudge is cancelled.
        have sent : s.reactor.nudgesSent m = 1 := nudgesSent_of_said fires said
        have speaking : s.reactor.turnPhase.isSpeaking = true := by
          by_contra quiet
          exact unsent ⟨nudges, eq_false_of_ne_true quiet⟩
        have none : (s.reactor.step m).reengagement.idleRetries = 0 := count.trans (if_pos speaking)
        have total : (s.step m).nudges = s.nudges + 1 := congrArg (s.nudges + ·) sent
        have equal := none.symm.trans ((kept (exits.trans before)).trans total)
        omega
    | hungUp unsaid exhausted many said exits config => exact goesOn exhausted
    | ignored armed unsaid stays count said exits config =>
        have sent : s.reactor.nudgesSent m = 0 := nudgesSent_of_said fires (said.trans (List.append_nil _).symm)
        have more : (s.reactor.step m).reengagement.idleRetries = s.reactor.reengagement.idleRetries + 1 := count
        have total : (s.step m).nudges = s.nudges := congrArg (s.nudges + ·) sent
        have equal := more.symm.trans ((kept (exits.trans before)).trans total)
        omega
  · obtain ⟨resets, counted⟩ := Classical.not_imp.1 reset
    obtain ⟨none, exits⟩ := Coordinator.reset_of_resetsNudges
      (c := s.reactor.core.setWorld m.world) (s.reactor.playback.remainingPlayback m.world.now) resets
    rw [← Reactor.step_core before m] at none exits
    obtain ⟨nudges, -⟩ := step_of_other (s := s)
      (Coordinator.fires_of_resetsNudges (c := s.reactor.core.setWorld m.world) resets)
    have equal := none.symm.trans ((kept (exits.trans before)).trans nudges)
    exact counted (exact.trans equal.symm)

/-- **The retry count of a silent user.**  In a session that goes on in silence with no more counted than
there are nudges, the count is at every moment the number of nudges sent, and the idle timer ends the call
after the last nudge only, exactly if at every step: a firing of the idle timer sends a nudge that is not
cancelled at once, or ends the call; and the pipeline is cancelled over a call that goes on only while
nothing is counted. -/
theorem nudges_counted_iff (r : Reactor β) (few : r.reengagement.idleRetries ≤ r.config.idleMaxNudges)
    {moments : List (Moment β)} (silent : ∀ m ∈ moments, m.input.isSilent = true) :
    (∀ front, front <+: moments → (run step (start r) front).Exact) ↔ Along step Counts (start r) moments := by
  have began : (start r).Within := ⟨⟨fun _ => rfl, fun _ named => nomatch named⟩, few⟩
  exact good_iff_along_of_inputs (fun _ within => within.exact)
    (fun _ _ silent within counts => within_step within silent counts)
    (fun _ _ _ within miscounts => not_exact_step within miscounts) began silent

/-- An active session with one nudge, in which the user has asked something. -/
def asked : Reactor AnyBackend :=
  run Reactor.step (Reactor.session { idleMaxNudges := 1, turnCompletionEnabled := false })
    [Reactor.calmly 1 (.vad .speechStarted true), Reactor.calmly 2 (.vad (.speechEnded []) true),
      Reactor.calmly 3 (.stt (.transcript "hello"))]

/-- The agent answers, nudges the user five seconds later, and hangs up after five more. -/
def patient : List (Moment AnyBackend) :=
  [Reactor.calmly 4 (Reactor.yields (.token "Hi.") true), Reactor.calmly 4 (Reactor.yields (.finished none) false),
    Reactor.calmly 5 (.tts .finished), Reactor.calmly 10 (.timer 0),
    Reactor.calmly 11 (Reactor.yields (.token "Still there?") true),
    Reactor.calmly 11 (Reactor.yields (.finished none) false), Reactor.calmly 12 (.tts .finished),
    Reactor.calmly 17 (.timer 0)]

/-- The call ends after its one nudge. -/
theorem nudges_counted_patient :
    (run step (start asked) patient).Exact ∧ (run step (start asked) patient).ended = some 1 := by
  constructor
  · exact (nudges_counted_iff asked (by decide +kernel) (by decide +kernel)).2 (by decide +kernel) patient
      List.prefix_rfl
  · decide +kernel

/-- The agent puts the user on hold and goes on working; the timer fires before it is done. -/
def heldUp : List (Moment AnyBackend) :=
  [Reactor.calmly 4 (Reactor.yields (.onHold 5) true), Reactor.calmly 20 (.timer 0),
    Reactor.calmly 21 (Reactor.yields (.finished none) false), Reactor.calmly 22 (.tts .finished),
    Reactor.calmly 27 (.timer 0)]

/-- The agent answers the nudge with a tool that does not come back. -/
def stuck : List (Moment AnyBackend) :=
  patient.take 4 ++ [Reactor.calmly 11 (Reactor.yields (.toolCallStarted "id" "book" true) true),
    Reactor.calmly 41 (.timer 0)]

/-- **The count goes astray**: the call ends before its one nudge is sent; and a nudge that was sent is
forgotten. -/
theorem nudges_miscounted :
    asked.sessionPhase = .active ∧ asked.config.idleMaxNudges = 1 ∧
      ((∀ m ∈ heldUp, m.input.isSilent = true) ∧ (run step (start asked) heldUp).ended = some 0) ∧
      (∀ m ∈ stuck, m.input.isSilent = true) ∧ (run step (start asked) stuck).reactor.shouldExit = false ∧
        (run step (start asked) stuck).nudges = 1 ∧
        (run step (start asked) stuck).reactor.reengagement.idleRetries = 0 := by
  decide +kernel

end NudgeCount

end Feros
