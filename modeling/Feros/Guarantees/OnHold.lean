import Feros.Agent.Calls
import Feros.Guarantees.IdleNudges
import Feros.Guarantees.TimerOwnership
/-! # Hold

When the agent calls `on_hold`, the user is not to be asked whether they are still there before the time is
over.  The hold is a field that only the idle timer looks at, and that every cancelled pipeline clears;
`Holds` is what keeps the idle timer away, and `KeepsHold` says which steps leave it alone. -/

namespace Feros

open Run

/-- The idle timer does not fire before this. -/
def NoIdleBefore (bound : Instant) (timers : DelayQueue TimerKey) : Prop :=
  ∀ entry ∈ timers.entries, entry.value = .userIdle → bound ≤ entry.deadline

namespace NoIdleBefore

variable {bound : Instant} {timers : DelayQueue TimerKey}

/-- A timer that is gone was no early one. -/
theorem erase (idle : NoIdleBefore bound timers) (key : Key) : NoIdleBefore bound (timers.erase key) := by
  intro entry held
  exact idle entry (List.mem_filter.1 held).1

/-- A timer that is removed was no early one. -/
theorem remove (idle : NoIdleBefore bound timers) (key : Key) : NoIdleBefore bound (timers.remove key) :=
  idle.erase key

/-- A timer is added that is no early idle timer. -/
theorem insert (idle : NoIdleBefore bound timers) {value : TimerKey} {deadline : Instant}
    (late : value = .userIdle → bound ≤ deadline) : NoIdleBefore bound (timers.insert value deadline).2 := by
  intro entry held kind
  rcases List.mem_cons.1 held with rfl | before
  · exact late kind
  · exact idle entry before kind

/-- Disarming adds no timer. -/
theorem disarm (idle : NoIdleBefore bound timers) (t : ReengagementTimer) : NoIdleBefore bound (t.disarm timers).2 := by
  unfold ReengagementTimer.disarm
  cases t.state with
  | idle => exact idle
  | turnCompletion key isShort => exact idle.remove key
  | userIdle key => exact idle.remove key

/-- The idle timer is armed late enough. -/
theorem armIdle (idle : NoIdleBefore bound timers) {t : ReengagementTimer} {now : Instant} {duration : Duration}
    (late : bound ≤ now + duration) : NoIdleBefore bound (t.armIdle now duration timers).2 := by
  unfold ReengagementTimer.armIdle
  cases t.state with
  | idle => exact idle.insert fun _ => late
  | turnCompletion key isShort => exact idle
  | userIdle key => exact (idle.remove key).insert fun _ => late

/-- The phase gives back its timer. -/
theorem releasePhase (idle : NoIdleBefore bound timers) (phase : TurnPhase) :
    NoIdleBefore bound (phase.release timers) := by
  cases phase with
  | waitingForTranscript key => exact idle.remove key
  | eotFallback key => exact idle.remove key
  | listening | userSpeaking | transcriptTimedOut | bargeInWordCount => exact idle

/-- A window gives back its timer. -/
theorem releaseWindow (idle : NoIdleBefore bound timers) (g : SideEffectToolsGuard) :
    NoIdleBefore bound (g.release timers) := by
  unfold SideEffectToolsGuard.release
  cases g.timeoutKey with
  | none => exact idle
  | some key => exact idle.remove key

/-- What fires before the bound is not the idle timer. -/
theorem value_ne (idle : NoIdleBefore bound timers) {key : Key} {now : Instant} {entry : Delayed TimerKey}
    (early : now < bound) (due : timers.due key now = some entry) : entry.value ≠ .userIdle := by
  intro kind
  have late := idle entry (List.mem_of_find?_eq_some due) kind
  have met := List.find?_some due
  simp only [Bool.and_eq_true, decide_eq_true_eq] at met
  exact absurd (late.trans met.2) (not_le.2 early)

end NoIdleBefore

namespace ReengagementTimer

/-- Disarming leaves the hold. -/
theorem holdUntil_disarm (t : ReengagementTimer) (timers : DelayQueue TimerKey) :
    (t.disarm timers).1.holdUntil = t.holdUntil := by
  unfold disarm
  cases t.state with
  | idle | turnCompletion | userIdle => rfl

/-- Arming leaves the hold. -/
theorem holdUntil_armIdle (t : ReengagementTimer) (now : Instant) (duration : Duration)
    (timers : DelayQueue TimerKey) : (t.armIdle now duration timers).1.holdUntil = t.holdUntil := by
  unfold armIdle
  cases t.state with
  | idle | turnCompletion | userIdle => rfl

/-- The timer of an incomplete turn leaves the hold. -/
theorem holdUntil_onTurnCompletionFired {t next : ReengagementTimer} {isShort : Bool}
    (fires : t.onTurnCompletionFired = some (isShort, next)) : next.holdUntil = t.holdUntil := by
  unfold onTurnCompletionFired at fires
  split at fires
  · cases fires
    rfl
  · cases fires

end ReengagementTimer

/-! ## A hold that is kept -/

section Conditions

variable {β : Type} [AgentBackend β] (bound : Instant) (c : Coordination β) (input : Input β)

/-- **The user is on hold**: the hold is not over before the bound, and no idle timer that is queued fires
before it. -/
structure Holds : Prop where
  hold : ∃ holdTime, c.reengagement.holdUntil = some holdTime ∧ bound ≤ holdTime
  idle : NoIdleBefore bound c.timers

/-- The agent is about to ask for a hold that is over sooner. -/
def Coordination.shortensHold : Bool :=
  match c.yielded input with
  | some (.onHold durationSecs) => decide (c.world.now + Duration.fromSecs durationSecs < bound)
  | _ => false

/-- **The step leaves the hold alone**: it does not cancel the pipeline of a call that goes on, a wait after ○
or ◐ that ends has a response to replay, and a new hold is not over sooner. -/
def Coordination.KeepsHold : Prop :=
  c.resetsNudges input = false ∧ (c.endsWait input = true → c.hasResponse = true) ∧
    c.shortensHold bound input = false

instance : Decidable (c.KeepsHold bound input) := inferInstanceAs (Decidable (_ ∧ _ ∧ _))

/-- The idle timer is armed. -/
def Coordination.idleArmed : Bool :=
  match c.reengagement.state with
  | .userIdle _ => true
  | _ => false

/-- An idle timer that is armed can be armed again. -/
def Coordination.RearmsIdle : Prop :=
  c.idleArmed = true → c.config.idleTimeoutSecs ≠ 0 ∧ c.sessionPhase.allowsIdleTimer = true

instance : Decidable c.RearmsIdle := inferInstanceAs (Decidable (_ → _ ∧ _))

end Conditions

namespace Coordinator

variable {β : Type} [AgentBackend β] {bound : Instant} {c d : Coordinator β} {input : Input β}

/-- Only these two fields matter. -/
theorem holds_congr (holds : Holds bound c.toCoordination) (timer : d.reengagement.holdUntil = c.reengagement.holdUntil)
    (idle : NoIdleBefore bound d.timers) : Holds bound d.toCoordination := by
  obtain ⟨holdTime, held, late⟩ := holds.hold
  exact ⟨⟨holdTime, timer.trans held, late⟩, idle⟩

/-- A window that is extended by the hold ends after it. -/
theorem le_extended {holdTime now window : ℕ} {bound : Instant} (early : now ≤ holdTime) (late : bound ≤ holdTime) :
    bound ≤ now + (window + (holdTime - now)) := by
  rw [Nat.add_left_comm, Nat.add_sub_cancel' early]
  exact late.trans (Nat.le_add_left holdTime window)

/-- **The idle timer respects the hold** when it is started. -/
theorem holds_startIdleTimer (holds : Holds bound c.toCoordination) (early : c.world.now ≤ bound)
    (offset : Duration) (force : Bool) : Holds bound (c.startIdleTimer offset force).toCoordination := by
  obtain ⟨holdTime, held, late⟩ := holds.hold
  unfold startIdleTimer
  split
  · exact holds
  · split
    · exact holds
    · unfold ReengagementTimer.extendByHold
      rw [held]
      dsimp only
      rw [if_pos (early.trans late)]
      refine ⟨⟨holdTime, ?_, late⟩, ?_⟩
      · exact (ReengagementTimer.holdUntil_armIdle _ _ _ _).trans held
      · exact holds.idle.armIdle (le_extended (early.trans late) late)

/-- An event of the LLM leaves the hold. -/
theorem holds_polled (holds : Holds bound c.toCoordination) {event : LlmEvent} {llm : β} :
    Holds bound (c.polled event llm).toCoordination :=
  ⟨holds.hold, holds.idle⟩

/-- The phase of the turn of the LLM leaves the hold. -/
theorem holds_setLlmTurn (holds : Holds bound c.toCoordination) {phase : LlmTurnPhase} :
    Holds bound (c.setLlmTurn phase).toCoordination :=
  ⟨holds.hold, holds.idle⟩

/-- A turn of the TTS leaves the hold. -/
theorem holds_startTtsForTurn (holds : Holds bound c.toCoordination) (quiet : c.turnPhase.isSpeaking = false) :
    Holds bound c.startTtsForTurn.toCoordination := by
  rw [startTtsForTurn_of_quiet quiet]
  exact ⟨holds.hold, holds.idle⟩

/-- The wait for the rest of a turn leaves the hold. -/
theorem holds_armTurnCompletionWait (holds : Holds bound c.toCoordination) (marker : TurnCompletion) :
    Holds bound (c.armTurnCompletionWait marker).toCoordination := by
  refine holds_congr holds ?_ ?_
  · exact ReengagementTimer.holdUntil_disarm _ _
  · exact (holds.idle.disarm c.reengagement).insert fun kind => nomatch kind

/-- Saving a response takes no time. -/
theorem saveSuppressedResponse_world (content : Option String) :
    (c.saveSuppressedResponse content).world = c.world := by
  unfold saveSuppressedResponse
  split
  · split
    · rfl
    · rfl
  · rfl

/-- A response that is saved leaves the hold. -/
theorem holds_saveSuppressedResponse (holds : Holds bound c.toCoordination) (content : Option String) :
    Holds bound (c.saveSuppressedResponse content).toCoordination := by
  unfold saveSuppressedResponse
  split
  · split
    · exact holds
    · exact ⟨holds.hold, holds.idle⟩
  · exact holds

/-- A tool that starts leaves the hold. -/
theorem holds_toolCallStarted (holds : Holds bound c.toCoordination) (id name : String) (sideEffect : Bool) :
    Holds bound (c.toolCallStarted id name sideEffect).toCoordination := by
  unfold toolCallStarted
  split
  · exact ⟨holds.hold, (holds.idle.releaseWindow c.seGuard).insert fun kind => nomatch kind⟩
  · exact holds

/-- A new hold, and the idle timer armed for it. -/
theorem holds_held (holds : Holds bound c.toCoordination) (early : c.world.now < bound) {durationSecs : ℕ}
    (late : bound ≤ c.world.now + Duration.fromSecs durationSecs) :
    Holds bound ((c.setReengagement (c.reengagement.holdFor c.world.now
      (Duration.fromSecs durationSecs))).startIdleTimer 0 false).toCoordination :=
  holds_startIdleTimer (c := c.setReengagement (c.reengagement.holdFor c.world.now (Duration.fromSecs durationSecs)))
    ⟨⟨c.world.now + Duration.fromSecs durationSecs, rfl, late⟩, holds.idle⟩ early.le 0 false

/-- **A silent step that leaves the hold alone keeps it**, or the call is over. -/
theorem holds_of_outcome (out : Outcome c input d) (silent : input.isSilent = true)
    (holds : Holds bound c.toCoordination) (early : c.world.now < bound) (keeps : c.KeepsHold bound input) :
    d.shouldExit = true ∨ Holds bound d.toCoordination := by
  obtain ⟨stays, answers, longer⟩ := keeps
  -- A step that resets the nudges is excluded.
  have resets : c.resetsNudges input ≠ true := fun resets => Bool.false_ne_true (stays.symm.trans resets)
  cases out with
  | nothing => exact .inr holds
  -- A silent input brings no speech and no transcript.
  | engaged | speechBegun | unheard | buffered | blankTurn | turnCommitted | bargeInCommitted | bargeInRejected
  | lateDropped | lateCommitted => cases silent
  | shielded => exact .inr ⟨holds.hold, holds.idle.releasePhase c.turnPhase⟩
  | awaiting | heldBack => exact .inr ⟨holds.hold, holds.idle.insert fun kind => nomatch kind⟩
  | talkedOver window phase =>
      -- A barge-in that ends resets the nudges.
      refine absurd ?_ resets
      unfold Coordination.resetsNudges Coordination.endsBargeIn
      dsimp only
      rw [window, phase]
      rfl
  | noEvent | streamed | toolCounted | finished | hangUpPending | reported =>
      exact .inr ⟨holds.hold, holds.idle⟩
  | windowEnded => exact .inr ⟨holds.hold, holds.idle.releaseWindow c.seGuard⟩
  | suppressed active yields found incomplete =>
      exact .inr (holds_setLlmTurn (holds_armTurnCompletionWait (holds_polled holds) _))
  | toolStarted =>
      exact .inr (holds_toolCallStarted (holds_polled holds) _ _ _)
  | windowReplayed active yields last deferred =>
      -- So does a transcript that is replayed.
      have ends := Coordination.completesLast_of_recv active yields last
      exact absurd (resetsNudges_of_replays (Coordination.replaysDeferred_of_last ends deferred)) resets
  | @suppressedFinished poll llm content response active yields phase =>
      have saved := holds_saveSuppressedResponse (c := c.polled (.finished content) llm)
        ⟨holds.hold, holds.idle⟩ content
      refine .inr (holds_startIdleTimer saved ?_ 0 false)
      rw [saveSuppressedResponse_world]
      exact early.le
  | @lateSuppressed poll llm content marker emitted active yields found incomplete =>
      refine .inr (holds_saveSuppressedResponse (holds_armTurnCompletionWait ?_ marker) content)
      exact ⟨holds.hold, holds.idle⟩
  | llmFailed | turnSpoken | ttsFailed =>
      refine .inr (holds_startIdleTimer ?_ ?_ _ false)
      · exact ⟨holds.hold, holds.idle⟩
      · exact early.le
  | held active yields =>
      -- A hold that is asked for again is not shorter.
      have late := longer
      unfold Coordination.shortensHold at late
      rw [Coordination.yielded_of_recv active yields] at late
      replace late := not_lt.1 (of_decide_eq_false late)
      refine .inr (holds_held ?_ ?_ late)
      · exact holds_polled holds
      · exact early
  | hungUp | goodbyePlayed | delayOver => exact .inl rfl
  | audioSent | roundSpoken => exact .inr ⟨holds.hold, holds.idle⟩
  | goodbyeSpoken => exact .inr ⟨holds.hold, holds.idle.insert fun kind => nomatch kind⟩
  | greetingSpoken =>
      refine .inr (holds_startIdleTimer ?_ ?_ _ true)
      · exact ⟨holds.hold, holds.idle⟩
      · exact early.le
  | staleTimer => exact .inr ⟨holds.hold, holds.idle.erase _⟩
  | fallbackFired => exact .inr ⟨holds.hold, (holds.idle.erase _).insert fun kind => nomatch kind⟩
  | transcriptOverdue =>
      refine .inr (holds_startIdleTimer ?_ ?_ 0 false)
      · exact ⟨holds.hold, holds.idle.erase _⟩
      · exact early.le
  | waitOvertaken due value fires busy =>
      exact .inr (holds_congr holds (ReengagementTimer.holdUntil_onTurnCompletionFired fires) (holds.idle.erase _))
  | responseReplayed due value fires idle saved =>
      have ends := Coordination.endsWait_of_due due value fires idle
      -- While the user speaks the response would reset the nudges.
      have quiet : c.turnPhase.isSpeaking = false := by
        by_contra speaking
        exact resets (resetsNudges_of_endsWait ends (Bool.not_eq_false _ ▸ speaking))
      refine .inr (holds_startTtsForTurn ?_ quiet)
      exact holds_congr holds (ReengagementTimer.holdUntil_onTurnCompletionFired fires) (holds.idle.erase _)
  | waitNudged due value fires idle unsaved =>
      have answered := answers (Coordination.endsWait_of_due due value fires idle)
      rw [← suppressedResponse_isSome, unsaved] at answered
      cases answered
  | idleNudged due value | idleHungUp due value | idleIgnored due value =>
      -- The idle timer does not fire before the hold is over.
      exact absurd value (holds.idle.value_ne early due)
  | watchdogLate => exact .inr ⟨holds.hold, holds.idle.erase _⟩
  | watchdogReplayed due value window | watchdogCancelled due value window =>
      exact absurd (resetsNudges_of_closes (Coordination.closesWindow_of_due due value window)) resets

/-! ## Where the hold begins -/

/-- Nothing is queued as an idle timer but what the re-engagement machine waits for. -/
theorem idle_of_accounted (accounted : c.AccountedFor) {entry : Delayed TimerKey}
    (queued : entry ∈ c.timers.entries) (kind : entry.value = .userIdle) :
    c.reengagement.state = .userIdle entry.key := by
  obtain ⟨strays, delays, h⟩ := accounted
  have held : (entry.key, TimerKey.userIdle) ∈ c.timers.held :=
    Multiset.mem_coe.2 (List.mem_map.2 ⟨entry, queued, by rw [kind]⟩)
  rw [h.held_eq, ← add_assoc, ← add_assoc, ← add_assoc, Multiset.mem_add, add_assoc, add_assoc,
    mem_owned_iff_awaited] at held
  rcases held with awaited | stray
  · unfold Coordination.awaited at awaited
    cases state : c.reengagement.state with
    | idle | turnCompletion armed isShort =>
        rw [state] at awaited
        cases awaited
    | userIdle armed =>
        rw [state] at awaited
        cases awaited
        rfl
  · cases delays _ stray

/-- An idle timer that is armed again waits for the end of the hold. -/
theorem holds_rearmed (hold : c.reengagement.holdUntil = some bound) (early : c.world.now ≤ bound)
    (timed : c.config.idleTimeoutSecs ≠ 0) (session : c.sessionPhase.allowsIdleTimer = true) {key : Key}
    (state : c.reengagement.state = .userIdle key)
    (owned : ∀ entry ∈ c.timers.entries, entry.value = .userIdle → c.reengagement.state = .userIdle entry.key)
    (offset : Duration) : Holds bound (c.startIdleTimer offset false).toCoordination := by
  unfold startIdleTimer
  rw [if_neg timed, session, if_neg (by decide)]
  unfold ReengagementTimer.extendByHold
  rw [hold]
  dsimp only
  rw [if_pos early]
  refine ⟨⟨bound, (ReengagementTimer.holdUntil_armIdle _ _ _ _).trans hold, le_rfl⟩, ?_⟩
  unfold ReengagementTimer.armIdle
  dsimp only
  rw [state]
  intro entry queued kind
  rcases List.mem_cons.1 queued with rfl | before
  · exact le_extended early le_rfl
  · -- The one that was armed before has been taken back.
    obtain ⟨known, other⟩ := List.mem_filter.1 before
    have same := state.symm.trans (owned entry known kind)
    cases same
    exact absurd rfl (bne_iff_ne.1 other)

/-- **A hold that is granted** keeps the idle timer away, if one that is armed can be armed again. -/
theorem holds_granted (accounted : c.AccountedFor) (rearms : c.RearmsIdle) (durationSecs : ℕ) :
    Holds (c.world.now + Duration.fromSecs durationSecs) ((c.setReengagement (c.reengagement.holdFor c.world.now
      (Duration.fromSecs durationSecs))).startIdleTimer 0 false).toCoordination := by
  have early : c.world.now ≤ c.world.now + Duration.fromSecs durationSecs := Nat.le_add_right _ _
  by_cases armed : ∃ key, c.reengagement.state = .userIdle key
  · obtain ⟨key, state⟩ := armed
    obtain ⟨timed, session⟩ : c.config.idleTimeoutSecs ≠ 0 ∧ c.sessionPhase.allowsIdleTimer = true := by
      apply rearms
      unfold Coordination.idleArmed
      rw [state]
    apply holds_rearmed
    · rfl
    · exact early
    · exact timed
    · exact session
    · exact state
    · exact fun entry queued kind => idle_of_accounted accounted queued kind
  · have idle : NoIdleBefore (c.world.now + Duration.fromSecs durationSecs) c.timers := by
      intro entry queued kind
      exact absurd ⟨entry.key, idle_of_accounted accounted queued kind⟩ armed
    apply holds_startIdleTimer
    · exact ⟨⟨_, rfl, le_rfl⟩, idle⟩
    · exact early

/-- An agent that asks for a hold is granted it. -/
theorem holds_of_granted (remaining : Duration) (accounted : c.AccountedFor) (rearms : c.RearmsIdle)
    {durationSecs : ℕ} (granted : c.yielded input = some (.onHold durationSecs)) :
    Holds (c.world.now + Duration.fromSecs durationSecs) (c.handle input remaining).toCoordination := by
  obtain ⟨llm, handled⟩ := handle_of_yielded remaining granted
  rw [handled]
  exact holds_granted (c := c.polled _ llm) accounted rearms durationSecs

/-! ## What a timer asks the user -/

/-- A turn of the TTS says nothing for the user. -/
theorem startTtsForTurn_said : userMessages c.startTtsForTurn.trail = userMessages c.trail ∧
    c.startTtsForTurn.shouldExit = c.shouldExit := by
  rw [startTtsForTurn_trail, userMessages_append]
  cases speaking : c.turnPhase.isSpeaking with
  | true =>
      rw [startTtsForTurn_of_speaking speaking]
      exact ⟨List.append_nil _, rfl⟩
  | false =>
      rw [startTtsForTurn_of_quiet speaking]
      exact ⟨List.append_nil _, rfl⟩

/-- A wait after ○ or ◐ that is over asks nothing if there is a response, or the pipeline is active. -/
theorem said_of_turnCompletion (remaining : Duration) (fires : c.fires input = some .turnCompletion)
    (answers : c.endsWait input = true → c.hasResponse = true) :
    userMessages (c.handle input remaining).trail = userMessages c.trail ∧
      (c.handle input remaining).shouldExit = c.shouldExit := by
  by_cases ends : c.endsWait input = true
  · obtain ⟨d, isShort, -, trail, exits, handled⟩ := handle_of_endsWait remaining ends
    obtain ⟨response, saved⟩ := Option.isSome_iff_exists.1 (suppressedResponse_isSome.trans (answers ends))
    rw [handled, saved, ← trail, ← exits]
    exact startTtsForTurn_said (c := d.setLlmTurn .idle)
  · obtain ⟨key, handled⟩ := handle_of_fires remaining fires
    rw [handled]
    unfold timerFired turnCompletionFired
    rw [show (c.fired key).reengagement = c.reengagement from rfl]
    cases armed : c.reengagement.onTurnCompletionFired with
    | none => exact ⟨rfl, rfl⟩
    | some next =>
        have busy : c.isPipelineActive = true := by
          by_contra idle
          apply ends
          unfold Coordination.endsWait
          rw [fires, armed, eq_false_of_ne_true idle]
          rfl
        dsimp only
        unfold replayOrNudge
        rw [if_pos (by exact busy)]
        exact ⟨rfl, rfl⟩

end Coordinator

/-! ## Runs -/

namespace Reactor

variable {β : Type} [AgentBackend β] {bound : Instant} {r : Reactor β} {m : Moment β}

/-- **A silent user is asked whether they are there, or hung up on**: the idle timer or the wait after ○ or ◐ is
over, and the agent is told something, or the call ends. -/
def reengages (r : Reactor β) (m : Moment β) : Bool :=
  let fires := (r.setWorld m.world).fires m.input
  (decide (fires = some .userIdle) || decide (fires = some .turnCompletion)) &&
    (decide ((r.step m).log.filterMap Effect.said ≠ r.log.filterMap Effect.said) ||
      decide ((r.step m).shouldExit ≠ r.shouldExit))

/-- A step of a session on hold does neither. -/
theorem not_reengages (holds : r.shouldExit = true ∨ Holds bound r.toCoordination) (early : m.world.now < bound)
    (keeps : r.shouldExit = false → (r.setWorld m.world).KeepsHold bound m.input) : r.reengages m = false := by
  unfold reengages
  cases exits : r.shouldExit with
  | true =>
      rw [step_of_shouldExit exits, decide_eq_false (fun h => h rfl), exits, decide_eq_false (fun h => h rfl)]
      exact Bool.and_false _
  | false =>
      have holds : Holds bound r.toCoordination := by
        rcases holds with ended | holds
        · exact absurd (exits.symm.trans ended) Bool.false_ne_true
        · exact holds
      have silent : (r.setWorld m.world).fires m.input ≠ some .userIdle := by
        intro fires
        unfold Coordination.fires at fires
        split at fires
        · obtain ⟨entry, due, value⟩ := Option.map_eq_some_iff.1 fires
          exact holds.idle.value_ne early due value
        · cases fires
      dsimp only
      rw [decide_eq_false silent, Bool.false_or]
      by_cases fires : (r.setWorld m.world).fires m.input = some .turnCompletion
      · obtain ⟨said, stays⟩ := Coordinator.said_of_turnCompletion (c := r.core.setWorld m.world)
          (r.playback.remainingPlayback m.world.now) fires (keeps exits).2.1
        rw [← step_core exits m] at said stays
        have before : userMessages (r.core.setWorld m.world).trail = r.log.filterMap Effect.said :=
          userMessages_marks r.log
        have after : userMessages (r.step m).core.trail = (r.step m).log.filterMap Effect.said :=
          userMessages_marks (r.step m).log
        have same : (r.step m).shouldExit = false := stays.trans exits
        have unsaid : (r.step m).log.filterMap Effect.said = r.log.filterMap Effect.said :=
          after.symm.trans (said.trans before)
        rw [decide_eq_false (not_not_intro unsaid), decide_eq_false (not_not_intro same)]
        exact Bool.and_false _
      · rw [decide_eq_false fires, Bool.false_and]

/-- The guard of a session on hold: as long as the hold lasts, each step of a call that goes on leaves it
alone. -/
def LeavesHold (bound : Instant) (r : Reactor β) (m : Moment β) : Prop :=
  m.world.now < bound → r.shouldExit = false → (r.setWorld m.world).KeepsHold bound m.input

instance (r : Reactor β) (m : Moment β) : Decidable (r.LeavesHold bound m) :=
  inferInstanceAs (Decidable (_ → _ → _))

/-- **A step respects the hold**, before its end, if the user is silent and nothing ends it. -/
theorem holds_step (holds : r.shouldExit = true ∨ Holds bound r.toCoordination) (early : m.world.now < bound)
    (silent : m.input.isSilent = true) (keeps : r.LeavesHold bound m) :
    (r.step m).shouldExit = true ∨ Holds bound (r.step m).toCoordination := by
  cases exits : r.shouldExit with
  | true => exact .inl (by rw [step_of_shouldExit exits, exits])
  | false =>
      rcases holds with ended | holds
      · exact absurd (exits.symm.trans ended) Bool.false_ne_true
      · exact Coordinator.holds_of_outcome (step_outcome exits m) silent ⟨holds.hold, holds.idle⟩ early
          (keeps early exits)

/-- **A session on hold** does not ask before the hold is over. -/
theorem along_of_holds {moments : List (Moment β)}
    (holds : (r.shouldExit = true ∨ Holds bound r.toCoordination) ∨ ∀ m ∈ moments, bound ≤ m.world.now)
    (forward : moments.Pairwise fun m later => m.world.now ≤ later.world.now)
    (silent : ∀ m ∈ moments, m.input.isSilent = true) (kept : Along step (LeavesHold bound) r moments) :
    Along step (fun r m => m.world.now < bound → r.reengages m = false) r moments := by
  induction moments generalizing r with
  | nil => exact trivial
  | cons m moments ih =>
      obtain ⟨keeps, kept⟩ := kept
      obtain ⟨first, forward⟩ := List.pairwise_cons.1 forward
      have quiet : ∀ m ∈ moments, m.input.isSilent = true :=
        fun later known => silent later (List.mem_cons_of_mem m known)
      have here : m.world.now < bound → r.shouldExit = true ∨ Holds bound r.toCoordination := by
        intro early
        rcases holds with holds | late
        · exact holds
        · exact absurd early (not_lt.2 (late m List.mem_cons_self))
      refine ⟨fun early => not_reengages (here early) early (keeps early), ?_⟩
      by_cases early : m.world.now < bound
      · exact ih (.inl (holds_step (here early) early (silent m List.mem_cons_self) keeps)) forward quiet kept
      · -- The hold is over, and time does not go back.
        exact ih (.inr fun later known => (not_lt.1 early).trans (first later known)) forward quiet kept

/-! ## How long a hold is -/

/-- The seconds of the hold that an `on_hold` call asks for. -/
def secsAsked (durationMins : ℕ) : ℕ := min 600 (max 60 (60 * durationMins))

/-- A hold is as long as it was asked to be, if the product of minutes and seconds in 32 bits says so. -/
theorem holdSecs_eq_secsAsked_iff (durationMins : ℕ) :
    DefaultAgentBackend.holdSecs durationMins = secsAsked durationMins ↔
      durationMins ≤ 10 ∨ 600 ≤ 60 * durationMins % 2 ^ 32 := by
  have cut : durationMins % 2 ^ 32 * 60 % 2 ^ 32 = 60 * durationMins % 2 ^ 32 := by omega
  unfold DefaultAgentBackend.holdSecs secsAsked
  rw [cut]
  rcases Nat.lt_or_ge 10 durationMins with long | short
  · omega
  · have small : 60 * durationMins % 2 ^ 32 = 60 * durationMins := Nat.mod_eq_of_lt (by omega)
    rw [small]
    omega

/-- The integers that `as_u64` takes. -/
def asU64 (n : ℕ) : Option ℕ := if n < 2 ^ 64 then some n else none

/-- So for the length in the arguments of the call, of which `as_u64` takes 64 bits. -/
theorem onHold_asked_iff (number : String → Option ℕ) {b : DefaultAgentBackend}
    (taken : ∀ text, b.library.jsonDurationMins text = (number text).bind asU64) (call : ToolCallEvent) :
    (b.handleOnHold call).eventBuffer = b.eventBuffer ++ [.onHold (secsAsked ((number call.arguments).getD 3))] ↔
      (number call.arguments).getD 3 ≤ 10 ∨
        (number call.arguments).getD 3 < 2 ^ 64 ∧ 600 ≤ 60 * (number call.arguments).getD 3 % 2 ^ 32 := by
  unfold DefaultAgentBackend.handleOnHold
  dsimp only
  rw [List.append_cancel_left_eq, List.singleton_inj, AgentEvent.onHold.injEq, taken]
  cases number call.arguments with
  | none => exact iff_of_true rfl (.inl (by decide))
  | some durationMins =>
      simp only [Option.bind_some, Option.getD_some]
      unfold asU64
      split
      · rename_i fits
        rw [Option.getD_some, holdSecs_eq_secsAsked_iff]
        simp only [fits, true_and]
      · rename_i long
        rw [Option.getD_none]
        refine iff_of_false ?_ ?_
        · unfold DefaultAgentBackend.holdSecs secsAsked
          omega
        · omega

/-- **A granted hold.**  An `on_hold` call asks for a hold of the minutes in its arguments, between one and
ten, exactly if there are at most ten, or no more than 64 bits of them and their seconds are still ten minutes
in 32 bits.  And a user who is put on hold and keeps silent is not asked again before the hold is over, nor
hung up on, as long as no step cancels the pipeline, ends a wait after ○ or ◐ that has no response to replay,
or makes the hold shorter; and if an idle timer that was armed when the hold began could be armed again. -/
theorem hold_respected (number : String → Option ℕ) {b : DefaultAgentBackend}
    (taken : ∀ text, b.library.jsonDurationMins text = (number text).bind asU64) {r₀ : Reactor β}
    (started : Started r₀) {before after : List (Moment β)} {durationSecs : ℕ}
    (goesOn : (run step r₀ before).shouldExit = false)
    (granted : ((run step r₀ before).setWorld m.world).yielded m.input = some (.onHold durationSecs))
    (rearms : ((run step r₀ before).setWorld m.world).RearmsIdle)
    (forward : after.Pairwise fun m later => m.world.now ≤ later.world.now)
    (silent : ∀ later ∈ after, later.input.isSilent = true)
    (kept : Along step (LeavesHold (m.world.now + Duration.fromSecs durationSecs)) ((run step r₀ before).step m) after) :
    (∀ call : ToolCallEvent,
      (b.handleOnHold call).eventBuffer = b.eventBuffer ++ [.onHold (secsAsked ((number call.arguments).getD 3))] ↔
        (number call.arguments).getD 3 ≤ 10 ∨
          (number call.arguments).getD 3 < 2 ^ 64 ∧ 600 ≤ 60 * (number call.arguments).getD 3 % 2 ^ 32) ∧
      Along step (fun r later => later.world.now < m.world.now + Duration.fromSecs durationSecs →
        r.reengages later = false) ((run step r₀ before).step m) after := by
  refine ⟨onHold_asked_iff number taken, along_of_holds (.inl (.inr ?_)) forward silent kept⟩
  have holds := Coordinator.holds_of_granted (c := (run step r₀ before).core.setWorld m.world)
    ((run step r₀ before).playback.remainingPlayback m.world.now) (accountedFor_run started before) rearms granted
  rw [← step_core goesOn m] at holds
  exact holds

/-! ## A hold that is kept, and holds that are not -/

/-- The number of minutes in the arguments of a call, read by a parser that knows two texts. -/
def minutesOf (arguments : String) : Option ℕ :=
  if arguments = "\x7b\"duration_mins\": 5\x7d" then some 5
  else if arguments = "\x7b\"duration_mins\": 4294967296\x7d" then some 4294967296 else none

/-- A backend with this parser. -/
def minuted : DefaultAgentBackend :=
  .new { DefaultAgentBackend.silentLibrary with jsonDurationMins := fun text => (minutesOf text).bind asU64 } none {}

/-- A session in which the user has asked something. -/
def questioned : List (Moment AnyBackend) :=
  [calmly 1 (.vad .speechStarted true), calmly 2 (.vad (.speechEnded []) true), calmly 3 (.stt (.transcript "hold on"))]

/-- The agent holds for five minutes. -/
def heldAt : Moment AnyBackend := calmly 4 (yields (.onHold 300) true)

/-- It says so, and the idle timer is tried twice. -/
def keptOnHold : List (Moment AnyBackend) :=
  [calmly 5 (yields (.token "Sure.") true), calmly 5 (yields (.finished none) false), calmly 6 (.tts .finished),
    calmly 200 (.timer 0), calmly 309 (.timer 0)]

/-- The hold of a silent user is kept for its five minutes, and the timer does fire after it. -/
theorem hold_respected_kept :
    Along step (fun r later => later.world.now < heldAt.world.now + Duration.fromSecs 300 → r.reengages later = false)
        ((run step (session {}) questioned).step heldAt) keptOnHold ∧
      (run step ((run step (session {}) questioned).step heldAt) (keptOnHold.take 4)).reengages
        (calmly 309 (.timer 0)) = true := by
  constructor
  · refine (hold_respected minutesOf (b := minuted) (fun _ => rfl) (started_session {}) ?_ ?_ ?_ ?_ ?_ ?_).2
    · decide +kernel
    · decide +kernel
    · decide +kernel
    · decide +kernel
    · decide +kernel
    · decide +kernel
  · decide +kernel

/-- It answers with a ○, and the wait after it is over long before the hold. -/
def waitedOut : List (Moment AnyBackend) :=
  [calmly 5 (yields (.token "○") true), calmly 5 (yields (.finished (some "○")) false), calmly 8 (.timer 0)]

/-- **Holds that are not respected**: 2³² minutes are cut to one; and a user who was put on hold for five
minutes is asked again after four seconds. -/
theorem hold_not_respected :
    (minuted.handleOnHold ⟨"on_hold", "\x7b\"duration_mins\": 4294967296\x7d", none, none⟩).eventBuffer =
        [.onHold 60] ∧ secsAsked 4294967296 = 600 ∧
      (∀ m ∈ waitedOut, m.input.isSilent = true) ∧
        ¬ Along step (fun r later => later.world.now < heldAt.world.now + Duration.fromSecs 300 →
          r.reengages later = false) ((run step (session {}) questioned).step heldAt) waitedOut := by
  decide +kernel

end Reactor

end Feros
