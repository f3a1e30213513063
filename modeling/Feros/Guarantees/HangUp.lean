import Feros.Coordinator.Conditions
import Feros.Guarantees.TimerOwnership
import Feros.Guarantees.Turns
/-! # Hanging up

Whether a hang-up decision is final, and whether a pending hang-up can still complete.  Both hold
except at inputs that are named: a cancelled pipeline forgets the hang-up, a started turn ignores
it, and a TTS session that ends early leaves it waiting for an event that does not come. -/

namespace Feros

/-! ## A hang-up is final -/

/-- **A pending hang-up is about to be abandoned**: by the end of a barge-in, by a window that
closes or replays its transcript, by a nudge, or by a wait that ends in a nudge or meets a speaking
user. -/
def Coordination.abandonsHangUp {β : Type} [AgentBackend β] (c : Coordination β)
    (input : Input β) : Bool :=
  c.hangUp.isPending && !c.shouldExit &&
    (c.endsBargeIn input || c.replaysDeferred input || c.closesWindow input ||
      c.nudgesIdle input || c.endsWait input && (!c.hasResponse || c.turnPhase.isSpeaking))

namespace Coordinator

variable {β : Type} [AgentBackend β]

/-- **The hang-up stands from `c` to `d`**: it is still pending or done, and nothing was said or
started in between. -/
structure Stands (c d : Coordinator β) : Prop where
  settled : d.hangUp.isPending = true ∨ d.shouldExit = true
  unsaid : userMessages d.trail = userMessages c.trail
  unstarted : turnStarts d.trail = turnStarts c.trail

namespace Stands

variable {c d : Coordinator β}

/-- Whoever adds a message does not stand. -/
theorem not_of_said {text : String} {front marks : List Mark} (grows : c.trail <+: front)
    (trail : d.trail = front ++ .userMessage text :: marks) : ¬ Stands c d := by
  intro stands
  obtain ⟨more, eq⟩ := grows
  have length := congrArg List.length stands.unsaid
  rw [trail, ← eq, userMessages_append, userMessages_append] at length
  simp [userMessages, Mark.said] at length

/-- A replay adds a message. -/
theorem not_of_replay {text : String} (grows : c.trail <+: d.trail) :
    ¬ Stands c (d.replayDeferred text) := by
  have said : (d.replayDeferred text).trail = (d.trail ++ [.cancel, .interrupt]) ++
      .userMessage text :: turnMarks d.turnPhase.isSpeaking false := by
    rw [replayDeferred_trail, List.append_assoc]
    rfl
  exact not_of_said (grows.trans (List.prefix_append _ _)) said

/-- So does a nudge. -/
theorem not_of_nudge {nudge : String} (trail : d.trail = c.trail) :
    ¬ Stands c (d.startNudgeTurn nudge) :=
  not_of_said (List.prefix_refl _) (trail ▸ startNudgeTurn_trail d nudge)

/-- Nor does a cancelled pipeline stand, unless the session is over. -/
theorem not_of_cancelled (hangUp : d.hangUp = .idle) (running : d.shouldExit = false) :
    ¬ Stands c d := by
  rintro ⟨settled, -, -⟩
  rw [hangUp, running] at settled
  simp [HangUpPhase.isPending] at settled

/-- Marks that neither say nor start anything stand. -/
theorem of_marks {marks : List Mark} (settled : d.hangUp.isPending = true ∨ d.shouldExit = true)
    (trail : d.trail = c.trail ++ marks) (unsaid : userMessages marks = [])
    (unstarted : turnStarts marks = 0) : Stands c d where
  settled := settled
  unsaid := by rw [trail, userMessages_append, unsaid, List.append_nil]
  unstarted := by rw [trail, turnStarts_append, unstarted, Nat.add_zero]

/-- A hang-up that is settled with the same trail stands. -/
theorem of_same (settled : d.hangUp.isPending = true ∨ d.shouldExit = true)
    (trail : d.trail = c.trail) : Stands c d :=
  ⟨settled, congrArg userMessages trail, congrArg turnStarts trail⟩

/-- Of an LLM event only the event is left. -/
theorem of_event {event : LlmEvent} (pending : d.hangUp.isPending = true)
    (trail : d.trail = c.trail ++ [.llmEvent event]) : Stands c d :=
  of_marks (.inl pending) trail rfl rfl

/-- Shutting down stands. -/
theorem initiateShutdown {marks : List Mark} (trail : d.trail = c.trail ++ marks)
    (unsaid : userMessages marks = []) (unstarted : turnStarts marks = 0) :
    Stands c d.initiateShutdown := by
  have shut : d.initiateShutdown.trail = c.trail ++ (marks ++ [.cancel, .interrupt]) := by
    rw [initiateShutdown_trail, trail, List.append_assoc]
  refine of_marks (.inr rfl) shut ?_ ?_
  · rw [userMessages_append, unsaid]
    rfl
  · rw [turnStarts_append, unstarted]
    rfl

end Stands

/-- **Every other outcome stands.** -/
theorem stands_of_outcome {c d : Coordinator β} {input : Input β}
    (running : c.shouldExit = false) (pending : c.hangUp.isPending = true)
    (keeps : c.abandonsHangUp input = false) (o : Outcome c input d) : c.Stands d := by
  unfold Coordination.abandonsHangUp at keeps
  rw [running, pending] at keeps
  simp only [Bool.not_false, Bool.true_and, Bool.or_eq_false_iff] at keeps
  obtain ⟨⟨⟨⟨noBargeIn, noReplay⟩, noClose⟩, noNudge⟩, noWait⟩ := keeps
  -- A hang-up is pending, so no transcript is listened to.
  have ignored : ∀ {P : Prop}, c.hangUp.isPending = false → P :=
    fun free => absurd (free.symm.trans pending) Bool.false_ne_true
  -- A step that abandons the hang-up is excluded.
  have excluded : ∀ {P : Prop} {b : Bool}, b = false → b = true → P :=
    fun no yes => absurd (no.symm.trans yes) Bool.false_ne_true
  cases o with
  | speechBegun free _ | buffered free _ | blankTurn free _ _ _ | turnCommitted free _ _ _ _ =>
    exact ignored free
  | bargeInCommitted free _ _ _ | bargeInRejected free _ _ _ | lateDropped free _ _ _
  | lateCommitted free _ _ _ => exact ignored free
  | nothing | engaged _ | shielded _ | awaiting _ _ | heldBack _ _ | noEvent _ _ | roundSpoken _ _
  | staleTimer _ _ | fallbackFired _ _ _ | waitOvertaken _ _ _ _ | idleIgnored _ _ _ _
  | watchdogLate _ _ _ => exact .of_same (.inl pending) rfl
  | unheard _ | audioSent _ _ => exact .of_marks (.inl pending) rfl rfl rfl
  | talkedOver window speaking =>
    exact excluded noBargeIn (by simp [Coordination.endsBargeIn, window, speaking])
  | streamed _ _ | suppressed _ _ _ _ | toolCounted _ _ _ | windowEnded _ _ _ _ | finished _ _
  | reported _ _ => exact .of_event pending rfl
  | toolStarted _ _ =>
    exact .of_event (by rw [toolCallStarted_hangUp]; exact pending) (toolCallStarted_trail _ _ _ _)
  | windowReplayed active yields last deferred =>
    exact excluded noReplay (Coordination.replaysDeferred_of_last
      (Coordination.completesLast_of_recv active yields last) deferred)
  | suppressedFinished _ _ _ =>
    refine .of_event ?_ (by simp; rfl)
    rw [startIdleTimer_hangUp, saveSuppressedResponse_hangUp]
    exact pending
  | lateSuppressed _ _ _ _ =>
    refine .of_event ?_ (by simp; rfl)
    rw [saveSuppressedResponse_hangUp]
    exact pending
  | llmFailed _ _ | held _ _ =>
    exact .of_event (by rw [startIdleTimer_hangUp]; exact pending) (startIdleTimer_trail _ _ _)
  | hangUpPending _ _ _ => exact .of_event rfl rfl
  | hungUp _ _ _ => exact .initiateShutdown rfl rfl rfl
  | greetingSpoken _ _ _ _ | turnSpoken _ _ _ _ _ | ttsFailed _ | transcriptOverdue _ _ _ =>
    refine .of_same (.inl ?_) (startIdleTimer_trail _ _ _)
    exact (congrArg HangUpPhase.isPending (startIdleTimer_hangUp _ _ _)).trans pending
  | goodbyePlayed _ _ _ _ | idleHungUp _ _ _ _ | delayOver _ _ =>
    exact .initiateShutdown (List.append_nil _).symm rfl rfl
  | goodbyeSpoken _ _ _ _ _ => exact .of_same (.inl rfl) rfl
  | responseReplayed due value fires idle saved =>
    have ends := Coordination.endsWait_of_due due value fires idle
    -- While the user speaks the response would be cancelled, and the hang-up with it.
    have quiet : c.turnPhase.isSpeaking = false := by
      rw [ends, Bool.true_and, Bool.or_eq_false_iff] at noWait
      exact noWait.2
    rw [startTtsForTurn_of_quiet (by exact quiet)]
    exact .of_marks (.inl pending) rfl rfl rfl
  | waitNudged due value fires idle unsaved =>
    have ends := Coordination.endsWait_of_due due value fires idle
    have response : c.hasResponse = false := by
      rw [← suppressedResponse_isSome, unsaved]
      rfl
    exact excluded noWait (by rw [ends, response]; rfl)
  | idleNudged due value fires nudge =>
    exact excluded noNudge (Coordination.nudgesIdle_of_due due value fires nudge)
  | watchdogReplayed due value window _ | watchdogCancelled due value window _ =>
    exact excluded noClose (Coordination.closesWindow_of_due due value window)

/-- **None of these inputs does.** -/
theorem not_stands_of_abandonsHangUp {c : Coordinator β} {input : Input β} (remaining : Duration)
    (abandons : c.abandonsHangUp input = true) : ¬ c.Stands (c.handle input remaining) := by
  unfold Coordination.abandonsHangUp at abandons
  simp only [Bool.and_eq_true, Bool.or_eq_true, Bool.not_eq_true'] at abandons
  obtain ⟨⟨pending, running⟩, (((bargeIn | replays) | closes) | nudges) | ⟨ends, unheard⟩⟩ := abandons
  · rw [handle_of_endsBargeIn remaining bargeIn]
    exact Stands.not_of_cancelled rfl running
  · obtain ⟨d, text, handled, -, grows⟩ := handle_of_replaysDeferred remaining replays
    rw [handled]
    exact Stands.not_of_replay grows
  · obtain ⟨key, handled⟩ := handle_of_closesWindow remaining closes
    rw [handled]
    cases c.seGuard.deferredTranscript with
    | none => exact Stands.not_of_cancelled rfl running
    | some text => exact Stands.not_of_replay (List.prefix_refl _)
  · obtain ⟨d, -, trail, handled⟩ := handle_of_nudgesIdle remaining nudges
    rw [handled]
    exact Stands.not_of_nudge trail
  · obtain ⟨d, isShort, phase, trail, exits, handled⟩ := handle_of_endsWait remaining ends
    rw [handled]
    cases saved : c.suppressedResponse with
    | none => exact Stands.not_of_nudge trail
    | some text =>
      -- There is a response to replay, so it is the speaking user who ends the hang-up.
      have response : c.hasResponse = true := by
        rw [← suppressedResponse_isSome, saved]
        rfl
      have speaking : d.turnPhase.isSpeaking = true := by
        rw [response] at unheard
        rw [phase]
        exact unheard.resolve_left Bool.false_ne_true.symm
      dsimp only
      rw [startTtsForTurn_of_speaking (by exact speaking)]
      exact Stands.not_of_cancelled rfl (exits.trans running)

end Coordinator

namespace Reactor

variable {β : Type} [AgentBackend β]

/-- **The hang-up decision of `r` survives `m`**: if one is pending it is still pending afterwards,
or the session is over, and `m` neither adds a user message nor starts an LLM turn. -/
def HangUpFinal (r : Reactor β) (m : Moment β) : Prop :=
  r.hangUp.isPending = true →
    ((r.step m).hangUp.isPending = true ∨ (r.step m).shouldExit = true) ∧
      (r.step m).log.filterMap Effect.said = r.log.filterMap Effect.said ∧
      (r.step m).log.countP Effect.startsTurn = r.log.countP Effect.startsTurn

instance (r : Reactor β) (m : Moment β) : Decidable (r.HangUpFinal m) :=
  inferInstanceAs (Decidable (_ → _ ∧ _ ∧ _))

/-- On the coordinator, a decision that survives stands. -/
theorem hangUpFinal_iff_stands {r : Reactor β} {m : Moment β}
    (pending : r.hangUp.isPending = true) :
    r.HangUpFinal m ↔ (r.core.setWorld m.world).Stands (r.step m).core := by
  have said : ∀ r : Reactor β, userMessages r.core.trail = r.log.filterMap Effect.said :=
    fun r => userMessages_marks r.log
  have starts : ∀ r : Reactor β, turnStarts r.core.trail = r.log.countP Effect.startsTurn :=
    fun r => turnStarts_marks r.log
  constructor
  · intro final
    obtain ⟨settled, unsaid, unstarted⟩ := final pending
    exact ⟨settled, (said _).trans (unsaid.trans (said r).symm),
      (starts _).trans (unstarted.trans (starts r).symm)⟩
  · rintro ⟨settled, unsaid, unstarted⟩ -
    exact ⟨settled, (said _).symm.trans (unsaid.trans (said r)),
      (starts _).symm.trans (unstarted.trans (starts r))⟩

/-- In any state, the decision survives exactly the inputs that do not abandon it. -/
theorem hangUpFinal_iff (r : Reactor β) (m : Moment β) :
    r.HangUpFinal m ↔ (r.setWorld m.world).abandonsHangUp m.input = false := by
  have pending_of : (r.setWorld m.world).abandonsHangUp m.input = true →
      r.hangUp.isPending = true ∧ r.shouldExit = false := by
    intro abandons
    unfold Coordination.abandonsHangUp at abandons
    simp only [Bool.and_eq_true, Bool.not_eq_true'] at abandons
    exact abandons.1
  cases exits : r.shouldExit with
  | true =>
    have final : r.HangUpFinal m := by
      intro pending
      rw [step_of_shouldExit exits]
      exact ⟨.inl pending, rfl, rfl⟩
    refine iff_of_true final (Bool.eq_false_iff.2 fun abandons => ?_)
    exact Bool.false_ne_true ((pending_of abandons).2.symm.trans exits)
  | false =>
    cases pending : r.hangUp.isPending with
    | false =>
      have final : r.HangUpFinal m := fun yes => absurd (pending.symm.trans yes) Bool.false_ne_true
      refine iff_of_true final (Bool.eq_false_iff.2 fun abandons => ?_)
      exact Bool.false_ne_true (pending.symm.trans (pending_of abandons).1)
    | true =>
      rw [hangUpFinal_iff_stands pending]
      constructor
      · intro stands
        rw [step_core exits] at stands
        refine Bool.eq_false_iff.2 fun abandons => ?_
        exact Coordinator.not_stands_of_abandonsHangUp _ abandons stands
      · intro keeps
        exact Coordinator.stands_of_outcome exits pending keeps (step_outcome exits m)

/-- **Hang-up decisions are final, except at the inputs that abandon them.**  From whatever state a
run starts, every step leaves a pending decision standing exactly if no step ends a barge-in, closes
or replays a side-effect window, nudges, or ends a wait in a nudge or over a speaking user while a
hang-up is pending. -/
theorem hang_ups_final_iff (r₀ : Reactor β) (moments : List (Moment β)) :
    Run.Along step HangUpFinal r₀ moments ↔
      Run.Along step (fun r m => (r.setWorld m.world).abandonsHangUp m.input = false)
        r₀ moments :=
  Run.along_congr hangUpFinal_iff

/-- The user speaks while the goodbye is played; when they stop, the call goes on. -/
theorem hang_up_abandoned :
    ¬ HangUpFinal (Run.run step (session {}) [calmly 1 (.vad .speechStarted true),
      calmly 2 (.vad (.speechEnded []) true), calmly 3 (.stt (.transcript "bye")),
      calmly 4 (.vad .speechStarted true), calmly 5 (yields (.hangUp "done" none) false)])
      (calmly 6 (.vad (.speechEnded []) true)) := by
  decide

end Reactor

/-! ## A hang-up can complete -/

/-- The marker check ends with a ○ or ◐: the response is suppressed. -/
def TokenAction.suppresses : TokenAction → Bool
  | .markerCheckCompleted (some marker) _ => decide (marker ≠ .complete)
  | _ => false

/-- **The goodbye is about to be silenced** while the hang-up waits for it: TTS ends before the turn
or the greeting does, TTS or the LLM fails, or the response is suppressed. -/
def Coordination.silencesGoodbye {β : Type} [AgentBackend β] (c : Coordination β)
    (input : Input β) : Bool :=
  !c.shouldExit && decide (c.hangUp = .waitingForTts) &&
    match input, c.yielded input with
    | .tts .finished, _ => c.tts.isActive && (AgentBackend.isActive c.llm || c.seGuard.isActive ||
        decide (c.sessionPhase = .greetingPlaying))
    | .tts (.error _), _ => c.tts.isActive
    | _, some (.error _) => true
    | _, some (.token text) =>
      (c.llmTurn.processToken text c.config.turnCompletionEnabled).2.suppresses
    | _, some (.finished _) =>
      (c.llmTurn.processLateFlush c.config.turnCompletionEnabled).2.any TokenAction.suppresses
    | _, _ => false

namespace Coordinator

variable {β : Type} [AgentBackend β]

/-- **A hang-up that waits for TTS will hear from it**, or the session is over. -/
def Waiting (c : Coordinator β) : Prop :=
  c.hangUp = .waitingForTts → c.shouldExit = true ∨ c.tts.isActive = true

namespace Waiting

variable {c d : Coordinator β}

/-- Who does not wait has nothing to show. -/
theorem of_ne (h : d.hangUp ≠ .waitingForTts) : d.Waiting := fun waits => absurd waits h

/-- The idle timer does not touch the hang-up. -/
theorem startIdleTimer_iff {offset : Duration} {force : Bool} :
    (c.startIdleTimer offset force).Waiting ↔ c.Waiting := by
  unfold Waiting
  rw [startIdleTimer_hangUp, startIdleTimer_shouldExit, startIdleTimer_tts]

/-- The idle timer leaves it waiting. -/
theorem startIdleTimer {offset : Duration} {force : Bool} (h : c.Waiting) :
    (c.startIdleTimer offset force).Waiting := startIdleTimer_iff.2 h

/-- A transcript that is kept back leaves it waiting. -/
theorem bufferTranscript {text : String} (h : c.Waiting) : (c.bufferTranscript text).Waiting := by
  obtain ⟨guard, -, eq⟩ := bufferTranscript_eq text c
  rw [eq]
  exact h

/-- A response that is kept back does not touch the hang-up. -/
theorem saveSuppressedResponse_iff {content : Option String} :
    (c.saveSuppressedResponse content).Waiting ↔ c.Waiting := by
  unfold Coordinator.saveSuppressedResponse
  cases content with
  | none => rfl
  | some text =>
    dsimp only
    split <;> rfl

/-- Starting a turn never makes a hang-up wait. -/
theorem startLlmTurn_ne (h : c.hangUp ≠ .waitingForTts) :
    c.startLlmTurn.hangUp ≠ .waitingForTts := by
  cases speaking : c.turnPhase.isSpeaking with
  | true =>
    rw [startLlmTurn_of_speaking speaking]
    exact nofun
  | false =>
    rw [startLlmTurn_hangUp c speaking]
    exact h

/-- The speech of a turn does not begin a wait. -/
theorem startTtsForTurn_ne (h : c.hangUp ≠ .waitingForTts) :
    c.startTtsForTurn.hangUp ≠ .waitingForTts := by
  unfold startTtsForTurn
  split
  · exact nofun
  · exact h

/-- A nudge does not begin a wait. -/
theorem startNudgeTurn_ne {nudge : String} (h : c.hangUp ≠ .waitingForTts) :
    (c.startNudgeTurn nudge).hangUp ≠ .waitingForTts := by
  unfold startNudgeTurn
  rw [skipMarkerCheck_eq]
  have added : (c.addUserMessage nudge).hangUp ≠ .waitingForTts := h
  exact startLlmTurn_ne added

/-- An idle pipeline is not waited for. -/
theorem ne_of_idle (h : c.Waiting) (running : c.shouldExit = false)
    (idle : c.isPipelineActive = false) : c.hangUp ≠ .waitingForTts := by
  intro waits
  rcases h waits with exits | active
  · exact Bool.false_ne_true (running.symm.trans exits)
  · exact Bool.false_ne_true (idle.symm.trans (Quiet.busy_of_tts active))

/-- **Every outcome that does not silence the goodbye keeps it awaited.** -/
theorem outcome {input : Input β} (h : c.Waiting) (running : c.shouldExit = false)
    (spoken : c.silencesGoodbye input = false) (o : Outcome c input d) : d.Waiting := by
  have free : c.hangUp.isPending = false → c.hangUp ≠ .waitingForTts := by
    intro idle waits
    rw [waits] at idle
    cases idle
  -- A turn that is committed outside the wait does not begin one.
  have commits : ∀ {e : Coordinator β} {text : String}, e.hangUp = c.hangUp →
      c.hangUp ≠ .waitingForTts → (e.commitTurnText text).Waiting := by
    intro e text hangUp ne
    have added : (e.addUserMessage text).hangUp ≠ .waitingForTts := by
      rw [← hangUp] at ne
      exact ne
    exact of_ne (startLlmTurn_ne added)
  cases o with
  | nothing | engaged _ | shielded _ | awaiting _ _ | heldBack _ _ | unheard _ | noEvent _ _
  | streamed _ _ | toolCounted _ _ _ | windowEnded _ _ _ _ | finished _ _ | reported _ _
  | audioSent _ _ | staleTimer _ _ | fallbackFired _ _ _ | waitOvertaken _ _ _ _
  | idleIgnored _ _ _ _ | watchdogLate _ _ _ => exact h
  | speechBegun _ silent =>
    unfold beginSpeech
    split <;> exact h
  | talkedOver _ _ | watchdogCancelled _ _ _ _ => exact of_ne nofun
  | buffered _ _ => exact Waiting.bufferTranscript h
  | blankTurn _ _ _ _ | bargeInRejected _ _ _ _ | held _ _ | transcriptOverdue _ _ _ =>
    exact startIdleTimer h
  | turnCommitted idle _ _ _ _ => exact commits rfl (free idle)
  | bargeInCommitted idle _ _ _ | lateCommitted idle _ _ _ => exact commits rfl (free idle)
  | lateDropped _ _ _ _ => exact h
  | suppressed active yields found incomplete =>
    -- The goodbye is suppressed: this step silences it.
    refine of_ne fun waits => absurd spoken ?_
    simp [Coordination.silencesGoodbye, running, show c.hangUp = .waitingForTts from waits,
      Coordination.yielded_of_recv active yields, found, TokenAction.suppresses, incomplete]
  | toolStarted _ _ =>
    unfold toolCallStarted
    split <;> exact h
  | windowReplayed _ _ _ _ | watchdogReplayed _ _ _ _ =>
    exact of_ne (startLlmTurn_ne nofun)
  | suppressedFinished _ _ _ => exact startIdleTimer (saveSuppressedResponse_iff.2 h)
  | lateSuppressed active yields found incomplete =>
    refine of_ne fun waits => absurd spoken ?_
    rw [saveSuppressedResponse_hangUp] at waits
    simp [Coordination.silencesGoodbye, running, show c.hangUp = .waitingForTts from waits,
      Coordination.yielded_of_recv active yields, found, TokenAction.suppresses, incomplete]
  | llmFailed active yields =>
    -- An error silences the goodbye.
    refine of_ne fun waits => absurd spoken ?_
    rw [startIdleTimer_hangUp] at waits
    simp [Coordination.silencesGoodbye, running, show c.hangUp = .waitingForTts from waits,
      Coordination.yielded_of_recv active yields]
  | hangUpPending _ _ speaking => exact fun _ => .inr speaking
  | hungUp _ _ _ | goodbyePlayed _ _ _ _ | idleHungUp _ _ _ _ | delayOver _ _ =>
    exact fun _ => .inl rfl
  | roundSpoken active busy =>
    refine of_ne fun waits => absurd spoken ?_
    -- The speech of a round is over, with the goodbye still to come.
    simp [Coordination.silencesGoodbye, running, show c.hangUp = .waitingForTts from waits,
      active, busy]
  | greetingSpoken _ active _ greeting =>
    refine of_ne fun waits => absurd spoken ?_
    unfold finishGreeting at waits
    rw [startIdleTimer_hangUp] at waits
    simp [Coordination.silencesGoodbye, running, show c.hangUp = .waitingForTts from waits,
      active, greeting]
  | goodbyeSpoken _ _ _ _ _ => exact of_ne nofun
  | turnSpoken _ _ _ _ stays => exact of_ne (by rw [startIdleTimer_hangUp]; exact stays)
  | ttsFailed active =>
    refine of_ne fun waits => absurd spoken ?_
    rw [startIdleTimer_hangUp] at waits
    simp [Coordination.silencesGoodbye, running, show c.hangUp = .waitingForTts from waits,
      active]
  | responseReplayed _ _ _ idle _ =>
    exact of_ne (startTtsForTurn_ne (h.ne_of_idle running idle))
  | waitNudged _ _ _ idle _ => exact of_ne (startNudgeTurn_ne (h.ne_of_idle running idle))
  | idleNudged _ _ _ nudge =>
    exact of_ne (startNudgeTurn_ne (h.ne_of_idle running (idle_of_nudge nudge)))

/-- A silenced TTS stage is not waited for in a session that goes on. -/
theorem not_of_silent (waits : d.hangUp = .waitingForTts) (running : d.shouldExit = false)
    (silent : d.tts.isActive = false) : ¬ d.Waiting := by
  intro h
  rcases h waits with exits | active
  · exact Bool.false_ne_true (running.symm.trans exits)
  · exact Bool.false_ne_true (silent.symm.trans active)

/-- A token that completes a ○ or ◐ marker silences TTS. -/
theorem token_of_suppresses {text : String}
    (found : (c.llmTurn.processToken text c.config.turnCompletionEnabled).2.suppresses = true) :
    ∃ marker, c.token text = (c.armTurnCompletionWait marker).setLlmTurn (.suppressing none) := by
  unfold token
  dsimp only
  rcases checked : (c.llmTurn.processToken text c.config.turnCompletionEnabled).2 with
    _ | _ | ⟨_ | (_ | _ | _), emitted⟩ | _
  case markerCheckCompleted.some.incompleteShort => exact ⟨_, rfl⟩
  case markerCheckCompleted.some.incompleteLong => exact ⟨_, rfl⟩
  all_goals
    rw [checked] at found
    cases found

/-- So does a late check that finds one. -/
theorem finished_of_suppresses (content : Option String)
    (found : (c.llmTurn.processLateFlush c.config.turnCompletionEnabled).2.any
      TokenAction.suppresses = true) :
    ∃ phase marker, c.finished content =
      ((c.setLlmTurn phase).armTurnCompletionWait marker).saveSuppressedResponse content := by
  have flushed : ∃ phase marker, (c.setLlmTurn (c.llmTurn.processLateFlush
      c.config.turnCompletionEnabled).1).streamEnded (c.llmTurn.processLateFlush
        c.config.turnCompletionEnabled).2 content =
      ((c.setLlmTurn phase).armTurnCompletionWait marker).saveSuppressedResponse content := by
    unfold streamEnded
    rcases checked : (c.llmTurn.processLateFlush c.config.turnCompletionEnabled).2 with
      _ | (_ | _ | ⟨_ | (_ | _ | _), emitted⟩ | _)
    case some.markerCheckCompleted.some.incompleteShort => exact ⟨_, _, rfl⟩
    case some.markerCheckCompleted.some.incompleteLong => exact ⟨_, _, rfl⟩
    all_goals
      rw [checked] at found
      cases found
  unfold finished
  cases phase : c.llmTurn with
  | suppressing response =>
    simp [phase, LlmTurnPhase.processLateFlush, LlmTurnPhase.markerChecked] at found
  | idle | generating buf =>
    rw [phase] at flushed
    exact flushed

/-- **None that does keeps it awaited.** -/
theorem not_of_silencesGoodbye {input : Input β} (remaining : Duration)
    (silences : c.silencesGoodbye input = true) : ¬ (c.handle input remaining).Waiting := by
  unfold Coordination.silencesGoodbye at silences
  simp only [Bool.and_eq_true, Bool.not_eq_true', decide_eq_true_eq] at silences
  obtain ⟨⟨running, waits⟩, ends⟩ := silences
  split at ends
  · -- Synthesis finishes, but the turn or the greeting goes on.
    simp only [Bool.and_eq_true, Bool.or_eq_true, decide_eq_true_eq] at ends
    obtain ⟨active, goesOn⟩ := ends
    unfold handle ttsEvent
    dsimp only
    rw [if_pos active]
    by_cases busy : (AgentBackend.isActive c.llm || c.seGuard.isActive) = true
    · rw [if_pos busy]
      exact not_of_silent waits running rfl
    · rw [if_neg busy]
      rw [← Bool.or_eq_true] at goesOn
      rw [if_pos (goesOn.resolve_left busy)]
      unfold finishGreeting
      rw [startIdleTimer_iff]
      exact not_of_silent waits running rfl
  -- The speech fails.
  · unfold handle ttsEvent
    dsimp only
    rw [if_pos ends, startIdleTimer_iff]
    exact not_of_silent waits running rfl
  -- The LLM fails.
  · rename_i yields
    obtain ⟨llm, handled⟩ := handle_of_yielded remaining yields
    rw [handled]
    unfold llmEvent
    rw [startIdleTimer_iff]
    exact not_of_silent waits running rfl
  -- A marker suppresses the goodbye.
  · rename_i text _ _ yields
    obtain ⟨llm, handled⟩ := handle_of_yielded remaining yields
    have found : ((c.polled (.token text) llm).llmTurn.processToken text
        (c.polled (.token text) llm).config.turnCompletionEnabled).2.suppresses = true := ends
    obtain ⟨marker, token⟩ := token_of_suppresses found
    rw [handled]
    unfold llmEvent
    dsimp only
    rw [token]
    exact not_of_silent waits running rfl
  -- A marker that is found late suppresses it.
  · rename_i content _ _ yields
    obtain ⟨llm, handled⟩ := handle_of_yielded remaining yields
    have found : ((c.polled (.finished content) llm).llmTurn.processLateFlush
        (c.polled (.finished content) llm).config.turnCompletionEnabled).2.any
          TokenAction.suppresses = true := ends
    obtain ⟨phase, marker, finished⟩ := finished_of_suppresses content found
    rw [handled]
    unfold llmEvent
    dsimp only
    rw [finished, saveSuppressedResponse_iff]
    exact not_of_silent waits running rfl
  · cases ends

end Waiting

/-- No hang-up waits when a session starts. -/
theorem Opened.awaited {c : Coordinator β} (h : c.Opened) : c.Waiting := by
  have start : ∀ {c : Coordinator β}, c.Fresh → c.hangUp ≠ .waitingForTts := by
    intro c fresh
    rw [fresh.hangUp]
    exact nofun
  cases h with
  | waiting fresh offset => exact Waiting.startIdleTimer (Waiting.of_ne (start fresh))
  | greeted fresh offset =>
    have sent := start fresh
    exact Waiting.startIdleTimer (Waiting.of_ne sent)
  | greeting fresh ws => exact Waiting.of_ne (Waiting.startTtsForTurn_ne (start fresh))

/-- The delay of a hang-up is queued, in a coordinator whose queue is accounted for. -/
theorem AccountedFor.delay {c : Coordinator β} (h : c.AccountedFor) {key : Key}
    (delayed : c.hangUp = .waitingForDelay key) : (key, .hangUpDelay) ∈ c.timers.held := by
  obtain ⟨strays, -, accounted⟩ := h
  rw [accounted.held_eq, delayed]
  simp [HangUpPhase.owned]

end Coordinator

/-- **A pending hang-up can complete**: TTS is still active, or the delay is queued. -/
structure HangUpCompletes {β : Type} [AgentBackend β] (c : Coordination β) : Prop where
  tts : c.hangUp = .waitingForTts → c.shouldExit = true ∨ c.tts.isActive = true
  delay : ∀ key, c.hangUp = .waitingForDelay key → (key, .hangUpDelay) ∈ c.timers.held

namespace Reactor

variable {β : Type} [AgentBackend β]

/-- **Pending hang-ups can complete, except where the goodbye is silenced.**  In every state a
session passes through a pending hang-up can complete exactly if no step silences the goodbye it
waits for. -/
theorem hang_ups_complete_iff {r₀ : Reactor β} (started : Started r₀)
    (moments : List (Moment β)) :
    (∀ front, front <+: moments → HangUpCompletes (Run.run step r₀ front).toCoordination) ↔
      Run.Along step (fun r m => (r.setWorld m.world).silencesGoodbye m.input = false)
        r₀ moments := by
  have queued : ∀ front, ∀ key, (Run.run step r₀ front).hangUp = .waitingForDelay key →
      (key, .hangUpDelay) ∈ (Run.run step r₀ front).timers.held :=
    fun front _ => Coordinator.AccountedFor.delay (accountedFor_run started front)
  have waiting_iff : (∀ front, front <+: moments →
        HangUpCompletes (Run.run step r₀ front).toCoordination) ↔
      ∀ front, front <+: moments → (Run.run step r₀ front).core.Waiting := by
    refine forall₂_congr fun front _ => ?_
    exact ⟨fun completes => completes.tts, fun waiting => ⟨waiting, queued front⟩⟩
  have always : ∀ (r : Reactor β) (_ : Moment β), True → True := fun _ _ h => h
  have keeps : ∀ (r : Reactor β) (m : Moment β), True → r.core.Waiting →
      ((r.step m).core.Waiting ↔ (r.setWorld m.world).silencesGoodbye m.input = false) := by
    intro r m _ h
    cases exits : r.shouldExit with
    | true =>
      have silent : (r.setWorld m.world).silencesGoodbye m.input = false := by
        unfold Coordination.silencesGoodbye
        rw [show (r.setWorld m.world).shouldExit = r.shouldExit from rfl, exits]
        rfl
      rw [step_of_shouldExit exits]
      exact iff_of_true h silent
    | false =>
      constructor
      · intro waiting
        rw [step_core exits] at waiting
        refine Bool.eq_false_iff.2 fun silences => ?_
        exact Coordinator.Waiting.not_of_silencesGoodbye _ silences waiting
      · intro spoken
        have before : (r.core.setWorld m.world).Waiting := h
        exact before.outcome exits spoken (step_outcome exits m)
  rw [waiting_iff]
  exact Run.kept_iff_along (fun r : Reactor β => r.core.Waiting) always keeps trivial
    started.opened.awaited moments

/-- A call that the agent ends over its goodbye. -/
theorem hang_ups_complete_goodbye :
    HangUpCompletes (Run.run step (session {}) [calmly 1 (.vad .speechStarted true),
      calmly 2 (.vad (.speechEnded []) true), calmly 3 (.stt (.transcript "bye")),
      calmly 5 (yields (.hangUp "done" none) false)]).toCoordination :=
  (hang_ups_complete_iff (started_session {}) _).2 (by decide) _ (List.prefix_refl _)

/-- A session that is greeted over a WS voice. -/
def greetedCall : Reactor AnyBackend :=
  ((new { greeting := some "Hello." } ⟨false⟩ .streaming (fun text => if isBlank text then [] else [text])
    (calm 0)).connect calmStart).greet none

/-- The user says goodbye into the greeting, and so does the agent. -/
def goodbyeOverGreeting : List (Moment AnyBackend) :=
  [calmly 1 (.stt (.transcript "bye")), calmly 2 (yields (.token "Goodbye.") true),
    calmly 3 (yields (.hangUp "done" (some "Goodbye.")) false), calmly 4 (.tts .finished)]

/-- The end of the synthesis is taken for the end of the greeting: the call stays open. -/
theorem hang_up_stuck :
    ¬ HangUpCompletes (Run.run step greetedCall goodbyeOverGreeting).toCoordination := by
  intro completes
  have stuck := completes.tts (by decide +kernel)
  revert stuck
  decide +kernel

end Reactor

end Feros
