import Feros.Guarantees.PlaybackEstimate
import Feros.Library.Run
/-! # What waits for the client

A session waits for the client in three places: with the timer of a hang-up, with the idle timer behind a turn
that was spoken, and, where the model speaks itself, with the drain of a hang-up.  All three are computed from
the estimate of the tracker, so they are late enough if the chunks are covered.

* **`AddsFrom`**: what is queued in addition is due at a certain time or later.
* **`TimersWait`, `DrainWaits`**: the delays of a session are late enough. -/

namespace Feros

open Run

/-- What is queued in addition is due at a certain time or later. -/
def AddsFrom (earliest : Instant) (before after : DelayQueue TimerKey) : Prop :=
  ∀ entry ∈ after.entries, entry ∈ before.entries ∨ earliest ≤ entry.deadline

namespace AddsFrom

variable {earliest : Instant} {before after : DelayQueue TimerKey}

/-- Nothing is added. -/
theorem refl (timers : DelayQueue TimerKey) : AddsFrom earliest timers timers := by
  intro entry queued
  exact .inl queued

/-- A timer that is gone is none that was added. -/
theorem erase (adds : AddsFrom earliest before after) (key : Key) : AddsFrom earliest before (after.erase key) := by
  intro entry queued
  exact adds entry (List.mem_filter.1 queued).1

/-- A timer that is removed is none that was added. -/
theorem remove (adds : AddsFrom earliest before after) (key : Key) :
    AddsFrom earliest before (after.remove key) :=
  adds.erase key

/-- A timer is added that is late enough. -/
theorem insert (adds : AddsFrom earliest before after) (value : TimerKey) {deadline : Instant}
    (late : earliest ≤ deadline) : AddsFrom earliest before (after.insert value deadline).2 := by
  intro entry queued
  rcases List.mem_cons.1 queued with rfl | queued
  · exact .inr late
  · exact adds entry queued

/-- The idle timer is added late enough. -/
theorem armIdle (adds : AddsFrom earliest before after) {t : ReengagementTimer} {now : Instant}
    {duration : Duration} (late : earliest ≤ now + duration) :
    AddsFrom earliest before (t.armIdle now duration after).2 := by
  unfold ReengagementTimer.armIdle
  cases t.state with
  | idle => exact adds.insert .userIdle late
  | turnCompletion key isShort => exact adds
  | userIdle key => exact (adds.remove key).insert .userIdle late

/-- A hang-up gives back its timer. -/
theorem releaseHangUp (adds : AddsFrom earliest before after) (phase : HangUpPhase) :
    AddsFrom earliest before (phase.release after) := by
  cases phase with
  | waitingForDelay key => exact adds.remove key
  | idle | waitingForTts => exact adds

/-- A window gives back its timer. -/
theorem releaseWindow (adds : AddsFrom earliest before after) (g : SideEffectToolsGuard) :
    AddsFrom earliest before (g.release after) := by
  unfold SideEffectToolsGuard.release
  cases g.timeoutKey with
  | none => exact adds
  | some key => exact adds.remove key

/-- The reengagement gives back its timer. -/
theorem cancelReengagement (adds : AddsFrom earliest before after) (t : ReengagementTimer) :
    AddsFrom earliest before (t.cancel after).2 := by
  unfold ReengagementTimer.cancel ReengagementTimer.disarm
  cases t.state with
  | idle => exact adds
  | turnCompletion key isShort => exact adds.remove key
  | userIdle key => exact adds.remove key

end AddsFrom

/-! ## The turn coordinator -/

/-- A hold only makes the idle window longer. -/
theorem ReengagementTimer.le_extendByHold (now : Instant) (duration : Duration) (t : ReengagementTimer) :
    duration ≤ (t.extendByHold now duration).1 := by
  unfold ReengagementTimer.extendByHold
  cases t.holdUntil with
  | none => exact le_rfl
  | some holdTime =>
      dsimp only
      split
      · exact Nat.le_add_right _ _
      · exact le_rfl

namespace Coordinator

variable {β : Type} [AgentBackend β] (c : Coordinator β)

/-- The idle timer waits for its offset. -/
theorem addsFrom_startIdleTimer (offset : Duration) (force : Bool) :
    AddsFrom (c.world.now + offset) c.timers (c.startIdleTimer offset force).timers := by
  unfold startIdleTimer
  split
  · exact .refl _
  · split
    · exact .refl _
    · refine (AddsFrom.refl c.timers).armIdle ?_
      refine Nat.add_le_add_left ?_ _
      exact (Nat.le_add_left _ _).trans (ReengagementTimer.le_extendByHold _ _ _)

/-- A shutdown queues nothing. -/
theorem addsFrom_releasedTimers (earliest : Instant) : AddsFrom earliest c.timers c.releasedTimers :=
  (((AddsFrom.refl c.timers).releaseHangUp c.hangUp).releaseWindow c.seGuard).cancelReengagement c.reengagement

/-- **The end of synthesis**: what is queued waits for what remains, and the session is shut down at once only
if nothing does. -/
theorem ttsFinished_waits (remaining : Duration) :
    AddsFrom (c.world.now + remaining) c.timers (c.ttsEvent .finished remaining).timers ∧
      ((c.ttsEvent .finished remaining).shouldExit = true → c.shouldExit = true ∨ remaining = 0) := by
  have idle (d : Coordinator β) (force : Bool) :
      (d.startIdleTimer remaining force).shouldExit = d.shouldExit := by
    unfold startIdleTimer
    split
    · rfl
    · split <;> rfl
  unfold ttsEvent
  dsimp only
  split
  · exact ⟨.refl _, .inl⟩
  · split
    · unfold finishGreeting
      refine ⟨addsFrom_startIdleTimer _ remaining true, fun exits => ?_⟩
      rw [idle] at exits
      exact .inl exits
    · unfold finishSpokenTurn
      split
      · split
        · rename_i nothing
          exact ⟨addsFrom_releasedTimers c.quietTts _, fun _ => .inr nothing⟩
        · exact ⟨(AddsFrom.refl _).insert .hangUpDelay le_rfl, .inl⟩
      · refine ⟨addsFrom_startIdleTimer c.quietTts remaining false, fun exits => ?_⟩
        rw [idle] at exits
        exact .inl exits

end Coordinator

namespace PlaybackTracker

/-! ## What is late enough -/

/-- **The timers of a session wait for the client**: when the chunks have been sent and the synthesis is over,
nothing is queued that is due before the client is done, and the session is not shut down before that. -/
def TimersWait (β : Type) [AgentBackend β] (sampleRate : ℕ) (chunks : List Chunk) : Prop :=
  ∀ (r : Reactor β) (m : Moment β), r.playback = recorded sampleRate chunks → m.input = .tts .finished →
    (∀ entry ∈ (r.step m).timers.entries, entry ∈ r.timers.entries ∨
      clientEnd sampleRate chunks < entry.deadline + 1) ∧
    ((r.step m).shouldExit = true → r.shouldExit = true ∨ clientEnd sampleRate chunks < m.world.now + 1)

/-- The drain of a hang-up waits for the client, or for as long as it may. -/
def Drains (sampleRate : ℕ) (chunks : List Chunk) (s : NativeSession) : Prop :=
  s.playback = recorded sampleRate chunks → ∀ target, s.hangupTarget = some target →
    clientEnd sampleRate chunks < target + 1 ∨ s.hangupMaxTarget = some target

/-- **The drain of a native session waits for the client**, or for as long as it may, in every state of every
run. -/
def DrainWaits (sampleRate : ℕ) (chunks : List Chunk) : Prop :=
  ∀ (config : NativeSessionConfig) (library : ToolLibrary) (decode : String → Except String (List UInt8))
    (agentGraph : Option AgentGraphDef) (systemPrompt : String) (now : Instant)
    (inputs : List (NativeAction × Instant)),
    Drains sampleRate chunks
      (run NativeSession.step (.start config library decode agentGraph systemPrompt now) inputs)

/-- **The client is done** when what remains is over, to the nanosecond. -/
theorem clientEnd_lt {sampleRate : ℕ} {chunks : List Chunk} (covered : Covered sampleRate chunks) (now : Instant) :
    clientEnd sampleRate chunks < (now + (recorded sampleRate chunks).remainingPlayback now : ℕ) + 1 := by
  rcases chunks with _ | ⟨first, rest⟩
  · exact Nat.cast_add_one_pos _
  · obtain ⟨last, isLast⟩ : ∃ last, (first :: rest).getLast? = some last :=
      ⟨_, List.getLast?_eq_some_getLast (List.cons_ne_nil first rest)⟩
    have estimated := (clientEnd_le_estimate_iff sampleRate rfl isLast).2 covered
    have whole := (remainingPlayback_bounds now (recorded sampleRate (first :: rest))).2
    rw [exactRemaining_recorded sampleRate rfl isLast] at whole
    have left := (le_max_right _ _).trans_lt whole
    rw [Nat.cast_add]
    linarith

/-- **If all the chunks are covered, no timer is early.** -/
theorem timersWait_of_covered {β : Type} [AgentBackend β] {sampleRate : ℕ} {chunks : List Chunk}
    (covered : Covered sampleRate chunks) : TimersWait β sampleRate chunks := by
  intro r m sent isEnd
  have done := clientEnd_lt covered m.world.now
  rw [← sent] at done
  have core := Reactor.core_step r m
  have timers : (r.step m).timers = (r.step m).core.timers := rfl
  have exits : (r.step m).shouldExit = (r.step m).core.shouldExit := rfl
  rw [timers, exits, core]
  unfold Coordinator.step
  split
  · exact ⟨fun entry queued => .inl queued, .inl⟩
  · unfold Coordinator.handle
    rw [isEnd]
    dsimp only
    split
    · obtain ⟨adds, stays⟩ := Coordinator.ttsFinished_waits (r.core.setWorld m.world)
        (r.playback.remainingPlayback m.world.now)
      refine ⟨fun entry queued => (adds entry queued).imp_right fun late => ?_, fun exits => ?_⟩
      · have late : ((m.world.now + r.playback.remainingPlayback m.world.now : ℕ) : ℚ) ≤ entry.deadline :=
          Nat.cast_le.2 late
        linarith
      · refine (stays exits).imp_right fun nothing => ?_
        rw [nothing] at done
        exact done
    · exact ⟨fun entry queued => .inl queued, .inl⟩

/-! ## The native drain -/

/-- A step leaves what the drain depends on as it is. -/
structure SameDrain (s t : NativeSession) : Prop where
  playback : t.playback = s.playback
  target : t.hangupTarget = s.hangupTarget
  maxTarget : t.hangupMaxTarget = s.hangupMaxTarget

namespace SameDrain

variable {s t : NativeSession}

/-- Nothing has happened. -/
theorem refl (s : NativeSession) : SameDrain s s := ⟨rfl, rfl, rfl⟩

/-- An event is emitted. -/
theorem emit (same : SameDrain s t) (event : Event) : SameDrain s (t.emit event) :=
  ⟨same.playback, same.target, same.maxTarget⟩

/-- The tracer notes something. -/
theorem withTracer (same : SameDrain s t) (f : Tracer → Tracer × List Event) : SameDrain s (t.withTracer f) := by
  unfold NativeSession.withTracer
  obtain ⟨tracer, events⟩ := f t.tracer
  exact ⟨same.playback, same.target, same.maxTarget⟩

/-- The transcript is flushed. -/
theorem flush (same : SameDrain s t) : SameDrain s t.flushTranscript := by
  unfold NativeSession.flushTranscript
  dsimp only
  split
  · exact ⟨same.playback, same.target, same.maxTarget⟩
  · exact ⟨same.playback, same.target, same.maxTarget⟩

/-- The session ends. -/
theorem ends (same : SameDrain s t) : SameDrain s ({ t with ended := true }.emit .sessionEnded) :=
  ⟨same.playback, same.target, same.maxTarget⟩

/-- The bot stops speaking. -/
theorem hushed (s : NativeSession) : SameDrain s { s with botSpeaking := false } := ⟨rfl, rfl, rfl⟩

end SameDrain

section Drain

variable {sampleRate : ℕ} {chunks : List Chunk} {s t : NativeSession}

/-- A session with the same drain drains as well. -/
theorem drains_of_same (drains : Drains sampleRate chunks s) (same : SameDrain s t) :
    Drains sampleRate chunks t := by
  unfold Drains
  rw [same.playback, same.target, same.maxTarget]
  exact drains

/-- A tracker that was reset has recorded nothing. -/
theorem drains_of_reset (reset : t.playback.firstChunkTs = none) : Drains sampleRate chunks t := by
  intro sent target _
  rw [sent] at reset
  cases chunks with
  | nil => exact .inl (Nat.cast_add_one_pos _)
  | cons first rest =>
      obtain ⟨-, -, firstTs, -⟩ := record_chunks (.new sampleRate) (first :: rest)
      unfold recorded at reset
      rw [reset] at firstTs
      cases firstTs

/-- The hang-up of the agent waits for what was played. -/
theorem drains_handleHangUp (covered : Covered sampleRate chunks) (drains : Drains sampleRate chunks s)
    (now : Instant) : Drains sampleRate chunks (s.handleHangUp now) := by
  unfold NativeSession.handleHangUp
  split
  · exact drains
  · intro sent target isTarget
    have sent : s.playback = recorded sampleRate chunks := sent
    have done := clientEnd_lt covered now
    rw [← sent] at done
    obtain rfl := Option.some.inj isTarget
    rcases le_total (s.playback.remainingPlayback now) (Duration.fromSecs 15) with short | long
    · rw [min_eq_left short]
      exact .inl done
    · rw [min_eq_right long]
      exact .inr rfl

/-- Audio that arrives is waited for. -/
theorem drains_handleBotAudio (covered : Covered sampleRate chunks) (samples : List (BitVec 16)) (now : Instant)
    (s : NativeSession) : Drains sampleRate chunks (s.handleBotAudio samples now) := by
  unfold NativeSession.handleBotAudio
  dsimp only
  generalize (if s.botSpeaking = true then s else
    { s with botSpeaking := true, ttsCursor := s.ttsCursor.beginTurn, playback := s.playback.reset }) = s
  intro sent target isTarget
  have sent : s.playback.record now (s.config.upsample samples).length = recorded sampleRate chunks := sent
  have done := clientEnd_lt covered now
  rw [← sent] at done
  obtain ⟨before, -, isTarget⟩ := Option.map_eq_some_iff.1 isTarget
  rw [← isTarget]
  show _ ∨ s.hangupMaxTarget = _
  cases s.hangupMaxTarget with
  | none => exact .inl done
  | some maxTarget =>
      dsimp only
      split
      · exact .inr rfl
      · exact .inl done

/-- Audio of the user does not matter to the drain. -/
theorem drains_handleMic (drains : Drains sampleRate chunks s) (frames : List (List (BitVec 16)))
    (speechStarted taken : Bool) : Drains sampleRate chunks (s.handleMic frames speechStarted taken) := by
  unfold NativeSession.handleMic
  dsimp only
  have recorded : SameDrain s (if s.config.recordingEnabled then
      { s with emitted := s.emitted ++ frames.map .userAudio } else s) := by
    split <;> exact ⟨rfl, rfl, rfl⟩
  replace drains := drains_of_same drains recorded
  generalize (if s.config.recordingEnabled = true then
    { s with emitted := s.emitted ++ frames.map .userAudio } else s) = s at drains ⊢
  generalize frames.foldl _ s.backend = backend
  have pushed : SameDrain s { s with backend := backend } := ⟨rfl, rfl, rfl⟩
  replace drains := drains_of_same drains pushed
  split
  · have heard := (SameDrain.refl { s with backend := backend }).withTracer (Tracer.trace "SpeechStarted")
    replace drains := drains_of_same drains heard
    generalize { s with backend := backend }.withTracer (Tracer.trace "SpeechStarted") = s at drains ⊢
    split
    · -- The tracker is reset, so there is nothing to wait for.
      unfold NativeSession.bargeIn
      dsimp only
      refine drains_of_same (drains_of_reset ?_)
        ((((SameDrain.refl _).flush.withTracer _).withTracer _).emit _ |>.emit _)
      rfl
    · exact drains
  · exact drains

/-- **An event keeps the drain late enough.** -/
theorem drains_handleEvent (covered : Covered sampleRate chunks) (drains : Drains sampleRate chunks s)
    (event : NativeAgentEvent) (now : Instant) : Drains sampleRate chunks (s.handleEvent event now) := by
  cases event with
  | botAudio samples => exact drains_handleBotAudio covered samples now s
  | hangUp reason => exact drains_handleHangUp covered drains now
  | turnComplete prompt completion =>
      unfold NativeSession.handleEvent NativeSession.handleTurnComplete
      dsimp only
      exact drains_of_same drains (((SameDrain.hushed s).flush.emit _).withTracer _)
  | inputTranscript text isFinal =>
      cases isFinal with
      | true =>
          unfold NativeSession.handleEvent NativeSession.handleInputTranscript
          dsimp only
          rw [if_pos rfl]
          exact drains_of_same drains (((SameDrain.refl s).emit _).withTracer _)
      | false => exact drains_of_same drains ⟨rfl, rfl, rfl⟩
  | outputTranscript text isFinal =>
      refine drains_of_same drains ?_
      unfold NativeSession.handleEvent NativeSession.handleOutputTranscript
      dsimp only
      split
      · exact ⟨rfl, rfl, rfl⟩
      · split <;> exact ⟨rfl, rfl, rfl⟩
  | toolCallStarted | toolCallCompleted | error => exact drains_of_same drains ⟨rfl, rfl, rfl⟩

/-- Choosing a branch leaves what the drain depends on as it is. -/
theorem sameDrain_select (action : NativeAction) (s : NativeSession) : SameDrain s (s.select action).2 := by
  have proceeded (reconnects : Bool) (result : NativeMultimodalBackend × NativeStatus) :
      SameDrain s (s.proceed reconnects result).2 := by
    obtain ⟨backend, (_ | event) | point⟩ := result
    · cases reconnects with
      | true => exact ⟨rfl, rfl, rfl⟩
      | false => exact ⟨rfl, rfl, rfl⟩
    · exact ⟨rfl, rfl, rfl⟩
    · exact ⟨rfl, rfl, rfl⟩
  unfold NativeSession.select
  split
  · exact ⟨rfl, rfl, rfl⟩
  · cases action with
    | mic | micClosed => exact ⟨rfl, rfl, rfl⟩
    | poll | hangupElapsed | toolDone =>
        dsimp only
        split <;> exact ⟨rfl, rfl, rfl⟩
    | wake wake reconnects =>
        dsimp only
        split
        · exact proceeded reconnects _
        · exact ⟨rfl, rfl, rfl⟩

/-- **A turn of the loop** keeps the drain late enough. -/
theorem drains_step (covered : Covered sampleRate chunks) (drains : Drains sampleRate chunks s)
    (input : NativeAction × Instant) : Drains sampleRate chunks (s.step input) := by
  have chosen := drains_of_same drains (sameDrain_select input.1 s)
  unfold NativeSession.step
  generalize s.select input.1 = choice at chosen ⊢
  obtain ⟨occurrence, s⟩ := choice
  cases occurrence with
  | event event => exact drains_handleEvent covered chosen event input.2
  | mic frames speechStarted taken => exact drains_handleMic chosen frames speechStarted taken
  | hangupElapsed =>
      show Drains sampleRate chunks s.handleHangupElapsed
      exact drains_of_same chosen ((SameDrain.refl s).flush.withTracer _).ends
  | reconnected =>
      show Drains sampleRate chunks s.handleReconnected
      exact drains_of_same chosen ((SameDrain.hushed s).withTracer _)
  | reconnectFailed | micClosed => exact drains_of_same chosen (SameDrain.refl s).ends
  | nothing => exact chosen

/-- **If all the chunks are covered, no drain is early.** -/
theorem drainWaits_of_covered (covered : Covered sampleRate chunks) : DrainWaits sampleRate chunks := by
  intro config library decode agentGraph systemPrompt now inputs
  have starts : Drains sampleRate chunks (.start config library decode agentGraph systemPrompt now) :=
    drains_of_reset rfl
  have keeps (s : NativeSession) (input : NativeAction × Instant) (drains : Drains sampleRate chunks s) :
      Drains sampleRate chunks (s.step input) := drains_step covered drains input
  exact invariant_of_step keeps starts inputs

end Drain

/-- **The estimate of the tracker suffices**, for itself and for the delays that are computed from it, if and only
if the chunks are covered. -/
theorem estimate_suffices_iff (β : Type) [AgentBackend β] (sampleRate : ℕ) (chunks : List Chunk) :
    (NeverShort sampleRate chunks ∧ TimersWait β sampleRate chunks ∧ DrainWaits sampleRate chunks) ↔
      Covered sampleRate chunks := by
  constructor
  · rintro ⟨never, -, -⟩
    exact (never_short_iff sampleRate chunks).1 never
  · intro covered
    refine ⟨?_, ?_, ?_⟩
    · exact (never_short_iff sampleRate chunks).2 covered
    · exact timersWait_of_covered covered
    · exact drainWaits_of_covered covered

/-- One second of audio, and ten seconds of audio that come ten seconds later: three seconds are estimated when
the client has ten to play. -/
theorem estimate_short :
    let chunks : List Chunk := [(0, 48000), (10000000000, 480000)]
    (chunks.map Prod.fst).Pairwise (· ≤ ·) ∧
      (recorded 24000 chunks).remainingPlayback 10000000000 = 3000000000 ∧
      stillPlays 24000 chunks 10000000000 = 10000000000 ∧ ¬ NeverShort 24000 chunks := by
  intro chunks
  have plays : stillPlays 24000 chunks 10000000000 = 10000000000 := by
    rw [stillPlays, if_neg (List.cons_ne_nil _ _)]
    norm_num [clientEnd, chunks, InOrder.finishFrom, job, duration]
  have estimated : (recorded 24000 chunks).exactRemaining 10000000000 = 3000000000 := by
    rw [exactRemaining_recorded 24000 rfl rfl]
    norm_num [lasts, chunks, job, duration, playbackBuffer, Duration.fromMillis]
  refine ⟨by decide, by decide, plays, ?_⟩
  intro never
  have short := never 10000000000 fun last isLast => by
    obtain rfl := Option.some.inj isLast
    norm_num
  rw [plays, estimated] at short
  norm_num at short

end PlaybackTracker

end Feros
