import Mathlib.Algebra.Order.Group.Multiset
import Mathlib.Tactic.Abel
import Feros.Coordinator.Runs
import Feros.Coordinator.Specs
/-! # Who owns which timer

The keys of the one delay queue are spread over four owners: the turn phase, the re-engagement
machine, the side-effect window and the hang-up phase.  The queue is accounted for by what the
owners hold and by `strays`, entries nobody owns any more.  The only strays are hang-up delays, and
the only way to make one is to hang up again while the delay of a hang-up runs. -/

namespace Feros

/-! ## The owners -/

section Owners

variable {timers : DelayQueue TimerKey} {rest : Multiset (Key × TimerKey)}

/-- The phase gives back its timer. -/
theorem TurnPhase.ownedBy_release {phase : TurnPhase} (h : timers.OwnedBy (phase.owned + rest)) :
    (phase.release timers).OwnedBy rest := by
  cases phase with
  | waitingForTranscript key | eotFallback key => exact h.remove
  | listening | userSpeaking active | transcriptTimedOut | bargeInWordCount =>
    exact h.congr (Multiset.zero_add rest)

/-- The hang-up gives back its timer. -/
theorem HangUpPhase.ownedBy_release {phase : HangUpPhase}
    (h : timers.OwnedBy (phase.owned + rest)) : (phase.release timers).OwnedBy rest := by
  cases phase with
  | waitingForDelay key => exact h.remove
  | idle | waitingForTts => exact h.congr (Multiset.zero_add rest)

/-- The window of a side effect gives back its timer. -/
theorem SideEffectToolsGuard.ownedBy_release {g : SideEffectToolsGuard}
    (h : timers.OwnedBy (g.owned + rest)) : (g.release timers).OwnedBy rest := by
  unfold SideEffectToolsGuard.owned at h
  unfold SideEffectToolsGuard.release
  cases key : g.timeoutKey with
  | some key' =>
    rw [key] at h
    exact h.remove
  | none =>
    rw [key] at h
    exact h.congr (Multiset.zero_add rest)

namespace ReengagementTimer

variable {t : ReengagementTimer}

/-- Disarming gives back the timer. -/
theorem ownedBy_disarm (h : timers.OwnedBy (t.owned + rest)) :
    (t.disarm timers).2.OwnedBy ((t.disarm timers).1.owned + rest) := by
  unfold owned at h
  unfold disarm
  cases state : t.state with
  | turnCompletion key isShort | userIdle key =>
    rw [state] at h
    exact h.remove.congr (Multiset.zero_add rest).symm
  | idle =>
    rw [state] at h
    exact h

/-- Nothing is owned when it is disarmed. -/
theorem disarm_owned : (t.disarm timers).1.owned = 0 := by
  unfold disarm
  cases t.state <;> rfl

/-- Cancelling gives back the timer. -/
theorem ownedBy_cancel (h : timers.OwnedBy (t.owned + rest)) :
    (t.cancel timers).2.OwnedBy rest := by
  have disarmed := ownedBy_disarm h
  rw [disarm_owned, Multiset.zero_add] at disarmed
  exact disarmed

/-- The wait for the rest of a turn owns its timer. -/
theorem ownedBy_armTurnCompletion {now : Instant} {duration : Duration} {isShort : Bool}
    (h : timers.OwnedBy (t.owned + rest)) :
    (t.armTurnCompletion now duration isShort timers).2.OwnedBy
      ((t.armTurnCompletion now duration isShort timers).1.owned + rest) := by
  have disarmed := ownedBy_disarm h
  rw [disarm_owned, Multiset.zero_add] at disarmed
  exact disarmed.insert .turnCompletion (now + duration)

/-- The idle timer is owned when it is armed. -/
theorem ownedBy_armIdle {now : Instant} {duration : Duration}
    (h : timers.OwnedBy (t.owned + rest)) :
    (t.armIdle now duration timers).2.OwnedBy
      ((t.armIdle now duration timers).1.owned + rest) := by
  unfold armIdle
  cases state : t.state with
  | turnCompletion key isShort => exact h
  | userIdle key =>
    unfold owned at h
    rw [state] at h
    exact h.remove.insert .userIdle (now + duration)
  | idle =>
    unfold owned at h
    rw [state, Multiset.zero_add] at h
    exact h.insert .userIdle (now + duration)

/-- The hold barrier has nothing to do with the armed timer. -/
theorem owned_extendByHold {now : Instant} {duration : Duration} :
    (t.extendByHold now duration).2.owned = t.owned := by
  unfold extendByHold
  cases t.holdUntil with
  | none => rfl
  | some holdTime =>
    dsimp only
    split <;> rfl

end ReengagementTimer

end Owners

/-! ## The coordinator -/

namespace Coordinator

variable {β : Type} [AgentBackend β]

/-- **The accounts**: the queue is what the four owners hold and the strays. -/
def Accounted (strays : Multiset (Key × TimerKey)) (c : Coordinator β) : Prop :=
  c.timers.OwnedBy
    (c.turnPhase.owned + (c.reengagement.owned + (c.seGuard.owned + (c.hangUp.owned + strays))))

namespace Accounted

variable {strays : Multiset (Key × TimerKey)} {c d : Coordinator β}

/-- The idle timer is accounted for. -/
theorem startIdleTimer {offset : Duration} {force : Bool} (h : c.Accounted strays) :
    (c.startIdleTimer offset force).Accounted strays := by
  unfold Coordinator.startIdleTimer
  split
  · exact h
  · split
    · exact h
    · have front := h.congr (add_left_comm _ _ _)
      rw [← ReengagementTimer.owned_extendByHold] at front
      exact (ReengagementTimer.ownedBy_armIdle front).congr (add_left_comm _ _ _)

/-- A cancelled pipeline owns nothing, and gives everything back. -/
theorem cancelPipeline (h : c.Accounted strays) : c.cancelPipeline.Accounted strays := by
  have hangUp := h.congr (show _ = c.hangUp.owned + (c.seGuard.owned + (c.reengagement.owned +
    (c.turnPhase.owned + strays))) by abel)
  have released := ReengagementTimer.ownedBy_cancel
    (SideEffectToolsGuard.ownedBy_release (HangUpPhase.ownedBy_release hangUp))
  exact released.congr (by simp [Coordinator.cancelPipeline, ReengagementTimer.default,
    ReengagementTimer.owned, SideEffectToolsGuard.default, SideEffectToolsGuard.owned,
    HangUpPhase.owned])

/-- A shutdown accounts for the timers. -/
theorem initiateShutdown (h : c.Accounted strays) : c.initiateShutdown.Accounted strays :=
  h.cancelPipeline

/-- A turn of the TTS owns no timer. -/
theorem startTtsForTurn (h : c.Accounted strays) : c.startTtsForTurn.Accounted strays := by
  cases speaking : c.turnPhase.isSpeaking with
  | true =>
    have asked : (c.leave (.startTts true)).Accounted strays := h
    rw [startTtsForTurn_of_speaking speaking]
    exact asked.cancelPipeline
  | false =>
    rw [startTtsForTurn_of_quiet speaking]
    exact h

/-- A turn of the LLM owns no timer. -/
theorem startLlm (h : c.Accounted strays) : c.startLlm.Accounted strays := by
  unfold Coordinator.startLlm
  dsimp only
  split
  · exact h
  · exact Accounted.startIdleTimer h

/-- What is prepared for a turn accounts for the timers. -/
theorem prepareTurn (h : c.Accounted strays) : c.prepareTurn.Accounted strays :=
  (ReengagementTimer.ownedBy_disarm (h.congr (add_left_comm _ _ _))).congr (add_left_comm _ _ _)

/-- A turn that starts accounts for the timers. -/
theorem startLlmTurn (h : c.Accounted strays) : c.startLlmTurn.Accounted strays := by
  unfold Coordinator.startLlmTurn
  split
  · exact h.prepareTurn.startTtsForTurn
  · exact h.prepareTurn.startTtsForTurn.startLlm

/-- A text that is committed accounts for the timers. -/
theorem commitTurnText {text : String} (h : c.Accounted strays) :
    (c.commitTurnText text).Accounted strays :=
  Accounted.startLlmTurn h

/-- A transcript that was deferred accounts for the timers. -/
theorem replayDeferred {text : String} (h : c.Accounted strays) :
    (c.replayDeferred text).Accounted strays :=
  Accounted.startLlmTurn h.cancelPipeline

/-- A nudge accounts for the timers. -/
theorem startNudgeTurn {nudge : String} (h : c.Accounted strays) :
    (c.startNudgeTurn nudge).Accounted strays := by
  have started : ((c.addUserMessage nudge).startLlmTurn).Accounted strays :=
    Accounted.startLlmTurn h
  unfold Coordinator.startNudgeTurn
  rw [skipMarkerCheck_eq]
  exact started

/-- What the phase owned is given back before the phase is left. -/
theorem leavePhase (h : c.Accounted strays) :
    (c.turnPhase.release c.timers).OwnedBy
      (c.reengagement.owned + (c.seGuard.owned + (c.hangUp.owned + strays))) :=
  TurnPhase.ownedBy_release h

/-- Listening accounts for the timers. -/
theorem listen (h : c.Accounted strays) : c.listen.Accounted strays :=
  h.leavePhase.congr (zero_add _).symm

/-- An answer in progress accounts for the timers. -/
theorem engage (h : c.Accounted strays) : c.engage.Accounted strays := by
  have cancelled := ReengagementTimer.ownedBy_cancel (h.congr (add_left_comm _ _ _))
  exact cancelled.congr (by rw [show c.engage.reengagement.owned = 0 from rfl, zero_add]; rfl)

/-- Speech that begins accounts for the timers. -/
theorem beginSpeech {active : Bool} (h : c.Accounted strays) :
    (c.beginSpeech active).Accounted strays := by
  unfold Coordinator.beginSpeech
  split
  · exact h
  · exact h.leavePhase.congr (zero_add _).symm

/-- Waiting for a transcript needs a phase that owns nothing. -/
theorem waitForTranscript
    (h : c.timers.OwnedBy
      (c.reengagement.owned + (c.seGuard.owned + (c.hangUp.owned + strays)))) :
    c.waitForTranscript.Accounted strays :=
  h.insert _ _

/-- The wait for the end of a turn owns its timer, when the phase owns none. -/
theorem startEotFallback
    (h : c.timers.OwnedBy
      (c.reengagement.owned + (c.seGuard.owned + (c.hangUp.owned + strays)))) :
    c.startEotFallback.Accounted strays :=
  h.insert _ _

/-- The wait for the rest of a turn is accounted for. -/
theorem armTurnCompletionWait {marker : TurnCompletion} (h : c.Accounted strays) :
    (c.armTurnCompletionWait marker).Accounted strays :=
  (ReengagementTimer.ownedBy_armTurnCompletion (h.congr (add_left_comm _ _ _))).congr
    (add_left_comm _ _ _)

/-- A suppressed response owns no timer. -/
theorem saveSuppressedResponse {content : Option String} (h : c.Accounted strays) :
    (c.saveSuppressedResponse content).Accounted strays := by
  unfold Coordinator.saveSuppressedResponse
  cases content with
  | none => exact h
  | some text =>
    dsimp only
    split <;> exact h

/-- The watchdog is replaced by a fresh one. -/
theorem toolCallStarted {id name : String} {sideEffect : Bool} (h : c.Accounted strays) :
    (c.toolCallStarted id name sideEffect).Accounted strays := by
  unfold Coordinator.toolCallStarted
  split
  · have front := h.congr (show _ = c.seGuard.owned + (c.turnPhase.owned +
      (c.reengagement.owned + (c.hangUp.owned + strays))) by abel)
    exact ((SideEffectToolsGuard.ownedBy_release front).insert _ _).congr (by
      simp only [SideEffectToolsGuard.toolStarted, SideEffectToolsGuard.setWatchdogKey,
        SideEffectToolsGuard.owned]
      abel)
  · exact h

/-- A hang-up phase that is overwritten leaves its entry behind. -/
theorem overwriteHangUp {phase : HangUpPhase} (nothing : phase.owned = 0)
    (h : c.Accounted strays) : (c.setHangUp phase).Accounted (c.hangUp.owned + strays) := by
  refine h.congr ?_
  rw [show (c.setHangUp phase).hangUp.owned = 0 from nothing, zero_add]
  rfl

/-- Buffering a transcript has nothing to do with the watchdog. -/
theorem bufferTranscript {text : String} (h : c.Accounted strays) :
    (c.bufferTranscript text).Accounted strays := by
  have same : (c.seGuard.bufferTranscript text).owned = c.seGuard.owned := by
    unfold SideEffectToolsGuard.bufferTranscript
    split <;> rfl
  unfold Coordinator.bufferTranscript Accounted
  generalize c.seGuard.bufferTranscript text = guard at same ⊢
  exact h.congr (by rw [← same])

/-- While other tools are in flight the watchdog stays. -/
theorem countTool {id : String} (more : 1 < c.seGuard.inFlight) (h : c.Accounted strays) :
    (c.countTool id).Accounted strays := by
  have others : 0 < c.seGuard.inFlight - 1 := by omega
  have same : (c.seGuard.toolCompleted id).1.owned = c.seGuard.owned := by
    simp only [SideEffectToolsGuard.toolCompleted, if_pos others]
    rfl
  exact h.congr (by
    rw [← same]
    rfl)

/-- The end of the window gives the watchdog back. -/
theorem endWindow {id : String} (last : c.seGuard.inFlight ≤ 1) (h : c.Accounted strays) :
    (c.endWindow id).Accounted strays := by
  have none_left : ¬ 0 < c.seGuard.inFlight - 1 := by omega
  have nothing : (c.seGuard.toolCompleted id).1.owned = 0 := by
    simp only [SideEffectToolsGuard.toolCompleted, if_neg none_left]
    rfl
  have front := h.congr (show _ = c.seGuard.owned + (c.turnPhase.owned + (c.reengagement.owned +
    (c.hangUp.owned + strays))) by abel)
  refine (SideEffectToolsGuard.ownedBy_release front).congr ?_
  rw [show (c.endWindow id).seGuard.owned = 0 from nothing, zero_add]
  rfl

/-- The hang-up delay starts. -/
theorem delayHangUp {remaining : Duration} (pending : c.hangUp = .waitingForTts)
    (h : c.Accounted strays) : (c.delayHangUp remaining).Accounted strays := by
  unfold Accounted at h
  rw [pending] at h
  refine (h.insert .hangUpDelay (c.world.now + remaining)).congr ?_
  simp only [Coordinator.delayHangUp, HangUpPhase.owned, zero_add]
  abel

end Accounted

/-! ## Fired timers -/

/-- An owner holds an entry exactly if it is the key it waits for. -/
theorem mem_owned_iff_awaited {c : Coordinator β} {key : Key} {value : TimerKey} :
    (key, value) ∈ c.turnPhase.owned + (c.reengagement.owned + (c.seGuard.owned +
      c.hangUp.owned)) ↔ c.awaited value = some key := by
  have phase : (key, value) ∈ c.turnPhase.owned ↔
      (value = .sttTimeout ∧ c.turnPhase = .waitingForTranscript key) ∨
      (value = .endOfTurnFallback ∧ c.turnPhase = .eotFallback key) := by
    cases c.turnPhase <;> simp [TurnPhase.owned, and_comm, eq_comm]
  have reengagement : (key, value) ∈ c.reengagement.owned ↔
      (value = .turnCompletion ∧ ∃ isShort, c.reengagement.state = .turnCompletion key isShort) ∨
      (value = .userIdle ∧ c.reengagement.state = .userIdle key) := by
    unfold ReengagementTimer.owned
    cases c.reengagement.state <;> simp [and_comm, eq_comm]
  have seGuard : (key, value) ∈ c.seGuard.owned ↔
      value = .sideEffectTimeout ∧ c.seGuard.timeoutKey = some key := by
    unfold SideEffectToolsGuard.owned
    cases c.seGuard.timeoutKey <;> simp [and_comm, eq_comm]
  have hangUp : (key, value) ∈ c.hangUp.owned ↔
      value = .hangUpDelay ∧ c.hangUp = .waitingForDelay key := by
    cases c.hangUp <;> simp [HangUpPhase.owned, and_comm, eq_comm]
  rw [Multiset.mem_add, Multiset.mem_add, Multiset.mem_add, phase, reengagement, seGuard, hangUp]
  unfold Coordination.awaited
  cases value with
  | endOfTurnFallback | sttTimeout => cases c.turnPhase <;> simp
  | turnCompletion | userIdle => cases c.reengagement.state <;> simp
  | sideEffectTimeout => simp
  | hangUpDelay => cases c.hangUp <;> simp

/-- All strays are hang-up delays. -/
def OnlyDelays (strays : Multiset (Key × TimerKey)) : Prop :=
  ∀ entry ∈ strays, entry.2 = .hangUpDelay

/-- Only delays of hang-ups are stray, also with the one of the phase. -/
theorem onlyDelays_add {phase : HangUpPhase} {strays : Multiset (Key × TimerKey)}
    (delays : OnlyDelays strays) : OnlyDelays (phase.owned + strays) := by
  intro entry mem
  rcases Multiset.mem_add.1 mem with owned | stray
  · cases phase with
    | waitingForDelay key => exact congrArg Prod.snd (Multiset.mem_singleton.1 owned)
    | idle | waitingForTts => exact absurd owned (Multiset.notMem_zero _)
  · exact delays entry stray

section Fired

variable {strays : Multiset (Key × TimerKey)} {c : Coordinator β} {key : Key}
  {entry : Delayed TimerKey}

/-- What fires was awaited, or is a stray hang-up delay. -/
theorem awaited_of_due (h : c.Accounted strays) (delays : OnlyDelays strays)
    (due : c.timers.due key c.world.now = some entry) :
    c.awaited entry.value = some key ∨
      entry.value = .hangUpDelay ∧ (key, .hangUpDelay) ∈ strays := by
  have mem := h.mem_of_due due
  rw [← add_assoc, ← add_assoc, ← add_assoc, Multiset.mem_add, add_assoc, add_assoc,
    mem_owned_iff_awaited] at mem
  refine mem.imp_right fun stray => ?_
  have value : entry.value = .hangUpDelay := delays _ stray
  exact ⟨value, value ▸ stray⟩

/-- A timer other than a hang-up delay was awaited. -/
theorem awaited_of_due_ne (h : c.Accounted strays) (delays : OnlyDelays strays)
    (due : c.timers.due key c.world.now = some entry) {value : TimerKey}
    (is : entry.value = value) (ne : value ≠ .hangUpDelay) : c.awaited value = some key := by
  rcases awaited_of_due h delays due with awaited | ⟨delay, -⟩
  · exact is ▸ awaited
  · exact absurd (is.symm.trans delay) ne

/-- A stray delay is gone when it fires. -/
theorem fired_stray {rest : Multiset (Key × TimerKey)}
    (h : c.Accounted ((key, .hangUpDelay) ::ₘ rest)) : (c.fired key).Accounted rest := by
  have front := h.congr (show _ = {(key, TimerKey.hangUpDelay)} + (c.turnPhase.owned +
    (c.reengagement.owned + (c.seGuard.owned + (c.hangUp.owned + rest)))) by
      rw [← Multiset.singleton_add]
      abel)
  exact front.erase

/-- The turn phase has lost its timer. -/
theorem fired_phase (h : c.Accounted strays) {value : TimerKey}
    (owns : c.turnPhase.owned = {(key, value)}) :
    (c.fired key).timers.OwnedBy
      (c.reengagement.owned + (c.seGuard.owned + (c.hangUp.owned + strays))) := by
  unfold Accounted at h
  rw [owns] at h
  exact h.erase

/-- The re-engagement machine has lost its timer. -/
theorem fired_reengagement (h : c.Accounted strays) {value : TimerKey}
    (owns : c.reengagement.owned = {(key, value)}) {reengagement : ReengagementTimer}
    (rests : reengagement.state = .idle) :
    ((c.fired key).setReengagement reengagement).Accounted strays := by
  have nothing : reengagement.owned = 0 := by
    unfold ReengagementTimer.owned
    rw [rests]
  unfold Accounted at h
  rw [owns] at h
  have erased := (h.congr (add_left_comm _ _ _)).erase
  exact erased.congr (by
    rw [show ((c.fired key).setReengagement reengagement).reengagement.owned = 0 from nothing,
      zero_add]
    rfl)

/-- The timer of an incomplete turn is gone when it fires. -/
theorem fired_completion (h : c.Accounted strays) (delays : OnlyDelays strays)
    (due : c.timers.due key c.world.now = some entry) (value : entry.value = .turnCompletion)
    {isShort : Bool} {reengagement : ReengagementTimer}
    (fires : c.reengagement.onTurnCompletionFired = some (isShort, reengagement)) :
    ((c.fired key).setReengagement reengagement).Accounted strays := by
  have awaited := awaited_of_due_ne h delays due value nofun
  unfold Coordination.awaited at awaited
  unfold ReengagementTimer.onTurnCompletionFired at fires
  cases state : c.reengagement.state with
  | turnCompletion owned isShort =>
    rw [state] at awaited fires
    cases awaited
    cases fires
    have owns : c.reengagement.owned = {(key, .turnCompletion)} := by
      unfold ReengagementTimer.owned
      rw [state]
    exact fired_reengagement h owns rfl
  | idle | userIdle owned =>
    rw [state] at fires
    cases fires

/-- The idle timer is gone when it fires. -/
theorem fired_idle (h : c.Accounted strays) (delays : OnlyDelays strays)
    (due : c.timers.due key c.world.now = some entry) (value : entry.value = .userIdle)
    {retryCount : ℕ} {reengagement : ReengagementTimer}
    (fires : c.reengagement.onUserIdleFired = some (retryCount, reengagement)) :
    ((c.fired key).setReengagement reengagement).Accounted strays := by
  have awaited := awaited_of_due_ne h delays due value nofun
  unfold Coordination.awaited at awaited
  unfold ReengagementTimer.onUserIdleFired at fires
  cases state : c.reengagement.state with
  | userIdle owned =>
    rw [state] at awaited fires
    cases awaited
    cases fires
    have owns : c.reengagement.owned = {(key, .userIdle)} := by
      unfold ReengagementTimer.owned
      rw [state]
    exact fired_reengagement h owns rfl
  | idle | turnCompletion owned isShort =>
    rw [state] at fires
    cases fires

/-- The watchdog is gone when it fires, with the window. -/
theorem fired_watchdog (h : c.Accounted strays) (delays : OnlyDelays strays)
    (due : c.timers.due key c.world.now = some entry)
    (value : entry.value = .sideEffectTimeout) :
    (c.fired key).closeWindow.Accounted strays := by
  have awaited : c.seGuard.timeoutKey = some key := awaited_of_due_ne h delays due value nofun
  have owns : c.seGuard.owned = {(key, .sideEffectTimeout)} := by
    unfold SideEffectToolsGuard.owned
    rw [awaited]
  unfold Accounted at h
  rw [owns] at h
  have front := h.congr (show _ = {(key, TimerKey.sideEffectTimeout)} + (c.turnPhase.owned +
    (c.reengagement.owned + (0 + (c.hangUp.owned + strays)))) by
      rw [zero_add]
      abel)
  exact front.erase

/-- After a hang-up delay has fired nothing but other delays is unaccounted for. -/
theorem fired_delay (h : c.Accounted strays) (delays : OnlyDelays strays)
    (due : c.timers.due key c.world.now = some entry) (value : entry.value = .hangUpDelay) :
    ∃ strays', OnlyDelays strays' ∧ (c.fired key).hangUpDelayFired.Accounted strays' ∧
      (strays = 0 → strays' = 0) := by
  have nothing : c.hangUp.delayOver.owned = 0 := by cases c.hangUp <;> rfl
  rcases awaited_of_due h delays due with awaited | ⟨-, stray⟩
  · rw [value] at awaited
    unfold Coordination.awaited at awaited
    refine ⟨strays, delays, Accounted.initiateShutdown ?_, id⟩
    cases phase : c.hangUp with
    | waitingForDelay owned =>
      rw [phase] at awaited
      cases awaited
      unfold Accounted at h
      rw [phase] at h
      have front := h.congr (show _ = {(key, TimerKey.hangUpDelay)} + (c.turnPhase.owned +
        (c.reengagement.owned + (c.seGuard.owned + (0 + strays)))) by
          rw [zero_add, HangUpPhase.owned]
          abel)
      exact front.erase.congr (by
        rw [← nothing]
        rfl)
    | idle | waitingForTts =>
      rw [phase] at awaited
      cases awaited
  · obtain ⟨rest, rfl⟩ := Multiset.exists_cons_of_mem stray
    refine ⟨c.hangUp.owned + rest, ?_, ?_, ?_⟩
    · exact onlyDelays_add (fun e mem => delays e (Multiset.mem_cons_of_mem mem))
    · exact Accounted.initiateShutdown ((fired_stray h).overwriteHangUp nothing)
    · exact fun nil => absurd nil (Multiset.cons_ne_zero)

end Fired

end Coordinator

/-! ## Runs -/

/-- The delay of a hang-up runs. -/
def HangUpPhase.isDelayed : HangUpPhase → Bool
  | .waitingForDelay _ => true
  | _ => false

/-- The agent ends the call. -/
def LlmEvent.isHangUp : LlmEvent → Bool
  | .hangUp _ _ => true
  | _ => false

/-- **The agent hangs up again** while the delay of a hang-up runs. -/
def Coordination.hangsUpAgain {β : Type} [AgentBackend β] (c : Coordination β)
    (input : Input β) : Bool :=
  c.hangUp.isDelayed && (c.yielded input).any LlmEvent.isHangUp

namespace Coordinator

variable {β : Type} [AgentBackend β]

/-- A first hang-up leaves nothing behind. -/
theorem owned_of_first {c : Coordinator β} {poll : AgentBackend.Poll β} {llm : β}
    {reason : String} {content : Option String} (active : AgentBackend.isActive c.llm = true)
    (yields : LlmStage.recv poll c.llm = (some (.hangUp reason content), llm))
    (first : c.hangsUpAgain (.llm poll) = false) : c.hangUp.owned = 0 := by
  unfold Coordination.hangsUpAgain at first
  rw [Coordination.yielded_of_recv active yields] at first
  cases phase : c.hangUp with
  | idle | waitingForTts => rfl
  | waitingForDelay key =>
    rw [phase] at first
    cases first

/-- **Every outcome keeps the accounts**, up to a stray delay when the agent hangs up again. -/
theorem Accounted.outcome {strays : Multiset (Key × TimerKey)} {c d : Coordinator β}
    {input : Input β} (h : c.Accounted strays) (delays : OnlyDelays strays)
    (o : Outcome c input d) :
    ∃ strays', OnlyDelays strays' ∧ d.Accounted strays' ∧
      (strays = 0 → c.hangsUpAgain input = false → strays' = 0) := by
  have keep : d.Accounted strays → ∃ strays', OnlyDelays strays' ∧ d.Accounted strays' ∧
      (strays = 0 → c.hangsUpAgain input = false → strays' = 0) :=
    fun kept => ⟨strays, delays, kept, fun nil _ => nil⟩
  have heard : ∀ text, (c.leave (.transcript text)).listen.Accounted strays :=
    fun _ => Accounted.listen h
  have overwritten : (c.setHangUp .waitingForTts).Accounted (c.hangUp.owned + strays) :=
    h.overwriteHangUp rfl
  cases o with
  | nothing | unheard _ | noEvent _ _ | streamed _ _ | finished _ _ | reported _ _
  | audioSent _ _ | roundSpoken _ _ => exact keep h
  | engaged _ => exact keep h.engage
  | speechBegun _ _ => exact keep h.engage.beginSpeech
  | shielded _ => exact keep h.listen
  | awaiting _ phase =>
    have free := h.leavePhase
    rw [phase] at free
    exact keep (waitForTranscript free)
  | heldBack _ phase =>
    have free := h.leavePhase
    rw [phase] at free
    exact keep (startEotFallback free)
  | talkedOver _ phase =>
    have free := h.leavePhase
    rw [phase] at free
    have waiting : (c.setTurnPhase .bargeInWordCount).Accounted strays :=
      free.congr (zero_add _).symm
    exact keep waiting.cancelPipeline
  | buffered _ _ => exact keep (Accounted.bufferTranscript h)
  | blankTurn _ _ _ _ => exact keep (Accounted.startIdleTimer (heard _))
  | turnCommitted _ _ _ _ _ => exact keep (Accounted.commitTurnText (heard _))
  | bargeInCommitted _ _ _ _ | lateCommitted _ _ _ _ =>
    exact keep (Accounted.commitTurnText (heard _))
  | bargeInRejected _ _ _ _ => exact keep (Accounted.startIdleTimer (heard _))
  | lateDropped _ _ _ _ => exact keep (heard _)
  | suppressed _ _ _ _ => exact keep (Accounted.armTurnCompletionWait h)
  | toolStarted _ _ => exact keep (Accounted.toolCallStarted h)
  | toolCounted _ _ more => exact keep (Accounted.countTool more h)
  | windowEnded _ _ last _ => exact keep (Accounted.endWindow last h)
  | windowReplayed _ _ last _ =>
    exact keep (Accounted.replayDeferred (Accounted.endWindow last h))
  | suppressedFinished _ _ _ =>
    exact keep (Accounted.startIdleTimer (Accounted.saveSuppressedResponse h))
  | lateSuppressed _ _ _ _ =>
    exact keep (Accounted.saveSuppressedResponse (Accounted.armTurnCompletionWait h))
  | llmFailed _ _ | held _ _ => exact keep (Accounted.startIdleTimer h)
  | hangUpPending active yields _ =>
    refine ⟨_, onlyDelays_add delays, overwritten, fun nil first => ?_⟩
    rw [nil, owned_of_first active yields first, add_zero]
  | hungUp active yields _ =>
    refine ⟨_, onlyDelays_add delays, Accounted.initiateShutdown overwritten,
      fun nil first => ?_⟩
    rw [nil, owned_of_first active yields first, add_zero]
  | greetingSpoken _ _ _ _ | turnSpoken _ _ _ _ _ | ttsFailed _ =>
    exact keep (Accounted.startIdleTimer h)
  | goodbyePlayed _ _ _ _ => exact keep (Accounted.initiateShutdown h)
  | goodbyeSpoken _ _ _ _ pending => exact keep (Accounted.delayHangUp pending h)
  | staleTimer due stale =>
    rcases awaited_of_due h delays due with awaited | ⟨-, stray⟩
    · rw [stale] at awaited
      cases awaited
    · obtain ⟨rest, rfl⟩ := Multiset.exists_cons_of_mem stray
      exact ⟨rest, fun e mem => delays e (Multiset.mem_cons_of_mem mem), fired_stray h,
        fun nil _ => absurd nil Multiset.cons_ne_zero⟩
  | fallbackFired due value phase =>
    have awaited := awaited_of_due_ne h delays due value nofun
    unfold Coordination.awaited at awaited
    rw [phase] at awaited
    cases awaited
    exact keep (waitForTranscript (fired_phase h (congrArg TurnPhase.owned phase)))
  | transcriptOverdue due value phase =>
    have awaited := awaited_of_due_ne h delays due value nofun
    unfold Coordination.awaited at awaited
    rw [phase] at awaited
    cases awaited
    have free := fired_phase h (congrArg TurnPhase.owned phase)
    exact keep (Accounted.startIdleTimer (free.congr (zero_add _).symm))
  | waitOvertaken due value fires _ => exact keep (fired_completion h delays due value fires)
  | responseReplayed due value fires _ _ =>
    exact keep (Accounted.startTtsForTurn (fired_completion h delays due value fires))
  | waitNudged due value fires _ _ =>
    exact keep (Accounted.startNudgeTurn (fired_completion h delays due value fires))
  | idleNudged due value fires _ =>
    exact keep (Accounted.startNudgeTurn (fired_idle h delays due value fires))
  | idleHungUp due value fires _ =>
    exact keep (Accounted.initiateShutdown (fired_idle h delays due value fires))
  | idleIgnored due value fires _ => exact keep (fired_idle h delays due value fires)
  | watchdogLate due value _ => exact keep (fired_watchdog h delays due value)
  | watchdogReplayed due value _ _ =>
    exact keep (Accounted.replayDeferred (fired_watchdog h delays due value))
  | watchdogCancelled due value _ _ =>
    exact keep (Accounted.cancelPipeline (fired_watchdog h delays due value))
  | delayOver due value =>
    obtain ⟨strays', delays', kept, nil⟩ := fired_delay h delays due value
    exact ⟨strays', delays', kept, fun empty _ => nil empty⟩

/-- Nothing is queued before the session starts, and the greeting accounts for what it arms. -/
theorem Opened.accounted {c : Coordinator β} (h : c.Opened) : c.Accounted 0 := by
  have start : ∀ {c : Coordinator β}, c.Fresh → c.Accounted 0 := by
    intro c fresh
    unfold Accounted
    rw [fresh.timers, fresh.turnPhase, fresh.reengagement, fresh.seGuard, fresh.hangUp]
    exact ⟨rfl, rfl⟩
  cases h with
  | waiting fresh => exact Accounted.startIdleTimer (start fresh)
  | @greeted c fresh offset =>
    have before := start fresh
    have sent : c.sendAudio.Accounted 0 := before
    exact sent.startIdleTimer
  | greeting fresh ws => exact Accounted.startTtsForTurn (start fresh)

end Coordinator

/-- The queue is accounted for, up to stray hang-up delays. -/
def Coordinator.AccountedFor {β : Type} [AgentBackend β] (c : Coordinator β) : Prop :=
  ∃ strays, OnlyDelays strays ∧ c.Accounted strays

/-- **The queue and its owners correspond.** -/
structure TimersOwned {β : Type} [AgentBackend β] (c : Coordination β) : Prop where
  /-- `remove` was never called with an absent key. -/
  sound : c.timers.panicked = false
  /-- Every key an owner stores is queued under the kind of the owner. -/
  queued : ∀ key value, c.awaited value = some key → (key, value) ∈ c.timers.held
  /-- Every queued entry has an owner. -/
  owned : ∀ key value, (key, value) ∈ c.timers.held → c.awaited value = some key
  /-- No key has two owners. -/
  exclusive : ∀ key value value', c.awaited value = some key → c.awaited value' = some key →
    value = value'
  /-- Whatever fires is still awaited by its owner. -/
  fires : ∀ key now entry, c.timers.due key now = some entry →
    c.awaited entry.value = some key

/-- Accounts without strays are a correspondence. -/
theorem Coordinator.Accounted.timersOwned {β : Type} [AgentBackend β] {c : Coordinator β}
    (h : c.Accounted 0) : TimersOwned c.toCoordination := by
  have held : ∀ key value, (key, value) ∈ c.timers.held ↔ c.awaited value = some key := by
    intro key value
    rw [h.held_eq, add_zero, Coordinator.mem_owned_iff_awaited]
  refine ⟨h.sound, fun key value => (held key value).2, fun key value => (held key value).1,
    ?_, ?_⟩
  · intro key value value' first second
    exact DelayQueue.value_unique ((held _ _).2 first) ((held _ _).2 second)
  · intro key now entry due
    exact (held _ _).1 (DelayQueue.held_of_due due)

namespace Reactor

variable {β : Type} [AgentBackend β]

/-- In every run the queue is accounted for, up to stray hang-up delays. -/
theorem accountedFor_run {r₀ : Reactor β} (started : Started r₀) (moments : List (Moment β)) :
    (Run.run step r₀ moments).core.AccountedFor := by
  refine run_keeps ?_ ?_ ?_ started moments
  · exact fun opened => ⟨0, fun _ mem => absurd mem (Multiset.notMem_zero _), opened.accounted⟩
  · exact fun _ h => h
  · rintro c d input ⟨strays, delays, h⟩ o
    obtain ⟨strays', delays', kept, -⟩ := h.outcome delays o
    exact ⟨strays', delays', kept⟩

/-- **Timers and owners.**  In every run in which the agent does not hang up again while the delay
of a hang-up runs, the queue and its owners correspond one to one. -/
theorem timers_owned {r₀ : Reactor β} (started : Started r₀) {moments : List (Moment β)}
    (once : Run.Along step (fun r m => r.hangsUpAgain m.input = false) r₀ moments) :
    TimersOwned (Run.run step r₀ moments).toCoordination := by
  have kept : (Run.run step r₀ moments).core.Accounted 0 := by
    refine run_keeps_along Coordinator.Opened.accounted (fun _ h => h) ?_ started once
    intro r m d first h o
    obtain ⟨strays, -, kept, nil⟩ := h.outcome (fun _ mem => absurd mem (Multiset.notMem_zero _)) o
    exact nil rfl first ▸ kept
  exact kept.timersOwned

/-- A call that the agent ends once. -/
theorem timers_owned_goodbye :
    TimersOwned (Run.run step (session {}) [calmly 1 (.vad .speechStarted true),
      calmly 2 (.vad (.speechEnded []) true), calmly 3 (.stt (.transcript "bye")),
      calmly 4 (yields (.hangUp "done" none) false), calmly 4 (.tts (.audio [0, 0])),
      calmly 5 (.tts .finished)]).toCoordination :=
  timers_owned (started_session {}) (by decide)

/-- The idle timer armed by `on_hold` fires during the delay of a hang-up, and the nudged agent
hangs up again: the first delay stays queued, and nobody owns it. -/
theorem timers_stray :
    ¬ TimersOwned (Run.run step (session {}) [calmly 1 (.vad .speechStarted true),
      calmly 2 (.vad (.speechEnded []) true), calmly 3 (.stt (.transcript "bye")),
      calmly 10 (yields (.onHold 5) true), calmly 17 (yields (.hangUp "done" none) false),
      calmly 17 (.tts (.audio [0, 0])), calmly 18 (.tts .finished), calmly 19 (.timer 0),
      calmly 19 (yields (.hangUp "done" none) false)]).toCoordination := by
  intro timers
  have stray := timers.owned 1 .hangUpDelay (by decide)
  revert stray
  decide

end Reactor

end Feros
