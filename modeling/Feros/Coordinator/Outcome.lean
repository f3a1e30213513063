import Feros.Coordinator.Machine
/-! # What one input can do

`Outcome c input d` says that the coordinator `c` may answer `input` by becoming `d`, one
constructor for each way a handler can go, with the conditions under which it goes there.
`handle_outcome` is the inversion lemma of the machine: the guarantees are proved by cases on it
and never unfold a handler. -/

namespace Feros

/-- A transcript in this phase commits a turn. -/
def TurnPhase.takesTurn : TurnPhase → Bool
  | .listening => true
  | .waitingForTranscript _ => true
  | .eotFallback _ => true
  | _ => false

/-- The key the owner of a kind of timer currently holds. -/
def Coordination.awaited {β : Type} [AgentBackend β] (c : Coordination β) :
    TimerKey → Option Key
  | .endOfTurnFallback => match c.turnPhase with
    | .eotFallback key => some key
    | _ => none
  | .sttTimeout => match c.turnPhase with
    | .waitingForTranscript key => some key
    | _ => none
  | .turnCompletion => match c.reengagement.state with
    | .turnCompletion key _ => some key
    | _ => none
  | .userIdle => match c.reengagement.state with
    | .userIdle key => some key
    | _ => none
  | .sideEffectTimeout => c.seGuard.timeoutKey
  | .hangUpDelay => match c.hangUp with
    | .waitingForDelay key => some key
    | _ => none

/-- The event the LLM arm yields on an input, if the arm is ready. -/
def Coordination.yielded {β : Type} [AgentBackend β] (c : Coordination β) (input : Input β) :
    Option LlmEvent :=
  match input with
  | .llm poll => if AgentBackend.isActive c.llm then (LlmStage.recv poll c.llm).1 else none
  | _ => none

/-- What the LLM yields is the event of the poll. -/
theorem Coordination.yielded_of_recv {β : Type} [AgentBackend β] {c : Coordination β}
    {poll : AgentBackend.Poll β} {event : Option LlmEvent} {llm : β}
    (active : AgentBackend.isActive c.llm = true)
    (yields : LlmStage.recv poll c.llm = (event, llm)) : c.yielded (.llm poll) = event :=
  (if_pos active).trans (congrArg Prod.fst yields)

namespace Coordinator

variable {β : Type} [AgentBackend β]

/-- **The ways one input can go.** -/
inductive Outcome (c : Coordinator β) : Input β → Coordinator β → Prop where
  /-- The arm is not ready, or the input means nothing in this state. -/
  | nothing {input : Input β} : Outcome c input c
  /-- Speech starts while a hang-up is pending, or goes on. -/
  | engaged {verdict : Bool}
      (h : c.hangUp.isPending = true ∨ c.turnPhase.isSpeaking = true) :
      Outcome c (.vad .speechStarted verdict) c.engage
  /-- Speech starts. -/
  | speechBegun {verdict : Bool} (free : c.hangUp.isPending = false)
      (quiet : c.turnPhase.isSpeaking = false) :
      Outcome c (.vad .speechStarted verdict) (c.engage.beginSpeech c.isPipelineActive)
  /-- Speech ends during a side-effect window. -/
  | shielded {audio : Bytes} {verdict : Bool} (window : c.seGuard.isActive = true) :
      Outcome c (.vad (.speechEnded audio) verdict) c.listen
  /-- Speech ends over an idle pipeline: the transcript is asked for. -/
  | awaiting {audio : Bytes} {verdict : Bool} (window : c.seGuard.isActive = false)
      (phase : c.turnPhase = .userSpeaking false) :
      Outcome c (.vad (.speechEnded audio) verdict) c.waitForTranscript
  /-- Speech ends over an idle pipeline, but the user will go on. -/
  | heldBack {audio : Bytes} {verdict : Bool} (window : c.seGuard.isActive = false)
      (phase : c.turnPhase = .userSpeaking false) :
      Outcome c (.vad (.speechEnded audio) verdict) c.startEotFallback
  /-- Speech ends over a pipeline that was active when it started. -/
  | talkedOver {audio : Bytes} {verdict : Bool} (window : c.seGuard.isActive = false)
      (phase : c.turnPhase = .userSpeaking true) :
      Outcome c (.vad (.speechEnded audio) verdict)
        (c.setTurnPhase .bargeInWordCount).cancelPipeline
  /-- A transcript is ignored. -/
  | unheard {text : String} (h : c.hangUp.isPending = true ∨ isBlank text = true) :
      Outcome c (.stt (.transcript text)) (c.leave (.transcript text))
  /-- A transcript is buffered. -/
  | buffered {text : String} (free : c.hangUp.isPending = false)
      (h : c.seGuard.isActive = true ∨ c.turnPhase.isSpeaking = true) :
      Outcome c (.stt (.transcript text)) ((c.leave (.transcript text)).bufferTranscript text)
  /-- There is nothing but white space to commit. -/
  | blankTurn {text : String} (free : c.hangUp.isPending = false)
      (window : c.seGuard.isActive = false) (phase : c.turnPhase.takesTurn = true)
      (blank : isBlank (c.fullText text) = true) :
      Outcome c (.stt (.transcript text))
        ((c.leave (.transcript text)).listen.drain.startIdleTimer 0 false)
  /-- A transcript is committed behind the deferred one. -/
  | turnCommitted {text : String} (free : c.hangUp.isPending = false)
      (window : c.seGuard.isActive = false) (phase : c.turnPhase.takesTurn = true)
      (spoken : isBlank (c.fullText text) = false)
      (fresh : c.turnPhase = .listening → isBlank text = false) :
      Outcome c (.stt (.transcript text))
        ((c.leave (.transcript text)).listen.drain.commitTurnText (c.fullText text))
  /-- The transcript of a barge-in has enough words. -/
  | bargeInCommitted {text : String} (free : c.hangUp.isPending = false)
      (window : c.seGuard.isActive = false) (phase : c.turnPhase = .bargeInWordCount)
      (accepted : c.acceptsBargeIn text = true) :
      Outcome c (.stt (.transcript text))
        ((c.leave (.transcript text)).listen.commitTurnText text)
  /-- The transcript of a barge-in has too few words. -/
  | bargeInRejected {text : String} (free : c.hangUp.isPending = false)
      (window : c.seGuard.isActive = false) (phase : c.turnPhase = .bargeInWordCount)
      (rejected : c.acceptsBargeIn text = false) :
      Outcome c (.stt (.transcript text))
        (((c.leave (.transcript text)).listen.leave (.bargeInRejected text)).startIdleTimer 0
          false)
  /-- A late transcript meets an active pipeline. -/
  | lateDropped {text : String} (free : c.hangUp.isPending = false)
      (window : c.seGuard.isActive = false) (phase : c.turnPhase = .transcriptTimedOut)
      (busy : c.isPipelineActive = true) :
      Outcome c (.stt (.transcript text))
        ((c.leave (.transcript text)).listen.leave (.lateTranscriptDropped text))
  /-- A late transcript is committed. -/
  | lateCommitted {text : String} (free : c.hangUp.isPending = false)
      (window : c.seGuard.isActive = false) (phase : c.turnPhase = .transcriptTimedOut)
      (idle : c.isPipelineActive = false) :
      Outcome c (.stt (.transcript text))
        ((c.leave (.transcript text)).listen.commitTurnText text)
  /-- The LLM stage yields nothing. -/
  | noEvent {poll : AgentBackend.Poll β} {llm : β} (active : AgentBackend.isActive c.llm = true)
      (yields : LlmStage.recv poll c.llm = (none, llm)) :
      Outcome c (.llm poll) (c.setLlm llm)
  /-- A token is buffered, spoken or swallowed. -/
  | streamed {poll : AgentBackend.Poll β} {llm : β} {text : String}
      (active : AgentBackend.isActive c.llm = true)
      (yields : LlmStage.recv poll c.llm = (some (.token text), llm)) :
      Outcome c (.llm poll) ((c.polled (.token text) llm).setLlmTurn
        (c.llmTurn.processToken text c.config.turnCompletionEnabled).1)
  /-- A token completes a ○ or ◐ marker. -/
  | suppressed {poll : AgentBackend.Poll β} {llm : β} {text emitted : String}
      {marker : TurnCompletion} (active : AgentBackend.isActive c.llm = true)
      (yields : LlmStage.recv poll c.llm = (some (.token text), llm))
      (found : (c.llmTurn.processToken text c.config.turnCompletionEnabled).2 =
        .markerCheckCompleted (some marker) emitted) (incomplete : marker ≠ .complete) :
      Outcome c (.llm poll) (((c.polled (.token text) llm).armTurnCompletionWait
        marker).setLlmTurn (.suppressing none))
  /-- A tool starts. -/
  | toolStarted {poll : AgentBackend.Poll β} {llm : β} {id name : String} {sideEffect : Bool}
      (active : AgentBackend.isActive c.llm = true)
      (yields : LlmStage.recv poll c.llm = (some (.toolCallStarted id name sideEffect), llm)) :
      Outcome c (.llm poll) ((c.polled (.toolCallStarted id name sideEffect)
        llm).toolCallStarted id name sideEffect)
  /-- A tool completes while others are in flight. -/
  | toolCounted {poll : AgentBackend.Poll β} {llm : β} {id name : String} {success : Bool}
      {errorMessage : Option String} (active : AgentBackend.isActive c.llm = true)
      (yields : LlmStage.recv poll c.llm =
        (some (.toolCallCompleted id name success errorMessage), llm))
      (more : 1 < c.seGuard.inFlight) :
      Outcome c (.llm poll)
        ((c.polled (.toolCallCompleted id name success errorMessage) llm).countTool id)
  /-- The last tool completes, and nothing was deferred. -/
  | windowEnded {poll : AgentBackend.Poll β} {llm : β} {id name : String} {success : Bool}
      {errorMessage : Option String} (active : AgentBackend.isActive c.llm = true)
      (yields : LlmStage.recv poll c.llm =
        (some (.toolCallCompleted id name success errorMessage), llm))
      (last : c.seGuard.inFlight ≤ 1) (deferred : c.seGuard.deferredTranscript = none) :
      Outcome c (.llm poll)
        ((c.polled (.toolCallCompleted id name success errorMessage) llm).endWindow id)
  /-- The last tool completes, and the deferred transcript is replayed. -/
  | windowReplayed {poll : AgentBackend.Poll β} {llm : β} {id name text : String}
      {success : Bool} {errorMessage : Option String}
      (active : AgentBackend.isActive c.llm = true)
      (yields : LlmStage.recv poll c.llm =
        (some (.toolCallCompleted id name success errorMessage), llm))
      (last : c.seGuard.inFlight ≤ 1) (deferred : c.seGuard.deferredTranscript = some text) :
      Outcome c (.llm poll)
        (((c.polled (.toolCallCompleted id name success errorMessage) llm).endWindow
          id).replayDeferred text)
  /-- A suppressed turn finishes. -/
  | suppressedFinished {poll : AgentBackend.Poll β} {llm : β} {content response : Option String}
      (active : AgentBackend.isActive c.llm = true)
      (yields : LlmStage.recv poll c.llm = (some (.finished content), llm))
      (phase : c.llmTurn = .suppressing response) :
      Outcome c (.llm poll)
        (((c.polled (.finished content) llm).saveSuppressedResponse content).startIdleTimer 0
          false)
  /-- A turn finishes, and the late check finds a ○ or ◐ marker. -/
  | lateSuppressed {poll : AgentBackend.Poll β} {llm : β} {content : Option String}
      {marker : TurnCompletion} {emitted : String} (active : AgentBackend.isActive c.llm = true)
      (yields : LlmStage.recv poll c.llm = (some (.finished content), llm))
      (found : (c.llmTurn.processLateFlush c.config.turnCompletionEnabled).2 =
        some (.markerCheckCompleted (some marker) emitted)) (incomplete : marker ≠ .complete) :
      Outcome c (.llm poll)
        ((((c.polled (.finished content) llm).setLlmTurn
          (c.llmTurn.processLateFlush c.config.turnCompletionEnabled).1).armTurnCompletionWait
            marker).saveSuppressedResponse content)
  /-- A turn finishes. -/
  | finished {poll : AgentBackend.Poll β} {llm : β} {content : Option String}
      (active : AgentBackend.isActive c.llm = true)
      (yields : LlmStage.recv poll c.llm = (some (.finished content), llm)) :
      Outcome c (.llm poll) ((c.polled (.finished content) llm).setLlmTurn
        (c.llmTurn.processLateFlush c.config.turnCompletionEnabled).1)
  /-- The LLM fails. -/
  | llmFailed {poll : AgentBackend.Poll β} {llm : β} {message : String}
      (active : AgentBackend.isActive c.llm = true)
      (yields : LlmStage.recv poll c.llm = (some (.error message), llm)) :
      Outcome c (.llm poll) ((c.polled (.error message) llm).cancelTts.startIdleTimer 0 false)
  /-- The user asked to hold. -/
  | held {poll : AgentBackend.Poll β} {llm : β} {durationSecs : ℕ}
      (active : AgentBackend.isActive c.llm = true)
      (yields : LlmStage.recv poll c.llm = (some (.onHold durationSecs), llm)) :
      Outcome c (.llm poll) (((c.polled (.onHold durationSecs) llm).setReengagement
        (c.reengagement.holdFor c.world.now (Duration.fromSecs durationSecs))).startIdleTimer 0
          false)
  /-- The agent hangs up while its goodbye is spoken. -/
  | hangUpPending {poll : AgentBackend.Poll β} {llm : β} {reason : String}
      {content : Option String} (active : AgentBackend.isActive c.llm = true)
      (yields : LlmStage.recv poll c.llm = (some (.hangUp reason content), llm))
      (speaking : c.tts.isActive = true) :
      Outcome c (.llm poll) ((c.polled (.hangUp reason content) llm).setHangUp .waitingForTts)
  /-- The agent hangs up, and nothing is being spoken. -/
  | hungUp {poll : AgentBackend.Poll β} {llm : β} {reason : String} {content : Option String}
      (active : AgentBackend.isActive c.llm = true)
      (yields : LlmStage.recv poll c.llm = (some (.hangUp reason content), llm))
      (silent : c.tts.isActive = false) :
      Outcome c (.llm poll)
        ((c.polled (.hangUp reason content) llm).setHangUp .waitingForTts).initiateShutdown
  /-- A generation is reported. -/
  | reported {poll : AgentBackend.Poll β} {llm : β} {data : LlmCompletionData}
      (active : AgentBackend.isActive c.llm = true)
      (yields : LlmStage.recv poll c.llm = (some (.llmComplete data), llm)) :
      Outcome c (.llm poll) (c.polled (.llmComplete data) llm)
  /-- Agent audio goes out. -/
  | audioSent {pcm : Bytes} (active : c.tts.isActive = true)
      (quiet : c.turnPhase.isSpeaking = false) : Outcome c (.tts (.audio pcm)) c.sendAudio
  /-- Synthesis finishes before the turn does. -/
  | roundSpoken (active : c.tts.isActive = true)
      (busy : (AgentBackend.isActive c.llm || c.seGuard.isActive) = true) :
      Outcome c (.tts .finished) c.quietTts
  /-- The greeting has been synthesised. -/
  | greetingSpoken (remaining : Duration) (active : c.tts.isActive = true)
      (idle : (AgentBackend.isActive c.llm || c.seGuard.isActive) = false)
      (greeting : c.sessionPhase = .greetingPlaying) :
      Outcome c (.tts .finished) (c.quietTts.finishGreeting remaining)
  /-- The goodbye has been synthesised and played. -/
  | goodbyePlayed (active : c.tts.isActive = true)
      (idle : (AgentBackend.isActive c.llm || c.seGuard.isActive) = false)
      (greeted : c.sessionPhase ≠ .greetingPlaying) (pending : c.hangUp = .waitingForTts) :
      Outcome c (.tts .finished) c.quietTts.initiateShutdown
  /-- The goodbye has been synthesised and is still playing. -/
  | goodbyeSpoken (remaining : Duration) (active : c.tts.isActive = true)
      (idle : (AgentBackend.isActive c.llm || c.seGuard.isActive) = false)
      (greeted : c.sessionPhase ≠ .greetingPlaying) (pending : c.hangUp = .waitingForTts) :
      Outcome c (.tts .finished) (c.quietTts.delayHangUp remaining)
  /-- A turn has been synthesised. -/
  | turnSpoken (remaining : Duration) (active : c.tts.isActive = true)
      (idle : (AgentBackend.isActive c.llm || c.seGuard.isActive) = false)
      (greeted : c.sessionPhase ≠ .greetingPlaying) (stays : c.hangUp ≠ .waitingForTts) :
      Outcome c (.tts .finished) (c.quietTts.startIdleTimer remaining false)
  /-- TTS fails. -/
  | ttsFailed {reason : String} (active : c.tts.isActive = true) :
      Outcome c (.tts (.error reason)) (c.quietTts.startIdleTimer 0 false)
  /-- A timer fires that no owner waits for. -/
  | staleTimer {key : Key} {entry : Delayed TimerKey}
      (due : c.timers.due key c.world.now = some entry)
      (stale : c.awaited entry.value = none) : Outcome c (.timer key) (c.fired key)
  /-- The user does not go on. -/
  | fallbackFired {key owned : Key} {entry : Delayed TimerKey}
      (due : c.timers.due key c.world.now = some entry)
      (value : entry.value = .endOfTurnFallback) (phase : c.turnPhase = .eotFallback owned) :
      Outcome c (.timer key) (c.fired key).waitForTranscript
  /-- The transcript does not come. -/
  | transcriptOverdue {key owned : Key} {entry : Delayed TimerKey}
      (due : c.timers.due key c.world.now = some entry) (value : entry.value = .sttTimeout)
      (phase : c.turnPhase = .waitingForTranscript owned) :
      Outcome c (.timer key)
        (((c.fired key).setTurnPhase .transcriptTimedOut).startIdleTimer 0 false)
  /-- The wait after a ○ or ◐ is over, but the pipeline is active. -/
  | waitOvertaken {key : Key} {entry : Delayed TimerKey} {isShort : Bool}
      {reengagement : ReengagementTimer} (due : c.timers.due key c.world.now = some entry)
      (value : entry.value = .turnCompletion)
      (fires : c.reengagement.onTurnCompletionFired = some (isShort, reengagement))
      (busy : c.isPipelineActive = true) :
      Outcome c (.timer key) ((c.fired key).setReengagement reengagement)
  /-- The wait after a ○ or ◐ is over: the suppressed response is replayed. -/
  | responseReplayed {key : Key} {entry : Delayed TimerKey} {isShort : Bool}
      {reengagement : ReengagementTimer} {text : String}
      (due : c.timers.due key c.world.now = some entry) (value : entry.value = .turnCompletion)
      (fires : c.reengagement.onTurnCompletionFired = some (isShort, reengagement))
      (idle : c.isPipelineActive = false) (saved : c.suppressedResponse = some text) :
      Outcome c (.timer key)
        (((c.fired key).setReengagement reengagement).setLlmTurn .idle).startTtsForTurn
  /-- The wait after a ○ or ◐ is over: the user is nudged. -/
  | waitNudged {key : Key} {entry : Delayed TimerKey} {isShort : Bool}
      {reengagement : ReengagementTimer} (due : c.timers.due key c.world.now = some entry)
      (value : entry.value = .turnCompletion)
      (fires : c.reengagement.onTurnCompletionFired = some (isShort, reengagement))
      (idle : c.isPipelineActive = false) (unsaved : c.suppressedResponse = none) :
      Outcome c (.timer key) (((c.fired key).setReengagement reengagement).startNudgeTurn
        (TurnCompletion.nudgePrompt isShort))
  /-- The user is silent, and is nudged. -/
  | idleNudged {key : Key} {entry : Delayed TimerKey} {retryCount : ℕ}
      {reengagement : ReengagementTimer} (due : c.timers.due key c.world.now = some entry)
      (value : entry.value = .userIdle)
      (fires : c.reengagement.onUserIdleFired = some (retryCount, reengagement))
      (nudge : shouldNudgeIdle c.isPipelineActive c.config.idleTimeoutSecs retryCount
        c.config.idleMaxNudges = true) :
      Outcome c (.timer key) (((c.fired key).setReengagement reengagement).startNudgeTurn
        Reactor.idleNudge)
  /-- The user is silent, and the nudges are used up. -/
  | idleHungUp {key : Key} {entry : Delayed TimerKey} {retryCount : ℕ}
      {reengagement : ReengagementTimer} (due : c.timers.due key c.world.now = some entry)
      (value : entry.value = .userIdle)
      (fires : c.reengagement.onUserIdleFired = some (retryCount, reengagement))
      (idle : c.isPipelineActive = false) :
      Outcome c (.timer key) ((c.fired key).setReengagement reengagement).initiateShutdown
  /-- The user is silent, but the pipeline is active or nudging is off. -/
  | idleIgnored {key : Key} {entry : Delayed TimerKey} {retryCount : ℕ}
      {reengagement : ReengagementTimer} (due : c.timers.due key c.world.now = some entry)
      (value : entry.value = .userIdle)
      (fires : c.reengagement.onUserIdleFired = some (retryCount, reengagement))
      (h : c.isPipelineActive = true ∨ c.config.idleMaxNudges = 0 ∨
        c.config.idleTimeoutSecs = 0) :
      Outcome c (.timer key) ((c.fired key).setReengagement reengagement)
  /-- The watchdog fires without a window. -/
  | watchdogLate {key : Key} {entry : Delayed TimerKey}
      (due : c.timers.due key c.world.now = some entry)
      (value : entry.value = .sideEffectTimeout) (window : c.seGuard.isActive = false) :
      Outcome c (.timer key) (c.fired key).closeWindow
  /-- The watchdog closes the window, and the deferred transcript is replayed. -/
  | watchdogReplayed {key : Key} {entry : Delayed TimerKey} {text : String}
      (due : c.timers.due key c.world.now = some entry)
      (value : entry.value = .sideEffectTimeout) (window : c.seGuard.isActive = true)
      (deferred : c.seGuard.deferredTranscript = some text) :
      Outcome c (.timer key) ((c.fired key).closeWindow.replayDeferred text)
  /-- The watchdog closes the window, and nothing was deferred. -/
  | watchdogCancelled {key : Key} {entry : Delayed TimerKey}
      (due : c.timers.due key c.world.now = some entry)
      (value : entry.value = .sideEffectTimeout) (window : c.seGuard.isActive = true)
      (deferred : c.seGuard.deferredTranscript = none) :
      Outcome c (.timer key) (c.fired key).closeWindow.cancelPipeline
  /-- The client has had time to play the goodbye. -/
  | delayOver {key : Key} {entry : Delayed TimerKey}
      (due : c.timers.due key c.world.now = some entry)
      (value : entry.value = .hangUpDelay) :
      Outcome c (.timer key) (c.fired key).hangUpDelayFired

/-! ## Inversion -/

/-- **The user begins to speak.** -/
theorem outcome_speechStarted (verdict : Bool) (c : Coordinator β) :
    Outcome c (.vad .speechStarted verdict) c.speechStarted := by
  unfold speechStarted
  cases pending : c.hangUp.isPending with
  | true => exact .engaged (.inl pending)
  | false =>
    cases speaking : c.turnPhase.isSpeaking with
    | true =>
      -- Speech that goes on does not begin.
      have goesOn : c.engage.beginSpeech c.isPipelineActive = c.engage := if_pos speaking
      rw [if_neg Bool.false_ne_true, goesOn]
      exact .engaged (.inr speaking)
    | false => exact .speechBegun pending speaking

/-- **The user stops.** -/
theorem outcome_speechEnded (audio : Bytes) (verdict smartComplete : Bool) (c : Coordinator β) :
    Outcome c (.vad (.speechEnded audio) verdict) (c.speechEnded smartComplete) := by
  unfold speechEnded
  cases window : c.seGuard.isActive with
  | true => exact .shielded window
  | false =>
    unfold endSpeech
    rw [if_neg Bool.false_ne_true]
    rcases phase : c.turnPhase with _ | (_ | _) | _ | _ | _ | _
    case userSpeaking.false =>
      cases smartComplete with
      | true => exact .awaiting window phase
      | false => exact .heldBack window phase
    case userSpeaking.true => exact .talkedOver window phase
    all_goals exact .nothing

/-- In the listening phase there is nothing to leave. -/
theorem listen_of_listening {c : Coordinator β} (h : c.turnPhase = .listening) :
    c.listen = c := by
  obtain ⟨fields, trail⟩ := c
  obtain ⟨_, _, _, _, _, _, _, _, _, _, turnPhase, _⟩ := fields
  subst h
  rfl

/-- A commit behind the deferred transcript, from a phase that takes a turn. -/
theorem outcome_commitTurn {text : String} {c : Coordinator β}
    (free : c.hangUp.isPending = false) (window : c.seGuard.isActive = false)
    (phase : c.turnPhase.takesTurn = true)
    (fresh : c.turnPhase = .listening → isBlank text = false) :
    Outcome c (.stt (.transcript text)) ((c.leave (.transcript text)).listen.commitTurn text) := by
  unfold commitTurn
  rw [show (c.leave (.transcript text)).listen.fullText text = c.fullText text from rfl]
  cases spoken : isBlank (c.fullText text) with
  | true => exact .blankTurn free window phase spoken
  | false => exact .turnCommitted free window phase spoken fresh

/-- **A transcript arrives.** -/
theorem outcome_transcript (text : String) (c : Coordinator β) :
    Outcome c (.stt (.transcript text)) ((c.leave (.transcript text)).transcript text) := by
  unfold transcript
  rw [show (c.leave (.transcript text)).hangUp = c.hangUp from rfl,
    show (c.leave (.transcript text)).seGuard = c.seGuard from rfl]
  cases free : c.hangUp.isPending with
  | true => exact .unheard (.inl free)
  | false =>
    cases window : c.seGuard.isActive with
    | true => exact .buffered free (.inl window)
    | false =>
      unfold hear
      rw [if_neg Bool.false_ne_true, if_neg Bool.false_ne_true,
        show (c.leave (.transcript text)).turnPhase = c.turnPhase from rfl]
      cases phase : c.turnPhase with
      | listening =>
        cases blank : isBlank text with
        | true => exact .unheard (.inr blank)
        | false =>
          have committed := outcome_commitTurn free window (by rw [phase]; rfl) fun _ => blank
          -- Who listens already goes on listening.
          have still : (c.leave (.transcript text)).listen = c.leave (.transcript text) :=
            listen_of_listening phase
          dsimp only
          rw [if_neg Bool.false_ne_true]
          rw [still] at committed
          exact committed
      | userSpeaking active => exact .buffered free (.inr (by rw [phase]; rfl))
      | waitingForTranscript key | eotFallback key =>
        exact outcome_commitTurn free window (by rw [phase]; rfl) (by rw [phase]; nofun)
      | transcriptTimedOut =>
        dsimp only
        unfold commitLateTranscript
        rw [show (c.leave (.transcript text)).listen.isPipelineActive = c.isPipelineActive
          from rfl]
        cases busy : c.isPipelineActive with
        | true => exact .lateDropped free window phase busy
        | false =>
          rw [if_neg Bool.false_ne_true]
          exact .lateCommitted free window phase busy
      | bargeInWordCount =>
        dsimp only
        unfold commitBargeIn
        rw [show (c.leave (.transcript text)).listen.acceptsBargeIn text = c.acceptsBargeIn text
          from rfl]
        cases accepted : c.acceptsBargeIn text with
        | true => exact .bargeInCommitted free window phase accepted
        | false =>
          rw [if_neg Bool.false_ne_true]
          exact .bargeInRejected free window phase accepted

/-- A token of the LLM. -/
theorem outcome_token {poll : AgentBackend.Poll β} {llm : β} {text : String} {c : Coordinator β}
    (active : AgentBackend.isActive c.llm = true)
    (yields : LlmStage.recv poll c.llm = (some (.token text), llm)) :
    Outcome c (.llm poll) ((c.polled (.token text) llm).token text) := by
  unfold token
  rw [show (c.polled (.token text) llm).llmTurn = c.llmTurn from rfl,
    show (c.polled (.token text) llm).config = c.config from rfl]
  dsimp only
  have plain := Outcome.streamed active yields
  rcases found : (c.llmTurn.processToken text c.config.turnCompletionEnabled).2 with
    _ | _ | ⟨_ | (_ | _ | _), emitted⟩ | _
  case markerCheckCompleted.some.incompleteShort => exact .suppressed active yields found nofun
  case markerCheckCompleted.some.incompleteLong => exact .suppressed active yields found nofun
  all_goals exact plain

/-- A tool has ended. -/
theorem outcome_toolCallCompleted {poll : AgentBackend.Poll β} {llm : β} {id name : String}
    {success : Bool} {errorMessage : Option String} {c : Coordinator β}
    (active : AgentBackend.isActive c.llm = true)
    (yields : LlmStage.recv poll c.llm =
      (some (.toolCallCompleted id name success errorMessage), llm)) :
    Outcome c (.llm poll)
      ((c.polled (.toolCallCompleted id name success errorMessage) llm).toolCallCompleted id) := by
  unfold toolCallCompleted
  rw [show (c.polled (.toolCallCompleted id name success errorMessage) llm).seGuard = c.seGuard
    from rfl]
  by_cases more : 1 < c.seGuard.inFlight
  · rw [if_pos more]
    exact .toolCounted active yields more
  · rw [if_neg more]
    cases deferred : c.seGuard.deferredTranscript with
    | some text => exact .windowReplayed active yields (by omega) deferred
    | none => exact .windowEnded active yields (by omega) deferred

/-- The LLM has finished. -/
theorem outcome_finished {poll : AgentBackend.Poll β} {llm : β} {content : Option String}
    {c : Coordinator β} (active : AgentBackend.isActive c.llm = true)
    (yields : LlmStage.recv poll c.llm = (some (.finished content), llm)) :
    Outcome c (.llm poll) ((c.polled (.finished content) llm).finished content) := by
  unfold finished
  rw [show (c.polled (.finished content) llm).llmTurn = c.llmTurn from rfl,
    show (c.polled (.finished content) llm).config = c.config from rfl]
  have flushed : Outcome c (.llm poll) (((c.polled (.finished content) llm).setLlmTurn
      (c.llmTurn.processLateFlush c.config.turnCompletionEnabled).1).streamEnded
        (c.llmTurn.processLateFlush c.config.turnCompletionEnabled).2 content) := by
    have plain := Outcome.finished active yields
    unfold streamEnded
    rcases found : (c.llmTurn.processLateFlush c.config.turnCompletionEnabled).2 with
      _ | (_ | _ | ⟨_ | (_ | _ | _), emitted⟩ | _)
    case some.markerCheckCompleted.some.incompleteShort =>
      exact .lateSuppressed active yields found nofun
    case some.markerCheckCompleted.some.incompleteLong =>
      exact .lateSuppressed active yields found nofun
    all_goals exact plain
  cases phase : c.llmTurn with
  | suppressing response => exact .suppressedFinished active yields phase
  | idle | generating buf =>
    rw [phase] at flushed
    exact flushed

/-- **An event of the LLM.** -/
theorem outcome_llmEvent {poll : AgentBackend.Poll β} {llm : β} {event : LlmEvent}
    {c : Coordinator β} (active : AgentBackend.isActive c.llm = true)
    (yields : LlmStage.recv poll c.llm = (some event, llm)) :
    Outcome c (.llm poll) ((c.polled event llm).llmEvent event) := by
  cases event with
  | token text => exact outcome_token active yields
  | finished content => exact outcome_finished active yields
  | toolCallStarted id name sideEffect => exact .toolStarted active yields
  | toolCallCompleted id name success errorMessage =>
    exact outcome_toolCallCompleted active yields
  | error message => exact .llmFailed active yields
  | onHold durationSecs => exact .held active yields
  | llmComplete data => exact .reported active yields
  | hangUp reason content =>
    unfold llmEvent agentHangUp
    rw [show (c.polled (.hangUp reason content) llm).tts = c.tts from rfl]
    cases speaking : c.tts.isActive with
    | true => exact .hangUpPending active yields speaking
    | false => exact .hungUp active yields speaking

/-- **An event of the TTS.** -/
theorem outcome_ttsEvent (event : TtsEvent) (remaining : Duration) {c : Coordinator β}
    (active : c.tts.isActive = true) :
    Outcome c (.tts event) (c.ttsEvent event remaining) := by
  cases event with
  | audio pcm =>
    unfold ttsEvent
    cases quiet : c.turnPhase.isSpeaking with
    | true => exact .nothing
    | false => exact .audioSent active quiet
  | error reason => exact .ttsFailed active
  | finished =>
    unfold ttsEvent
    dsimp only
    cases busy : (AgentBackend.isActive c.llm || c.seGuard.isActive) with
    | true => exact .roundSpoken active busy
    | false =>
      rw [if_neg Bool.false_ne_true]
      by_cases greeting : c.sessionPhase = .greetingPlaying
      · rw [if_pos greeting]
        exact .greetingSpoken remaining active busy greeting
      · rw [if_neg greeting]
        unfold finishSpokenTurn
        rw [show c.quietTts.hangUp = c.hangUp from rfl]
        cases pending : c.hangUp with
        | waitingForTts =>
          dsimp only
          split
          · exact .goodbyePlayed active busy greeting pending
          · exact .goodbyeSpoken remaining active busy greeting pending
        | idle | waitingForDelay key =>
          exact .turnSpoken remaining active busy greeting (by rw [pending]; nofun)

/-- A timer of an incomplete turn that does not fire is not awaited. -/
theorem awaited_of_stale_completion {c : Coordinator β}
    (h : c.reengagement.onTurnCompletionFired = none) : c.awaited .turnCompletion = none := by
  unfold ReengagementTimer.onTurnCompletionFired at h
  unfold Coordination.awaited
  cases state : c.reengagement.state with
  | turnCompletion key isShort =>
    rw [state] at h
    cases h
  | idle | userIdle key => rfl

/-- An idle timer that does not fire is not awaited. -/
theorem awaited_of_stale_idle {c : Coordinator β}
    (h : c.reengagement.onUserIdleFired = none) : c.awaited .userIdle = none := by
  unfold ReengagementTimer.onUserIdleFired at h
  unfold Coordination.awaited
  cases state : c.reengagement.state with
  | userIdle key =>
    rw [state] at h
    cases h
  | idle | turnCompletion key isShort => rfl

/-- The retry count of a fired idle timer is at least one. -/
theorem retryCount_pos {t reengagement : ReengagementTimer} {retryCount : ℕ}
    (fires : t.onUserIdleFired = some (retryCount, reengagement)) : 0 < retryCount := by
  unfold ReengagementTimer.onUserIdleFired at fires
  cases state : t.state with
  | userIdle key =>
    rw [state] at fires
    cases fires
    exact Nat.succ_pos _
  | idle | turnCompletion key isShort =>
    rw [state] at fires
    cases fires

/-- The idle timer nudges, or the agent hangs up. -/
theorem outcome_nudgeOrHangUp {key : Key} {entry : Delayed TimerKey} {retryCount : ℕ}
    {reengagement : ReengagementTimer} {c : Coordinator β}
    (due : c.timers.due key c.world.now = some entry) (value : entry.value = .userIdle)
    (fires : c.reengagement.onUserIdleFired = some (retryCount, reengagement)) :
    Outcome c (.timer key)
      (((c.fired key).setReengagement reengagement).nudgeOrHangUp retryCount) := by
  have counted := retryCount_pos fires
  unfold nudgeOrHangUp
  rw [show ((c.fired key).setReengagement reengagement).isPipelineActive = c.isPipelineActive
      from rfl,
    show ((c.fired key).setReengagement reengagement).config = c.config from rfl]
  cases nudge : shouldNudgeIdle c.isPipelineActive c.config.idleTimeoutSecs retryCount
    c.config.idleMaxNudges with
  | true => exact .idleNudged due value fires nudge
  | false =>
    rw [if_neg Bool.false_ne_true]
    cases busy : c.isPipelineActive with
    | true => exact .idleIgnored due value fires (.inl busy)
    | false =>
      rw [if_neg Bool.false_ne_true]
      by_cases exhausted : c.config.idleMaxNudges < retryCount ∧ 0 < c.config.idleMaxNudges
      · rw [if_pos exhausted]
        exact .idleHungUp due value fires busy
      · rw [if_neg exhausted]
        simp only [shouldNudgeIdle, busy, Bool.not_false, Bool.true_and, Bool.and_eq_false_iff,
          decide_eq_false_iff_not] at nudge
        exact .idleIgnored due value fires (.inr (by omega))

/-- **A timer fires.** -/
theorem outcome_timerFired {key : Key} {entry : Delayed TimerKey} {c : Coordinator β}
    (due : c.timers.due key c.world.now = some entry) :
    Outcome c (.timer key) ((c.fired key).timerFired entry.value) := by
  -- A timer that its owner no longer waits for is stale.
  have stale : ∀ {kind}, entry.value = kind → c.awaited kind = none →
      Outcome c (.timer key) (c.fired key) :=
    fun value h => .staleTimer due (value ▸ h)
  cases value : entry.value with
  | endOfTurnFallback =>
    unfold timerFired eotFallback
    rw [show (c.fired key).turnPhase = c.turnPhase from rfl]
    cases phase : c.turnPhase with
    | eotFallback owned => exact .fallbackFired due value phase
    | listening | userSpeaking active | waitingForTranscript owned | transcriptTimedOut
    | bargeInWordCount => exact stale value (by unfold Coordination.awaited; rw [phase])
  | sttTimeout =>
    unfold timerFired sttTimeout
    rw [show (c.fired key).turnPhase = c.turnPhase from rfl]
    cases phase : c.turnPhase with
    | waitingForTranscript owned => exact .transcriptOverdue due value phase
    | listening | userSpeaking active | eotFallback owned | transcriptTimedOut
    | bargeInWordCount => exact stale value (by unfold Coordination.awaited; rw [phase])
  | turnCompletion =>
    unfold timerFired turnCompletionFired
    rw [show (c.fired key).reengagement = c.reengagement from rfl]
    cases fires : c.reengagement.onTurnCompletionFired with
    | none => exact stale value (awaited_of_stale_completion fires)
    | some next =>
      obtain ⟨isShort, reengagement⟩ := next
      dsimp only
      unfold replayOrNudge
      -- What fired touches neither the pipeline nor the response that was kept back.
      rw [show ((c.fired key).setReengagement reengagement).isPipelineActive =
          c.isPipelineActive from rfl,
        show ((c.fired key).setReengagement reengagement).suppressedResponse =
          c.suppressedResponse from rfl]
      cases busy : c.isPipelineActive with
      | true => exact .waitOvertaken due value fires busy
      | false =>
        rw [if_neg Bool.false_ne_true]
        cases saved : c.suppressedResponse with
        | some text => exact .responseReplayed due value fires busy saved
        | none => exact .waitNudged due value fires busy saved
  | userIdle =>
    unfold timerFired userIdleFired
    rw [show (c.fired key).reengagement = c.reengagement from rfl]
    cases fires : c.reengagement.onUserIdleFired with
    | none => exact stale value (awaited_of_stale_idle fires)
    | some next =>
      obtain ⟨retryCount, reengagement⟩ := next
      dsimp only
      exact outcome_nudgeOrHangUp due value fires
  | sideEffectTimeout =>
    unfold timerFired sideEffectTimeout
    rw [show (c.fired key).seGuard = c.seGuard from rfl]
    cases window : c.seGuard.isActive with
    | false => exact .watchdogLate due value window
    | true =>
      rw [if_pos rfl]
      cases deferred : c.seGuard.deferredTranscript with
      | some text => exact .watchdogReplayed due value window deferred
      | none => exact .watchdogCancelled due value window deferred
  | hangUpDelay => exact .delayOver due value

/-- **The inversion lemma**: whatever the machine does with an input is one of the outcomes. -/
theorem handle_outcome (input : Input β) (remaining : Duration) (c : Coordinator β) :
    Outcome c input (c.handle input remaining) := by
  cases input with
  | vad event verdict =>
    cases event with
    | speechStarted => exact outcome_speechStarted verdict c
    | speechEnded audio => exact outcome_speechEnded audio verdict _ c
  | stt event =>
    cases event with
    | transcript text => exact outcome_transcript text c
    | firstTextReceived | partialTranscript text | error reason => exact .nothing
  | llm poll =>
    unfold handle
    dsimp only
    cases active : AgentBackend.isActive c.llm with
    | false => exact .nothing
    | true =>
      rw [if_pos rfl]
      rcases yields : LlmStage.recv poll c.llm with ⟨_ | event, llm⟩
      · exact .noEvent active yields
      · exact outcome_llmEvent active yields
  | tts event =>
    unfold handle
    dsimp only
    cases active : c.tts.isActive with
    | false => exact .nothing
    | true => exact outcome_ttsEvent event remaining active
  | timer key =>
    unfold handle
    dsimp only
    cases due : c.timers.due key c.world.now with
    | none => exact .nothing
    | some entry => exact outcome_timerFired due

end Coordinator

end Feros
