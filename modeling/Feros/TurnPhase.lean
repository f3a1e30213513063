import Feros.Types
import Feros.Library.DelayQueue
/-! # Turn phase

The statechart of the user's turn.  Every turn-lifecycle decision is made by the pure function
`TurnPhase.transition`; the reactor feeds events in and executes the returned `TurnAction`s.  A
phase that waits for a timer owns the timer's key. -/

namespace Feros

/-- **Unified turn lifecycle state.** -/
inductive TurnPhase where
  /-- Waiting for the user to speak. -/
  | listening
  /-- VAD fired `SpeechStarted`: the TTS output gate is closed. -/
  | userSpeaking (pipelineWasActive : Bool)
  /-- `finalize()` was sent; the STT timeout is running. -/
  | waitingForTranscript (timerKey : Key)
  /-- The STT timeout fired before a transcript arrived. -/
  | transcriptTimedOut
  /-- SmartTurn predicted "not done yet"; the fallback timer is running. -/
  | eotFallback (timerKey : Key)
  /-- The pipeline was active when the user spoke; the transcript decides about the barge-in. -/
  | bargeInWordCount
  deriving DecidableEq, Repr

/-- Control events that can cause a turn-lifecycle transition. -/
inductive TurnEvent where
  | speechStarted (pipelineWasActive botAudioSent : Bool)
  | speechEnded (smartComplete : Bool)
  | transcript (text : String)
  | sttTimeout
  | eotFallback
  deriving DecidableEq, Repr

/-- Side effects returned by the transition function. -/
inductive TurnAction where
  | emitInterrupt
  | emitAgentEvent (kind : String)
  | cancelPipeline
  | finalizeStt
  | commitTurn (text : String)
  | bufferTranscript (text : String)
  | commitBargeIn (text : String)
  | commitLateTranscript (text : String)
  | cancelTimer (key : Key)
  | startIdleTimer
  | markSpeechEnded
  | trace (name : String)
  | markSttFinalizeSent
  | clearBotAudioSent
  deriving DecidableEq, Repr

/-- The next phase, named before the timer key it may need exists. -/
inductive NextPhase where
  /-- Enter this phase immediately. -/
  | set (phase : TurnPhase)
  /-- Allocate an STT timeout timer and wait for the transcript. -/
  | waitForTranscript
  /-- Allocate an end-of-turn fallback timer. -/
  | startEotFallback
  deriving DecidableEq, Repr

namespace TurnPhase

/-- The user is currently speaking. -/
def isSpeaking : TurnPhase → Bool
  | .userSpeaking _ => true
  | _ => false

/-- Audio output is allowed in this phase. -/
def audioOutputPermit (phase : TurnPhase) : Option Unit :=
  match phase with
  | .userSpeaking _ => none
  | _ => some ()

/-- Reset to `listening`, cancelling any owned timer key. -/
def reset (phase : TurnPhase) (timers : DelayQueue TimerKey) :
    TurnPhase × DelayQueue TimerKey :=
  match phase with
  | .waitingForTranscript timerKey => (.listening, timers.remove timerKey)
  | .eotFallback timerKey => (.listening, timers.remove timerKey)
  | _ => (.listening, timers)

/-- The queue entry a turn phase is responsible for. -/
def owned : TurnPhase → Multiset (Key × TimerKey)
  | .waitingForTranscript timerKey => {(timerKey, .sttTimeout)}
  | .eotFallback timerKey => {(timerKey, .endOfTurnFallback)}
  | _ => 0

/-- The actions that flush the client when the user starts to speak over sent audio. -/
def flushActions (botAudioSent : Bool) : List TurnAction :=
  if botAudioSent then [.emitInterrupt, .clearBotAudioSent] else []

/-- **Pure state transition**: phase and event to next phase and actions. -/
def transition (phase : TurnPhase) (event : TurnEvent) : NextPhase × List TurnAction :=
  match phase, event with
  -- Listening
  | .listening, .speechStarted pipelineWasActive botAudioSent =>
    (.set (.userSpeaking pipelineWasActive), flushActions botAudioSent)
  | .listening, .transcript text =>
    if isBlank text then (.set .listening, []) else (.set .listening, [.commitTurn text])
  | .listening, .sttTimeout => (.set .listening, [])
  | .listening, .eotFallback => (.set .listening, [])
  | .listening, .speechEnded _ => (.set .listening, [])
  -- UserSpeaking
  | .userSpeaking false, .speechEnded true =>
    (.waitForTranscript, [.finalizeStt, .markSttFinalizeSent])
  | .userSpeaking false, .speechEnded false => (.startEotFallback, [])
  | .userSpeaking true, .speechEnded _ =>
    (.set .bargeInWordCount,
      [.trace "BargeIn", .emitAgentEvent "barge_in", .cancelPipeline, .finalizeStt,
        .markSttFinalizeSent])
  | .userSpeaking pipelineWasActive, .speechStarted _ _ =>
    (.set (.userSpeaking pipelineWasActive), [])
  | .userSpeaking pipelineWasActive, .transcript text =>
    (.set (.userSpeaking pipelineWasActive), [.bufferTranscript text])
  | .userSpeaking pipelineWasActive, .sttTimeout => (.set (.userSpeaking pipelineWasActive), [])
  | .userSpeaking pipelineWasActive, .eotFallback => (.set (.userSpeaking pipelineWasActive), [])
  -- WaitingForTranscript
  | .waitingForTranscript timerKey, .transcript text =>
    (.set .listening, [.cancelTimer timerKey, .markSpeechEnded, .commitTurn text])
  -- The fired key has left the queue.
  | .waitingForTranscript _, .sttTimeout => (.set .transcriptTimedOut, [.startIdleTimer])
  | .waitingForTranscript timerKey, .speechStarted pipelineWasActive botAudioSent =>
    (.set (.userSpeaking pipelineWasActive), .cancelTimer timerKey :: flushActions botAudioSent)
  | .waitingForTranscript timerKey, .speechEnded _ => (.set (.waitingForTranscript timerKey), [])
  | .waitingForTranscript timerKey, .eotFallback => (.set (.waitingForTranscript timerKey), [])
  -- TranscriptTimedOut
  | .transcriptTimedOut, .transcript text =>
    (.set .listening, [.markSpeechEnded, .commitLateTranscript text])
  | .transcriptTimedOut, .speechStarted pipelineWasActive botAudioSent =>
    (.set (.userSpeaking pipelineWasActive), flushActions botAudioSent)
  | .transcriptTimedOut, .speechEnded _ => (.set .transcriptTimedOut, [])
  | .transcriptTimedOut, .sttTimeout => (.set .transcriptTimedOut, [])
  | .transcriptTimedOut, .eotFallback => (.set .transcriptTimedOut, [])
  -- EotFallback; again the fired key has left the queue.
  | .eotFallback _, .eotFallback =>
    (.waitForTranscript, [.markSpeechEnded, .markSttFinalizeSent, .finalizeStt])
  | .eotFallback timerKey, .speechStarted pipelineWasActive botAudioSent =>
    (.set (.userSpeaking pipelineWasActive), .cancelTimer timerKey :: flushActions botAudioSent)
  | .eotFallback timerKey, .transcript text =>
    (.set .listening, [.cancelTimer timerKey, .markSpeechEnded, .commitTurn text])
  | .eotFallback timerKey, .speechEnded _ => (.set (.eotFallback timerKey), [])
  | .eotFallback timerKey, .sttTimeout => (.set (.eotFallback timerKey), [])
  -- BargeInWordCount
  | .bargeInWordCount, .transcript text =>
    (.set .listening, [.markSpeechEnded, .commitBargeIn text])
  | .bargeInWordCount, .speechStarted pipelineWasActive botAudioSent =>
    (.set (.userSpeaking pipelineWasActive), flushActions botAudioSent)
  | .bargeInWordCount, .speechEnded _ => (.set .bargeInWordCount, [])
  | .bargeInWordCount, .sttTimeout => (.set .bargeInWordCount, [])
  | .bargeInWordCount, .eotFallback => (.set .bargeInWordCount, [])

/-- The output gate is closed exactly while the user speaks. -/
theorem audioOutputPermit_eq_none {phase : TurnPhase} :
    phase.audioOutputPermit = none ↔ phase.isSpeaking = true := by
  cases phase <;> simp [audioOutputPermit, isSpeaking]

end TurnPhase

end Feros
