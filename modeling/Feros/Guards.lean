import Feros.Types
import Feros.Library.DelayQueue
/-! # Hang-up, side-effect window and re-engagement

The three small state machines that own timer keys next to `TurnPhase`, and the policies that
decide about barge-ins and nudges.  `owned` lists the queue entries a machine is responsible
for. -/

namespace Feros

/-! ## Hang-up -/

/-- The hang-up countdown after the agent decides to end the call. -/
inductive HangUpPhase where
  /-- No hang-up is pending. -/
  | idle
  /-- Waiting for the goodbye TTS to finish. -/
  | waitingForTts
  /-- Waiting for the client playback buffer to drain. -/
  | waitingForDelay (timerKey : Key)
  deriving DecidableEq, Repr

/-- A hang-up has been requested. -/
def HangUpPhase.isPending : HangUpPhase → Bool
  | .idle => false
  | _ => true

/-- The queue entry a hang-up phase is responsible for. -/
def HangUpPhase.owned : HangUpPhase → Multiset (Key × TimerKey)
  | .waitingForDelay timerKey => {(timerKey, .hangUpDelay)}
  | _ => 0

/-! ## Side-effect protection window -/

/-- What a method of the guard asks its caller to do with the timers. -/
inductive SeGuardAction where
  /-- Cancel the key, if any, and insert a fresh watchdog. -/
  | rearmWatchdog (cancelKey : Option Key)
  /-- All tools have finished: cancel the watchdog and replay `deferred`. -/
  | cancelWatchdog (cancelKey : Option Key) (deferred : Option String)
  /-- Window cancelled: cancel the watchdog and report the orphaned tools. -/
  | orphaned (cancelKey : Option Key) (toolIds : List (String × String))
  /-- Other tools are still in flight. -/
  | none
  deriving DecidableEq, Repr

/-- **The active side-effect tool window.** -/
structure SideEffectToolsGuard where
  /-- Number of side-effect tools executing. -/
  inFlight : ℕ
  /-- Their ids and names. -/
  toolIds : List (String × String)
  /-- The watchdog. -/
  timeoutKey : Option Key
  /-- The transcripts that arrived during the window, joined by spaces. -/
  deferredTranscript : Option String
  deriving DecidableEq, Repr

namespace SideEffectToolsGuard

/-- No window. -/
def default : SideEffectToolsGuard := ⟨0, [], Option.none, Option.none⟩

/-- At least one side-effect tool is executing. -/
def isActive (g : SideEffectToolsGuard) : Bool := 0 < g.inFlight

/-- Register a new tool call. -/
def toolStarted (id name : String) (g : SideEffectToolsGuard) :
    SideEffectToolsGuard × SeGuardAction :=
  ({ g with
      inFlight := g.inFlight + 1
      toolIds := (id, name) :: g.toolIds.filter (fun tool => tool.1 != id)
      timeoutKey := Option.none },
    .rearmWatchdog g.timeoutKey)

/-- Store the new watchdog key. -/
def setWatchdogKey (key : Key) (g : SideEffectToolsGuard) : SideEffectToolsGuard :=
  { g with timeoutKey := some key }

/-- Record a tool completion. -/
def toolCompleted (id : String) (g : SideEffectToolsGuard) :
    SideEffectToolsGuard × SeGuardAction :=
  let g := { g with
    toolIds := g.toolIds.filter (fun tool => tool.1 != id)
    inFlight := g.inFlight - 1 }
  if 0 < g.inFlight then (g, .none)
  else
    ({ g with timeoutKey := Option.none, deferredTranscript := Option.none },
      .cancelWatchdog g.timeoutKey g.deferredTranscript)

/-- Append a transcript fragment to the deferred transcript. -/
def bufferTranscript (text : String) (g : SideEffectToolsGuard) : SideEffectToolsGuard :=
  if isBlank text then g
  else
    { g with deferredTranscript :=
        match g.deferredTranscript with
        | some existing => some (existing ++ " " ++ trim text)
        | Option.none => some (trim text) }

/-- Buffering touches nothing but the deferred transcript. -/
theorem bufferTranscript_eq (text : String) (g : SideEffectToolsGuard) :
    g.bufferTranscript text =
      { g with deferredTranscript := (g.bufferTranscript text).deferredTranscript } := by
  unfold bufferTranscript
  split <;> rfl

/-- Buffering neither opens nor closes the window. -/
@[simp] theorem bufferTranscript_isActive (text : String) (g : SideEffectToolsGuard) :
    (g.bufferTranscript text).isActive = g.isActive := by
  rw [bufferTranscript_eq]
  rfl

/-- Cancel the window on barge-in or pipeline reset. -/
def cancel (g : SideEffectToolsGuard) : SideEffectToolsGuard × SeGuardAction :=
  (default, .orphaned g.timeoutKey g.toolIds)

/-- The watchdog fired: how many tools were in flight, and the deferred transcript.  The tool ids
stay for the orphan audit of `cancel`. -/
def onTimeout (g : SideEffectToolsGuard) : (ℕ × Option String) × SideEffectToolsGuard :=
  ((g.inFlight, g.deferredTranscript),
    { g with timeoutKey := Option.none, deferredTranscript := Option.none, inFlight := 0 })

/-- Take the deferred transcript, if any. -/
def takeDeferred (g : SideEffectToolsGuard) : Option String × SideEffectToolsGuard :=
  (g.deferredTranscript, { g with deferredTranscript := Option.none })

/-- A transcript behind the deferred one, if any. -/
def prepend (deferred : Option String) (text : String) : String :=
  match deferred with
  | some front => front ++ " " ++ text
  | Option.none => text

/-- The queue entry the window is responsible for. -/
def owned (g : SideEffectToolsGuard) : Multiset (Key × TimerKey) :=
  match g.timeoutKey with
  | some key => {(key, .sideEffectTimeout)}
  | Option.none => 0

end SideEffectToolsGuard

/-! ## Re-engagement -/

/-- Which re-engagement timer is armed. -/
inductive TimerState where
  | idle
  /-- After a ○ (`isShort`) or ◐ marker. -/
  | turnCompletion (key : Key) (isShort : Bool)
  /-- After a normal turn. -/
  | userIdle (key : Key)
  deriving DecidableEq, Repr

/-- **Re-engagement timer state machine**: at most one of the two timers is armed. -/
structure ReengagementTimer where
  state : TimerState
  /-- How often `UserIdle` has fired without the user speaking. -/
  idleRetries : ℕ
  /-- Until when the user is on hold. -/
  holdUntil : Option Instant
  deriving DecidableEq, Repr

namespace ReengagementTimer

/-- Nothing armed, nothing counted. -/
def default : ReengagementTimer := ⟨.idle, 0, none⟩

/-- Cancel the current timer key without resetting `idleRetries`. -/
def disarm (t : ReengagementTimer) (timers : DelayQueue TimerKey) :
    ReengagementTimer × DelayQueue TimerKey :=
  match t.state with
  | .turnCompletion key _ => ({ t with state := .idle }, timers.remove key)
  | .userIdle key => ({ t with state := .idle }, timers.remove key)
  | .idle => ({ t with state := .idle }, timers)

/-- Cancel whatever is armed and reset the retry count and the hold. -/
def cancel (t : ReengagementTimer) (timers : DelayQueue TimerKey) :
    ReengagementTimer × DelayQueue TimerKey :=
  let (t, timers) := t.disarm timers
  ({ t with idleRetries := 0, holdUntil := none }, timers)

/-- A cancelled machine is the default one. -/
@[simp] theorem cancel_fst (t : ReengagementTimer) (timers : DelayQueue TimerKey) :
    (t.cancel timers).1 = .default := by
  unfold cancel disarm
  cases t.state <;> rfl

/-- Arm a `TurnCompletion` timer, cancelling whatever is armed. -/
def armTurnCompletion (now : Instant) (duration : Duration) (isShort : Bool)
    (t : ReengagementTimer) (timers : DelayQueue TimerKey) :
    ReengagementTimer × DelayQueue TimerKey :=
  let (t, timers) := t.disarm timers
  let (key, timers) := timers.insert .turnCompletion (now + duration)
  ({ t with state := .turnCompletion key isShort }, timers)

/-- Arm a `UserIdle` timer; a no-op while `TurnCompletion` is armed. -/
def armIdle (now : Instant) (duration : Duration) (t : ReengagementTimer)
    (timers : DelayQueue TimerKey) : ReengagementTimer × DelayQueue TimerKey :=
  match t.state with
  | .turnCompletion _ _ => (t, timers)
  | .userIdle key =>
    let (key, timers) := (timers.remove key).insert .userIdle (now + duration)
    ({ t with state := .userIdle key }, timers)
  | .idle =>
    let (key, timers) := timers.insert .userIdle (now + duration)
    ({ t with state := .userIdle key }, timers)

/-- The user asked to hold. -/
def holdFor (now : Instant) (duration : Duration) (t : ReengagementTimer) : ReengagementTimer :=
  { t with holdUntil := some (now + duration) }

/-- The idle window pushed up to the hold barrier; a barrier in the past is cleared. -/
def extendByHold (now : Instant) (duration : Duration) (t : ReengagementTimer) :
    Duration × ReengagementTimer :=
  match t.holdUntil with
  | some holdTime =>
    if now ≤ holdTime then (duration + (holdTime - now), t)
    else (duration, { t with holdUntil := none })
  | none => (duration, t)

/-- `TurnCompletion` fired: `isShort`, unless the key was stale. -/
def onTurnCompletionFired (t : ReengagementTimer) : Option (Bool × ReengagementTimer) :=
  match t.state with
  | .turnCompletion _ isShort => some (isShort, { t with state := .idle })
  | _ => none

/-- `UserIdle` fired: the new retry count, unless the key was stale. -/
def onUserIdleFired (t : ReengagementTimer) : Option (ℕ × ReengagementTimer) :=
  match t.state with
  | .userIdle _ =>
    some (t.idleRetries + 1, { t with state := .idle, idleRetries := t.idleRetries + 1 })
  | _ => none

/-- The queue entry the machine is responsible for. -/
def owned (t : ReengagementTimer) : Multiset (Key × TimerKey) :=
  match t.state with
  | .turnCompletion key _ => {(key, .turnCompletion)}
  | .userIdle key => {(key, .userIdle)}
  | .idle => 0

end ReengagementTimer

/-! ## Policies -/

/-- Whether a barge-in meets the min-words requirement. -/
def meetsBargeInWordGate (ttsActive : Bool) (wordCount minWords : ℕ) : Bool :=
  if !ttsActive || minWords == 0 then true else minWords ≤ wordCount

/-- `DefaultBargeInPolicy::should_accept`. -/
def shouldAccept (ttsActive : Bool) (wordCount minWords : ℕ) : Bool :=
  meetsBargeInWordGate ttsActive wordCount minWords

/-- Whether an idle nudge should fire. -/
def shouldNudgeIdle (pipelineActive : Bool) (idleTimeoutSecs nudgeCount maxNudges : ℕ) : Bool :=
  !pipelineActive && 0 < idleTimeoutSecs && 0 < nudgeCount && nudgeCount ≤ maxNudges

end Feros
