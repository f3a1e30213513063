import Mathlib.Data.List.Basic
/-! # The fallback provider

Calls and recovery probes run as tasks over one list of slots behind a read-write lock.  A task runs from one
await to the next, and the tasks are interleaved at their awaits; a provider is awaited under a read guard, so
nothing is written meanwhile.

* **`CallPoint`**, **`ProbePoint`**: where a task waits.
* **`step`**: one task goes on. -/

namespace Feros

/-- How the attempt of a provider ends. -/
inductive Attempt where
  | succeeds
  | fails
  | timesOut
  deriving DecidableEq, Repr

/-- **Where a call of `stream_completion` waits.** -/
inductive CallPoint where
  /-- For a read guard, to count the slots. -/
  | counting
  /-- For a read guard, to look at the health of slot `i`. -/
  | checking (i slotCount : ℕ)
  /-- For the read guard under which the provider is called. -/
  | starting (i slotCount : ℕ)
  /-- For the provider. -/
  | attempting (i slotCount : ℕ)
  /-- For a write guard, to mark slot `i` as unhealthy. -/
  | marking (i slotCount : ℕ)
  /-- It has returned the stream of a slot, or the error that all are exhausted. -/
  | returned (slot : Option ℕ)
  /-- The caller has dropped it. -/
  | dropped
  deriving DecidableEq, Repr

/-- **Where a recovery probe waits.** -/
inductive ProbePoint where
  | sleeping
  /-- For a read guard, to see if the slot is still unhealthy. -/
  | looking
  /-- For the read guard under which the provider is called. -/
  | starting
  /-- For the provider. -/
  | probing
  /-- For a write guard, to mark the slot as healthy. -/
  | restoring
  /-- For a read guard, to log that the slot is still unhealthy. -/
  | reporting
  | ended
  deriving DecidableEq, Repr

/-- A recovery probe. -/
structure RecoveryProbe where
  slotIndex : ℕ
  point : ProbePoint
  deriving DecidableEq, Repr

/-- **A fallback provider**, with the calls and the probes that were ever started. -/
structure FallbackProvider where
  /-- Which slots are healthy. -/
  healthy : List Bool
  calls : List CallPoint
  probes : List RecoveryProbe
  deriving DecidableEq, Repr

namespace FallbackProvider

/-- What happens next. -/
inductive Action where
  | streamCompletion
  | dropCall (call : ℕ)
  /-- A call goes on; the attempt is of use where a provider is awaited. -/
  | resumeCall (call : ℕ) (attempt : Attempt)
  | resumeProbe (probe : ℕ) (attempt : Attempt)
  deriving DecidableEq, Repr

/-- A provider whose slots are healthy. -/
def new (slots : ℕ) : FallbackProvider := ⟨List.replicate slots true, [], []⟩

/-- Nobody holds a read guard over an await. -/
def unlocked (s : FallbackProvider) : Bool :=
  (s.calls.all fun call => match call with | .attempting _ _ => false | _ => true) &&
    s.probes.all fun probe => probe.point != .probing

def setCall (call : ℕ) (point : CallPoint) (s : FallbackProvider) : FallbackProvider :=
  { s with calls := s.calls.set call point }

def setProbe (probe : ℕ) (point : RecoveryProbe) (s : FallbackProvider) : FallbackProvider :=
  { s with probes := s.probes.set probe point }

def setHealthy (i : ℕ) (healthy : Bool) (s : FallbackProvider) : FallbackProvider :=
  { s with healthy := s.healthy.set i healthy }

/-- Spawn a background task that checks if a failed provider has recovered. -/
def spawnRecoveryProbe (slotIndex : ℕ) (s : FallbackProvider) : FallbackProvider :=
  { s with probes := s.probes ++ [⟨slotIndex, .sleeping⟩] }

/-- The head of the loop over the slots. -/
def nextSlot (i slotCount : ℕ) : CallPoint := if i < slotCount then .checking i slotCount else .returned none

/-- A call goes on. -/
def resumeCall (call : ℕ) (attempt : Attempt) (s : FallbackProvider) : FallbackProvider :=
  match s.calls[call]? with
  | some .counting => s.setCall call (nextSlot 0 s.healthy.length)
  | some (.checking i slotCount) =>
    if s.healthy[i]?.getD false then s.setCall call (.starting i slotCount)
    else s.setCall call (nextSlot (i + 1) slotCount)
  | some (.starting i slotCount) => s.setCall call (.attempting i slotCount)
  | some (.attempting i slotCount) =>
    match attempt with
    | .succeeds => s.setCall call (.returned (some i))
    | .fails | .timesOut => s.setCall call (.marking i slotCount)
  | some (.marking i slotCount) =>
    -- There is no await between the mark and the spawn.
    if s.unlocked then ((s.setHealthy i false).spawnRecoveryProbe i).setCall call (nextSlot (i + 1) slotCount)
    else s
  | some (.returned _) | some .dropped | none => s

/-- A probe goes on. -/
def resumeProbe (probe : ℕ) (attempt : Attempt) (s : FallbackProvider) : FallbackProvider :=
  match s.probes[probe]? with
  | some ⟨i, .sleeping⟩ => s.setProbe probe ⟨i, .looking⟩
  | some ⟨i, .looking⟩ =>
    if s.healthy[i]? = some false then s.setProbe probe ⟨i, .starting⟩ else s.setProbe probe ⟨i, .ended⟩
  | some ⟨i, .starting⟩ => s.setProbe probe ⟨i, .probing⟩
  | some ⟨i, .probing⟩ =>
    match attempt with
    | .succeeds => s.setProbe probe ⟨i, .restoring⟩
    | .fails | .timesOut => s.setProbe probe ⟨i, .reporting⟩
  | some ⟨i, .restoring⟩ => if s.unlocked then (s.setHealthy i true).setProbe probe ⟨i, .ended⟩ else s
  | some ⟨i, .reporting⟩ => s.setProbe probe ⟨i, .sleeping⟩
  | some ⟨_, .ended⟩ | none => s

/-- A call is dropped at its await. -/
def dropCall (call : ℕ) (s : FallbackProvider) : FallbackProvider :=
  match s.calls[call]? with
  | some (.returned _) | none => s
  | some _ => s.setCall call .dropped

/-- **One step.** -/
def step (s : FallbackProvider) : Action → FallbackProvider
  | .streamCompletion => { s with calls := s.calls ++ [.counting] }
  | .dropCall call => s.dropCall call
  | .resumeCall call attempt => s.resumeCall call attempt
  | .resumeProbe probe attempt => s.resumeProbe probe attempt

end FallbackProvider

end Feros
