import Feros.Types
import Feros.Library.Run
/-! # How long an STT engine keeps its model

Both engines load their model when a request needs it, and drop it some time after the last one.  Requests run
on the threads of a pool, and each timer calls `unload` on a thread of its own; a lock orders what they do to
the engine, except for the use of the model itself.

A timer that was cancelled in time does not call; one that has already called waits for the lock, and a cancel
comes too late for it.

`load` sets `_model` before it is done.  Where it raises behind that, the engine has a model that no request has
touched; the next request takes it as it is. -/

namespace Feros

/-- Which engine it is. -/
inductive EngineKind where
  | parakeet
  | whisper
  deriving DecidableEq, Repr

/-- **A timer.** -/
inductive UnloadTimer where
  /-- It waits, at least up to an instant. -/
  | armed (due : Instant)
  | cancelled
  /-- Its call of `unload` waits for the lock. -/
  | calling
  | finished
  deriving DecidableEq, Repr

/-- **An engine**, its timers, and the requests that were started. -/
structure SttEngine where
  /-- `_model` is set. -/
  loaded : Bool
  lastUsed : Instant
  activeRequests : ℕ
  /-- The timer that would be cancelled. -/
  unloadTimer : Option ℕ
  timers : List UnloadTimer
  /-- Whether each request is using the model. -/
  requests : List Bool
  deriving DecidableEq, Repr

/-- **How `load` ends**, where there is no model yet. -/
inductive LoadEnd where
  | loaded
  /-- It raises, and there is still no model. -/
  | absent
  /-- It raises behind the assignment of `_model`: in `cuda`, `eval` or `change_decoding_strategy`, or as the
  batched pipeline is made. -/
  | halfway
  deriving DecidableEq, Repr

/-- What can happen. -/
inductive EngineAction where
  /-- A request takes the lock, and loads the model if there is none. -/
  | transcribe (now : Instant) (load : LoadEnd)
  /-- A request is done with the model, or its use has raised. -/
  | finish (i : ℕ) (now : Instant)
  /-- A timer stops waiting. -/
  | expire (k : ℕ) (now : Instant)
  /-- The call of a timer takes the lock. -/
  | unload (k : ℕ) (now : Instant)
  deriving DecidableEq, Repr

namespace SttEngine

/-- An engine, loaded or not, that was not used. -/
def fresh (loaded : Bool) : SttEngine := ⟨loaded, 0, 0, none, [], []⟩

/-- `cancel`: it stops a timer that waits. -/
def cancel : UnloadTimer → UnloadTimer
  | .armed _ => .cancelled
  | timer => timer

/-- `_schedule_unload`: a new timer takes the place of the one before; without a `ttl` there is none. -/
def scheduleUnload (ttl delay : Duration) (now : Instant) (e : SttEngine) : SttEngine :=
  if ttl = 0 then e
  else
    let timers := (e.unloadTimer.map fun k => e.timers.modify k cancel).getD e.timers
    { e with timers := timers ++ [.armed (now + delay)], unloadTimer := some timers.length }

/-- `_touch`. -/
def touch (ttl : Duration) (now : Instant) (e : SttEngine) : SttEngine :=
  { e with lastUsed := now }.scheduleUnload ttl ttl now

/-- The model is dropped. -/
def drop (e : SttEngine) : SttEngine := { e with loaded := false }

/-- `ParakeetEngine.unload`. -/
def parakeetUnload (e : SttEngine) : SttEngine :=
  if !e.loaded then e else if e.activeRequests > 0 then e else e.drop

/-- `WhisperEngine.unload`: it looks again how long the model was not used. -/
def whisperUnload (ttl : Duration) (now : Instant) (e : SttEngine) : SttEngine :=
  if !e.loaded then e
  else if e.activeRequests > 0 then e.scheduleUnload ttl ttl now
  else
    let elapsed := now - e.lastUsed
    if elapsed < ttl ∧ ttl > 0 then e.scheduleUnload ttl (ttl - elapsed) now else e.drop

/-- `unload`. -/
def unload (kind : EngineKind) (ttl : Duration) (now : Instant) (e : SttEngine) : SttEngine :=
  match kind with
  | .parakeet => e.parakeetUnload
  | .whisper => e.whisperUnload ttl now

/-- `transcribe` up to the use of the model: `load` returns at once if there is a model, and may leave one
behind when it raises. -/
def transcribe (ttl : Duration) (now : Instant) (load : LoadEnd) (e : SttEngine) : SttEngine :=
  if e.loaded || load = .loaded then
    let e := { e with loaded := true }.touch ttl now
    { e with activeRequests := e.activeRequests + 1, requests := e.requests ++ [true] }
  else if load = .halfway then { e with loaded := true }
  else e

/-- The `finally` of `transcribe`. -/
def finish (ttl : Duration) (i : ℕ) (now : Instant) (e : SttEngine) : SttEngine :=
  if e.requests[i]? = some true then
    { e with activeRequests := e.activeRequests - 1, requests := e.requests.set i false }.touch ttl now
  else e

/-- A timer has waited long enough. -/
def expire (k : ℕ) (now : Instant) (e : SttEngine) : SttEngine :=
  match e.timers[k]? with
  | some (.armed due) => if due ≤ now then { e with timers := e.timers.set k .calling } else e
  | _ => e

/-- **One step.** -/
def step (kind : EngineKind) (ttl : Duration) (e : SttEngine) : EngineAction → SttEngine
  | .transcribe now load => e.transcribe ttl now load
  | .finish i now => e.finish ttl i now
  | .expire k now => e.expire k now
  | .unload k now =>
    if e.timers[k]? = some .calling then { e with timers := e.timers.set k .finished }.unload kind ttl now else e

/-- When a step uses the model: as a request takes it, and as one is done with it. -/
def uses (e : SttEngine) : EngineAction → List Instant
  | .transcribe now load => if e.loaded || load = .loaded then [now] else []
  | .finish i now => if e.requests[i]? = some true then [now] else []
  | .expire .. => []
  | .unload .. => []

end SttEngine

end Feros
