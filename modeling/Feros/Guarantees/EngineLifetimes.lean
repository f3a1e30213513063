import Feros.Inference.EngineLifetime
import Mathlib.Data.List.Basic
/-! # A model is there while it is used, and gone some time after

Whatever the order in which requests and timers get the lock: a model that is used is not dropped, and an
engine that is not used any more has a timer that will drop its model, if the model was used since it was
loaded.  It was, unless `load` has raised behind the assignment of `_model`.

Whisper looks at the clock again before it drops the model; Parakeet does not, so that a late timer can drop a
model that was just used. -/

namespace Feros

open Run

namespace SttEngine

variable {kind : EngineKind} {ttl : Duration} {e : SttEngine}

/-! ## In use -/

/-- Scheduling changes the timers, and nothing else. -/
theorem scheduleUnload_eq (ttl delay : Duration) (now : Instant) (e : SttEngine) :
    e.scheduleUnload ttl delay now = { e with
      timers := (e.scheduleUnload ttl delay now).timers
      unloadTimer := (e.scheduleUnload ttl delay now).unloadTimer } := by
  unfold scheduleUnload
  split
  · rfl
  · rfl

/-- **What `unload` does**: nothing, or it drops a model that is not in use, or it schedules a timer. -/
theorem unload_cases (kind : EngineKind) (ttl : Duration) (now : Instant) (e : SttEngine) :
    (e.unload kind ttl now = e ∧ (e.loaded = false ∨ (kind = .parakeet ∧ 0 < e.activeRequests))) ∨
      (e.unload kind ttl now = e.drop ∧ e.activeRequests = 0 ∧ (kind = .whisper → ttl ≤ now - e.lastUsed)) ∨
      ∃ delay, kind = .whisper ∧ e.unload kind ttl now = e.scheduleUnload ttl delay now ∧
        (e.activeRequests = 0 → now - e.lastUsed < ttl ∧ now + delay ≤ e.lastUsed + ttl) := by
  unfold unload
  cases kind with
  | parakeet =>
      dsimp only
      unfold parakeetUnload
      split
      · next absent => exact .inl ⟨rfl, .inl (by simpa using absent)⟩
      · split
        · next busy => exact .inl ⟨rfl, .inr ⟨rfl, busy⟩⟩
        · next idle => exact .inr (.inl ⟨rfl, Nat.eq_zero_of_not_pos idle, fun other => by cases other⟩)
  | whisper =>
      dsimp only
      unfold whisperUnload
      split
      · next absent => exact .inl ⟨rfl, .inl (by simpa using absent)⟩
      · split
        · next busy =>
          exact .inr (.inr ⟨ttl, rfl, rfl, fun idle => absurd busy (by rw [idle]; exact Nat.lt_irrefl 0)⟩)
        · next idle =>
          dsimp only
          split
          · next early =>
            refine .inr (.inr ⟨ttl - (now - e.lastUsed), rfl, rfl, fun _ => ⟨early.1, ?_⟩⟩)
            have below := early.1
            unfold Instant Duration at *
            omega
          · next late =>
            refine .inr (.inl ⟨rfl, Nat.eq_zero_of_not_pos idle, fun _ => ?_⟩)
            unfold Instant Duration at *
            omega

/-- A timer is scheduled: it is the one that is kept. -/
theorem scheduleUnload_kept (some_ : 0 < ttl) (delay : Duration) (now : Instant) (e : SttEngine) :
    ∃ k, (e.scheduleUnload ttl delay now).unloadTimer = some k ∧
      (e.scheduleUnload ttl delay now).timers[k]? = some (.armed (now + delay)) := by
  unfold scheduleUnload
  rw [if_neg (Nat.ne_of_gt some_)]
  exact ⟨_, rfl, List.getElem?_concat_length⟩

/-- A request begins, or `load` raises and leaves a model behind or none. -/
theorem transcribe_cases (ttl : Duration) (now : Instant) (load : LoadEnd) (e : SttEngine) :
    ((e.loaded || load = .loaded) = false ∧ (e.transcribe ttl now load = e ∨
        (load = .halfway ∧ e.transcribe ttl now load = { e with loaded := true }))) ∨
      ((e.loaded || load = .loaded) = true ∧ (e.transcribe ttl now load).loaded = true ∧
        (e.transcribe ttl now load).lastUsed = now ∧
        (e.transcribe ttl now load).activeRequests = e.activeRequests + 1 ∧
        (e.transcribe ttl now load).requests = e.requests ++ [true] ∧
        (0 < ttl → ∃ k, (e.transcribe ttl now load).unloadTimer = some k ∧
          (e.transcribe ttl now load).timers[k]? = some (.armed (now + ttl)))) := by
  unfold transcribe
  cases there : (e.loaded || load = .loaded) with
  | false =>
      refine .inl ⟨rfl, ?_⟩
      rw [if_neg Bool.false_ne_true]
      split
      · next half => exact .inr ⟨half, rfl⟩
      · exact .inl rfl
  | true =>
      refine .inr ⟨rfl, ?_⟩
      rw [if_pos rfl]
      unfold touch
      rw [scheduleUnload_eq]
      exact ⟨rfl, rfl, rfl, rfl, fun some_ => scheduleUnload_kept some_ ttl now _⟩

/-- A request is done. -/
theorem finish_cases (ttl : Duration) (i : ℕ) (now : Instant) (e : SttEngine) :
    (e.requests[i]? ≠ some true ∧ e.finish ttl i now = e) ∨
      (e.requests[i]? = some true ∧ (e.finish ttl i now).loaded = e.loaded ∧ (e.finish ttl i now).lastUsed = now ∧
        (e.finish ttl i now).activeRequests = e.activeRequests - 1 ∧
        (e.finish ttl i now).requests = e.requests.set i false ∧
        (0 < ttl → ∃ k, (e.finish ttl i now).unloadTimer = some k ∧
          (e.finish ttl i now).timers[k]? = some (.armed (now + ttl)))) := by
  unfold finish
  by_cases using_ : e.requests[i]? = some true
  · refine .inr ⟨using_, ?_⟩
    rw [if_pos using_]
    unfold touch
    rw [scheduleUnload_eq]
    exact ⟨rfl, rfl, rfl, rfl, fun some_ => scheduleUnload_kept some_ ttl now _⟩
  · rw [if_neg using_]
    exact .inl ⟨using_, rfl⟩

/-- **What holds of every engine**: a model that is used is there, and the requests that use it are counted. -/
structure Sound (e : SttEngine) : Prop where
  count : e.activeRequests = e.requests.count true
  loaded : true ∈ e.requests → e.loaded = true

/-- A fresh engine is sound. -/
theorem sound_fresh (loaded : Bool) : (fresh loaded).Sound := ⟨rfl, nofun⟩

/-- **A transcription that starts leaves the engine sound**, however its load ends. -/
theorem Sound.transcribe (sound : e.Sound) (now : Instant) (load : LoadEnd) : (e.transcribe ttl now load).Sound := by
  rcases transcribe_cases ttl now load e with ⟨-, same | ⟨-, half⟩⟩ | ⟨-, loaded, -, active, requests, -⟩
  · rw [same]
    exact sound
  · rw [half]
    exact ⟨sound.count, fun _ => rfl⟩
  · refine ⟨?_, fun _ => loaded⟩
    rw [active, requests, List.count_append, sound.count]
    rfl

/-- A transcription that ends leaves the engine sound. -/
theorem Sound.finish (sound : e.Sound) (i : ℕ) (now : Instant) : (e.finish ttl i now).Sound := by
  rcases finish_cases ttl i now e with ⟨-, same⟩ | ⟨using_, loaded, -, active, requests, -⟩
  · rw [same]
    exact sound
  · obtain ⟨inside, at_⟩ := List.getElem?_eq_some_iff.1 using_
    refine ⟨?_, fun held => ?_⟩
    · rw [active, requests, List.count_set inside, at_, sound.count]
      rfl
    · rw [loaded]
      exact sound.loaded (List.mem_of_getElem? using_)

/-- A timer that stops waiting changes the timers alone. -/
theorem expire_eq (k : ℕ) (now : Instant) (e : SttEngine) :
    e.expire k now = { e with timers := (e.expire k now).timers } := by
  unfold SttEngine.expire
  split
  · split
    · rfl
    · rfl
  · rfl

/-- The call of a timer has the lock: a model in use is not dropped. -/
theorem Sound.unload (sound : e.Sound) (k : ℕ) (now : Instant) :
    ({ e with timers := e.timers.set k .finished }.unload kind ttl now).Sound := by
  rcases unload_cases kind ttl now { e with timers := e.timers.set k .finished } with
    ⟨same, -⟩ | ⟨drops, idle, -⟩ | ⟨delay, -, schedules, -⟩
  · rw [same]
    exact ⟨sound.count, sound.loaded⟩
  · rw [drops]
    refine ⟨sound.count, fun held => ?_⟩
    have some_ : 0 < e.requests.count true := List.count_pos_iff.2 held
    rw [← sound.count] at some_
    exact absurd idle (Nat.ne_of_gt some_)
  · rw [schedules, scheduleUnload_eq]
    exact ⟨sound.count, sound.loaded⟩

/-- Every step leaves the engine sound. -/
theorem Sound.step (e : SttEngine) (action : EngineAction) (sound : e.Sound) : (e.step kind ttl action).Sound := by
  cases action with
  | transcribe now load => exact sound.transcribe now load
  | finish i now => exact sound.finish i now
  | expire k now =>
      rw [SttEngine.step, expire_eq]
      exact ⟨sound.count, sound.loaded⟩
  | unload k now =>
      unfold SttEngine.step
      dsimp only
      split
      · exact sound.unload k now
      · exact sound

/-! ## Out of use -/

/-- **A timer is pending** for a model that is not in use: it has called, or it will in time. -/
def Pending (kind : EngineKind) (ttl : Duration) (e : SttEngine) : Prop :=
  e.loaded = true → (e.activeRequests = 0 ∨ kind = .whisper) →
    ∃ k, e.unloadTimer = some k ∧ (e.timers[k]? = some .calling ∨
      ∃ due, e.timers[k]? = some (.armed due) ∧ (e.activeRequests = 0 → due ≤ e.lastUsed + ttl))

/-- Every use leaves a timer pending. -/
theorem pending_of_uses (some_ : 0 < ttl) {action : EngineAction} (used : e.uses action ≠ []) :
    (e.step kind ttl action).Pending kind ttl := by
  intro _ _
  cases action with
  | transcribe now load =>
      rcases transcribe_cases ttl now load e with ⟨none, -⟩ | ⟨-, -, last, -, -, kept⟩
      · rw [uses, none, if_neg Bool.false_ne_true] at used
        exact absurd rfl used
      · obtain ⟨k, is, armed⟩ := kept some_
        exact ⟨k, is, .inr ⟨_, armed, fun _ => Nat.le_of_eq (congrArg (· + ttl) last.symm)⟩⟩
  | finish i now =>
      rcases finish_cases ttl i now e with ⟨none, -⟩ | ⟨-, -, last, -, -, kept⟩
      · rw [uses, if_neg none] at used
        exact absurd rfl used
      · obtain ⟨k, is, armed⟩ := kept some_
        exact ⟨k, is, .inr ⟨_, armed, fun _ => Nat.le_of_eq (congrArg (· + ttl) last.symm)⟩⟩
  | expire k now => exact absurd rfl used
  | unload k now => exact absurd rfl used

/-- A timer that expires leaves a timer pending, if only as one that calls. -/
theorem Pending.expire (pending : e.Pending kind ttl) (k : ℕ) (now : Instant) :
    (e.expire k now).Pending kind ttl := by
  unfold SttEngine.expire
  split
  · next due armed =>
    split
    · intro loaded idle
      obtain ⟨kept, is, waits⟩ := pending loaded idle
      refine ⟨kept, is, ?_⟩
      dsimp only
      by_cases same : k = kept
      · subst same
        exact .inl (List.getElem?_set_self (List.getElem?_eq_some_iff.1 armed).1)
      · rw [List.getElem?_set_ne same]
        exact waits
    · exact pending
  · exact pending

/-- The call of a timer has the lock: it drops the model, or another timer is pending. -/
theorem pending_unload (some_ : 0 < ttl) (k : ℕ) (now : Instant) :
    ({ e with timers := e.timers.set k .finished }.unload kind ttl now).Pending kind ttl := by
  rcases unload_cases kind ttl now { e with timers := e.timers.set k .finished } with
    ⟨same, why⟩ | ⟨drops, -, -⟩ | ⟨delay, -, schedules, due⟩
  · rw [same]
    intro loaded idle
    rcases why with absent | ⟨isParakeet, busy⟩
    · exact absurd (absent.symm.trans loaded) Bool.false_ne_true
    · rcases idle with none | isWhisper
      · exact absurd none (Nat.ne_of_gt busy)
      · rw [isParakeet] at isWhisper
        cases isWhisper
  · rw [drops]
    exact fun loaded => absurd loaded Bool.false_ne_true
  · rw [schedules, scheduleUnload_eq]
    intro _ _
    obtain ⟨kept, is, armed⟩ := scheduleUnload_kept some_ delay now { e with timers := e.timers.set k .finished }
    exact ⟨kept, is, .inr ⟨_, armed, fun idle => (due idle).2⟩⟩

/-- While there is a model, a timer stays pending: only `load` could bring one without a timer. -/
theorem Pending.step (some_ : 0 < ttl) (e : SttEngine) (action : EngineAction) (pending : e.Pending kind ttl)
    (there : e.loaded = true) : (e.step kind ttl action).Pending kind ttl := by
  cases action with
  | transcribe now load =>
      refine pending_of_uses some_ ?_
      rw [uses, there, Bool.true_or, if_pos rfl]
      exact List.cons_ne_nil now []
  | finish i now =>
      by_cases using_ : e.requests[i]? = some true
      · refine pending_of_uses some_ ?_
        rw [uses, if_pos using_]
        exact List.cons_ne_nil now []
      · rw [SttEngine.step, SttEngine.finish, if_neg using_]
        exact pending
  | expire k now => exact pending.expire k now
  | unload k now =>
      unfold SttEngine.step
      dsimp only
      split
      · exact pending_unload some_ k now
      · exact pending

/-- An engine that is not used drops its model when its timer calls. -/
theorem Pending.idle (pending : e.Pending kind ttl) (loaded : e.loaded = true) (idle : e.activeRequests = 0) :
    ∃ k, e.unloadTimer = some k ∧ ∀ now, e.lastUsed + ttl ≤ now →
      (run (SttEngine.step kind ttl) e [.expire k now, .unload k now]).loaded = false := by
  obtain ⟨k, is, waits⟩ := pending loaded (.inl idle)
  refine ⟨k, is, fun now late => ?_⟩
  -- The call waits for the lock, or comes to do so.
  have calls : ∃ timers, e.expire k now = { e with timers := timers } ∧ timers[k]? = some .calling := by
    unfold SttEngine.expire
    rcases waits with calling | ⟨due, armed, early⟩
    · rw [calling]
      exact ⟨e.timers, rfl, calling⟩
    · rw [armed]
      dsimp only
      rw [if_pos ((early idle).trans late)]
      exact ⟨_, rfl, List.getElem?_set_self (List.getElem?_eq_some_iff.1 armed).1⟩
  obtain ⟨timers, expired, calling⟩ := calls
  rw [run_cons, run_cons, run_nil, SttEngine.step, expired, SttEngine.step, if_pos calling]
  rcases unload_cases kind ttl now { e with timers := timers.set k .finished } with
    ⟨-, absent | ⟨-, busy⟩⟩ | ⟨drops, -, -⟩ | ⟨delay, -, -, early⟩
  · exact absurd (absent.symm.trans loaded) Bool.false_ne_true
  · exact absurd idle (Nat.ne_of_gt busy)
  · exact congrArg SttEngine.loaded drops
  · have below := (early idle).1
    unfold Instant Duration at *
    dsimp only at below
    omega

/-- **The model was used since it was loaded**: behind some use, every step found it there. -/
def UsedSince (kind : EngineKind) (ttl : Duration) (e : SttEngine) (actions : List EngineAction) : Prop :=
  ∃ before action after, actions = before ++ action :: after ∧
    (run (step kind ttl) e before).uses action ≠ [] ∧
    Along (step kind ttl) (fun e _ => e.loaded = true) (run (step kind ttl) e (before ++ [action])) after

/-- **A model that was used since it was loaded has a timer pending.** -/
theorem UsedSince.pending (some_ : 0 < ttl) {actions : List EngineAction} (used : UsedSince kind ttl e actions) :
    (run (SttEngine.step kind ttl) e actions).Pending kind ttl := by
  obtain ⟨before, action, after, rfl, uses, there⟩ := used
  rw [List.append_cons, run_append]
  refine invariant (Pending.step some_) ?_ there
  rw [run_append]
  exact pending_of_uses some_ uses

/-- A step that does not use the model neither starts a request nor brings the model, unless `load` raises
behind the assignment. -/
theorem unused_step {action : EngineAction} (unused : e.uses action = []) :
    (e.step kind ttl action).requests = e.requests ∧
      ((e.step kind ttl action).loaded = true → e.loaded = true ∨ ∃ now, action = .transcribe now .halfway) := by
  cases action with
  | transcribe now load =>
      rcases transcribe_cases ttl now load e with ⟨-, same | ⟨rfl, half⟩⟩ | ⟨used, -⟩
      · rw [step, same]
        exact ⟨rfl, .inl⟩
      · rw [step, half]
        exact ⟨rfl, fun _ => .inr ⟨now, rfl⟩⟩
      · rw [uses, if_pos used] at unused
        cases unused
  | finish i now =>
      rcases finish_cases ttl i now e with ⟨-, same⟩ | ⟨used, -⟩
      · rw [step, same]
        exact ⟨rfl, .inl⟩
      · rw [uses, if_pos used] at unused
        cases unused
  | expire k now =>
      rw [step, expire_eq]
      exact ⟨rfl, .inl⟩
  | unload k now =>
      unfold step
      dsimp only
      split
      · rcases unload_cases kind ttl now { e with timers := e.timers.set k .finished } with
          ⟨same, -⟩ | ⟨drops, -⟩ | ⟨delay, -, schedules, -⟩
        · rw [same]
          exact ⟨rfl, .inl⟩
        · rw [drops]
          exact ⟨rfl, fun loaded => absurd loaded Bool.false_ne_true⟩
        · rw [schedules, scheduleUnload_eq]
          exact ⟨rfl, .inl⟩
      · exact ⟨rfl, .inl⟩

/-- A model that is there, in an engine that was used, was used since it was loaded, or a load has raised
behind the assignment. -/
theorem usedSince_or_halfway (kind : EngineKind) (ttl : Duration) (loaded : Bool) (actions : List EngineAction)
    (used : (run (step kind ttl) (fresh loaded) actions).requests ≠ [])
    (there : (run (step kind ttl) (fresh loaded) actions).loaded = true) :
    UsedSince kind ttl (fresh loaded) actions ∨ ∃ now, .transcribe now .halfway ∈ actions := by
  induction actions using List.reverseRecOn with
  | nil => exact absurd rfl used
  | append_singleton actions action ih =>
      by_cases uses : (run (step kind ttl) (fresh loaded) actions).uses action = []
      · rw [run_append] at used there
        obtain ⟨requests, brings⟩ := @unused_step kind ttl _ _ uses
        rw [run_cons, run_nil, requests] at used
        rcases brings there with before | ⟨now, rfl⟩
        · rcases ih used before with ⟨front, use, after, rfl, isUse, along⟩ | ⟨now, raised⟩
          · refine .inl ⟨front, use, after ++ [action], by rw [List.append_assoc]; rfl, isUse, ?_⟩
            rw [along_append, ← run_append, ← List.append_cons]
            exact ⟨along, before, trivial⟩
          · exact .inr ⟨now, List.mem_append_left _ raised⟩
        · exact .inr ⟨now, List.mem_append_right _ List.mem_cons_self⟩
      · exact .inl ⟨actions, action, [], rfl, uses, trivial⟩

/-- **A model is there while it is used, and is dropped when it is not**: where it was used since it was loaded,
the engine has a timer for it; where it was not, a load has raised halfway, or no request ever began. -/
theorem model_kept_and_dropped (kind : EngineKind) (ttl : Duration) (loaded : Bool) (actions : List EngineAction) :
    let e := run (step kind ttl) (fresh loaded) actions
    e.activeRequests = e.requests.count true ∧ (true ∈ e.requests → e.loaded = true) ∧
      (0 < ttl → UsedSince kind ttl (fresh loaded) actions → e.activeRequests = 0 → e.loaded = true →
        ∃ k, e.unloadTimer = some k ∧ ∀ now, e.lastUsed + ttl ≤ now →
          (run (step kind ttl) e [.expire k now, .unload k now]).loaded = false) ∧
      (e.requests ≠ [] → e.loaded = true →
        UsedSince kind ttl (fresh loaded) actions ∨ ∃ now, .transcribe now .halfway ∈ actions) := by
  intro e
  have sound : e.Sound := invariant_of_step Sound.step (sound_fresh loaded) actions
  refine ⟨sound.count, sound.loaded, fun some_ used idle there => ?_, usedSince_or_halfway kind ttl loaded actions⟩
  exact (used.pending some_).idle there idle

/-- A load that raises halfway leaves a model for which there is no timer. -/
example : run (step .parakeet 5) (fresh false)
    [.transcribe 0 .loaded, .finish 0 1, .expire 1 6, .unload 1 6, .transcribe 7 .halfway] =
      ⟨true, 1, 0, some 1, [.cancelled, .finished], [false]⟩ := by
  decide

/-! ## Just used -/

/-- The clock of a step. -/
def clockOf : EngineAction → Instant
  | .transcribe now _ => now
  | .finish _ now => now
  | .expire _ now => now
  | .unload _ now => now

/-- The last use is the latest so far. -/
structure Latest (seen : List Instant) (clock : Instant) (e : SttEngine) : Prop where
  before : ∀ use ∈ seen, use ≤ e.lastUsed
  past : e.lastUsed ≤ clock

/-- A step that takes place later leaves the last use the latest. -/
theorem Latest.step {seen : List Instant} {clock : Instant} (latest : Latest seen clock e) {action : EngineAction}
    (later : clock ≤ clockOf action) :
    Latest (seen ++ e.uses action) (clockOf action) (e.step kind ttl action) := by
  -- A step that uses nothing leaves the last use.
  have still : ∀ {e' : SttEngine}, e'.lastUsed = e.lastUsed → Latest (seen ++ []) (clockOf action) e' := by
    intro e' same
    refine ⟨fun use held => ?_, ?_⟩
    · rw [List.append_nil] at held
      exact same ▸ latest.before use held
    · exact same ▸ latest.past.trans later
  -- A use is the latest one: the clock never goes back.
  have used : ∀ {e' : SttEngine}, e'.lastUsed = clockOf action →
      Latest (seen ++ [clockOf action]) (clockOf action) e' := by
    intro e' same
    refine ⟨fun use held => ?_, Nat.le_of_eq same⟩
    rw [same]
    rcases List.mem_append.1 held with before | last
    · exact (latest.before use before).trans (latest.past.trans later)
    · exact Nat.le_of_eq (List.mem_singleton.1 last)
  cases action with
  | transcribe now load =>
      rcases transcribe_cases ttl now load e with ⟨none, same | ⟨-, half⟩⟩ | ⟨some_, -, last, -⟩
      · rw [uses, none, if_neg Bool.false_ne_true]
        exact still (congrArg SttEngine.lastUsed same)
      · rw [uses, none, if_neg Bool.false_ne_true]
        exact still (by rw [SttEngine.step, half])
      · rw [uses, if_pos some_]
        exact used last
  | finish i now =>
      rcases finish_cases ttl i now e with ⟨none, same⟩ | ⟨some_, -, last, -⟩
      · rw [uses, if_neg none]
        exact still (congrArg SttEngine.lastUsed same)
      · rw [uses, if_pos some_]
        exact used last
  | expire k now =>
      refine still ?_
      rw [SttEngine.step, expire_eq]
  | unload k now =>
      refine still ?_
      unfold SttEngine.step
      dsimp only
      split
      · rcases unload_cases kind ttl now { e with timers := e.timers.set k .finished } with
          ⟨same, -⟩ | ⟨drops, -⟩ | ⟨delay, -, schedules, -⟩
        · rw [same]
        · rw [drops]
          rfl
        · rw [schedules, scheduleUnload_eq]
      · rfl

/-- Where the clock never goes back the last use is the latest. -/
theorem latest_run (kind : EngineKind) (ttl : Duration) {seen : List Instant} {clock : Instant}
    (latest : Latest seen clock e) {actions : List EngineAction}
    (sorted : (clock :: actions.map clockOf).Pairwise (· ≤ ·)) :
    ∃ clock', Latest (seen ++ outputs (step kind ttl) uses e actions) clock'
        (run (SttEngine.step kind ttl) e actions) ∧
      ∀ now, (∀ earlier ∈ clock :: actions.map clockOf, earlier ≤ now) → clock' ≤ now := by
  induction actions generalizing e seen clock with
  | nil =>
      refine ⟨clock, ?_, fun now all => all clock List.mem_cons_self⟩
      rw [outputs, List.append_nil]
      exact latest
  | cons action actions ih =>
      rw [List.map_cons, List.pairwise_cons] at sorted
      have next : Latest (seen ++ e.uses action) (clockOf action) (e.step kind ttl action) :=
        latest.step (sorted.1 _ List.mem_cons_self)
      obtain ⟨clock', last, bound⟩ := ih next sorted.2
      refine ⟨clock', ?_, fun now all => bound now fun earlier held => all earlier (List.mem_cons_of_mem _ held)⟩
      rw [outputs, ← List.append_assoc]
      exact last

/-- **Whisper does not drop a model that was just used.** -/
theorem whisper_drops_late (ttl : Duration) (loaded : Bool) {actions : List EngineAction} {last : EngineAction}
    (sorted : ((actions ++ [last]).map clockOf).Pairwise (· ≤ ·))
    (there : (run (step .whisper ttl) (fresh loaded) actions).loaded = true)
    (dropped : (run (step .whisper ttl) (fresh loaded) (actions ++ [last])).loaded = false) :
    ∀ use ∈ outputs (step .whisper ttl) uses (fresh loaded) actions, use + ttl ≤ clockOf last := by
  intro use held
  rw [List.map_append, List.pairwise_append] at sorted
  obtain ⟨ordered, -, later⟩ := sorted
  have began : Latest [] 0 (fresh loaded) := ⟨nofun, Nat.le_refl 0⟩
  obtain ⟨clock, latest, bound⟩ := latest_run .whisper ttl began
    (List.pairwise_cons.2 ⟨fun _ _ => Nat.zero_le _, ordered⟩)
  rw [List.nil_append] at latest
  have past : clock ≤ clockOf last := by
    apply bound
    intro earlier inside
    rcases List.mem_cons.1 inside with rfl | inside
    · exact Nat.zero_le _
    · exact later earlier inside (clockOf last) List.mem_cons_self
  rw [run_append, run_cons, run_nil] at dropped
  generalize run (step .whisper ttl) (fresh loaded) actions = e at there dropped latest
  have recent := latest.before use held
  have old := latest.past
  -- Only a call of a timer drops the model.
  cases last with
  | transcribe now load =>
      rcases transcribe_cases ttl now load e with ⟨-, same | ⟨-, half⟩⟩ | ⟨-, still, -⟩
      · rw [step, same, there] at dropped
        cases dropped
      · rw [step, half] at dropped
        cases dropped
      · rw [step, still] at dropped
        cases dropped
  | finish i now =>
      rcases finish_cases ttl i now e with ⟨-, same⟩ | ⟨-, still, -⟩
      · rw [step, same, there] at dropped
        cases dropped
      · rw [step, still, there] at dropped
        cases dropped
  | expire k now =>
      rw [step, expire_eq, there] at dropped
      cases dropped
  | unload k now =>
      unfold step at dropped
      dsimp only at dropped
      split at dropped
      · rcases unload_cases .whisper ttl now { e with timers := e.timers.set k .finished } with
          ⟨same, -⟩ | ⟨-, -, late⟩ | ⟨delay, -, schedules, -⟩
        · rw [same] at dropped
          exact absurd (there.symm.trans dropped) (by decide)
        · have waited := late rfl
          change clock ≤ now at past
          change use + ttl ≤ now
          unfold Instant Duration at *
          dsimp only at waited
          omega
        · rw [schedules, scheduleUnload_eq] at dropped
          exact absurd (there.symm.trans dropped) (by decide)
      · rw [there] at dropped
        cases dropped

/-- A late call of a timer drops a model of Parakeet that was just used. -/
example : (run (step .parakeet 5) (fresh true)
    [.transcribe 0 .loaded, .finish 0 1, .expire 1 6, .transcribe 7 .loaded, .finish 1 8, .unload 1 8]).loaded = false := by
  decide

/-- A use at zero that ends at one: the model goes at six. -/
theorem whisper_drops_late_once :
    outputs (step .whisper 5) uses (fresh true) [.transcribe 0 .loaded, .finish 0 1, .expire 1 6] = [0, 1] ∧
      ∀ use ∈ outputs (step .whisper 5) uses (fresh true) [.transcribe 0 .loaded, .finish 0 1, .expire 1 6],
        use + 5 ≤ clockOf (.unload 1 6) :=
  ⟨by decide, whisper_drops_late 5 true (by decide) (by decide) (by decide)⟩

end SttEngine

end Feros
