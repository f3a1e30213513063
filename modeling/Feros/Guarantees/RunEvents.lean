import Feros.Studio.EvaluationRuns
import Mathlib.Data.List.Nodup
/-! # What the events of a run tell

Whatever the process and the server do, and wherever the process dies: the committed events are numbered from
one without a gap, in the row and in the payload alike, and tell the run turn by turn.  A turn that has begun
has its utterance, a call has its result, and nothing comes after the end. -/

namespace Feros

open Run

/-! ## The story of a run -/

/-- **How far the events have come.** -/
inductive LogState where
  /-- The agent has had its say, or nothing has begun. -/
  | turnOver (turnId : ℕ)
  | turnStarted (turnId : ℕ)
  /-- The caller has spoken, and so many calls have their result. -/
  | called (turnId calls : ℕ)
  /-- The last call waits for its result. -/
  | calling (turnId calls : ℕ) (toolId : String)
  | finished
  | failed

namespace LogState

/-- The turn may be left. -/
def After (turnId : ℕ) (state : LogState) : Prop := state = turnOver turnId ∨ ∃ calls, state = called turnId calls

/-- Nothing is half told, and there may be more. -/
def Settled (state : LogState) : Prop := ∃ turnId, state.After turnId

/-- There is nothing more. -/
def Closed (state : LogState) : Prop := state = finished ∨ state = failed

end LogState

/-- **One event.** -/
inductive LogStep (env : EvaluationEnv) : LogState → RunEvent → LogState → Prop where
  | turnStarted {state : LogState} {turnId : ℕ} (passed : state.After turnId) (more : turnId + 1 ≤ env.maxTurns) :
      LogStep env state (.turnStarted (turnId + 1)) (.turnStarted (turnId + 1))
  | callerUtterance (turnId : ℕ) (text : String) :
      LogStep env (.turnStarted turnId) (.callerUtterance turnId text) (.called turnId 0)
  | toolCall (turnId calls : ℕ) (toolId : String) (argsJson : List (String × JsonValue)) :
      LogStep env (.called turnId calls) (.toolCall turnId (toolCallId turnId (calls + 1)) toolId argsJson)
        (.calling turnId (calls + 1) toolId)
  | toolMockResult (turnId calls : ℕ) (toolId : String) :
      LogStep env (.calling turnId calls toolId)
        (.toolMockResult turnId (toolCallId turnId calls) toolId (env.resolve turnId calls toolId))
        (.called turnId calls)
  | assistantReply (turnId calls : ℕ) (text : String) (said : text ≠ "") :
      LogStep env (.called turnId calls) (.assistantReply turnId text) (.turnOver turnId)
  | runFinished {state : LogState} {turnId : ℕ} (passed : state.After turnId) (some_ : 0 < turnId) :
      LogStep env state .runFinished .finished
  | runFailed {state : LogState} {turnId : ℕ} (passed : state.After turnId) (message : String) :
      LogStep env state (.runFailed message) .failed

/-- **The events of a run**, and how far they have come. -/
inductive RunLog (env : EvaluationEnv) : List RunEvent → LogState → Prop where
  | nil : RunLog env [] (.turnOver 0)
  | snoc {events : List RunEvent} {event : RunEvent} {before after : LogState} (log : RunLog env events before)
      (next : LogStep env before event after) : RunLog env (events ++ [event]) after

variable {env : EvaluationEnv}

/-! ## The ids of the calls -/

/-- A number is its digits. -/
theorem toDigits_inj {m n : ℕ} (same : Nat.toDigits 10 m = Nat.toDigits 10 n) : m = n := by
  rw [← Nat.ofDigitChars_ten_toDigits (n := m), same, Nat.ofDigitChars_ten_toDigits]

/-- No digit is the dash between the numbers. -/
theorem dash_not_digit {n : ℕ} : '-' ∉ Nat.toDigits 10 n := by
  intro held
  exact absurd (Nat.isDigit_of_mem_toDigits (by decide) (by decide) held) (by decide)

/-- **The id of a call tells its turn and its index.** -/
theorem toolCallId_inj {t n u m : ℕ} (same : toolCallId t n = toolCallId u m) : t = u ∧ n = m := by
  have chars := congrArg String.toList same
  unfold toolCallId at chars
  simp only [String.toList_append, List.append_assoc] at chars
  have rest := List.append_cancel_left chars
  change (Nat.repr t).toList ++ ('-' :: (Nat.repr n).toList) =
    (Nat.repr u).toList ++ ('-' :: (Nat.repr m).toList) at rest
  rw [Nat.toList_repr, Nat.toList_repr, Nat.toList_repr, Nat.toList_repr] at rest
  obtain ⟨turns, -, calls⟩ := (List.append_cons_inj_of_notMem dash_not_digit dash_not_digit).1 rest
  exact ⟨toDigits_inj turns, toDigits_inj calls⟩

/-- The id of a call. -/
def RunEvent.callId? : RunEvent → Option String
  | .toolCall _ id _ _ => some id
  | _ => none

namespace LogState

/-- The call was made before the events came this far. -/
def Reached (turnId calls : ℕ) : LogState → Prop
  | turnOver t => turnId ≤ t
  | turnStarted t => turnId < t
  | called t n => turnId < t ∨ (turnId = t ∧ calls ≤ n)
  | calling t n _ => turnId < t ∨ (turnId = t ∧ calls ≤ n)
  | finished => True
  | failed => True

/-- How many calls wait for their result. -/
def waiting : LogState → ℕ
  | calling .. => 1
  | _ => 0

/-- A turn that was reached is not after the one that was passed. -/
theorem After.reached {state : LogState} {t turnId calls : ℕ} (passed : state.After t)
    (reached : state.Reached turnId calls) : turnId ≤ t := by
  rcases passed with rfl | ⟨n, rfl⟩
  · exact reached
  · rcases reached with before | ⟨rfl, -⟩
    · exact before.le
    · exact Nat.le_refl turnId

end LogState

/-- What was reached stays so. -/
theorem LogStep.reached {before after : LogState} {event : RunEvent} (next : LogStep env before event after)
    {turnId calls : ℕ} (reached : before.Reached turnId calls) : after.Reached turnId calls := by
  cases next with
  | turnStarted passed more => exact Nat.lt_succ_of_le (passed.reached reached)
  | callerUtterance => exact .inl reached
  | toolCall =>
      rcases reached with before | ⟨rfl, earlier⟩
      · exact .inl before
      · exact .inr ⟨rfl, earlier.trans (Nat.le_succ _)⟩
  | toolMockResult => exact reached
  | assistantReply => exact (LogState.After.reached (.inr ⟨_, rfl⟩) reached)
  | runFinished => trivial
  | runFailed => trivial

/-- A call is new, and is reached by it. -/
theorem LogStep.call {before after : LogState} {event : RunEvent} (next : LogStep env before event after)
    {id : String} (call : event.callId? = some id) :
    ∃ turnId calls, id = toolCallId turnId calls ∧ after.Reached turnId calls ∧ ¬before.Reached turnId calls := by
  cases next with
  | toolCall turnId calls =>
      cases call
      refine ⟨turnId, calls + 1, rfl, .inr ⟨rfl, Nat.le_refl _⟩, ?_⟩
      rintro (before | ⟨-, earlier⟩)
      · exact Nat.lt_irrefl turnId before
      · omega
  | turnStarted => cases call
  | callerUtterance => cases call
  | toolMockResult => cases call
  | assistantReply => cases call
  | runFinished => cases call
  | runFailed => cases call

/-- Nothing comes after an end, and only the two ends are one. -/
theorem LogStep.ends {before after : LogState} {event : RunEvent} (next : LogStep env before event after) :
    ¬before.Closed ∧ (event.isRunFailed = true ↔ after = .failed) ∧ (event.isRunFinished = true ↔ after = .finished) := by
  have open_ : ∀ {state : LogState} {t : ℕ}, state.After t → ¬state.Closed := by
    rintro state t (rfl | ⟨n, rfl⟩) (h | h) <;> cases h
  cases next with
  | turnStarted passed => exact ⟨open_ passed, by simp [RunEvent.isRunFailed], by simp [RunEvent.isRunFinished]⟩
  | runFinished passed => exact ⟨open_ passed, by simp [RunEvent.isRunFailed], by simp [RunEvent.isRunFinished]⟩
  | runFailed passed => exact ⟨open_ passed, by simp [RunEvent.isRunFailed], by simp [RunEvent.isRunFinished]⟩
  | callerUtterance =>
      exact ⟨by simp [LogState.Closed], by simp [RunEvent.isRunFailed], by simp [RunEvent.isRunFinished]⟩
  | toolCall => exact ⟨by simp [LogState.Closed], by simp [RunEvent.isRunFailed], by simp [RunEvent.isRunFinished]⟩
  | toolMockResult =>
      exact ⟨by simp [LogState.Closed], by simp [RunEvent.isRunFailed], by simp [RunEvent.isRunFinished]⟩
  | assistantReply =>
      exact ⟨by simp [LogState.Closed], by simp [RunEvent.isRunFailed], by simp [RunEvent.isRunFinished]⟩

/-- A call waits for its result. -/
theorem LogStep.waiting {before after : LogState} {event : RunEvent} (next : LogStep env before event after) :
    [event].countP RunEvent.isToolCall + before.waiting =
      [event].countP RunEvent.isToolMockResult + after.waiting := by
  have none_ : ∀ {state : LogState} {t : ℕ}, state.After t → state.waiting = 0 := by
    rintro state t (rfl | ⟨n, rfl⟩) <;> rfl
  cases next with
  | turnStarted passed =>
      rw [none_ passed]
      rfl
  | runFinished passed =>
      rw [none_ passed]
      rfl
  | runFailed passed =>
      rw [none_ passed]
      rfl
  | callerUtterance => rfl
  | toolCall => rfl
  | toolMockResult => rfl
  | assistantReply => rfl

namespace RunLog

variable {events : List RunEvent} {state : LogState}

/-- Each call is reached. -/
theorem reached (log : RunLog env events state) {id : String} (held : id ∈ events.filterMap RunEvent.callId?) :
    ∃ turnId calls, id = toolCallId turnId calls ∧ state.Reached turnId calls := by
  induction log with
  | nil => cases held
  | snoc log next ih =>
      rw [List.filterMap_append, List.mem_append] at held
      rcases held with earlier | last
      · obtain ⟨turnId, calls, is, reached⟩ := ih earlier
        exact ⟨turnId, calls, is, next.reached reached⟩
      · obtain ⟨event, only, call⟩ := List.mem_filterMap.1 last
        obtain rfl := List.mem_singleton.1 only
        obtain ⟨turnId, calls, is, reached, -⟩ := next.call call
        exact ⟨turnId, calls, is, reached⟩

/-- **No two calls have the same id.** -/
theorem ids_nodup (log : RunLog env events state) : (events.filterMap RunEvent.callId?).Nodup := by
  induction log with
  | nil => exact List.nodup_nil
  | @snoc events event _ _ log next ih =>
      rw [List.filterMap_append, List.nodup_append]
      refine ⟨ih, ?_, ?_⟩
      · rw [List.filterMap_cons]
        cases event.callId? with
        | none => exact List.nodup_nil
        | some id => exact List.nodup_singleton id
      · intro id earlier other last same
        obtain ⟨event', only, call⟩ := List.mem_filterMap.1 last
        obtain rfl := List.mem_singleton.1 only
        obtain ⟨turnId, calls, is, -, fresh⟩ := next.call call
        obtain ⟨turnId', calls', is', reached⟩ := log.reached earlier
        obtain ⟨rfl, rfl⟩ := toolCallId_inj (is'.symm.trans (same.trans is))
        exact fresh reached

/-- What the checks count. -/
structure Counts (events : List RunEvent) (state : LogState) : Prop where
  failed : events.any RunEvent.isRunFailed = true ↔ state = .failed
  finished : events.any RunEvent.isRunFinished = true ↔ state = .finished
  calls : events.countP RunEvent.isToolCall = events.countP RunEvent.isToolMockResult + state.waiting

/-- The log tells how many turns and calls there are. -/
theorem counts (log : RunLog env events state) : Counts events state := by
  induction log with
  | nil => exact ⟨by simp, by simp, rfl⟩
  | snoc log next ih =>
      obtain ⟨failed, finished, calls⟩ := ih
      obtain ⟨open_, fails, finishes⟩ := next.ends
      refine ⟨?_, ?_, ?_⟩
      · rw [List.any_append, Bool.or_eq_true, failed, List.any_cons, List.any_nil, Bool.or_false, fails]
        exact or_iff_right fun is => open_ (.inr is)
      · rw [List.any_append, Bool.or_eq_true, finished, List.any_cons, List.any_nil, Bool.or_false, finishes]
        exact or_iff_right fun is => open_ (.inl is)
      · rw [List.countP_append, List.countP_append, calls]
        have one := next.waiting
        omega

end RunLog

/-! ## Numbers -/

/-- The rows are numbered from here on, in the row and in the payload. -/
def Numbered : ℕ → List EventRow → Prop
  | _, [] => True
  | before, row :: rows => row.seqNo = before + 1 ∧ row.payloadSeqNo = before + 1 ∧ Numbered (before + 1) rows

/-- Rows are numbered one part after the other. -/
theorem numbered_append {rows rows' : List EventRow} {before : ℕ} :
    Numbered before (rows ++ rows') ↔ Numbered before rows ∧ Numbered (before + rows.length) rows' := by
  induction rows generalizing before with
  | nil => exact ⟨fun numbered => ⟨trivial, numbered⟩, And.right⟩
  | cons row rows ih =>
      rw [List.cons_append, Numbered, Numbered, ih, and_assoc, and_assoc, List.length_cons,
        Nat.add_assoc before 1, Nat.add_comm 1]

/-- The largest number is the last one. -/
theorem Numbered.foldr_max {rows : List EventRow} {before : ℕ} (numbered : Numbered before rows) :
    max before ((rows.map EventRow.seqNo).foldr max 0) = before + rows.length := by
  induction rows generalizing before with
  | nil => exact Nat.max_zero before
  | cons row rows ih =>
      obtain ⟨number, -, rest⟩ := numbered
      have largest := ih rest
      rw [List.map_cons, List.foldr_cons, number, List.length_cons]
      omega

/-- **The recorder counts on.** -/
theorem Numbered.nextSeq {rows : List EventRow} (numbered : Numbered 0 rows) : nextSeq rows = rows.length + 1 := by
  have largest := numbered.foldr_max
  rw [Nat.zero_max, Nat.zero_add] at largest
  rw [Feros.nextSeq, largest]

/-! ## What the task is about to write -/

/-- **What the statements write** takes the story on; a transaction ends where nothing is half told. -/
def Writes (env : EvaluationEnv) : LogState → List DbOp → LogState → Prop
  | state, [], after => state = after
  | state, .append event :: ops, after => ∃ mid, LogStep env state event mid ∧ Writes env mid ops after
  | state, .commit :: ops, after => state.Settled ∧ Writes env state ops after

/-- What is written, one part after the other. -/
theorem writes_append {ops ops' : List DbOp} {state mid after : LogState} (first : Writes env state ops mid)
    (second : Writes env mid ops' after) : Writes env state (ops ++ ops') after := by
  induction ops generalizing state with
  | nil =>
      obtain rfl := first
      exact second
  | cons op ops ih =>
      cases op with
      | append event =>
          obtain ⟨next, step, rest⟩ := first
          exact ⟨next, step, ih rest⟩
      | commit => exact ⟨first.1, ih first.2⟩

/-- The calls that were recorded, from here on. -/
def Recorded (env : EvaluationEnv) (turnId : ℕ) : ℕ → List HookRecord → Prop
  | _, [] => True
  | index, hook :: hooks =>
    hook.toolCallId = toolCallId turnId (index + 1) ∧
      hook.resolution = env.resolve turnId (index + 1) hook.toolId ∧ Recorded env turnId (index + 1) hooks

/-- What is recorded, one part after the other. -/
theorem recorded_append {turnId index : ℕ} {hooks hooks' : List HookRecord}
    (first : Recorded env turnId index hooks) (second : Recorded env turnId (index + hooks.length) hooks') :
    Recorded env turnId index (hooks ++ hooks') := by
  induction hooks generalizing index with
  | nil => exact second
  | cons hook hooks ih =>
      refine ⟨first.1, first.2.1, ih first.2.2 ?_⟩
      rw [List.length_cons, ← Nat.add_assoc, Nat.add_right_comm] at second
      exact second

/-- **The hook counts the calls.** -/
theorem beforeToolCalls_recorded (env : EvaluationEnv) (turnId index : ℕ) (calls : List (String × String)) :
    (beforeToolCalls env turnId index calls).1 = index + (beforeToolCalls env turnId index calls).2.length ∧
      Recorded env turnId index (beforeToolCalls env turnId index calls).2 := by
  induction calls generalizing index with
  | nil => exact ⟨rfl, trivial⟩
  | cons call calls ih =>
      obtain ⟨last, recorded⟩ := ih (index + 1)
      refine ⟨?_, rfl, rfl, recorded⟩
      rw [beforeToolCalls, last, List.length_cons]
      omega

/-- The calls are written one after the other, each with its result. -/
theorem writes_hooks {turnId index : ℕ} {hooks : List HookRecord} (recorded : Recorded env turnId index hooks) :
    Writes env (.called turnId index) (hooks.flatMap (RunTask.hookOps turnId))
      (.called turnId (index + hooks.length)) := by
  induction hooks generalizing index with
  | nil => rfl
  | cons hook hooks ih =>
      obtain ⟨id, resolution, rest⟩ := recorded
      rw [List.flatMap_cons, List.length_cons]
      have one : Writes env (.called turnId index) (RunTask.hookOps turnId hook) (.called turnId (index + 1)) := by
        unfold RunTask.hookOps
        rw [id, resolution]
        exact ⟨_, .toolCall turnId index hook.toolId hook.argsJson, _, .toolMockResult turnId (index + 1) hook.toolId,
          ⟨turnId, .inr ⟨_, rfl⟩⟩, rfl⟩
      refine writes_append one ?_
      rw [← Nat.add_assoc, Nat.add_right_comm]
      exact ih rest

/-- What the agent has said is written, unless it has said nothing. -/
theorem writes_reply (env : EvaluationEnv) (turnId calls : ℕ) (text : String) :
    ∃ after : LogState, after.After turnId ∧ Writes env (.called turnId calls) (RunTask.replyOps turnId text) after := by
  unfold RunTask.replyOps
  split
  · exact ⟨_, .inr ⟨calls, rfl⟩, rfl⟩
  · next said => exact ⟨_, .inl rfl, _, .assistantReply turnId calls text said, ⟨turnId, .inl rfl⟩, rfl⟩

/-- Where the story is when the task is at a place. -/
def Ready (env : EvaluationEnv) : TaskPhase → LogState → Prop
  | .loading, state => state = .turnOver 0
  | .found, state => state = .turnOver 0
  | .turn turnId, state => ∃ before, turnId = before + 1 ∧ turnId ≤ env.maxTurns ∧ state.After before
  | .caller turnId, state => ∃ before, turnId = before + 1 ∧ turnId ≤ env.maxTurns ∧ state.After before
  | .agent turnId _, state => 0 < turnId ∧ state = .called turnId 0
  | .turnEnd turnId _, state => 0 < turnId ∧ state.After turnId
  | .judging, state => state = .finished
  | _, _ => True

/-- The turn whose calls are recorded. -/
def recordingTurn : TaskPhase → Option ℕ
  | .caller turnId => some turnId
  | .agent turnId _ => some turnId
  | _ => none

/-! ## The invariant -/

/-- **A task at work** knows what it has written. -/
structure Working (env : EvaluationEnv) (db : RunTables) (t : RunTask) : Prop where
  count : t.seqNo = (db.events ++ t.pending).length
  models : t.eventModels = (db.events ++ t.pending).map EventRow.event
  log : ∃ state after, RunLog env ((db.events ++ t.pending).map EventRow.event) state ∧
    Writes env state t.ops after ∧ Ready env t.phase after
  hooks : ∀ turnId, recordingTurn t.phase = some turnId →
    t.toolCallIndex = t.hookRecords.length ∧ Recorded env turnId 0 t.hookRecords

/-- **The database and the task.** -/
structure Sound (env : EvaluationEnv) (db : RunTables) (t : RunTask) : Prop where
  gone : db.run = none → db = .deleted ∧ t.pending = []
  committed : ∃ state, RunLog env (db.events.map EventRow.event) state ∧
    (state.Settled ∨ t.phase = .over ∧ state.Closed)
  numbered : Numbered 0 (db.events ++ t.pending)
  unstarted : t.phase = .waiting → t = RunTask.unstarted ∧ db.events = []
  working : db.run.isSome = true → RunTask.inTry t.phase = true → Working env db t
  judged : db.judgments = [] ∨ t.phase = .over ∧ ∃ j, db.judgments = [j] ∧
    j.hardChecks = evaluateHardChecks (db.events.map EventRow.event) ∧
    RunLog env (db.events.map EventRow.event) .finished
  completed : ∀ row, db.run = some row → row.status = .completed → db.judgments ≠ []

namespace Sound

variable {db : RunTables} {t : RunTask}

/-- A task at work has not ended the story, and nothing is judged. -/
theorem going (sound : Sound env db t) (busy : t.phase ≠ .over) :
    (∃ state : LogState, RunLog env (db.events.map EventRow.event) state ∧ state.Settled) ∧ db.judgments = [] := by
  obtain ⟨state, log, settled | ⟨passed, -⟩⟩ := sound.committed
  · refine ⟨⟨state, log, settled⟩, ?_⟩
    rcases sound.judged with none_ | ⟨passed, -⟩
    · exact none_
    · exact absurd passed busy
  · exact absurd passed busy

/-- The process is gone. -/
theorem exited (sound : Sound env db t) (status : RunStatus) : Sound env db { t.exited with status := status } where
  gone absent := ⟨(sound.gone absent).1, rfl⟩
  committed := by
    obtain ⟨state, log, settled | ⟨-, closed⟩⟩ := sound.committed
    · exact ⟨state, log, .inl settled⟩
    · exact ⟨state, log, .inr ⟨rfl, closed⟩⟩
  numbered := by
    change Numbered 0 (db.events ++ [])
    rw [List.append_nil]
    exact (numbered_append.1 sound.numbered).1
  unstarted waits := by cases waits
  working _ trying := by cases trying
  judged := sound.judged.imp_right fun judged => ⟨rfl, judged.2⟩
  completed := sound.completed

/-- Something that a task at work has done to itself, without writing. -/
theorem moved (sound : Sound env db t) (busy : t.phase ≠ .over) {t' : RunTask} (same : t'.pending = t.pending)
    (started : t'.phase ≠ .waiting)
    (working : db.run.isSome = true → RunTask.inTry t'.phase = true → Working env db t') : Sound env db t' where
  gone absent := ⟨(sound.gone absent).1, same.trans (sound.gone absent).2⟩
  committed := by
    obtain ⟨⟨state, log, settled⟩, -⟩ := sound.going busy
    exact ⟨state, log, .inl settled⟩
  numbered := by
    rw [same]
    exact sound.numbered
  unstarted waits := absurd waits started
  working := working
  judged := .inl (sound.going busy).2
  completed := sound.completed

/-- An exception was caught. -/
theorem raised (sound : Sound env db t) (busy : t.phase ≠ .over) (message : String) :
    Sound env db (t.raised message) :=
  sound.moved busy rfl (fun waits => by cases waits) fun _ trying => by cases trying

/-- The row is loaded. -/
theorem load (sound : Sound env db t) (at_ : t.phase = .loading) : Sound env db (t.load db) := by
  unfold RunTask.load
  split
  · exact sound.exited t.status
  · next row found =>
    split
    · exact sound.exited t.status
    · refine sound.moved (by rw [at_]; exact fun is => by cases is) rfl (fun waits => by cases waits) ?_
      intro there _
      obtain ⟨count, models, ⟨state, after, log, writes, ready⟩, -⟩ := sound.working there (by rw [at_]; rfl)
      rw [at_] at ready
      exact ⟨count, models, ⟨state, after, log, writes, ready⟩, fun turnId is => by cases is⟩

/-- A run that is not completed has no judgment, and the other way round. -/
theorem uncompleted (sound : Sound env db t) (busy : t.phase ≠ .over) {row : RunRow} (found : db.run = some row) :
    row.status ≠ .completed :=
  fun is => sound.completed row found is (sound.going busy).2

/-- A task at work has written. -/
theorem wrote {row : RunRow} (found : db.run = some row) (uncompleted : row.status ≠ .completed)
    (none_ : db.judgments = [])
    (committed : ∃ state : LogState, RunLog env (db.events.map EventRow.event) state ∧ state.Settled)
    (numbered : Numbered 0 (db.events ++ t.pending)) (started : t.phase ≠ .waiting)
    (working : RunTask.inTry t.phase = true → Working env db t) : Sound env db t where
  gone absent := by
    rw [found] at absent
    cases absent
  committed := by
    obtain ⟨state, log, settled⟩ := committed
    exact ⟨state, log, .inl settled⟩
  numbered := numbered
  unstarted waits := absurd waits started
  working _ := working
  judged := .inl none_
  completed row' found' is := by
    rw [found] at found'
    cases found'
    exact absurd is uncompleted

/-- The run is marked as running. -/
theorem markRunning (sound : Sound env db t) (at_ : t.phase = .found) (now : Instant) :
    Sound env (t.markRunning env now db).1 (t.markRunning env now db).2 := by
  have busy : t.phase ≠ .over := by
    rw [at_]
    exact fun is => by cases is
  unfold RunTask.markRunning
  split
  · exact sound.raised busy _
  · split
    · exact sound.raised busy _
    · next row found =>
      obtain ⟨settled, none_⟩ := sound.going busy
      refine wrote rfl (fun is => by cases is) none_ settled sound.numbered (fun is => by cases is) fun _ => ?_
      obtain ⟨count, models, ⟨state, after, log, writes, ready⟩, -⟩ :=
        sound.working (by rw [found]; rfl) (by rw [at_]; rfl)
      rw [at_] at ready
      exact ⟨count, models, ⟨state, after, log, writes, 0, rfl, env.positive, .inl ready⟩, fun turnId is => by cases is⟩

/-- A row is inserted. -/
theorem append (sound : Sound env db t) (trying : RunTask.inTry t.phase = true) {event : RunEvent} {ops : List DbOp}
    (next : t.ops = .append event :: ops) : Sound env db (RunTask.append env event db { t with ops := ops }) := by
  have busy : t.phase ≠ .over := fun passed => by
    rw [passed] at trying
    cases trying
  have started : t.phase ≠ .waiting := fun waits => by
    rw [waits] at trying
    cases trying
  unfold RunTask.append
  split
  · exact sound.moved busy rfl (fun waits => by cases waits) fun _ trying => by cases trying
  · next row found =>
    obtain ⟨count, models, ⟨state, after, log, writes, ready⟩, hooks⟩ := sound.working (by rw [found]; rfl) trying
    rw [next] at writes
    obtain ⟨mid, one, rest⟩ := writes
    obtain ⟨settled, none_⟩ := sound.going busy
    refine wrote found (sound.uncompleted busy found) none_ settled ?_ started fun _ => ?_
    · rw [← List.append_assoc, numbered_append]
      refine ⟨sound.numbered, ?_, ?_, trivial⟩
      · rw [Nat.zero_add]
        exact sound.numbered.nextSeq
      · rw [Nat.zero_add]
        exact congrArg (· + 1) count
    · refine ⟨?_, ?_, ⟨mid, after, ?_, rest, ready⟩, hooks⟩
      · rw [← List.append_assoc, List.length_append]
        exact congrArg (· + 1) count
      · rw [← List.append_assoc, List.map_append, ← models]
        rfl
      · rw [← List.append_assoc, List.map_append]
        exact log.snoc one

/-- The transaction ends. -/
theorem commit (sound : Sound env db t) (trying : RunTask.inTry t.phase = true) {ops : List DbOp}
    (next : t.ops = .commit :: ops) :
    Sound env { db with events := db.events ++ t.pending } { t with ops := ops, pending := [] } := by
  have busy : t.phase ≠ .over := fun passed => by
    rw [passed] at trying
    cases trying
  have started : t.phase ≠ .waiting := fun waits => by
    rw [waits] at trying
    cases trying
  cases there : db.run with
  | none =>
      obtain ⟨rfl, empty⟩ := sound.gone there
      rw [empty]
      exact sound.moved busy empty.symm started fun there => by cases there
  | some row =>
      obtain ⟨count, models, ⟨state, after, log, writes, ready⟩, hooks⟩ := sound.working (by rw [there]; rfl) trying
      rw [next] at writes
      refine wrote rfl (sound.uncompleted busy there) (sound.going busy).2 ⟨state, log, writes.1⟩ ?_ started
        fun _ => ⟨?_, ?_, ⟨state, after, ?_, writes.2, ready⟩, hooks⟩
      · rw [List.append_nil]
        exact sound.numbered
      · rw [List.append_nil]
        exact count
      · rw [List.append_nil]
        exact models
      · rw [List.append_nil]
        exact log

/-- **The next statement.** -/
theorem statement (sound : Sound env db t) (trying : RunTask.inTry t.phase = true) :
    Sound env (t.statement env db).1 (t.statement env db).2 := by
  unfold RunTask.statement
  split
  · exact sound
  · next event ops next => exact sound.append trying next
  · next ops next => exact sound.commit trying next

/-- The statements are run: the task is ready for what comes next. -/
theorem ready (sound : Sound env db t) (there : db.run.isSome = true) (trying : RunTask.inTry t.phase = true)
    (done : t.ops = []) : ∃ state, RunLog env ((db.events ++ t.pending).map EventRow.event) state ∧
      Ready env t.phase state := by
  obtain ⟨-, -, ⟨state, after, log, writes, ready⟩, -⟩ := sound.working there trying
  rw [done] at writes
  obtain rfl := writes
  exact ⟨state, log, ready⟩

/-- A turn begins with a look at the row. -/
theorem refresh (sound : Sound env db t) {turnId : ℕ} (at_ : t.phase = .turn turnId) (done : t.ops = []) :
    Sound env db (t.refresh env turnId db) := by
  have busy : t.phase ≠ .over := by rw [at_]; exact fun is => by cases is
  unfold RunTask.refresh
  split
  · exact sound.raised busy _
  · split
    · exact sound.exited _
    · refine sound.moved busy rfl (fun waits => by cases waits) fun there _ => ?_
      have trying : RunTask.inTry t.phase = true := by rw [at_]; rfl
      obtain ⟨state, log, ready⟩ := sound.ready there trying done
      rw [at_] at ready
      have working := sound.working there trying
      refine ⟨working.count, working.models, ⟨state, state, log, ?_, ready⟩, fun turnId is => ?_⟩
      · change Writes env state t.ops state
        rw [done]
        rfl
      · exact ⟨rfl, trivial⟩

/-- The first caller always has something to say. -/
theorem utterance_first (env : EvaluationEnv) (output : Option String) : env.utterance 1 output ≠ none := by
  unfold EvaluationEnv.utterance
  rw [if_pos rfl]
  split
  · exact Option.some_ne_none _
  · exact Option.some_ne_none _

/-- The caller says something. -/
theorem utter (sound : Sound env db t) {turnId : ℕ} (at_ : t.phase = .caller turnId) (done : t.ops = [])
    (output : Option String) (now : Instant) : Sound env db (t.utter env turnId output now) := by
  have busy : t.phase ≠ .over := by
    rw [at_]
    exact fun is => by cases is
  have trying : RunTask.inTry t.phase = true := by
    rw [at_]
    rfl
  unfold RunTask.utter
  split
  · next silent =>
    refine sound.moved busy rfl (fun waits => by cases waits) fun there _ => ?_
    obtain ⟨state, log, ready⟩ := sound.ready there trying done
    rw [at_] at ready
    obtain ⟨before, rfl, -, passed⟩ := ready
    have later : 0 < before := by
      rcases Nat.eq_zero_or_pos before with rfl | later
      · exact absurd silent (utterance_first env output)
      · exact later
    have working := sound.working there trying
    exact ⟨working.count, working.models, ⟨state, .finished, log, ⟨.finished, .runFinished passed later, rfl⟩, rfl⟩,
      fun turnId is => by cases is⟩
  · next text spoken =>
    refine sound.moved busy rfl (fun waits => by cases waits) fun there _ => ?_
    obtain ⟨state, log, ready⟩ := sound.ready there trying done
    rw [at_] at ready
    obtain ⟨before, rfl, within, passed⟩ := ready
    have working := sound.working there trying
    refine ⟨working.count, working.models, ⟨state, .called (before + 1) 0, log, ⟨_, .turnStarted passed within, _,
      .callerUtterance (before + 1) text, ⟨before + 1, .inr ⟨0, rfl⟩⟩, rfl⟩, Nat.succ_pos before, rfl⟩, ?_⟩
    intro turnId is
    cases is
    exact working.hooks (before + 1) (by rw [at_]; rfl)

/-- The agent answers. -/
theorem answer (sound : Sound env db t) {turnId attempts : ℕ} (at_ : t.phase = .agent turnId attempts)
    (done : t.ops = []) (calls : List (String × String)) (events : Option (List RunnerEvent)) :
    Sound env db (t.answer env turnId attempts calls events) := by
  have busy : t.phase ≠ .over := by
    rw [at_]
    exact fun is => by cases is
  have trying : RunTask.inTry t.phase = true := by
    rw [at_]
    rfl
  -- The hooks number the calls of this attempt on from the last one.
  have counted := beforeToolCalls_recorded env turnId t.toolCallIndex calls
  unfold RunTask.answer
  generalize beforeToolCalls env turnId t.toolCallIndex calls = made at counted ⊢
  obtain ⟨index, records⟩ := made
  obtain ⟨last, recorded⟩ := counted
  -- The calls of this attempt come after those of the one before.
  have all : db.run.isSome = true → index = (t.hookRecords ++ records).length ∧
      Recorded env turnId 0 (t.hookRecords ++ records) := by
    intro there
    obtain ⟨earlier, before⟩ := (sound.working there trying).hooks turnId (by rw [at_]; rfl)
    rw [earlier] at last recorded
    refine ⟨?_, recorded_append before ?_⟩
    · rw [List.length_append]
      exact last
    · rw [Nat.zero_add]
      exact recorded
  dsimp only
  split
  -- The attempt failed.
  · exact sound.moved busy rfl (fun waits => by cases waits) fun _ trying => by cases trying
  · next events =>
    split
    -- It is tried again, with the calls of this attempt kept.
    · refine sound.moved busy rfl (fun waits => by cases waits) fun there _ => ?_
      obtain ⟨state, log, ready⟩ := sound.ready there trying done
      rw [at_] at ready
      have working := sound.working there trying
      refine ⟨working.count, working.models, ⟨state, state, log, ?_, ready⟩, fun turnId is => ?_⟩
      · change Writes env state t.ops state
        rw [done]
        rfl
      · cases is
        exact all there
    -- It answered: the records of the hooks are written, and then the reply.
    · refine sound.moved busy rfl (fun waits => by cases waits) fun there _ => ?_
      obtain ⟨state, log, ready⟩ := sound.ready there trying done
      rw [at_] at ready
      obtain ⟨later, rfl⟩ := ready
      have working := sound.working there trying
      generalize (RunnerResult.collect events).assistantText = text
      have hooks := writes_hooks (all there).2
      obtain ⟨after, passed, reply⟩ := writes_reply env turnId (0 + (t.hookRecords ++ records).length) text
      exact ⟨working.count, working.models, ⟨_, after, log, writes_append hooks reply, later, passed⟩,
        fun turnId is => by cases is⟩

/-- A turn ends. -/
theorem endTurn (sound : Sound env db t) {turnId : ℕ} {runtimeError : Option String}
    (at_ : t.phase = .turnEnd turnId runtimeError) (done : t.ops = []) (now : Instant) :
    Sound env db (t.endTurn env turnId runtimeError now) := by
  have busy : t.phase ≠ .over := by
    rw [at_]
    exact fun is => by cases is
  have trying : RunTask.inTry t.phase = true := by
    rw [at_]
    rfl
  unfold RunTask.endTurn
  split
  · exact sound.raised busy _
  · unfold RunTask.next
    split
    · next more =>
      refine sound.moved busy rfl (fun waits => by cases waits) fun there _ => ?_
      obtain ⟨state, log, ready⟩ := sound.ready there trying done
      rw [at_] at ready
      have working := sound.working there trying
      refine ⟨working.count, working.models, ⟨state, state, log, ?_, turnId, rfl, more, ready.2⟩,
        fun turnId is => by cases is⟩
      change Writes env state t.ops state
      rw [done]
      rfl
    · refine sound.moved busy rfl (fun waits => by cases waits) fun there _ => ?_
      obtain ⟨state, log, ready⟩ := sound.ready there trying done
      rw [at_] at ready
      have working := sound.working there trying
      exact ⟨working.count, working.models,
        ⟨state, .finished, log, ⟨.finished, .runFinished ready.2 ready.1, rfl⟩, rfl⟩, fun turnId is => by cases is⟩

/-- **The run is judged**: by the checks on all that is committed with the judgment. -/
theorem judge (sound : Sound env db t) (at_ : t.phase = .judging) (done : t.ops = []) (summary : String)
    (now : Instant) : Sound env (t.judged env summary now db).1 (t.judged env summary now db).2 := by
  have busy : t.phase ≠ .over := by
    rw [at_]
    exact fun is => by cases is
  have trying : RunTask.inTry t.phase = true := by
    rw [at_]
    rfl
  unfold RunTask.judged
  split
  · exact sound.raised busy _
  · next row found =>
    split
    · exact sound.raised busy _
    · have there : db.run.isSome = true := by
        rw [found]
        rfl
      obtain ⟨state, log, ready⟩ := sound.ready there trying done
      rw [at_] at ready
      obtain rfl := ready
      have models := (sound.working there trying).models
      rw [(sound.going busy).2, models]
      exact
        { gone := fun absent => by cases absent
          committed := ⟨.finished, log, .inr ⟨rfl, .inl rfl⟩⟩
          numbered := by
            change Numbered 0 ((db.events ++ t.pending) ++ [])
            rw [List.append_nil]
            exact sound.numbered
          unstarted := fun waits => by cases waits
          working := fun _ trying => by cases trying
          judged := .inr ⟨rfl, _, rfl, rfl, log⟩
          completed := fun _ _ _ => List.cons_ne_nil _ _ }

/-- An exception is handled. -/
theorem handle (sound : Sound env db t) {message : String} (at_ : t.phase = .raised message) :
    Sound env db (t.handle message db) := by
  have busy : t.phase ≠ .over := by
    rw [at_]
    exact fun is => by cases is
  unfold RunTask.handle
  split
  · exact sound.exited t.status
  · next row found =>
    split
    · obtain ⟨settled, none_⟩ := sound.going busy
      refine wrote found (sound.uncompleted busy found) none_ settled ?_ (fun waits => by cases waits)
        fun trying => by cases trying
      rw [List.append_nil]
      exact (numbered_append.1 sound.numbered).1
    · exact sound.exited t.status

/-- **The run is failed.** -/
theorem recordFailure (sound : Sound env db t) {message : String} (at_ : t.phase = .failing message) (now : Instant) :
    Sound env (t.recordFailure message now db).1 (t.recordFailure message now db).2 := by
  have busy : t.phase ≠ .over := by
    rw [at_]
    exact fun is => by cases is
  unfold RunTask.recordFailure
  split
  · exact sound.exited t.status
  · next row found =>
    obtain ⟨⟨state, log, turnId, passed⟩, none_⟩ := sound.going busy
    have numbered := (numbered_append.1 sound.numbered).1
    exact
      { gone := fun absent => by cases absent
        committed := by
          refine ⟨.failed, ?_, .inr ⟨rfl, .inr rfl⟩⟩
          rw [List.map_append]
          exact log.snoc (.runFailed passed message)
        numbered := by
          change Numbered 0 ((db.events ++ _) ++ [])
          rw [List.append_nil, numbered_append, numbered.nextSeq, Nat.zero_add]
          exact ⟨numbered, rfl, rfl, trivial⟩
        unstarted := fun waits => by cases waits
        working := fun _ trying => by cases trying
        judged := .inl none_
        completed := fun row' found' is => by
          cases found'
          cases is }

/-- **One step of the process.** -/
theorem step (sound : Sound env db t) (action : TaskAction) :
    Sound env (t.step env db action).1 (t.step env db action).2 := by
  unfold RunTask.step
  split
  · exact sound
  · exact sound
  · exact sound.exited t.status
  · next at_ => exact sound.handle at_
  · next at_ => exact sound.recordFailure at_ _
  · next passed =>
    split
    · exact sound.raised passed _
    · exact sound.exited t.status
  · split
    · next trying => exact sound.statement trying
    · exact sound
  · next at_ _ => exact sound.load at_
  · next at_ _ => exact sound.markRunning at_ _
  · next at_ done => exact sound.refresh at_ done
  · next at_ done => exact sound.utter at_ done _ _
  · next at_ done => exact sound.answer at_ done _ _
  · next at_ done => exact sound.endTurn at_ done _
  · next at_ done => exact sound.judge at_ done _ _
  · exact sound

/-- The run is written by a request, which does not complete it. -/
theorem rewritten (sound : Sound env db t) {f : RunRow → RunRow} (other : ∀ row, (f row).status ≠ .completed) :
    Sound env { db with run := db.run.map f } t where
  gone absent := by
    have absent' : db.run = none := Option.map_eq_none_iff.1 absent
    obtain ⟨rfl, empty⟩ := sound.gone absent'
    exact ⟨rfl, empty⟩
  committed := sound.committed
  numbered := sound.numbered
  unstarted := sound.unstarted
  working there trying := by
    rw [Option.isSome_map] at there
    obtain ⟨count, models, log, hooks⟩ := sound.working there trying
    exact ⟨count, models, log, hooks⟩
  judged := sound.judged
  completed row' found is := by
    obtain ⟨row, -, rfl⟩ := Option.map_eq_some_iff.1 found
    exact absurd is (other row)

/-- The run is deleted. -/
theorem erased (sound : Sound env db t) (empty : t.pending = []) : Sound env .deleted t where
  gone _ := ⟨rfl, empty⟩
  committed := ⟨.turnOver 0, .nil, .inl ⟨0, .inl rfl⟩⟩
  numbered := by
    rw [empty]
    trivial
  unstarted waits := ⟨(sound.unstarted waits).1, rfl⟩
  working there := by cases there
  judged := .inl rfl
  completed row found := by cases found

/-- The process is started. -/
theorem submitted (sound : Sound env db t) (waits : t.phase = .waiting) :
    Sound env db { t with phase := .loading } := by
  obtain ⟨rfl, empty⟩ := sound.unstarted waits
  refine sound.moved (fun is => by cases is) rfl (fun is => by cases is) fun _ _ => ?_
  rw [show db = { db with events := [] } by rw [← empty]]
  exact ⟨rfl, rfl, ⟨.turnOver 0, .turnOver 0, .nil, rfl, rfl⟩, fun turnId is => by cases is⟩

end Sound

/-! ## Runs -/

/-- What is in a list after one of its members was changed. -/
theorem mem_of_mem_modify {α : Type} {f : α → α} {l : List α} {i : ℕ} {b : α} (held : b ∈ l.modify i f) :
    b ∈ l ∨ ∃ a ∈ l, b = f a := by
  obtain ⟨j, is⟩ := List.mem_iff_getElem?.1 held
  rw [List.getElem?_modify] at is
  obtain ⟨a, old, rfl⟩ := Option.map_eq_some_iff.1 is
  have before : a ∈ l := List.mem_of_getElem? old
  by_cases here : i = j
  · rw [if_pos here]
    exact .inr ⟨a, before, rfl⟩
  · rw [if_neg here]
    exact .inl before

namespace EvaluationRun

variable {e : EvaluationRun}

/-- **What a step of the server does**, whoever asked for it. -/
inductive Serves (e : EvaluationRun) : EvaluationRun → Prop where
  | idle : Serves e e
  | submitted (waits : e.task.phase = .waiting) :
      Serves e { e with task := { e.task with phase := .loading }, registered := true }
  | requested (requests : List RunRequest) : Serves e { e with requests := requests }
  | killed (requests : List RunRequest) : Serves e { e with requests := requests, task := e.task.exited }
  | erased (empty : e.task.pending = []) (requests : List RunRequest) :
      Serves e { e with db := .deleted, requests := requests }
  | rewritten (requests : List RunRequest) (f : RunRow → RunRow)
      (ends : ∀ row, (f row).status = .cancelled ∨ (f row).status = .failed) :
      Serves e { e with db := { e.db with run := e.db.run.map f }, requests := requests }
  | restarted (task : RunTask) (is : task = e.task ∨ task = e.task.exited) :
      Serves e
        { e with registered := false, requests := [], streams := e.streams.map EventStream.cut, task := task }
  | streamed (streams : List EventStream)
      (moved : ∀ s ∈ streams, (∃ fromSeq, s = .start fromSeq) ∨
        ∃ old ∈ e.streams, s = old ∨ s = old.poll e.db ∨ s = old.rows e.db ∨ s = old.wake) :
      Serves e { e with streams := streams }

/-- One stream takes a step, the others wait. -/
theorem serves_modify {f : EventStream → EventStream} (i : ℕ)
    (moves : ∀ s, f s = s.poll e.db ∨ f s = s.rows e.db ∨ f s = s.wake) :
    Serves e { e with streams := e.streams.modify i f } := by
  refine .streamed _ fun s held => .inr ?_
  rcases mem_of_mem_modify held with old | ⟨old, before, rfl⟩
  · exact ⟨s, old, .inl rfl⟩
  · exact ⟨old, before, .inr (moves old)⟩

/-- An erased run has no events. -/
theorem serves_erase {requests : List RunRequest} :
    Serves e { e.erase with requests := requests } := by
  unfold erase
  split
  · next empty => exact .erased (List.isEmpty_iff.1 empty) requests
  · exact .requested requests

/-- **One step of the server.** -/
theorem serves (e : EvaluationRun) (action : ServerAction) : Serves e (e.serve action) := by
  cases action with
  | submit =>
      unfold serve submit
      dsimp only
      split
      · next waits => exact .submitted waits
      · exact .idle
  | cancel => exact .requested _
  | reconcile now => exact .requested _
  | delete => exact .requested _
  | clear =>
      unfold serve clear
      dsimp only
      split
      · split
        · exact .idle
        · exact serves_erase
      · exact .idle
  | resume i =>
      unfold serve resume
      dsimp only
      split
      · split
        · exact .killed _
        · exact .requested _
      · exact .requested _
      · exact .idle
  | write i now =>
      unfold serve write
      dsimp only
      split
      · split
        · exact serves_erase
        · exact .idle
      · exact .rewritten _ _ fun row => .inl rfl
      · exact .rewritten _ _ fun row => .inr rfl
      · exact .idle
  | restart orphan =>
      refine .restarted _ ?_
      split
      · exact .inr rfl
      · exact .inl rfl
  | stream fromSeq =>
      refine .streamed _ fun s held => ?_
      rcases List.mem_append.1 held with old | new
      · exact .inr ⟨s, old, .inl rfl⟩
      · exact .inl ⟨fromSeq, List.mem_singleton.1 new⟩
  | poll i => exact serves_modify i fun s => .inl rfl
  | rows i => exact serves_modify i fun s => .inr (.inl rfl)
  | wake i => exact serves_modify i fun s => .inr (.inr rfl)

/-- The database and the task of a run. -/
def Sound (env : EvaluationEnv) (e : EvaluationRun) : Prop := Feros.Sound env e.db e.task

/-- What the server does leaves the log sound. -/
theorem Sound.serves {e' : EvaluationRun} (sound : e.Sound env) (served : Serves e e') : e'.Sound env := by
  cases served with
  | idle => exact sound
  | submitted waits => exact Feros.Sound.submitted sound waits
  | requested requests => exact sound
  | killed requests => exact Feros.Sound.exited sound e.task.status
  | erased empty requests => exact Feros.Sound.erased sound empty
  | rewritten requests f ends =>
      refine Feros.Sound.rewritten sound fun row is => ?_
      rcases ends row with other | other
      · rw [is] at other
        cases other
      · rw [is] at other
        cases other
  | restarted task is =>
      rcases is with rfl | rfl
      · exact sound
      · exact Feros.Sound.exited sound e.task.status
  | streamed streams moved => exact sound

/-- **A step leaves the log sound.** -/
theorem Sound.step (sound : e.Sound env) (action : EvaluationAction) : (e.step env action).Sound env := by
  cases action with
  | task action => exact Feros.Sound.step sound action
  | server action => exact sound.serves (EvaluationRun.serves e action)

/-- A run that was created has an empty log. -/
theorem sound_created (env : EvaluationEnv) (now : Instant) : (created now).Sound env where
  gone absent := by cases absent
  committed := ⟨.turnOver 0, .nil, .inl ⟨0, .inl rfl⟩⟩
  numbered := trivial
  unstarted _ := ⟨rfl, rfl⟩
  working _ trying := by cases trying
  judged := .inl rfl
  completed row found is := by
    cases found
    cases is

/-- **Every run has a sound log.** -/
theorem sound_run (env : EvaluationEnv) (now : Instant) (actions : List EvaluationAction) :
    (run (step env) (created now) actions).Sound env :=
  invariant_of_step (fun _ action sound => sound.step action) (sound_created env now) actions

/-- **What a judgment says of the events is so**, and three of its checks never fail. -/
theorem judged_as_committed (env : EvaluationEnv) (now : Instant) (actions : List EvaluationAction) :
    let e := run (step env) (created now) actions
    (∀ row, e.db.run = some row → row.status = .completed → e.db.judgments ≠ []) ∧
      ∀ j ∈ e.db.judgments, e.db.judgments = [j] ∧ e.task.phase = .over ∧
        j.hardChecks = evaluateHardChecks (e.db.events.map EventRow.event) ∧
        RunLog env (e.db.events.map EventRow.event) .finished ∧
        j.hardChecks = ⟨j.hardChecks.hasAssistantReply, true, true, true⟩ := by
  intro e
  have sound : e.Sound env := sound_run env now actions
  refine ⟨sound.completed, fun j held => ?_⟩
  rcases sound.judged with none_ | ⟨passed, j', only, checks, log⟩
  · rw [none_] at held
    cases held
  · rw [only] at held
    obtain rfl := List.mem_singleton.1 held
    refine ⟨only, passed, checks, log, ?_⟩
    have counts := log.counts
    have unfailed : (e.db.events.map EventRow.event).any RunEvent.isRunFailed = false := by
      rw [← Bool.not_eq_true, counts.failed]
      exact fun is => by cases is
    have finished := counts.finished.2 rfl
    have resolved : (e.db.events.map EventRow.event).countP RunEvent.isToolCall =
        (e.db.events.map EventRow.event).countP RunEvent.isToolMockResult := counts.calls
    rw [checks, evaluateHardChecks, unfailed, finished, decide_eq_true resolved]
    rfl

end EvaluationRun

end Feros
