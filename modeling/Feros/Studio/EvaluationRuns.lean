import Feros.Builder.Json
import Feros.Library.Run
import Feros.Types
/-! # Evaluation runs

A run of an evaluation has a process of its own, which lets a simulated caller talk to the agent and commits
what happens as numbered events.  Meanwhile the API server cancels the run, fails it if nobody works on it,
deletes it, and streams its events.  They meet in the database only, and nothing orders them.

A statement sees what is committed, and what its own transaction wrote.  A row that a transaction has inserted
refers to its run, and the run cannot be deleted before the transaction ends. -/

namespace Feros

/-- `EvaluationRunStatus`. -/
inductive RunStatus where
  | queued
  | running
  | completed
  | failed
  | cancelled
  deriving DecidableEq, Repr

namespace RunStatus

/-- `_ALLOWED_TRANSITIONS`. -/
def allowedTransitions : RunStatus → List RunStatus
  | queued => [running, cancelled]
  | running => [completed, failed, cancelled]
  | completed => []
  | failed => []
  | cancelled => []

/-- `can_transition`. -/
def canTransition (current target : RunStatus) : Bool := decide (target ∈ current.allowedTransitions)

/-- The run was not ended. -/
def active : RunStatus → Bool
  | queued => true
  | running => true
  | completed => false
  | failed => false
  | cancelled => false

/-- The value of the enumeration. -/
def value : RunStatus → String
  | queued => "queued"
  | running => "running"
  | completed => "completed"
  | failed => "failed"
  | cancelled => "cancelled"

/-- `assert_transition`: the text of the error. -/
def invalidTransition (current target : RunStatus) : String :=
  "Invalid transition: " ++ current.value ++ " -> " ++ target.value

end RunStatus

/-! ## Tools -/

/-- `ToolMockOutcome`. -/
inductive ToolMockOutcome where
  | success
  | empty
  | partially
  | timeout
  | http4xx
  | http5xx
  | malformed
  deriving DecidableEq, Repr

/-- `ToolSandboxResolutionResult`. -/
structure ToolResolution where
  outcome : ToolMockOutcome
  statusCode : Option ℕ
  bodyJson : Option (List (String × JsonValue))
  errorMessage : Option String
  source : String

/-- `_default_outcome_payload`. -/
def defaultOutcomePayload (outcome : ToolMockOutcome) : ToolResolution :=
  match outcome with
  | .success => ⟨outcome, some 200, some [("ok", .bool true)], none, "profile"⟩
  | .empty => ⟨outcome, some 200, some [], none, "profile"⟩
  | .partially => ⟨outcome, some 206, some [("partial", .bool true)], none, "profile"⟩
  | .timeout => ⟨outcome, some 504, none, some "Mock timeout", "profile"⟩
  | .http4xx => ⟨outcome, some 400, none, some "Mock client error", "profile"⟩
  | .http5xx => ⟨outcome, some 500, none, some "Mock server error", "profile"⟩
  | .malformed =>
    ⟨outcome, some 200, some [("malformed", .str "payload")], some "Malformed mock response", "profile"⟩

/-- **What a run uses from outside.** -/
structure EvaluationEnv where
  /-- `max_turns`, which is checked to be positive. -/
  maxTurns : ℕ
  positive : 0 < maxTurns
  timeoutSeconds : ℕ
  /-- The title of the first goal. -/
  firstGoal : Option String
  /-- The weighted draw for the seed and the profile of the run: from the turn, the index of the call and the
  tool. -/
  draw : ℕ → ℕ → String → ToolMockOutcome
  /-- `json.loads`. -/
  loads : String → Option JsonValue
  /-- `text.upper() == "[END_TEST]"`. -/
  endsTest : String → Bool
  /-- What the database raises when the run is gone. -/
  runGone : String

namespace EvaluationEnv

/-- `SeededDeterministicSandboxResolver.resolve`, without overrides and rules. -/
def resolve (env : EvaluationEnv) (turnId toolCallIndex : ℕ) (toolId : String) : ToolResolution :=
  defaultOutcomePayload (env.draw turnId toolCallIndex toolId)

/-- `_safe_json_object`. -/
def safeJsonObject (env : EvaluationEnv) (raw : String) : List (String × JsonValue) :=
  if raw = "" then []
  else
    match env.loads raw with
    | some (.obj fields) => fields
    | _ => []

/-- `_generate_test_agent_utterance`: the first one is fixed, the others are written by a model, which may
raise. -/
def utterance (env : EvaluationEnv) (turnId : ℕ) (output : Option String) : Option String :=
  if turnId = 1 then
    match env.firstGoal with
    | some title => some ("Hi, I need help with: " ++ title ++ ".")
    | none => some "Hi, I need help with my request."
  else
    match output with
    | some raw =>
      let text := strip raw
      if text = "" then none else if env.endsTest text then none else some text
    | none =>
      if turnId ≥ env.maxTurns then none else some "Can you continue and help me complete this request?"

/-- `per_turn_timeout`. -/
def perTurnTimeout (env : EvaluationEnv) : ℕ := max 5 (min env.timeoutSeconds 45)

end EvaluationEnv

/-- The id of a call: the turn and the index of the call. -/
def toolCallId (turnId toolCallIndex : ℕ) : String :=
  "tool-" ++ toString turnId ++ "-" ++ toString toolCallIndex

/-- A call as the hook has recorded it. -/
structure HookRecord where
  toolCallId : String
  toolId : String
  argsJson : List (String × JsonValue)
  resolution : ToolResolution

/-- `before_tool_call`, for one call after the other: the index of the last call, and what is recorded.  The agent
runs the hooks of calls that it makes at once on threads of their own; here a hook has returned before the next
one begins. -/
def beforeToolCalls (env : EvaluationEnv) (turnId : ℕ) : ℕ → List (String × String) → ℕ × List HookRecord
  | index, [] => (index, [])
  | index, (toolName, arguments) :: calls =>
    let (last, records) := beforeToolCalls env turnId (index + 1) calls
    (last, ⟨toolCallId turnId (index + 1), toolName, env.safeJsonObject arguments,
      env.resolve turnId (index + 1) toolName⟩ :: records)

/-! ## Events -/

/-- `EvaluationRunEvent`, without its number and its time. -/
inductive RunEvent where
  | turnStarted (turnId : ℕ)
  | callerUtterance (turnId : ℕ) (text : String)
  | toolCall (turnId : ℕ) (toolCallId toolId : String) (argsJson : List (String × JsonValue))
  | toolMockResult (turnId : ℕ) (toolCallId toolId : String) (resolution : ToolResolution)
  | assistantReply (turnId : ℕ) (text : String)
  | runFinished
  | runFailed (errorMessage : String)

/-- A row of `evaluation_run_events`. -/
structure EventRow where
  seqNo : ℕ
  eventTimestamp : Instant
  /-- The number in the payload. -/
  payloadSeqNo : ℕ
  event : RunEvent

/-- The number `append` gives to the next row. -/
def nextSeq (rows : List EventRow) : ℕ := (rows.map EventRow.seqNo).foldr max 0 + 1

/-- The names of the checks are the keys of the source. -/
structure HardChecks where
  hasAssistantReply : Bool
  runNotFailed : Bool
  runFinished : Bool
  toolsResolved : Bool
  deriving DecidableEq, Repr

namespace RunEvent

/-- `isinstance(e, AssistantReplyEvent)`. -/
def isAssistantReply : RunEvent → Bool
  | assistantReply .. => true
  | _ => false

/-- `isinstance(e, RunFailedEvent)`. -/
def isRunFailed : RunEvent → Bool
  | runFailed _ => true
  | _ => false

/-- `isinstance(e, RunFinishedEvent)`. -/
def isRunFinished : RunEvent → Bool
  | runFinished => true
  | _ => false

/-- `isinstance(e, ToolCallEvent)`. -/
def isToolCall : RunEvent → Bool
  | toolCall .. => true
  | _ => false

/-- `isinstance(e, ToolMockResultEvent)`. -/
def isToolMockResult : RunEvent → Bool
  | toolMockResult .. => true
  | _ => false

end RunEvent

/-- `evaluate_hard_checks`. -/
def evaluateHardChecks (events : List RunEvent) : HardChecks where
  hasAssistantReply := events.any RunEvent.isAssistantReply
  runNotFailed := !events.any RunEvent.isRunFailed
  runFinished := events.any RunEvent.isRunFinished
  toolsResolved := decide (events.countP RunEvent.isToolCall = events.countP RunEvent.isToolMockResult)

/-! ## The database -/

/-- The row of a run, as far as it is read again. -/
structure RunRow where
  status : RunStatus
  createdAt : Instant
  startedAt : Option Instant
  endedAt : Option Instant
  summary : Option String
  deriving DecidableEq, Repr

/-- A judgment, without the scores. -/
structure RunJudgment where
  hardChecks : HardChecks
  summary : String
  deriving DecidableEq, Repr

/-- **What is committed** about a run. -/
structure RunTables where
  run : Option RunRow
  events : List EventRow
  judgments : List RunJudgment

/-- The run is deleted, with all that refers to it. -/
def RunTables.deleted : RunTables := ⟨none, [], []⟩

/-! ## The process -/

/-- What the agent yields. -/
inductive RunnerEvent where
  | token (text : String)
  | finished (text : Option String)
  | error (text : String)
  | other
  deriving DecidableEq, Repr

/-- What `_collect_target_runner_result` makes of the events. -/
structure RunnerResult where
  assembledText : String
  finishedText : Option String
  runtimeError : Option String
  deriving DecidableEq, Repr

namespace RunnerResult

/-- One event. -/
def add (result : RunnerResult) : RunnerEvent → RunnerResult
  | .token text => { result with assembledText := result.assembledText ++ text }
  | .finished (some text) => { result with finishedText := some text }
  | .finished none => result
  | .error text => { result with runtimeError := some text }
  | .other => result

/-- `_collect_target_runner_result`. -/
def collect (events : List RunnerEvent) : RunnerResult := events.foldl add ⟨"", none, none⟩

/-- What the agent has said. -/
def assistantText (result : RunnerResult) : String :=
  strip ((result.finishedText.filter (· ≠ "")).getD result.assembledText)

/-- `_is_transient_transport_error`. -/
def isTransient (result : RunnerResult) : Bool :=
  match result.runtimeError with
  | none => false
  | some message =>
    ["transport: error sending request", "connection reset", "connection refused", "timed out",
      "temporary failure"].any fun marker => decide (marker.toList <:+: message.toLower.toList)

end RunnerResult

/-- A statement the task still has to run. -/
inductive DbOp where
  /-- `recorder.append`, and the event is kept. -/
  | append (event : RunEvent)
  | commit

/-- **Where the task is**, once its statements are run. -/
inductive TaskPhase where
  /-- The process was not started. -/
  | waiting
  | loading
  /-- A queued run was read. -/
  | found
  /-- At the top of the loop. -/
  | turn (turnId : ℕ)
  /-- It waits for the caller. -/
  | caller (turnId : ℕ)
  /-- It waits for the agent. -/
  | agent (turnId attempts : ℕ)
  /-- At the bottom of the loop. -/
  | turnEnd (turnId : ℕ) (runtimeError : Option String)
  /-- It waits for the judge. -/
  | judging
  /-- An exception was caught. -/
  | raised (message : String)
  /-- The run was read again, and is to be failed. -/
  | failing (message : String)
  | over
  deriving DecidableEq, Repr

/-- **`_run_execution_task`**, and its transaction. -/
structure RunTask where
  phase : TaskPhase
  ops : List DbOp
  /-- `run.status`, in memory. -/
  status : RunStatus
  /-- The time of the turn. -/
  now : Instant
  seqNo : ℕ
  eventModels : List RunEvent
  hookRecords : List HookRecord
  toolCallIndex : ℕ
  /-- The rows the transaction has inserted. -/
  pending : List EventRow

/-- What the task does next, and what it is told. -/
inductive TaskAction where
  | load
  | markRunning (now : Instant)
  /-- The next statement. -/
  | statement
  | refresh
  | utter (output : Option String) (now : Instant)
  /-- The agent has called tools and yielded events, or has not done so in time. -/
  | answer (calls : List (String × String)) (events : Option (List RunnerEvent))
  | endTurn (now : Instant)
  | judged (summary : String) (now : Instant)
  /-- Something raises. -/
  | raise (message : String)
  | handle
  | recordFailure (now : Instant)
  /-- The process is killed, or dies. -/
  | exit

namespace RunTask

/-- A process that was not started. -/
def unstarted : RunTask := ⟨.waiting, [], .queued, 0, 0, [], [], 0, []⟩

/-- The process is gone, and its transaction with it. -/
def exited (t : RunTask) : RunTask := { t with phase := .over, ops := [], pending := [] }

/-- Whether there is a process. -/
def alive (t : RunTask) : Bool :=
  match t.phase with
  | .waiting => false
  | .over => false
  | _ => true

/-- Whether an exception is caught. -/
def inTry : TaskPhase → Bool
  | .waiting => false
  | .raised _ => false
  | .failing _ => false
  | .over => false
  | _ => true

/-- An exception. -/
def raised (message : String) (t : RunTask) : RunTask := { t with phase := .raised message }

/-- The loop goes on with the next turn, or is left. -/
def next (env : EvaluationEnv) (turnId : ℕ) (now : Instant) (t : RunTask) : RunTask :=
  if turnId < env.maxTurns then { t with phase := .turn (turnId + 1) }
  else { t with phase := .judging, now := now, ops := [.append .runFinished] }

/-- The first `select` and the check of the status. -/
def load (db : RunTables) (t : RunTask) : RunTask :=
  match db.run with
  | none => t.exited
  | some row => if row.status ≠ .queued then t.exited else { t with phase := .found, status := row.status }

/-- `mark_running`, and the commit. -/
def markRunning (env : EvaluationEnv) (now : Instant) (db : RunTables) (t : RunTask) : RunTables × RunTask :=
  if !t.status.canTransition .running then (db, t.raised (t.status.invalidTransition .running))
  else
    match db.run with
    | none => (db, t.raised env.runGone)
    | some row =>
      ({ db with run := some { row with status := .running, startedAt := some now } },
        { t with phase := .turn 1, status := .running })

/-- `append`: the number in the payload is counted by the task, the one of the row by the recorder. -/
def append (env : EvaluationEnv) (event : RunEvent) (db : RunTables) (t : RunTask) : RunTask :=
  match db.run with
  | none => t.raised env.runGone
  | some _ =>
    { t with
      seqNo := t.seqNo + 1
      eventModels := t.eventModels ++ [event]
      pending := t.pending ++ [⟨nextSeq (db.events ++ t.pending), t.now, t.seqNo + 1, event⟩] }

/-- The next statement. -/
def statement (env : EvaluationEnv) (db : RunTables) (t : RunTask) : RunTables × RunTask :=
  match t.ops with
  | [] => (db, t)
  | .append event :: ops => (db, append env event db { t with ops := ops })
  | .commit :: ops => ({ db with events := db.events ++ t.pending }, { t with ops := ops, pending := [] })

/-- The top of the loop. -/
def refresh (env : EvaluationEnv) (turnId : ℕ) (db : RunTables) (t : RunTask) : RunTask :=
  match db.run with
  | none => t.raised env.runGone
  | some row =>
    if row.status = .cancelled then { t.exited with status := row.status }
    else { t with phase := .caller turnId, status := row.status, hookRecords := [], toolCallIndex := 0 }

/-- The caller speaks, or the conversation ends. -/
def utter (env : EvaluationEnv) (turnId : ℕ) (output : Option String) (now : Instant) (t : RunTask) : RunTask :=
  match env.utterance turnId output with
  | none => { t with phase := .judging, now := now, ops := [.append .runFinished] }
  | some text =>
    { t with
      phase := .agent turnId 0
      now := now
      ops := [.append (.turnStarted turnId), .append (.callerUtterance turnId text), .commit] }

/-- The statements for a call of a tool. -/
def hookOps (turnId : ℕ) (hook : HookRecord) : List DbOp :=
  [.append (.toolCall turnId hook.toolCallId hook.toolId hook.argsJson),
    .append (.toolMockResult turnId hook.toolCallId hook.toolId hook.resolution), .commit]

/-- The statements for what the agent has said. -/
def replyOps (turnId : ℕ) (text : String) : List DbOp :=
  if text = "" then [] else [.append (.assistantReply turnId text), .commit]

/-- The agent answers: once more if it could not be reached. -/
def answer (env : EvaluationEnv) (turnId attempts : ℕ) (calls : List (String × String))
    (events : Option (List RunnerEvent)) (t : RunTask) : RunTask :=
  let (index, records) := beforeToolCalls env turnId t.toolCallIndex calls
  let t := { t with toolCallIndex := index, hookRecords := t.hookRecords ++ records }
  match events with
  | none => t.raised ("Target agent turn timed out after " ++ toString env.perTurnTimeout ++ "s")
  | some events =>
    let result := RunnerResult.collect events
    if attempts < 1 ∧ result.isTransient = true then { t with phase := .agent turnId (attempts + 1) }
    else
      { t with
        phase := .turnEnd turnId result.runtimeError
        ops := t.hookRecords.flatMap (hookOps turnId) ++ replyOps turnId result.assistantText }

/-- The bottom of the loop. -/
def endTurn (env : EvaluationEnv) (turnId : ℕ) (runtimeError : Option String) (now : Instant) (t : RunTask) :
    RunTask :=
  match runtimeError.filter (· ≠ "") with
  | some message => t.raised message
  | none => t.next env turnId now

/-- The judge has answered: the judgment, `mark_completed`, and the commit. -/
def judged (env : EvaluationEnv) (summary : String) (now : Instant) (db : RunTables) (t : RunTask) : RunTables × RunTask :=
  match db.run with
  | none => (db, t.raised env.runGone)
  | some row =>
    if !t.status.canTransition .completed then (db, t.raised (t.status.invalidTransition .completed))
    else
      ({ run := some { row with status := .completed, summary := some summary, endedAt := some now }
         events := db.events ++ t.pending
         judgments := db.judgments ++ [⟨evaluateHardChecks t.eventModels, summary⟩] },
        t.exited)

/-- `except Exception`: the transaction is rolled back and the run is read again. -/
def handle (message : String) (db : RunTables) (t : RunTask) : RunTask :=
  match db.run with
  | none => t.exited
  | some row =>
    if row.status.active then { t with phase := .failing message, ops := [], pending := [] } else t.exited

/-- The run is failed. -/
def recordFailure (message : String) (now : Instant) (db : RunTables) (t : RunTask) : RunTables × RunTask :=
  match db.run with
  | none => (db, t.exited)
  | some row =>
    let number := nextSeq db.events
    ({ db with
        run := some
          { row with status := .failed, summary := some ("Execution failed: " ++ message), endedAt := some now }
        events := db.events ++ [⟨number, now, number, .runFailed message⟩] },
      t.exited)

/-- **One step of the process**; what does not come next does nothing. -/
def step (env : EvaluationEnv) (db : RunTables) (t : RunTask) (action : TaskAction) : RunTables × RunTask :=
  match t.phase, t.ops, action with
  | .waiting, _, _ => (db, t)
  | .over, _, _ => (db, t)
  | _, _, .exit => (db, t.exited)
  | .raised message, _, .handle => (db, t.handle message db)
  | .failing message, _, .recordFailure now => t.recordFailure message now db
  | phase, _, .raise message => if inTry phase then (db, t.raised message) else (db, t.exited)
  | phase, _ :: _, .statement => if inTry phase then t.statement env db else (db, t)
  | .loading, [], .load => (db, t.load db)
  | .found, [], .markRunning now => t.markRunning env now db
  | .turn turnId, [], .refresh => (db, t.refresh env turnId db)
  | .caller turnId, [], .utter output now => (db, t.utter env turnId output now)
  | .agent turnId attempts, [], .answer calls events => (db, t.answer env turnId attempts calls events)
  | .turnEnd turnId runtimeError, [], .endTurn now => (db, t.endTurn env turnId runtimeError now)
  | .judging, [], .judged summary now => t.judged env summary now db
  | _, _, _ => (db, t)

end RunTask

/-! ## The server -/

/-- **A request that has read the run** and has not written. -/
inductive RunRequest where
  /-- `cancel_run` has read a run that is active. -/
  | cancelling
  /-- It has killed the process, if there was one. -/
  | killed
  /-- `_reconcile_orphaned_runs` has read an active run, with this clock. -/
  | reconciling (now : Instant) (row : RunRow)
  /-- It found no process. -/
  | orphaned (now : Instant)
  /-- `delete_run` has read a run that is not active. -/
  | deleting
  | done
  deriving DecidableEq, Repr

/-- Where a stream is. -/
inductive StreamStage where
  | polling
  /-- It has read the run, which was ended or not. -/
  | reading (terminal : Bool)
  /-- It waits before the next round. -/
  | sleeping
  | closed
  /-- The run was not found. -/
  | lost
  /-- The server has gone away. -/
  | cut
  deriving DecidableEq, Repr

/-- **A stream of events**, `stream_run_events`. -/
structure EventStream where
  fromSeq : ℕ
  lastSeq : ℕ
  terminalSeen : Bool
  stage : StreamStage
  sent : List EventRow

/-- What happens at the server. -/
inductive ServerAction where
  /-- `run_config`, after its commit. -/
  | submit
  | cancel
  | reconcile (now : Instant)
  | delete
  /-- `clear_run_history`. -/
  | clear
  /-- A request goes on with what it has read. -/
  | resume (i : ℕ)
  /-- A request writes and commits. -/
  | write (i : ℕ) (now : Instant)
  /-- The server is started anew, and a process is left over or not. -/
  | restart (orphan : Bool)
  | stream (fromSeq : ℕ)
  /-- A stream reads the run. -/
  | poll (i : ℕ)
  /-- A stream reads the events. -/
  | rows (i : ℕ)
  /-- A stream wakes up. -/
  | wake (i : ℕ)
  deriving DecidableEq, Repr

namespace EventStream

/-- A new stream. -/
def start (fromSeq : ℕ) : EventStream := ⟨fromSeq, fromSeq, false, .polling, []⟩

/-- The rows with a larger number, in order. -/
def rowsAfter (lastSeq : ℕ) (events : List EventRow) : List EventRow :=
  (events.filter fun row => lastSeq < row.seqNo).insertionSort fun a b => a.seqNo ≤ b.seqNo

/-- The run is read. -/
def poll (db : RunTables) (s : EventStream) : EventStream :=
  match s.stage, db.run with
  | .polling, none => { s with stage := .lost }
  | .polling, some row => { s with stage := .reading !row.status.active }
  | _, _ => s

/-- The events are read and sent. -/
def rows (db : RunTables) (s : EventStream) : EventStream :=
  match s.stage with
  | .reading terminal =>
    let rows := rowsAfter s.lastSeq db.events
    let s := { s with sent := s.sent ++ rows, lastSeq := (rows.getLast?.map EventRow.seqNo).getD s.lastSeq }
    if terminal then
      if s.terminalSeen then { s with stage := .closed } else { s with stage := .sleeping, terminalSeen := true }
    else { s with stage := .sleeping }
  | _ => s

/-- A second has passed. -/
def wake (s : EventStream) : EventStream :=
  match s.stage with
  | .sleeping => { s with stage := .polling }
  | _ => s

/-- The server goes away. -/
def cut (s : EventStream) : EventStream :=
  match s.stage with
  | .closed => s
  | .lost => s
  | _ => { s with stage := .cut }

end EventStream

/-- **A run**: what is committed, the process, and what the server does. -/
structure EvaluationRun where
  db : RunTables
  task : RunTask
  /-- The server knows the process. -/
  registered : Bool
  requests : List RunRequest
  streams : List EventStream

/-- What can happen. -/
inductive EvaluationAction where
  | task (action : TaskAction)
  | server (action : ServerAction)

namespace EvaluationRun

/-- A run that was just committed. -/
def created (now : Instant) : EvaluationRun :=
  ⟨⟨some ⟨.queued, now, none, none, none⟩, [], []⟩, RunTask.unstarted, false, [], []⟩

/-- `is_running`. -/
def isRunning (e : EvaluationRun) : Bool := e.registered && e.task.alive

/-- `submit_process`. -/
def submit (e : EvaluationRun) : EvaluationRun :=
  match e.task.phase with
  | .waiting => { e with task := { e.task with phase := .loading }, registered := true }
  | _ => e

/-- What a request to cancel, to reconcile or to delete does with the run it has read. -/
def read (action : ServerAction) (row : RunRow) : RunRequest :=
  match action with
  | .cancel => if row.status.active then .cancelling else .done
  | .reconcile now => if row.status.active then .reconciling now row else .done
  | .delete => if row.status.active then .done else .deleting
  | _ => .done

/-- A request reads the run. -/
def request (action : ServerAction) (e : EvaluationRun) : EvaluationRun :=
  { e with requests := e.requests ++ [(e.db.run.map (read action)).getD .done] }

/-- Whether a run that was read is to be failed. -/
def shouldFail (now : Instant) (row : RunRow) : Bool :=
  (row.status = .queued && now - row.createdAt > Duration.fromSecs 30) ||
    (row.status = .running &&
      match row.startedAt with
      | none => true
      | some started => now - started > Duration.fromSecs 600)

/-- A request goes on: `evaluation_worker.cancel`, or the test whether there is a process. -/
def resume (i : ℕ) (e : EvaluationRun) : EvaluationRun :=
  match e.requests[i]? with
  | some .cancelling =>
    { e with
      requests := e.requests.set i .killed
      task := if e.isRunning then e.task.exited else e.task }
  | some (.reconciling now row) =>
    { e with requests := e.requests.set i (if !e.isRunning && shouldFail now row then .orphaned now else .done) }
  | _ => e

/-- The row as a request writes it. -/
def written (request : RunRequest) (now : Instant) (row : RunRow) : RunRow :=
  match request with
  | .killed => { row with status := .cancelled, endedAt := some now }
  | .orphaned now =>
    { row with
      status := .failed
      summary := some "Execution failed: Worker was unavailable after a reload/restart."
      endedAt := some now }
  | _ => row

/-- The run is deleted, unless the process has inserted rows. -/
def erase (e : EvaluationRun) : EvaluationRun :=
  if e.task.pending.isEmpty then { e with db := .deleted } else e

/-- A request writes: an update of a run that is gone raises, a deletion waits. -/
def write (i : ℕ) (now : Instant) (e : EvaluationRun) : EvaluationRun :=
  match e.requests[i]? with
  | some .deleting => if e.task.pending.isEmpty then { e.erase with requests := e.requests.set i .done } else e
  | some .killed =>
    { e with db := { e.db with run := e.db.run.map (written .killed now) }, requests := e.requests.set i .done }
  | some (.orphaned clock) =>
    { e with
      db := { e.db with run := e.db.run.map (written (.orphaned clock) now) }
      requests := e.requests.set i .done }
  | _ => e

/-- `clear_run_history`, in one statement. -/
def clear (e : EvaluationRun) : EvaluationRun :=
  match e.db.run with
  | some row => if row.status.active then e else e.erase
  | none => e

/-- The server is started anew. -/
def restart (orphan : Bool) (e : EvaluationRun) : EvaluationRun :=
  { e with
    registered := false
    requests := []
    streams := e.streams.map EventStream.cut
    task := if e.task.alive && !orphan then e.task.exited else e.task }

/-- **One step of the server.** -/
def serve (e : EvaluationRun) (action : ServerAction) : EvaluationRun :=
  match action with
  | .submit => e.submit
  | .cancel => e.request action
  | .reconcile _ => e.request action
  | .delete => e.request action
  | .clear => e.clear
  | .resume i => e.resume i
  | .write i now => e.write i now
  | .restart orphan => e.restart orphan
  | .stream fromSeq => { e with streams := e.streams ++ [.start fromSeq] }
  | .poll i => { e with streams := e.streams.modify i (EventStream.poll e.db) }
  | .rows i => { e with streams := e.streams.modify i (EventStream.rows e.db) }
  | .wake i => { e with streams := e.streams.modify i EventStream.wake }

/-- **One step.** -/
def step (env : EvaluationEnv) (e : EvaluationRun) (action : EvaluationAction) : EvaluationRun :=
  match action with
  | .task action => { e with db := (e.task.step env e.db action).1, task := (e.task.step env e.db action).2 }
  | .server action => e.serve action

end EvaluationRun

end Feros
