import Feros.Guarantees.RunEvents
/-! # What a stream of events sends

A stream sends the events of a run from where it was asked to, in order and each once.  If no restart leaves a
process behind, a run that has ended has done so for good, and a stream that was closed has sent all of it. -/

namespace Feros

open Run

/-! ## Rows by their number -/

variable {env : EvaluationEnv}

/-- The rows behind a number are those behind as many rows. -/
theorem Numbered.filter {rows : List EventRow} {before : ℕ} (numbered : Numbered before rows) (last : ℕ) :
    (rows.filter fun row => last < row.seqNo) = rows.drop (last - before) := by
  induction rows generalizing before with
  | nil => rw [List.filter_nil, List.drop_nil]
  | cons row rows ih =>
      obtain ⟨number, -, rest⟩ := numbered
      rw [List.filter_cons, ih rest, number]
      by_cases later : last < before + 1
      · rw [if_pos (decide_eq_true later), Nat.sub_eq_zero_of_le (Nat.le_of_lt later),
          Nat.sub_eq_zero_of_le (Nat.le_of_lt_succ later)]
        rfl
      · rw [if_neg (by simpa using later), show last - before = (last - (before + 1)) + 1 by omega]
        rfl

/-- The numbers are above those before. -/
theorem Numbered.lt {rows : List EventRow} {before : ℕ} (numbered : Numbered before rows) {row : EventRow}
    (held : row ∈ rows) : before < row.seqNo := by
  induction rows generalizing before with
  | nil => cases held
  | cons first rows ih =>
      obtain ⟨number, -, rest⟩ := numbered
      rcases List.mem_cons.1 held with rfl | later
      · omega
      · exact (Nat.lt_succ_self before).trans (ih rest later)

/-- The numbers are in order. -/
theorem Numbered.sorted {rows : List EventRow} {before : ℕ} (numbered : Numbered before rows) :
    rows.Pairwise fun a b => a.seqNo ≤ b.seqNo := by
  induction rows generalizing before with
  | nil => exact List.Pairwise.nil
  | cons row rows ih =>
      obtain ⟨number, -, rest⟩ := numbered
      refine List.pairwise_cons.2 ⟨fun later held => ?_, ih rest⟩
      rw [number]
      exact Nat.le_of_lt (rest.lt held)

/-- The last number counts the rows. -/
theorem Numbered.last {rows : List EventRow} {before : ℕ} (numbered : Numbered before rows) :
    (rows.getLast?.map EventRow.seqNo).getD before = before + rows.length := by
  induction rows generalizing before with
  | nil => rfl
  | cons row rows ih =>
      obtain ⟨number, -, rest⟩ := numbered
      have last := ih rest
      cases rows with
      | nil => exact number
      | cons next rows =>
          rw [List.getLast?_cons_cons, List.length_cons]
          obtain ⟨final, is⟩ : ∃ final, (next :: rows).getLast? = some final :=
            ⟨_, List.getLast?_eq_some_getLast (List.cons_ne_nil next rows)⟩
          rw [is] at last ⊢
          change final.seqNo = _ at last
          change final.seqNo = _
          omega

/-- The rows behind a number are numbered from there. -/
theorem Numbered.drop {rows : List EventRow} (numbered : Numbered 0 rows) (last : ℕ) :
    Numbered last (rows.drop last) := by
  by_cases short : rows.length ≤ last
  · rw [List.drop_eq_nil_of_le short]
    trivial
  · have parts := numbered
    rw [← List.take_append_drop last rows, numbered_append, List.length_take, Nat.zero_add,
      Nat.min_eq_left (Nat.le_of_not_le short)] at parts
    exact parts.2

/-- **The rows a stream reads** are those behind the ones it has. -/
theorem rowsAfter_eq {events : List EventRow} (numbered : Numbered 0 events) (last : ℕ) :
    EventStream.rowsAfter last events = events.drop last := by
  unfold EventStream.rowsAfter
  rw [numbered.filter, Nat.sub_zero]
  exact List.Pairwise.insertionSort_eq (numbered.drop last).sorted

/-! ## Following -/

/-- **A stream follows the events.** -/
structure EventStream.Follows (db : RunTables) (s : EventStream) : Prop where
  last : s.lastSeq = s.fromSeq + s.sent.length
  numbered : Numbered s.fromSeq s.sent
  here : db.run.isSome = true → s.sent <+: db.events.drop s.fromSeq

/-- Events are only added, unless the run is deleted. -/
def Grows (db db' : RunTables) : Prop :=
  db'.run.isSome = true → db.run.isSome = true ∧ ∃ more, db'.events = db.events ++ more

/-- Nothing has happened. -/
theorem Grows.refl (db : RunTables) : Grows db db := fun there => ⟨there, [], (List.append_nil _).symm⟩

namespace EventStream

variable {db db' : RunTables} {s : EventStream}

/-- A stream that starts has sent nothing. -/
theorem follows_start (db : RunTables) (fromSeq : ℕ) : (start fromSeq).Follows db :=
  ⟨rfl, trivial, fun _ => List.nil_prefix⟩

/-- Rows that are added do not matter to what was sent. -/
theorem Follows.grows (follows : s.Follows db) (grows : Grows db db') : s.Follows db' := by
  refine ⟨follows.last, follows.numbered, fun there => ?_⟩
  obtain ⟨before, more, events⟩ := grows there
  rw [events, List.drop_append]
  exact (follows.here before).trans (List.prefix_append _ _)

/-- A poll sends nothing. -/
theorem Follows.poll (follows : s.Follows db) : (s.poll db).Follows db := by
  unfold EventStream.poll
  split
  · exact ⟨follows.last, follows.numbered, follows.here⟩
  · exact ⟨follows.last, follows.numbered, follows.here⟩
  · exact follows

/-- A sleep sends nothing. -/
theorem Follows.wake (follows : s.Follows db) : s.wake.Follows db := by
  unfold EventStream.wake
  split
  · exact ⟨follows.last, follows.numbered, follows.here⟩
  · exact follows

/-- A stream that is cut off has sent what it has sent. -/
theorem Follows.cut (follows : s.Follows db) : s.cut.Follows db := by
  unfold EventStream.cut
  split
  · exact follows
  · exact follows
  · exact ⟨follows.last, follows.numbered, follows.here⟩

/-- What a stream has sent once it has read the events. -/
def sentNow (db : RunTables) (s : EventStream) : List EventRow := s.sent ++ db.events.drop s.lastSeq

/-- It is all there is. -/
theorem Follows.sentNow_eq (follows : s.Follows db) (there : db.run.isSome = true) :
    s.sentNow db = db.events.drop s.fromSeq := by
  obtain ⟨rest, sent⟩ := follows.here there
  unfold sentNow
  rw [follows.last, ← List.drop_drop, ← sent, List.drop_left]

/-- **What `rows` does.** -/
theorem rows_cases (numbered : Numbered 0 db.events) (follows : s.Follows db) :
    s.rows db = s ∨ ∃ terminal, s.stage = .reading terminal ∧ (s.rows db).fromSeq = s.fromSeq ∧
      (s.rows db).sent = s.sentNow db ∧ (s.rows db).lastSeq = s.fromSeq + (s.sentNow db).length ∧
      ((s.rows db).terminalSeen = true → s.terminalSeen = true ∨ terminal = true) ∧
      ((s.rows db).stage = .closed ∧ s.terminalSeen = true ∨ (s.rows db).stage = .sleeping) := by
  unfold rows
  split
  · next terminal at_ =>
    refine .inr ⟨terminal, at_, ?_⟩
    dsimp only
    rw [rowsAfter_eq numbered, (numbered.drop s.lastSeq).last]
    have length : s.lastSeq + (db.events.drop s.lastSeq).length = s.fromSeq + (s.sentNow db).length := by
      rw [sentNow, List.length_append, follows.last, Nat.add_assoc]
    split
    · next ended =>
      split
      · next seen => exact ⟨rfl, rfl, length, fun _ => .inr ended, .inl ⟨rfl, seen⟩⟩
      · exact ⟨rfl, rfl, length, fun _ => .inr ended, .inr rfl⟩
    · exact ⟨rfl, rfl, length, .inl, .inr rfl⟩
  · exact .inl rfl

/-- **A stream sends the rows that follow.** -/
theorem Follows.rows (numbered : Numbered 0 db.events) (follows : s.Follows db) : (s.rows db).Follows db := by
  rcases rows_cases numbered follows with same | ⟨terminal, -, start, sent, last, -⟩
  · rw [same]
    exact follows
  · refine ⟨?_, ?_, fun there => ?_⟩
    · rw [last, start, sent]
    · rw [start, sent, sentNow, numbered_append, ← follows.last]
      exact ⟨follows.numbered, numbered.drop s.lastSeq⟩
    · rw [start, sent, follows.sentNow_eq there]

end EventStream

/-- **The process only adds events**, and neither deletes the run nor brings it back. -/
theorem RunTask.step_grows (db : RunTables) (t : RunTask) (action : TaskAction) :
    Grows db (t.step env db action).1 := by
  have same := Grows.refl db
  unfold RunTask.step
  split
  · exact same
  · exact same
  · exact same
  · exact same
  · unfold RunTask.recordFailure
    split
    · exact same
    · next found => exact fun _ => ⟨by rw [found]; rfl, _, rfl⟩
  · split
    · exact same
    · exact same
  · split
    · unfold RunTask.statement
      split
      · exact same
      · exact same
      · exact fun there => ⟨there, _, rfl⟩
    · exact same
  · exact same
  · unfold RunTask.markRunning
    split
    · exact same
    · split
      · exact same
      · next found => exact fun _ => ⟨by rw [found]; rfl, [], (List.append_nil _).symm⟩
  · exact same
  · exact same
  · exact same
  · exact same
  · unfold RunTask.judged
    split
    · exact same
    · next found =>
      split
      · exact same
      · exact fun _ => ⟨by rw [found]; rfl, _, rfl⟩
  · exact same

namespace EvaluationRun

variable {e : EvaluationRun}

/-- The server only deletes the run or writes its status. -/
theorem Serves.grows {e' : EvaluationRun} (served : Serves e e') : Grows e.db e'.db := by
  have same := Grows.refl e.db
  cases served with
  | erased empty requests => exact fun there => by cases there
  | rewritten requests f ends =>
      intro there
      rw [Option.isSome_map] at there
      exact ⟨there, [], (List.append_nil _).symm⟩
  | idle => exact same
  | submitted waits => exact same
  | requested requests => exact same
  | killed requests => exact same
  | restarted task is => exact same
  | streamed streams moved => exact same

/-- The server changes a stream in its own ways. -/
theorem Serves.streams {e' : EvaluationRun} (served : Serves e e') {s : EventStream} (held : s ∈ e'.streams) :
    (∃ fromSeq, s = .start fromSeq) ∨
      ∃ old ∈ e.streams, s = old ∨ s = old.poll e.db ∨ s = old.rows e.db ∨ s = old.wake ∨ s = old.cut := by
  have same : s ∈ e.streams → (∃ fromSeq, s = .start fromSeq) ∨
      ∃ old ∈ e.streams, s = old ∨ s = old.poll e.db ∨ s = old.rows e.db ∨ s = old.wake ∨ s = old.cut :=
    fun old => .inr ⟨s, old, .inl rfl⟩
  cases served with
  | streamed streams moved =>
      refine (moved s held).imp_right fun ⟨old, before, is⟩ => ⟨old, before, ?_⟩
      exact is.imp_right (·.imp_right (·.imp_right .inl))
  | restarted task is =>
      obtain ⟨old, before, rfl⟩ := List.mem_map.1 held
      exact .inr ⟨old, before, .inr (.inr (.inr (.inr rfl)))⟩
  | idle => exact same held
  | submitted waits => exact same held
  | requested requests => exact same held
  | killed requests => exact same held
  | erased empty requests => exact same held
  | rewritten requests f ends => exact same held

/-- Each stream follows the events. -/
def Streams (env : EvaluationEnv) (e : EvaluationRun) : Prop :=
  e.Sound env ∧ ∀ s ∈ e.streams, s.Follows e.db

/-- **A step keeps all the streams in order.** -/
theorem Streams.step (streams : e.Streams env) (action : EvaluationAction) : (e.step env action).Streams env := by
  obtain ⟨sound, follows⟩ := streams
  refine ⟨sound.step action, ?_⟩
  cases action with
  | task action =>
      intro s held
      exact (follows s held).grows (RunTask.step_grows e.db e.task action)
  | server action =>
      intro s held
      have numbered : Numbered 0 e.db.events := (numbered_append.1 sound.numbered).1
      -- a stream moves against the events as they were, and the server adds none
      refine EventStream.Follows.grows ?_ (serves e action).grows
      rcases (serves e action).streams held with ⟨fromSeq, rfl⟩ | ⟨old, before, is⟩
      · exact EventStream.follows_start e.db fromSeq
      · have followed := follows old before
        rcases is with rfl | rfl | rfl | rfl | rfl
        · exact followed
        · exact followed.poll
        · exact followed.rows numbered
        · exact followed.wake
        · exact followed.cut

/-- **A stream sends the events in order**, each once and none left out, from where it was asked to. -/
theorem streams_follow (env : EvaluationEnv) (now : Instant) (actions : List EvaluationAction) :
    let e := run (step env) (created now) actions
    ∀ s ∈ e.streams, Numbered s.fromSeq s.sent ∧
      (e.db.run.isSome = true → s.sent <+: e.db.events.drop s.fromSeq) := by
  intro e s held
  have began : (created now).Streams env := ⟨sound_created env now, fun s held => by cases held⟩
  have streams : e.Streams env := invariant_of_step (fun _ action streams => streams.step action) began actions
  have follows := streams.2 s held
  exact ⟨follows.numbered, follows.here⟩

end EvaluationRun

/-! ## Ended for good -/

namespace RunTask

variable {db : RunTables} {t : RunTask}

/-- A process that is over does nothing. -/
theorem step_over (passed : t.phase = .over) (action : TaskAction) : t.step env db action = (db, t) := by
  unfold RunTask.step
  rw [passed]

/-- A step of a process that works: it goes on working, or it is over; it ends the run only as it goes. -/
structure Goes (db : RunTables) (after : RunTables × RunTask) : Prop where
  started : after.2.phase ≠ .waiting
  ends : ∀ row, after.1.run = some row → row.status.active = false → db.run = some row ∨ after.2.phase = .over

/-- A task that stays at its statement changes no table. -/
theorem goes_of_same {t' : RunTask} (started : t'.phase ≠ .waiting) : Goes db (db, t') :=
  ⟨started, fun _ is _ => .inl is⟩

/-- A task that has exited is over. -/
theorem goes_over {db' : RunTables} : Goes db (db', t.exited) :=
  ⟨(fun is => by cases is), fun _ _ _ => .inr rfl⟩

/-- A step of the task only adds rows, and its end is the end of the run. -/
theorem step_goes (started : t.phase ≠ .waiting) (action : TaskAction) : Goes db (t.step env db action) := by
  have same : Goes db (db, t) := goes_of_same started
  have raised : ∀ message, Goes db (db, t.raised message) := fun message => goes_of_same fun is => by cases is
  unfold RunTask.step
  split
  -- A task that waits, or has ended, stays as it is.
  · exact same
  · exact same
  · exact goes_over
  · unfold handle
    split
    · exact goes_over
    · split
      · exact goes_of_same fun is => by cases is
      · exact goes_over
  -- A failure ends the task, whether it can be recorded or not.
  · unfold recordFailure
    split
    · exact goes_over
    · exact goes_over
  · split
    · exact raised _
    · exact goes_over
  · split
    · unfold statement
      split
      · exact same
      · unfold append
        split
        · exact goes_of_same fun is => by cases is
        · exact goes_of_same started
      · exact ⟨started, fun _ is _ => .inl is⟩
    · exact same
  · unfold load
    split
    · exact goes_over
    · split
      · exact goes_over
      · exact goes_of_same fun is => by cases is
  · unfold markRunning
    split
    · exact raised _
    · split
      · exact raised _
      -- The run is marked as running, so it has not ended.
      · refine ⟨(fun is => by cases is), fun row is ended => ?_⟩
        cases is
        cases ended
  · unfold refresh
    split
    · exact raised _
    · split
      · exact goes_of_same fun is => by cases is
      · exact goes_of_same fun is => by cases is
  · unfold utter
    split
    · exact goes_of_same fun is => by cases is
    · exact goes_of_same fun is => by cases is
  · unfold answer
    dsimp only
    split
    · exact goes_of_same fun is => by cases is
    · split
      · exact goes_of_same fun is => by cases is
      · exact goes_of_same fun is => by cases is
  · unfold endTurn
    split
    · exact raised _
    · unfold next
      split
      · exact goes_of_same fun is => by cases is
      · exact goes_of_same fun is => by cases is
  · unfold judged
    split
    · exact raised _
    · split
      · exact raised _
      · exact goes_over
  · exact same

end RunTask

/-- A restart of the server leaves the process behind. -/
def leavesProcess : EvaluationAction → Bool
  | .server (.restart true) => true
  | _ => false

/-- **A stream that knows of the end.** -/
structure EventStream.Told (db : RunTables) (phase : TaskPhase) (s : EventStream) : Prop where
  seen : s.terminalSeen = true ∨ s.stage = .reading true ∨ s.stage = .closed → phase = .over
  sent : s.stage = .closed → db.run.isSome = true → s.sent = db.events.drop s.fromSeq

/-- The request has found no process, or has killed it, and is about to write. -/
def RunRequest.Writing : RunRequest → Prop
  | .killed => True
  | .orphaned _ => True
  | _ => False

/-- **The end of a run is the end of its process.** -/
structure EvaluationRun.Kept (e : EvaluationRun) : Prop where
  started : e.task.phase ≠ .waiting
  known : e.registered = true ∨ e.task.phase = .over
  ended : ∀ row, e.db.run = some row → row.status.active = false → e.task.phase = .over
  writes : ∀ request ∈ e.requests, request.Writing → e.task.phase = .over
  streams : ∀ s ∈ e.streams, s.Told e.db e.task.phase

namespace EventStream

variable {db : RunTables} {phase : TaskPhase} {s : EventStream}

/-- A stream that starts knows of no end. -/
theorem told_start (fromSeq : ℕ) : (start fromSeq).Told db phase := by
  refine ⟨?_, fun is => by cases is⟩
  rintro (seen | is | is)
  · cases seen
  · cases is
  · cases is

/-- A poll learns of the end when it has come. -/
theorem Told.poll (told : s.Told db phase)
    (ended : ∀ row, db.run = some row → row.status.active = false → phase = .over) : (s.poll db).Told db phase := by
  unfold EventStream.poll
  split
  · refine ⟨?_, fun is => by cases is⟩
    rintro (seen | is | is)
    · exact told.seen (.inl seen)
    · cases is
    · cases is
  · next row at_ found =>
    refine ⟨?_, fun is => by cases is⟩
    rintro (seen | is | is)
    · exact told.seen (.inl seen)
    · have inactive : (!row.status.active) = true := StreamStage.reading.inj is
      exact ended row found (Bool.not_eq_true' _ ▸ inactive)
    · cases is
  · exact told

/-- **Rows that are read after the end are the last ones.** -/
theorem Told.rows (told : s.Told db phase) (numbered : Numbered 0 db.events) (follows : s.Follows db) :
    (s.rows db).Told db phase := by
  rcases rows_cases numbered follows with same | ⟨terminal, at_, start, sent, -, seen, stage⟩
  · rw [same]
    exact told
  · have earlier : (s.rows db).stage = .closed → phase = .over := by
      intro closed
      rcases stage with ⟨-, saw⟩ | sleeps
      · exact told.seen (.inl saw)
      · rw [closed] at sleeps
        cases sleeps
    refine ⟨?_, fun _ there => ?_⟩
    -- a second poll in a row has to see the end before the stream closes, so that the first one is remembered
    · rintro (now | is | is)
      · rcases seen now with saw | rfl
        · exact told.seen (.inl saw)
        · exact told.seen (.inr (.inl at_))
      · rcases stage with ⟨closed, -⟩ | sleeps
        · exact earlier closed
        · rw [is] at sleeps
          cases sleeps
      · exact earlier is
    · rw [sent, start, follows.sentNow_eq there]

/-- A sleep changes nothing of what is known. -/
theorem Told.wake (told : s.Told db phase) : s.wake.Told db phase := by
  unfold EventStream.wake
  split
  · refine ⟨?_, fun is => by cases is⟩
    rintro (seen | is | is)
    · exact told.seen (.inl seen)
    · cases is
    · cases is
  · exact told

/-- A stream that is cut off knows no more. -/
theorem Told.cut (told : s.Told db phase) : s.cut.Told db phase := by
  unfold EventStream.cut
  split
  · exact told
  · exact told
  · refine ⟨?_, fun is => by cases is⟩
    rintro (seen | is | is)
    · exact told.seen (.inl seen)
    · cases is
    · cases is

/-- Once the process is over, nothing more is to be known. -/
theorem Told.passed (told : s.Told db phase) {phase' : TaskPhase} (passed : phase' = .over) : s.Told db phase' :=
  ⟨fun _ => passed, told.sent⟩

end EventStream

/-- A process that was started and is not there any more is over. -/
theorem RunTask.over_of_gone {t : RunTask} (started : t.phase ≠ .waiting) (gone : t.alive = false) :
    t.phase = .over := by
  unfold RunTask.alive at gone
  split at gone
  · next waits => exact absurd waits started
  · next passed => exact passed
  · cases gone

namespace EvaluationRun

variable {e : EvaluationRun}

/-- What a request has just read is not written yet. -/
theorem read_apart (action : ServerAction) (row : RunRow) : ¬(read action row).Writing := by
  unfold read
  split
  · split
    · exact id
    · exact id
  · split
    · exact id
    · exact id
  · split
    · exact id
    · exact id
  · exact id

/-- Without a process the task is over. -/
theorem Kept.over_of_idle (kept : e.Kept) (idle : e.isRunning = false) : e.task.phase = .over := by
  rcases kept.known with known | passed
  · unfold isRunning at idle
    rw [known, Bool.true_and] at idle
    exact RunTask.over_of_gone kept.started idle
  · exact passed

/-- The process is over: the rest follows from what the streams have sent. -/
theorem kept_of_over {e' : EvaluationRun} (passed : e'.task.phase = .over)
    (streams : ∀ s ∈ e'.streams, s.Told e'.db e'.task.phase) : e'.Kept where
  started := by
    rw [passed]
    exact fun is => by cases is
  known := .inr passed
  ended _ _ _ := passed
  writes _ _ _ := passed
  streams := streams

/-- A step of the task keeps what requests rely on. -/
theorem Kept.task (kept : e.Kept) (env : EvaluationEnv) (action : TaskAction) : (e.step env (.task action)).Kept := by
  by_cases passed : e.task.phase = .over
  -- a process that is over does nothing
  · have still : e.step env (.task action) = e := by
      unfold EvaluationRun.step
      dsimp only
      rw [RunTask.step_over passed]
    rw [still]
    exact kept
  -- while it works, no stream has seen an end: the run ends only with the step that makes the process go
  · have goes : RunTask.Goes e.db (e.task.step env e.db action) := RunTask.step_goes kept.started action
    exact
      { started := goes.started
        known := .inl (kept.known.resolve_right passed)
        ended := fun row is ended =>
          (goes.ends row is ended).elim (fun before => absurd (kept.ended row before ended) passed) id
        writes := fun request held writes => absurd (kept.writes request held writes) passed
        streams := fun s held =>
          ⟨fun seen => absurd ((kept.streams s held).seen seen) passed,
            fun closed _ => absurd ((kept.streams s held).seen (.inr (.inr closed))) passed⟩ }

/-- The run is deleted, and the requests have written nothing else. -/
theorem Kept.deleted (kept : e.Kept) {requests : List RunRequest}
    (writes : ∀ request ∈ requests, request.Writing → e.task.phase = .over) :
    ({ e with db := .deleted, requests := requests } : EvaluationRun).Kept where
  started := kept.started
  known := kept.known
  ended _ is := by cases is
  writes := writes
  streams s held := ⟨(kept.streams s held).seen, fun _ there => by cases there⟩

/-- A request that goes on is apart from the task. -/
theorem Kept.set (kept : e.Kept) {i : ℕ} {request : RunRequest} (apart : request.Writing → e.task.phase = .over) :
    ∀ other ∈ e.requests.set i request, other.Writing → e.task.phase = .over := by
  intro other held writes
  rcases List.mem_or_eq_of_mem_set held with old | rfl
  · exact kept.writes other old writes
  · exact apart writes

/-- The run is written by a request that found the process gone. -/
theorem Kept.rewritten (kept : e.Kept) (passed : e.task.phase = .over) (f : RunRow → RunRow)
    (requests : List RunRequest) :
    ({ e with db := { e.db with run := e.db.run.map f }, requests := requests } : EvaluationRun).Kept := by
  refine kept_of_over passed fun s held => ⟨fun _ => passed, fun closed there => ?_⟩
  rw [Option.isSome_map] at there
  exact (kept.streams s held).sent closed there

/-- A new request keeps what the others rely on. -/
theorem Kept.request (kept : e.Kept) (action : ServerAction) : (e.request action).Kept where
  started := kept.started
  known := kept.known
  ended := kept.ended
  writes := by
    intro request held writes
    rcases List.mem_append.1 held with old | new
    · exact kept.writes request old writes
    · rw [List.mem_singleton.1 new] at writes
      cases found : e.db.run with
      | none =>
          rw [found] at writes
          exact False.elim writes
      | some row =>
          rw [found] at writes
          exact absurd writes (read_apart action row)
  streams := kept.streams

/-- A request that is resumed keeps what the others rely on. -/
theorem Kept.resume (kept : e.Kept) (i : ℕ) : (e.resume i).Kept := by
  unfold EvaluationRun.resume
  split
  -- `cancel` kills the process, or there is none it could kill
  · have passed : (if e.isRunning = true then e.task.exited else e.task).phase = .over := by
      split
      · rfl
      · next idle => exact kept.over_of_idle (Bool.eq_false_iff.2 idle)
    exact kept_of_over passed fun s held => (kept.streams s held).passed passed
  · refine ⟨kept.started, kept.known, kept.ended, kept.set ?_, kept.streams⟩
    split
    -- the run is failed only where `is_running` says no, and the registry knows every process that works
    · next free =>
      intro _
      rw [Bool.and_eq_true, Bool.not_eq_true'] at free
      exact kept.over_of_idle free.1
    · exact False.elim
  · exact kept

/-- **A request writes only when the task is over.** -/
theorem Kept.write (kept : e.Kept) (i : ℕ) (now : Instant) : (e.write i now).Kept := by
  unfold EvaluationRun.write
  split
  · split
    · next empty =>
      rw [show e.erase = { e with db := .deleted } from if_pos empty]
      exact kept.deleted (kept.set False.elim)
    · exact kept
  · next at_ => exact kept.rewritten (kept.writes _ (List.mem_of_getElem? at_) trivial) _ _
  · next at_ => exact kept.rewritten (kept.writes _ (List.mem_of_getElem? at_) trivial) _ _
  · exact kept

/-- A stream takes a step of its own. -/
theorem Kept.modify (kept : e.Kept) {f : EventStream → EventStream} {i : ℕ}
    (told : ∀ s ∈ e.streams, s.Told e.db e.task.phase → (f s).Told e.db e.task.phase) :
    ({ e with streams := e.streams.modify i f } : EvaluationRun).Kept where
  started := kept.started
  known := kept.known
  ended := kept.ended
  writes := kept.writes
  streams := by
    intro s held
    rcases mem_of_mem_modify held with old | ⟨old, before, rfl⟩
    · exact kept.streams s old
    · exact told old before (kept.streams old before)

/-- **One step of the server**, if it does not leave the process behind. -/
theorem Kept.serve (kept : e.Kept) (streams : e.Streams env) {action : ServerAction}
    (tame : leavesProcess (.server action) = false) : (e.serve action).Kept := by
  have numbered : Numbered 0 e.db.events := (numbered_append.1 streams.1.numbered).1
  cases action with
  | submit =>
      unfold EvaluationRun.serve submit
      dsimp only
      split
      -- A run that has started waits no longer, so it is not submitted again.
      · next waits => exact absurd waits kept.started
      · exact kept
  | cancel => exact kept.request _
  | reconcile now => exact kept.request _
  | delete => exact kept.request _
  | clear =>
      unfold EvaluationRun.serve clear
      dsimp only
      split
      · split
        · exact kept
        · unfold erase
          -- The rows are only deleted with the run over.
          split
          · exact kept.deleted kept.writes
          · exact kept
      · exact kept
  | resume i => exact kept.resume i
  | write i now => exact kept.write i now
  | restart orphan =>
      cases orphan with
      | true => cases tame
      | false =>
          -- the process goes with the server
          have passed : (if (e.task.alive && !false) = true then e.task.exited else e.task).phase = .over := by
            split
            · rfl
            · next idle =>
              rw [Bool.not_false, Bool.and_true] at idle
              exact RunTask.over_of_gone kept.started (Bool.eq_false_iff.2 idle)
          refine kept_of_over passed fun s held => ?_
          obtain ⟨old, before, rfl⟩ := List.mem_map.1 held
          exact (kept.streams old before).cut.passed passed
  | stream fromSeq =>
      -- A new stream starts behind the rows it was asked for.
      refine ⟨kept.started, kept.known, kept.ended, kept.writes, fun s held => ?_⟩
      rcases List.mem_append.1 held with old | new
      · exact kept.streams s old
      · rw [List.mem_singleton.1 new]
        exact EventStream.told_start fromSeq
  | poll i => exact kept.modify fun s _ told => told.poll kept.ended
  | rows i => exact kept.modify fun s held told => told.rows numbered (streams.2 s held)
  | wake i => exact kept.modify fun s _ told => told.wake

/-- A run whose process was started. -/
theorem kept_submitted (now : Instant) : (created now).submit.Kept where
  started is := by cases is
  known := .inl rfl
  ended row is ended := by
    cases is
    cases ended
  writes _ held := by cases held
  streams _ held := by cases held

/-- Every run that leaves no process behind keeps what requests rely on. -/
theorem kept_run (env : EvaluationEnv) (now : Instant) {actions : List EvaluationAction}
    (tame : ∀ action ∈ actions, leavesProcess action = false) :
    (run (step env) (created now).submit actions).Kept := by
  have began : (created now).Streams env := ⟨sound_created env now, fun s held => by cases held⟩
  have submitted : (created now).submit.Streams env := began.step (.server .submit)
  have preserved : ∀ (e : EvaluationRun) (action : EvaluationAction), e.Streams env ∧ e.Kept →
      leavesProcess action = false → (e.step env action).Streams env ∧ (e.step env action).Kept := by
    rintro e action ⟨streams, kept⟩ tame
    refine ⟨streams.step action, ?_⟩
    cases action with
    | task action => exact kept.task env action
    | server action => exact kept.serve streams tame
  exact (invariant preserved ⟨submitted, kept_submitted now⟩ (along_of_inputs tame _)).2

/-- **A stream that was closed has sent all there will be.** -/
theorem streams_complete (env : EvaluationEnv) (now : Instant) {actions : List EvaluationAction}
    (tame : ∀ action ∈ actions, leavesProcess action = false) :
    ∀ s ∈ (run (step env) (created now).submit actions).streams, s.stage = .closed →
      (run (step env) (created now).submit actions).task.phase = .over ∧
        ((run (step env) (created now).submit actions).db.run.isSome = true →
          s.sent = (run (step env) (created now).submit actions).db.events.drop s.fromSeq) := by
  intro s held closed
  have told := (kept_run env now tame).streams s held
  exact ⟨told.seen (.inr (.inr closed)), told.sent closed⟩

/-- A run of one turn, whose tools all succeed. -/
def oneTurn : EvaluationEnv where
  maxTurns := 1
  positive := Nat.one_pos
  timeoutSeconds := 60
  firstGoal := none
  draw _ _ _ := .success
  loads _ := none
  endsTest _ := false
  runGone := "gone"

/-- A run to its end, which is streamed from behind its first event. -/
def talked : List EvaluationAction :=
  [.server (.stream 1), .task .load, .task (.markRunning 1), .task .refresh, .task (.utter none 2), .task .statement,
    .task .statement, .task .statement, .task (.answer [] (some [.token "Hello."])), .task .statement,
    .task .statement, .task (.endTurn 3), .task .statement, .task (.judged "Good." 4)]

/-- The stream reads to the end as well. -/
def streamed : List EvaluationAction :=
  talked ++ [.server (.poll 0), .server (.rows 0), .server (.wake 0), .server (.poll 0), .server (.rows 0)]

/-- The stream of a run of one turn is closed behind its last event. -/
theorem streams_complete_talked :
    (run (step oneTurn) (created 0).submit streamed).streams.map (fun s => (s.stage, s.sent.map EventRow.seqNo)) =
        [(.closed, [2, 3, 4])] ∧
      ∀ s ∈ (run (step oneTurn) (created 0).submit streamed).streams, s.stage = .closed →
        (run (step oneTurn) (created 0).submit streamed).task.phase = .over ∧
          ((run (step oneTurn) (created 0).submit streamed).db.run.isSome = true →
            s.sent = (run (step oneTurn) (created 0).submit streamed).db.events.drop s.fromSeq) :=
  ⟨by decide, streams_complete oneTurn 0 (by decide)⟩

/-- What does not change any more. -/
structure Ended (before : RunTables) (e : EvaluationRun) : Prop where
  passed : e.task.phase = .over
  same : ∀ row, e.db.run = some row → row.status.active = false ∧ e.db.events = before.events ∧
    e.db.judgments = before.judgments

/-- What the server does behind the end leaves the run ended. -/
theorem Ended.serves {before : RunTables} (ended : Ended before e) {e' : EvaluationRun} (served : Serves e e') :
    Ended before e' := by
  obtain ⟨passed, same⟩ := ended
  cases served with
  | idle => exact ⟨passed, same⟩
  | submitted waits =>
      rw [passed] at waits
      cases waits
  | requested requests => exact ⟨passed, same⟩
  | killed requests => exact ⟨rfl, same⟩
  | erased empty requests => exact ⟨passed, fun row is => by cases is⟩
  | rewritten requests f ends =>
      refine ⟨passed, fun row' is => ?_⟩
      obtain ⟨row, found, rfl⟩ := Option.map_eq_some_iff.1 is
      refine ⟨?_, (same row found).2⟩
      rcases ends row with cancelled | failed
      · rw [cancelled]
        rfl
      · rw [failed]
        rfl
  | restarted task is =>
      refine ⟨?_, same⟩
      rcases is with rfl | rfl
      · exact passed
      · rfl
  | streamed streams moved => exact ⟨passed, same⟩

/-- **A step leaves the run ended.** -/
theorem Ended.step {before : RunTables} (ended : Ended before e) (env : EvaluationEnv) (action : EvaluationAction) :
    Ended before (e.step env action) := by
  cases action with
  | task action =>
      unfold EvaluationRun.step
      dsimp only
      rw [RunTask.step_over ended.passed]
      exact ended
  | server action => exact ended.serves (EvaluationRun.serves e action)

/-- **A run that has ended has done so for good**: nobody takes it up again, and its events stay as they are. -/
theorem ended_for_good (env : EvaluationEnv) (now : Instant) {actions : List EvaluationAction}
    (tame : ∀ action ∈ actions, leavesProcess action = false) (more : List EvaluationAction) {row : RunRow}
    (found : (run (step env) (created now).submit actions).db.run = some row) (inactive : row.status.active = false) :
    let e := run (step env) (created now).submit actions
    let e' := run (step env) e more
    e'.task.phase = .over ∧ ∀ row', e'.db.run = some row' →
      row'.status.active = false ∧ e'.db.events = e.db.events ∧ e'.db.judgments = e.db.judgments := by
  intro e e'
  have passed : e.task.phase = .over := (kept_run env now tame).ended row found inactive
  have began : Ended e.db e := by
    refine ⟨passed, fun row' is => ⟨?_, rfl, rfl⟩⟩
    rw [found] at is
    cases is
    exact inactive
  have last : Ended e.db e' := invariant_of_step (fun _ action ended => ended.step env action) began more
  exact ⟨last.passed, last.same⟩

/-- A run that was completed can neither be cancelled nor be submitted again. -/
theorem ended_for_good_talked :
    (run (step oneTurn) (run (step oneTurn) (created 0).submit talked) [.server .cancel, .server .submit]).task.phase =
        .over ∧
      ∀ row', (run (step oneTurn) (run (step oneTurn) (created 0).submit talked)
          [.server .cancel, .server .submit]).db.run = some row' → row'.status.active = false ∧
        (run (step oneTurn) (run (step oneTurn) (created 0).submit talked)
          [.server .cancel, .server .submit]).db.events = (run (step oneTurn) (created 0).submit talked).db.events ∧
        (run (step oneTurn) (run (step oneTurn) (created 0).submit talked)
          [.server .cancel, .server .submit]).db.judgments =
            (run (step oneTurn) (created 0).submit talked).db.judgments :=
  ended_for_good oneTurn 0 (by decide) [.server .cancel, .server .submit]
    (show (run (step oneTurn) (created 0).submit talked).db.run =
      some ⟨.completed, 0, some 1, some 4, some "Good."⟩ by decide) rfl

end EvaluationRun

end Feros
