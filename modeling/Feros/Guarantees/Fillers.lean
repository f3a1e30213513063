import Mathlib.Data.List.Perm.Basic
import Feros.Agent.Calls
import Feros.Library.Recorder
/-! # Fillers

While a tool with side effects runs, the user may hear a filler sentence.  `Origins` records, beside the
backend, in which turn and on which LLM stream a filler or a tool was spawned, and what every token that
`recv` delivers is: a token of a stream, or a filler.

`fillers_confined` says in which runs every token is one of the turn it is delivered in. -/

namespace Feros

open Run Suspension

/-! ## Where tokens come from -/

/-- The event is a token. -/
def AgentEvent.isToken : AgentEvent → Bool
  | .token _ => true
  | _ => false

/-- **An LLM stream**: its number, and the turn it belongs to. -/
structure Stamp where
  turn : ℕ
  stream : ℕ
  deriving DecidableEq, Repr

/-- **What a delivered token is.** -/
inductive TokenSource where
  /-- A token of the stream that was opened at this stamp. -/
  | stream (opened : Stamp)
  /-- The filler that was spawned at this stamp; `running` if a tool spawned there is not finished. -/
  | filler (spawned : Stamp) (running : Bool)
  /-- An event that was buffered. -/
  | buffer
  deriving DecidableEq, Repr

/-- The token belongs to the turn, and a filler comes while a tool is waited for. -/
def TokenSource.BelongsTo (turn : ℕ) : TokenSource → Prop
  | .stream opened => opened.turn = turn
  | .filler spawned running => spawned.turn = turn ∧ running = true
  | .buffer => False

instance (turn : ℕ) (source : TokenSource) : Decidable (source.BelongsTo turn) :=
  match source with
  | .stream _ => inferInstanceAs (Decidable (_ = _))
  | .filler _ _ => inferInstanceAs (Decidable (_ ∧ _))
  | .buffer => inferInstanceAs (Decidable False)

/-- **What is recorded beside a backend.** -/
structure Origins where
  /-- The last stream that was opened. -/
  stream : Stamp
  /-- Where the last filler was spawned. -/
  filler : Stamp
  /-- Where the running tools were spawned, in their order. -/
  tools : List Stamp
  /-- The tokens delivered so far, and the turns they were delivered in. -/
  tokens : List (ℕ × TokenSource)

namespace Origins

/-- A tool that finishes is not running any more. -/
def background (b : DefaultAgentBackend) (o : Origins) : Background → Origins
  | .toolDone i _ _ => if i < b.toolTasks.length then { o with tools := o.tools.eraseIdx i } else o
  | .summaryDone _ _ => o

/-- The next stream is opened, in the turn of the backend. -/
def opened (b : DefaultAgentBackend) (o : Origins) : Origins :=
  { o with stream := ⟨b.turn, o.stream.stream + 1⟩ }

/-- What is spawned between `b` and `t` is spawned on the last stream, in the turn of the backend. -/
def spawned (b t : DefaultAgentBackend) (o : Origins) : Origins :=
  { o with
    filler := if b.fillerTask.isNone && t.fillerTask.isSome then ⟨b.turn, o.stream.stream⟩ else o.filler
    tools := if b.toolTasks.length < t.toolTasks.length then o.tools ++ [⟨b.turn, o.stream.stream⟩] else o.tools }

/-- Nobody waits for the tools any more. -/
def cancelled (o : Origins) : Origins := { o with tools := [] }

/-- A token that is delivered is recorded. -/
def delivered (turn : ℕ) (source : TokenSource) (status : RecvStatus) (o : Origins) : Origins :=
  match status with
  | .ready (some (.token _)) => { o with tokens := o.tokens ++ [(turn, source)] }
  | _ => o

/-- What is delivered on a wake. -/
def source (o : Origins) : RecvPoint → Wake → TokenSource
  | .stream, .llm (some _) _ => .stream o.stream
  | .tools _, .filler _ => .filler o.filler (o.tools.contains o.filler)
  | _, _ => .buffer

/-- What an item of the stream changes. -/
def read (b t : DefaultAgentBackend) (o : Origins) : InnerLlmEvent → Origins
  | .toolCall _ => o.spawned b t
  | .error _ => o.cancelled
  | _ => o

/-- What a wake changes. -/
def woken (b : DefaultAgentBackend) (o : Origins) (point : RecvPoint) (wake : Wake) (t : DefaultAgentBackend) :
    Origins :=
  match point, wake with
  | _, .background event => o.background b event
  | .stream, .llm (some item) _ => o.read b t item
  | .startStream _, .streamStarted (.ok _) => o.opened b
  | _, _ => o

/-- **The recorder of `recv`.** -/
def recorder : Recorder DefaultAgentBackend Origins RecvPoint Wake (Option AgentEvent) where
  entered b o result := o.delivered b.turn .buffer result.2
  resumed b o point wake result := (o.woken b point wake result.1).delivered b.turn (o.source point wake) result.2

end Origins

/-- **A backend and the origins of its tokens.** -/
abbrev Sourced := DefaultAgentBackend × Origins

namespace Sourced

/-- A new backend, with nothing recorded. -/
def start (b : DefaultAgentBackend) : Sourced := (b, ⟨⟨0, 0⟩, ⟨0, 0⟩, [], []⟩)

/-- Something goes on in the background. -/
def background (s : Sourced) (event : Background) : Sourced := (s.1.background event, s.2.background s.1 event)

/-- **One call**, recorded. -/
def step (s : Sourced) : AgentCall → Sourced
  | .startTurn reply =>
    let o := (reply.background.foldl background s).2
    match s.1.startTurn reply with
    | (.ok _, b) => (b, o.opened b)
    | (.error _, b) => (b, o)
  | .recv wakes => ((DefaultAgentBackend.recvCall.recorded Origins.recorder).drive wakes s).1
  | .cancel => (s.1.cancel.2, s.2.cancelled)
  | .background event => s.background event
  | call => (s.1.step call, s.2)

/-- The record changes nothing. -/
theorem step_fst (s : Sourced) (call : AgentCall) : (s.step call).1 = s.1.step call := by
  cases call with
  | startTurn reply =>
      unfold step DefaultAgentBackend.step
      dsimp only
      rcases s.1.startTurn reply with ⟨message | _, b⟩
      · rfl
      · rfl
  | recv wakes =>
      have same := DefaultAgentBackend.recvCall.drive_recorded Origins.recorder wakes s
      unfold step DefaultAgentBackend.step DefaultAgentBackend.recv
      dsimp only
      rw [← same]
      rcases (DefaultAgentBackend.recvCall.recorded Origins.recorder).drive wakes s with ⟨t, event | point⟩
      · rfl
      · rfl
  | setSystemPrompt | addUserMessage | addAssistantMessage | cancel | background => rfl

/-- The backend of a run with its record is the one that runs without. -/
theorem run_fst (s : Sourced) (calls : List AgentCall) :
    (run step s calls).1 = run DefaultAgentBackend.step s.1 calls := by
  induction calls generalizing s with
  | nil => rfl
  | cons call calls ih => rw [run_cons, run_cons, ih, step_fst]

/-- **Every token belongs to the turn it is delivered in.** -/
def Confined (s : Sourced) : Prop := ∀ token ∈ s.2.tokens, token.2.BelongsTo token.1

instance (s : Sourced) : Decidable s.Confined := inferInstanceAs (Decidable (∀ token ∈ _, _))

end Sourced

/-! ## What keeps fillers in their turn -/

namespace DefaultAgentBackend

/-- A turn that is started now gets no stream. -/
def refuses (b : DefaultAgentBackend) (reply : TurnReply) : Bool :=
  match b.resolveLlmCallParams, reply.stream with
  | .ok _, .ok _ => false
  | _, _ => true

/-- A filler is taken only while a result is missing in the channel. -/
def Timely (b : DefaultAgentBackend) : RecvPoint → Wake → Prop
  | .tools (some _), .filler (some _) => b.toolResults.length < b.toolsRemaining
  | _, _ => True

instance (b : DefaultAgentBackend) (point : RecvPoint) (wake : Wake) : Decidable (b.Timely point wake) :=
  match point, wake with
  | .tools (some _), .filler (some _) => inferInstanceAs (Decidable (_ < _))
  | .tools (some _), .filler none | .tools (some _), .background _ | .tools (some _), .llm _ _
  | .tools (some _), .toolResult | .tools (some _), .transformed _ | .tools (some _), .streamStarted _
  | .tools none, _ | .stream, _ | .transform _, _ | .startStream _, _ | .spinning, _ =>
    inferInstanceAs (Decidable True)

/-- **The call keeps fillers in their turn**: no turn is started while a filler is in its slot, or over an open
stream if it gets no stream of its own; and no filler is taken when there are results for all tools. -/
def KeepsFillers (b : DefaultAgentBackend) : AgentCall → Prop
  | .startTurn reply => b.fillerTask = none ∧
      (b.phase = .streaming → b.llmEventRx = true → b.refuses reply = false)
  | .recv wakes => recvCall.Along Timely wakes b
  | _ => True

instance (b : DefaultAgentBackend) (call : AgentCall) : Decidable (b.KeepsFillers call) :=
  match call with
  | .startTurn _ => inferInstanceAs (Decidable (_ ∧ _))
  | .recv wakes => inferInstanceAs (Decidable (recvCall.Along Timely wakes b))
  | .setSystemPrompt _ | .addUserMessage _ | .addAssistantMessage _ | .cancel | .background _ =>
    inferInstanceAs (Decidable True)

end DefaultAgentBackend

namespace Sourced

/-- **The last stream is that of the turn**: each of its tools is running or has left a result, and a filler in
the slot was spawned on it. -/
structure InStream (s : Sourced) : Prop where
  turn : s.2.stream.turn = s.1.turn
  batch : s.1.toolsRemaining ≤ s.2.tools.count s.2.stream + s.1.toolResults.length
  filler : s.1.fillerTask.isSome = true → s.2.filler = s.2.stream

/-- **The invariant** between calls. -/
structure Kept (s : Sourced) : Prop where
  confined : s.Confined
  mute : ∀ event ∈ s.1.eventBuffer, event.isToken = false
  free : s.1.phase = .waitingForTools → s.1.fillerTask = none
  reads : s.1.phase = .streaming → s.1.llmEventRx = true → s.InStream

/-- **The invariant where `recv` waits.** -/
structure KeptAt (s : Sourced) (point : RecvPoint) : Prop where
  kept : s.Kept
  stream : point = .stream → s.1.phase = .streaming ∧ s.1.llmEventRx = true
  waits : point ≠ .stream → point ≠ .spinning → s.1.phase = .waitingForTools
  filler : ∀ task, point = .tools (some task) → s.InStream ∧ s.2.filler = s.2.stream
  alone : ∀ event, point = .startStream event → s.1.toolsRemaining = 0 ∧ event.isToken = false

variable {s : Sourced}

/-! ## The record -/

/-- What is no token is not recorded. -/
theorem delivered_eq {turn : ℕ} {source : TokenSource} {status : RecvStatus} {o : Origins}
    (other : ∀ event, status = .ready (some event) → event.isToken = false) :
    o.delivered turn source status = o := by
  unfold Origins.delivered
  split
  · cases other _ rfl
  · rfl

/-- A token that belongs to its turn is recorded. -/
theorem confined_delivered (confined : s.Confined) {turn : ℕ} {source : TokenSource} (status : RecvStatus)
    (belongs : source.BelongsTo turn) : Confined (s.1, s.2.delivered turn source status) := by
  unfold Origins.delivered
  split
  · intro token held
    rcases List.mem_append.1 held with before | new
    · exact confined token before
    · rw [List.mem_singleton.1 new]
      exact belongs
  · exact confined

/-- One more event is buffered, and it is no token. -/
theorem mute_concat {events : List AgentEvent} {last : AgentEvent}
    (mute : ∀ event ∈ events, event.isToken = false) (other : last.isToken = false) :
    ∀ event ∈ events ++ [last], event.isToken = false := by
  intro event held
  rcases List.mem_append.1 held with before | new
  · exact mute event before
  · rw [List.mem_singleton.1 new]
    exact other

/-! ## Steps -/

/-- What one erased element takes away. -/
theorem count_le_eraseIdx {α : Type*} [BEq α] [LawfulBEq α] (l : List α) (i : ℕ) (a : α) :
    l.count a ≤ (l.eraseIdx i).count a + 1 := by
  rcases Nat.lt_or_ge i l.length with known | outside
  · rw [← (List.getElem_cons_eraseIdx_perm known).count_eq a, List.count_cons]
    split
    · rfl
    · exact Nat.le_succ _
  · rw [List.eraseIdx_of_length_le outside]
    exact Nat.le_succ _

/-- The background does not change what is read. -/
theorem inStream_background (reads : s.InStream) (event : Background) : (s.background event).InStream := by
  unfold background
  cases event with
  | summaryDone i summary => exact ⟨reads.turn, reads.batch, reads.filler⟩
  | toolDone i success result =>
      unfold DefaultAgentBackend.background Origins.background
      dsimp only
      cases found : s.1.toolTasks[i]? with
      | none =>
          rw [if_neg (not_lt.2 (List.getElem?_eq_none_iff.1 found))]
          exact reads
      | some task =>
          -- It leaves a result, which makes up for it.
          obtain ⟨known, -⟩ := List.getElem?_eq_some_iff.1 found
          rw [if_pos known]
          refine ⟨reads.turn, ?_, reads.filler⟩
          have batch := reads.batch
          have fewer := count_le_eraseIdx s.2.tools i s.2.stream
          simp only [List.length_append, List.length_singleton]
          omega

/-- The background records nothing. -/
theorem origins_background (s : Sourced) (event : Background) : (s.background event).2.tokens = s.2.tokens ∧
    (s.background event).2.filler = s.2.filler ∧ (s.background event).2.stream = s.2.stream := by
  unfold background Origins.background
  cases event with
  | summaryDone i summary => exact ⟨rfl, rfl, rfl⟩
  | toolDone i success result =>
      dsimp only
      split
      · exact ⟨rfl, rfl, rfl⟩
      · exact ⟨rfl, rfl, rfl⟩

/-- The background keeps fillers in their turn while a call waits. -/
theorem keptAt_background {point : RecvPoint} (at_ : s.KeptAt point) (event : Background) :
    (s.background event).KeptAt point := by
  obtain ⟨tasks, results, summarizer, happened⟩ := DefaultAgentBackend.background_eq s.1 event
  obtain ⟨tokens, filler, stream⟩ := origins_background s event
  have same : (s.background event).1 = { s.1 with
      toolTasks := tasks, toolResults := results, contextSummarizer := summarizer } := happened
  refine ⟨⟨?_, ?_, ?_, ?_⟩, ?_, ?_, ?_, ?_⟩
  · unfold Confined
    rw [tokens]
    exact at_.kept.confined
  · rw [same]
    exact at_.kept.mute
  · rw [same]
    exact at_.kept.free
  · intro phase open_
    rw [same] at phase open_
    exact inStream_background (at_.kept.reads phase open_) event
  · rw [same]
    exact at_.stream
  · rw [same]
    exact at_.waits
  · intro task is
    obtain ⟨reads, spawned⟩ := at_.filler task is
    refine ⟨inStream_background reads event, ?_⟩
    rw [filler, stream]
    exact spawned
  · rw [same]
    exact at_.alone

/-- Where `recv` loops, only the invariant is left. -/
theorem keptAt_spinning (kept : s.Kept) : s.KeptAt .spinning :=
  ⟨kept, nofun, fun _ other => absurd rfl other, nofun, nofun⟩

/-- The background keeps fillers in their turn. -/
theorem kept_background (kept : s.Kept) (event : Background) : (s.background event).Kept :=
  (keptAt_background (keptAt_spinning kept) event).kept

/-- The invariant after a part of `recv`. -/
abbrev KeptAfter : Sourced × RecvStatus → Prop := Holds KeptAt fun s _ => s.Kept

/-- **A call that is entered keeps fillers in their turn.** -/
theorem keptAt_enter (s : Sourced) (kept : s.Kept) :
    KeptAfter ((DefaultAgentBackend.recvCall.recorded Origins.recorder).enter s) := by
  rw [Call.recorded_enter]
  show KeptAfter ((s.1.enter.1, s.2.delivered s.1.turn .buffer s.1.enter.2), s.1.enter.2)
  unfold DefaultAgentBackend.enter
  cases buffered : s.1.eventBuffer with
  | cons event rest =>
      have mute := kept.mute
      rw [buffered] at mute
      have other : ∀ e, (Status.ready (some event) : RecvStatus) = .ready (some e) → e.isToken = false := by
        intro e is
        cases is
        exact mute event List.mem_cons_self
      dsimp only
      rw [delivered_eq other]
      exact ⟨kept.confined, fun e held => mute e (List.mem_cons_of_mem _ held), kept.free,
        fun phase open_ => ⟨(kept.reads phase open_).turn, (kept.reads phase open_).batch,
          (kept.reads phase open_).filler⟩⟩
  | nil =>
      unfold DefaultAgentBackend.enterPhase
      dsimp only
      cases phase : s.1.phase with
      | idle => exact kept
      | streaming =>
          cases open_ : s.1.llmEventRx with
          | true => exact ⟨kept, fun _ => ⟨phase, open_⟩, fun other => absurd rfl other, nofun, nofun⟩
          | false => exact keptAt_spinning kept
      | waitingForTools =>
          have free := kept.free phase
          dsimp only
          rw [free]
          exact ⟨⟨kept.confined, kept.mute, fun _ => rfl, nofun⟩, nofun, fun _ _ => rfl, nofun, nofun⟩

/-- What is not spawned is not recorded. -/
theorem spawned_eq {b t : DefaultAgentBackend} (tasks : t.toolTasks = b.toolTasks)
    (filler : t.fillerTask = b.fillerTask) (o : Origins) : o.spawned b t = o := by
  unfold Origins.spawned
  rw [tasks, filler, if_neg (lt_irrefl _)]
  cases b.fillerTask with
  | none => rfl
  | some task => rfl

/-- A call that the backend answers itself spawns nothing. -/
theorem keptAt_intercepted (at_ : s.KeptAt .stream) {t : DefaultAgentBackend}
    (same : t = { s.1 with pendingHangUp := t.pendingHangUp, eventBuffer := t.eventBuffer })
    (mute : ∀ event ∈ t.eventBuffer, event.isToken = false) : KeptAt (t, s.2.spawned s.1 t) .stream := by
  obtain ⟨phase, open_⟩ := at_.stream rfl
  have reads := at_.kept.reads phase open_
  rw [spawned_eq (by rw [same]) (by rw [same])]
  have kept : Kept (t, s.2) := by
    refine ⟨at_.kept.confined, mute, ?_, fun _ _ => ⟨?_, ?_, ?_⟩⟩
    · rw [same]
      exact at_.kept.free
    · rw [same]
      exact reads.turn
    · rw [same]
      exact reads.batch
    · rw [same]
      exact reads.filler
  refine ⟨kept, fun _ => ?_, fun other => absurd rfl other, nofun, nofun⟩
  rw [same]
  exact ⟨phase, open_⟩

/-- **A tool of the stream** is spawned on it, and so is its filler. -/
theorem inStream_spawnTool (reads : s.InStream) (callId name arguments : String) (sideEffect : Bool) :
    InStream (s.1.spawnTool callId name arguments sideEffect,
      s.2.spawned s.1 (s.1.spawnTool callId name arguments sideEffect)) := by
  have here : (⟨s.1.turn, s.2.stream.stream⟩ : Stamp) = s.2.stream := by
    rw [← reads.turn]
  unfold Origins.spawned DefaultAgentBackend.spawnTool
  simp only [List.length_append, List.length_singleton, Nat.lt_succ_self, if_true, here]
  refine ⟨reads.turn, ?_, ?_⟩
  · have batch := reads.batch
    simp only [List.count_append, List.count_singleton_self]
    omega
  · intro taken
    cases slot : s.1.fillerTask with
    | none =>
        rw [slot] at taken
        dsimp only
        rw [taken]
        rfl
    | some task => exact reads.filler (by rw [slot]; rfl)

/-- An item of the stream belongs to the turn. -/
theorem keptAfter_item (at_ : s.KeptAt .stream) (item : InnerLlmEvent) (uuid : String) :
    KeptAfter ((DefaultAgentBackend.recvCall.recorded Origins.recorder).resume s .stream (.llm (some item) uuid)) := by
  obtain ⟨phase, open_⟩ := at_.stream rfl
  have reads := at_.kept.reads phase open_
  rw [Call.recorded_resume]
  cases item with
  | token text =>
      refine ⟨?_, at_.kept.mute, at_.kept.free, fun _ _ => ⟨reads.turn, reads.batch, reads.filler⟩⟩
      exact confined_delivered at_.kept.confined _ reads.turn
  | usage promptTokens completionTokens cachedInputTokens =>
      refine ⟨⟨at_.kept.confined, at_.kept.mute, at_.kept.free, fun _ _ => ?_⟩, fun _ => ⟨phase, open_⟩,
        fun other => absurd rfl other, nofun, nofun⟩
      exact ⟨reads.turn, reads.batch, reads.filler⟩
  | error message =>
      -- The turn is cancelled: its filler goes with it.
      obtain ⟨complete, metadata, cancelled⟩ := s.1.cancel_eq
      show Kept ((s.1.handleStreamItem (.error message) uuid).1, s.2.cancelled)
      unfold DefaultAgentBackend.handleStreamItem
      rw [cancelled]
      refine ⟨at_.kept.confined, ?_, nofun, nofun⟩
      intro event held
      have last := List.mem_of_getLast? (Option.mem_toList.1 held)
      rcases List.mem_append.1 last with before | report
      · exact at_.kept.mute event before
      · obtain ⟨data, rfl⟩ := metadata event report
        rfl
  | toolCall call =>
      show KeptAfter (((s.1.handleStreamItem (.toolCall call) uuid).1,
        (s.2.spawned s.1 (s.1.handleStreamItem (.toolCall call) uuid).1).delivered s.1.turn (.stream s.2.stream)
          (s.1.handleStreamItem (.toolCall call) uuid).2), (s.1.handleStreamItem (.toolCall call) uuid).2)
      unfold DefaultAgentBackend.handleStreamItem
      dsimp only
      by_cases hangUp : call.name = hangUpToolName
      · rw [if_pos hangUp]
        obtain ⟨pending, same⟩ : ∃ pending, s.1.handleHangUp call = { s.1 with pendingHangUp := pending } := by
          unfold DefaultAgentBackend.handleHangUp
          split
          · exact ⟨_, rfl⟩
          · exact ⟨_, rfl⟩
        rw [same]
        -- A hang-up starts no tool and no filler, and neither does a hold.
        exact keptAt_intercepted at_ rfl at_.kept.mute
      · rw [if_neg hangUp]
        by_cases onHold : call.name = onHoldToolName
        · rw [if_pos onHold]
          exact keptAt_intercepted at_ rfl (mute_concat at_.kept.mute rfl)
        · rw [if_neg onHold]
          -- A tool starts in the turn of the stream.
          have spawned := inStream_spawnTool reads (call.toolCallId.getD ("call_" ++ uuid)) call.name call.arguments
            (s.1.isSideEffect call.name)
          refine ⟨at_.kept.confined, at_.kept.mute, fun waiting => ?_, fun _ _ => ?_⟩
          · cases phase.symm.trans waiting
          · exact ⟨spawned.turn, spawned.batch, spawned.filler⟩

/-- **The stream closes**: the filler in the slot is raced with the tools of the stream. -/
theorem keptAfter_close (at_ : s.KeptAt .stream) (uuid : String) :
    KeptAfter ((DefaultAgentBackend.recvCall.recorded Origins.recorder).resume s .stream (.llm none uuid)) := by
  obtain ⟨phase, open_⟩ := at_.stream rfl
  have reads := at_.kept.reads phase open_
  obtain ⟨complete, metadata, closes⟩ := s.1.closeStream_cases
  have mute : ∀ event ∈ s.1.eventBuffer ++ complete, event.isToken = false := by
    intro event held
    rcases List.mem_append.1 held with before | report
    · exact at_.kept.mute event before
    · obtain ⟨data, rfl⟩ := metadata event report
      rfl
  rw [Call.recorded_resume]
  show KeptAfter ((s.1.closeStream.1, s.2.delivered s.1.turn .buffer s.1.closeStream.2), s.1.closeStream.2)
  rcases closes with ⟨-, ⟨pending, -, closed⟩ | ⟨-, closed⟩⟩ | ⟨waits, closed⟩
  · rw [closed]
    exact ⟨at_.kept.confined, mute, nofun, nofun⟩
  · rw [closed]
    exact ⟨at_.kept.confined, mute, nofun, nofun⟩
  · rw [closed]
    refine ⟨⟨at_.kept.confined, mute, fun _ => rfl, nofun⟩, nofun, fun _ _ => rfl, fun task taken => ?_, nofun⟩
    cases slot : s.1.fillerTask with
    | none =>
        rw [slot] at taken
        cases taken
    | some known =>
        refine ⟨⟨reads.turn, reads.batch, nofun⟩, reads.filler ?_⟩
        rw [slot]
        rfl

/-- A result enters the conversation. -/
theorem keptAfter_finishResult (kept : s.Kept) (waits : s.1.phase = .waitingForTools) (result : ToolTaskResult)
    (content : String) : KeptAfter (((s.1.finishResult result content).1, s.2), (s.1.finishResult result content).2) := by
  have free := kept.free waits
  rcases DefaultAgentBackend.finishResult_cases result content s.1 with
    ⟨-, eq⟩ | ⟨alone, ⟨pending, -, eq⟩ | ⟨-, -, eq⟩ | ⟨-, -, ⟨asked, requested, eq⟩ | ⟨message, -, eq⟩⟩⟩
  · rw [eq]
    refine ⟨kept.confined, kept.mute, fun _ => free, fun streaming => ?_⟩
    cases waits.symm.trans streaming
  · rw [eq]
    exact ⟨kept.confined, mute_concat kept.mute rfl, nofun, nofun⟩
  · rw [eq]
    exact ⟨kept.confined, mute_concat kept.mute rfl, nofun, nofun⟩
  · rw [eq]
    obtain ⟨_, _, _, _, -, rfl⟩ := DefaultAgentBackend.requestStream_eq requested
    refine ⟨⟨kept.confined, kept.mute, fun _ => free, fun streaming => ?_⟩, nofun, fun _ _ => waits, nofun,
      fun _ is => ⟨alone, ?_⟩⟩
    · cases waits.symm.trans streaming
    · cases is
      rfl
  · rw [eq]
    exact ⟨kept.confined, mute_concat kept.mute rfl, nofun, nofun⟩

/-- A result is taken from the channel. -/
theorem keptAfter_handleResult (kept : s.Kept) (waits : s.1.phase = .waitingForTools) (result : ToolTaskResult)
    (rest : List ToolTaskResult) :
    KeptAfter (((({ s.1 with toolResults := rest }).handleResult result).1, s.2),
      (({ s.1 with toolResults := rest }).handleResult result).2) := by
  have taken : Kept ({ s.1 with
      toolResults := rest, pendingToolInfo := s.1.pendingToolInfo.filter (·.1 != result.callId) }, s.2) := by
    refine ⟨kept.confined, kept.mute, kept.free, fun streaming => ?_⟩
    cases waits.symm.trans streaming
  unfold DefaultAgentBackend.handleResult
  dsimp only
  split
  · exact ⟨taken, nofun, fun _ _ => waits, nofun, nofun⟩
  · exact keptAfter_finishResult taken waits result result.result

/-- No token is delivered with a result. -/
theorem finishResult_other (b : DefaultAgentBackend) (result : ToolTaskResult) (content : String)
    (event : AgentEvent) (delivers : (b.finishResult result content).2 = .ready (some event)) :
    event.isToken = false := by
  rcases DefaultAgentBackend.finishResult_cases result content b with
    ⟨-, eq⟩ | ⟨-, ⟨pending, -, eq⟩ | ⟨-, -, eq⟩ | ⟨-, -, ⟨asked, -, eq⟩ | ⟨message, -, eq⟩⟩⟩
  · rw [eq] at delivers
    cases delivers
    rfl
  · rw [eq] at delivers
    cases delivers
    rfl
  · rw [eq] at delivers
    cases delivers
    rfl
  · rw [eq] at delivers
    cases delivers
  · rw [eq] at delivers
    cases delivers
    rfl

/-- A result is answered with no token. -/
theorem handleResult_other (b : DefaultAgentBackend) (result : ToolTaskResult) (event : AgentEvent)
    (delivers : (b.handleResult result).2 = .ready (some event)) : event.isToken = false := by
  unfold DefaultAgentBackend.handleResult at delivers
  dsimp only at delivers
  split at delivers
  · cases delivers
  · exact finishResult_other _ result result.result event delivers

/-- A result, if there is one, is taken; a filler is given up. -/
theorem keptAfter_toolResult {filler : Option FillerTask} (at_ : s.KeptAt (.tools filler)) :
    KeptAfter ((DefaultAgentBackend.recvCall.recorded Origins.recorder).resume s (.tools filler) .toolResult) := by
  rw [Call.recorded_resume]
  show KeptAfter (((DefaultAgentBackend.recvCall.resume s.1 (.tools filler) .toolResult).1,
    s.2.delivered s.1.turn .buffer (DefaultAgentBackend.recvCall.resume s.1 (.tools filler) .toolResult).2),
    (DefaultAgentBackend.recvCall.resume s.1 (.tools filler) .toolResult).2)
  rcases results : s.1.toolResults with - | ⟨result, rest⟩
  · have resumes : DefaultAgentBackend.recvCall.resume s.1 (.tools filler) .toolResult =
        (s.1, .pending (.tools filler)) := by
      cases filler with
      | none | some task =>
        dsimp only [DefaultAgentBackend.recvCall, DefaultAgentBackend.resume]
        rw [results]
    rw [resumes]
    exact at_
  · have resumes : DefaultAgentBackend.recvCall.resume s.1 (.tools filler) .toolResult =
        ({ s.1 with toolResults := rest }).handleResult result := by
      cases filler with
      | none | some task =>
        dsimp only [DefaultAgentBackend.recvCall, DefaultAgentBackend.resume]
        rw [results]
    rw [resumes, delivered_eq (handleResult_other _ result)]
    exact keptAfter_handleResult at_.kept (at_.waits nofun nofun) result rest

/-- **A stream is opened** in the turn of the backend, and nothing is spawned on it. -/
theorem kept_openStream (confined : s.Confined) (mute : ∀ event ∈ s.1.eventBuffer, event.isToken = false)
    (alone : s.1.toolsRemaining = 0) (free : s.1.fillerTask = none) :
    Kept ({ s.1.openStream with phase := .streaming }, s.2.opened s.1) := by
  obtain ⟨obs, opened⟩ := s.1.openStream_eq
  rw [opened]
  refine ⟨confined, mute, nofun, fun _ _ => ⟨rfl, ?_, fun taken => ?_⟩⟩
  · exact alone.le.trans (Nat.zero_le _)
  · rw [show s.1.fillerTask = none from free] at taken
    cases taken

/-- The stream of a turn is recorded whatever opened it. -/
theorem opened_openStream (o : Origins) (b : DefaultAgentBackend) :
    o.opened { b.openStream with phase := .streaming } = o.opened b := by
  obtain ⟨obs, opened⟩ := b.openStream_eq
  rw [opened]
  rfl

/-- **A call that is resumed keeps fillers in their turn.** -/
theorem keptAfter_resume (s : Sourced) (point : RecvPoint) (wake : Wake) (at_ : s.KeptAt point)
    (timely : s.1.Timely point wake) :
    KeptAfter ((DefaultAgentBackend.recvCall.recorded Origins.recorder).resume s point wake) := by
  cases point with
  | stream =>
      rcases wake with event | ⟨- | item, uuid⟩ | - | (- | text) | content | (message | -)
      -- The background, the end of the stream or an item of it; nothing else wakes this call.
      · exact keptAt_background at_ event
      · exact keptAfter_close at_ uuid
      · exact keptAfter_item at_ item uuid
      all_goals exact at_
  | tools filler =>
      have waits := at_.waits nofun nofun
      rcases wake with event | ⟨- | item, uuid⟩ | - | (- | text) | content | (message | -)
      -- A tool result ends the wait, a filler is spoken meanwhile.
      · exact keptAt_background at_ event
      · cases filler <;> exact at_
      · cases filler <;> exact at_
      · exact keptAfter_toolResult at_
      · cases filler with
        | none => exact at_
        | some task => exact ⟨at_.kept, nofun, fun _ _ => waits, nofun, nofun⟩
      · cases filler with
        | none => exact at_
        | some task =>
            obtain ⟨reads, spawned⟩ := at_.filler task rfl
            refine ⟨?_, at_.kept.mute, at_.kept.free, fun streaming => ?_⟩
            · refine confined_delivered at_.kept.confined _ ⟨?_, ?_⟩
              · rw [spawned]
                exact reads.turn
              · -- A result is missing in the channel, so a tool of the stream is running.
                rw [spawned, List.contains_iff_mem, ← List.count_pos_iff]
                have missing : s.1.toolResults.length < s.1.toolsRemaining := timely
                have batch := reads.batch
                omega
            · cases waits.symm.trans streaming
      all_goals cases filler <;> exact at_
  | transform result =>
      have waits := at_.waits nofun nofun
      rcases wake with event | ⟨- | item, uuid⟩ | - | (- | text) | content | (message | -)
      · exact keptAt_background at_ event
      · exact at_
      · exact at_
      · exact at_
      · exact at_
      · exact at_
      -- A transformed result is finished as if it had come so.
      · show KeptAfter (((s.1.finishResult result content).1,
          s.2.delivered s.1.turn .buffer (s.1.finishResult result content).2), (s.1.finishResult result content).2)
        rw [delivered_eq (finishResult_other s.1 result content)]
        exact keptAfter_finishResult at_.kept waits result content
      · exact at_
      · exact at_
  | startStream event =>
      have waits := at_.waits nofun nofun
      obtain ⟨alone, other⟩ := at_.alone event rfl
      have delivers : ∀ e, (Status.ready (some event) : RecvStatus) = .ready (some e) → e.isToken = false := by
        intro e is
        cases is
        exact other
      rcases wake with happened | ⟨- | item, uuid⟩ | - | (- | text) | content | (message | -)
      · exact keptAt_background at_ happened
      · exact at_
      · exact at_
      · exact at_
      · exact at_
      · exact at_
      · exact at_
      -- A stream that was refused reports an error, one that was started opens.
      · show Kept ({ s.1 with phase := .idle, eventBuffer := s.1.eventBuffer ++ [.error message] },
          s.2.delivered s.1.turn .buffer (.ready (some event)))
        rw [delivered_eq delivers]
        exact ⟨at_.kept.confined, mute_concat at_.kept.mute rfl, nofun, nofun⟩
      · show Kept ({ s.1.openStream with phase := .streaming },
          (s.2.opened s.1).delivered s.1.turn .buffer (.ready (some event)))
        rw [delivered_eq delivers]
        exact kept_openStream at_.kept.confined at_.kept.mute alone (at_.kept.free waits)
  | spinning =>
      rcases wake with event | ⟨- | item, uuid⟩ | - | (- | text) | content | (message | -)
      · exact keptAt_background at_ event
      all_goals exact at_

/-! ## Calls -/

/-- A call of `recv` keeps fillers in their turn. -/
theorem kept_recv (kept : s.Kept) {wakes : List Wake}
    (timely : DefaultAgentBackend.recvCall.Along DefaultAgentBackend.Timely wakes s.1) :
    (s.step (.recv wakes)).Kept := by
  have guarded := (DefaultAgentBackend.recvCall.along_recorded Origins.recorder _ wakes s).2 timely
  have driven := Call.drive_rule keptAt_enter keptAfter_resume kept guarded
  unfold step
  dsimp only
  rcases result : (DefaultAgentBackend.recvCall.recorded Origins.recorder).drive wakes s with ⟨t, event | point⟩
  · rw [result] at driven
    exact driven
  · rw [result] at driven
    exact driven.kept

/-- What a turn that is prepared leaves. -/
theorem prepared (s : Sourced) (reply : TurnReply) :
    (s.1.prepareTurn reply).eventBuffer = [] ∧ (s.1.prepareTurn reply).fillerTask = s.1.fillerTask ∧
      (s.1.prepareTurn reply).phase = s.1.phase ∧ (s.1.prepareTurn reply).llmEventRx = s.1.llmEventRx ∧
      (s.1.prepareTurn reply).toolsRemaining = 0 ∧
      (s.1.prepareTurn reply).resolveLlmCallParams = s.1.resolveLlmCallParams := by
  obtain ⟨conversation, summarizer, -, prepares⟩ := DefaultAgentBackend.prepareTurn_eq reply s.1
  obtain ⟨tasks, results, summarizer', happened⟩ := DefaultAgentBackend.backgrounds_eq s.1 reply.background
  rw [prepares, happened]
  exact ⟨rfl, rfl, rfl, rfl, rfl, rfl⟩

/-- A turn that gets no stream was refused one. -/
theorem refuses_of_error {reply : TurnReply} {message : String} (fails : (s.1.startTurn reply).1 = .error message) :
    s.1.refuses reply = true := by
  obtain ⟨-, -, -, -, -, resolved⟩ := prepared s reply
  unfold DefaultAgentBackend.refuses
  unfold DefaultAgentBackend.startTurn DefaultAgentBackend.requestStream at fails
  dsimp only at fails
  rw [resolved] at fails
  cases asked : s.1.resolveLlmCallParams with
  | error reason => rfl
  | ok params =>
      cases streams : reply.stream with
      | error reason => rfl
      | ok opened =>
          rw [asked, streams] at fails
          cases fails

/-- A turn that is refused keeps fillers in their turn. -/
theorem kept_refused {t : DefaultAgentBackend} {o : Origins} (confined : Confined (t, o)) (empty : t.eventBuffer = [])
    (free : t.fillerTask = none) (closed : t.phase = .streaming → t.llmEventRx = true → False) : Kept (t, o) := by
  refine ⟨confined, ?_, fun _ => free, fun streaming isOpen => (closed streaming isOpen).elim⟩
  show ∀ event ∈ t.eventBuffer, _
  rw [empty]
  exact nofun

/-- A turn that starts keeps fillers in their turn. -/
theorem kept_startTurn (kept : s.Kept) {reply : TurnReply} (free : s.1.fillerTask = none)
    (answered : s.1.phase = .streaming → s.1.llmEventRx = true → s.1.refuses reply = false) :
    (s.step (.startTurn reply)).Kept := by
  have keeps : ∀ (t : Sourced) (event : Background), t.Kept → (t.background event).Kept :=
    fun t event kept => kept_background kept event
  have confined : (reply.background.foldl background s).Confined :=
    (invariant_of_step keeps kept reply.background).confined
  obtain ⟨empty, filler, phase, open_, alone, -⟩ := prepared s reply
  have failed : ∀ message, (s.1.startTurn reply).1 = .error message →
      ¬ (s.1.phase = .streaming ∧ s.1.llmEventRx = true) := by
    rintro message fails ⟨streaming, isOpen⟩
    exact Bool.false_ne_true ((answered streaming isOpen).symm.trans (refuses_of_error fails))
  unfold step
  dsimp only
  rcases DefaultAgentBackend.startTurn_cases reply s.1 with ⟨⟨message, fails⟩, left⟩ |
    ⟨asked, requested, ⟨⟨message, fails⟩, left⟩ | ⟨starts, left⟩⟩
  · rw [show s.1.startTurn reply = (.error message, _) from Prod.ext fails left]
    exact kept_refused confined empty (filler.trans free) fun streaming isOpen =>
      failed message fails ⟨phase.symm.trans streaming, open_.symm.trans isOpen⟩
  · obtain ⟨_, _, _, _, -, rfl⟩ := DefaultAgentBackend.requestStream_eq requested
    rw [show s.1.startTurn reply = (.error message, _) from Prod.ext fails left]
    exact kept_refused (t := { s.1.prepareTurn reply with requests := _ }) confined empty (filler.trans free)
      fun streaming isOpen => failed message fails ⟨phase.symm.trans streaming, open_.symm.trans isOpen⟩
  · obtain ⟨_, _, _, _, -, same⟩ := DefaultAgentBackend.requestStream_eq requested
    rw [show s.1.startTurn reply = (.ok (), _) from Prod.ext starts left]
    have opens : ∀ o : Origins, Confined (asked, o) →
        Kept ({ asked.openStream with phase := .streaming }, o.opened asked) := by
      intro o confined
      refine kept_openStream (s := (asked, o)) confined ?_ ?_ ?_
      · rw [same]
        exact fun event held => absurd (empty ▸ held) List.not_mem_nil
      · rw [same]
        exact alone
      · rw [same]
        exact filler.trans free
    have kept := opens _ confined
    rw [← opened_openStream] at kept
    exact kept

/-- A cancelled turn leaves no filler. -/
theorem kept_cancel (kept : s.Kept) : (s.step .cancel).Kept := by
  obtain ⟨complete, -, cancelled⟩ := s.1.cancel_eq
  unfold step
  dsimp only
  rw [cancelled]
  exact ⟨kept.confined, nofun, nofun, nofun⟩

/-- **A call that keeps fillers in their turn keeps the invariant.** -/
theorem kept_step (s : Sourced) (call : AgentCall) (kept : s.Kept) (keeps : s.1.KeepsFillers call) :
    (s.step call).Kept := by
  cases call with
  | startTurn reply => exact kept_startTurn kept keeps.1 keeps.2
  | recv wakes => exact kept_recv kept keeps
  | cancel => exact kept_cancel kept
  | background event => exact kept_background kept event
  | setSystemPrompt | addUserMessage | addAssistantMessage =>
      refine ⟨kept.confined, kept.mute, kept.free, fun phase open_ => ?_⟩
      have reads := kept.reads phase open_
      exact ⟨reads.turn, reads.batch, reads.filler⟩

/-- **Fillers do not leak.**  In every run of calls on a new backend in which no turn is started while a filler
is in its slot, none is started over an open stream without getting one of its own, and no filler is taken when
there are results for all tools, every token is one of a stream of the turn it is delivered in, or the filler of
a tool of that turn, and then a tool of the same stream is running.  The backend that is recorded is the one that
runs without the record. -/
theorem fillers_confined (library : AgentLibrary) (agentGraph : Option AgentGraphDef) (config : AgentBackendConfig)
    {calls : List AgentCall}
    (keeps : Along step (fun s call => s.1.KeepsFillers call) (start (.new library agentGraph config)) calls) :
    (run step (start (.new library agentGraph config)) calls).Confined ∧
      (run step (start (.new library agentGraph config)) calls).1 =
        run DefaultAgentBackend.step (.new library agentGraph config) calls := by
  have fresh : (start (.new library agentGraph config)).Kept := ⟨nofun, nofun, nofun, nofun⟩
  exact ⟨(invariant kept_step fresh keeps).confined, run_fst _ calls⟩

/-- A graph with a tool that has side effects. -/
def bookingGraph : AgentGraphDef where
  entry := "desk"
  nodes := [("desk", ⟨"Book tables.", ["book", "look"], [], none, none, none⟩)]
  tools := [("book", ⟨"Book a table.", "", [], true⟩), ("look", ⟨"Look for a table.", "", [], false⟩)]
  timezone := none

/-- A backend that speaks fillers. -/
def desk : Sourced := start (.new DefaultAgentBackend.silentLibrary (some bookingGraph) { toolFiller := true })

/-- The stream calls a tool. -/
def calls (name id : String) : AgentCall := .recv [.llm (some (.toolCall ⟨name, "", some id, none⟩)) ""]

/-- A tool is slow, and the user hears a filler; then the answer. -/
def slowTool : List AgentCall :=
  [.startTurn ⟨[], .ok ()⟩, calls "book" "one", .recv [.llm none "", .filler (some "One moment.")], .recv [],
    .recv [.background (.toolDone 0 true "booked"), .toolResult, .streamStarted (.ok ())],
    .recv [.llm (some (.token "It is booked.")) ""]]

/-- The filler is spoken while the tool runs, and then the answer. -/
theorem fillers_confined_slowTool :
    (run step desk slowTool).Confined ∧
      (run step desk slowTool).2.tokens = [(1, .filler ⟨1, 1⟩ true), (1, .stream ⟨1, 2⟩)] := by
  constructor
  · exact (fillers_confined DefaultAgentBackend.silentLibrary (some bookingGraph) { toolFiller := true }
      (by decide +kernel)).1
  · decide +kernel

/-- The user barges in behind the call of a tool, and asks for something else. -/
def bargedIn : List AgentCall :=
  [.startTurn ⟨[], .ok ()⟩, calls "book" "one", .cancel, .startTurn ⟨[], .ok ()⟩, calls "look" "two",
    .recv [.llm none "", .filler (some "I am booking the table.")]]

/-- The tool is done before the filler is looked at. -/
def quickTool : List AgentCall :=
  [.startTurn ⟨[], .ok ()⟩, calls "book" "one",
    .recv [.llm none "", .background (.toolDone 0 true "booked"), .filler (some "One moment.")]]

/-- **Fillers leak**: that of a turn which was cancelled is spoken in the next one, and one is spoken when its
only tool has finished. -/
theorem fillers_leak :
    (run step desk bargedIn).2.tokens = [(2, .filler ⟨1, 1⟩ false)] ∧ ¬ (run step desk bargedIn).Confined ∧
      (run step desk quickTool).2.tokens = [(1, .filler ⟨1, 1⟩ false)] ∧ ¬ (run step desk quickTool).Confined := by
  decide +kernel

end Sourced

end Feros
