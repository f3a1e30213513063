import Feros.Agent.NativeBackend
import Feros.Library.Handover
import Feros.Library.Run
/-! # Dropping the native `recv`

The loop of a native session drops `recv` whenever microphone audio or the timer of a hang-up is ready
first.  A call that waits for the WebSocket holds something it has already taken: a tool result, a
hang-up, or a message of the server.  Nothing is lost exactly if no call is dropped there. -/

namespace Feros.NativeMultimodalBackend

open Run Suspension Handover

/-! ## The session around `recv` -/

/-- A backend whose session calls `recv`, and the events it got. -/
structure Session where
  backend : NativeMultimodalBackend
  /-- Where a call waits, if one does. -/
  waiting : Option NativePoint
  delivered : List NativeAgentEvent

namespace Session

/-- What happens in a session. -/
inductive Action where
  /-- Call `recv`. -/
  | poll
  /-- Something happens while the call waits. -/
  | wake (wake : NativeWake)
  /-- The call is dropped. -/
  | drop
  | pushAudio (pcm : List (BitVec 16)) (taken : Bool)
  | interrupt (taken : Bool)
  | reconnect
  /-- A tool task sends its result while no call waits. -/
  | toolDone (i : ℕ) (result : Json) (success : Bool)

/-- A call goes on. -/
def proceed (s : Session) : NativeMultimodalBackend × NativeStatus → Session
  | (b, .pending point) => { s with backend := b, waiting := some point }
  | (b, .ready event) => ⟨b, none, s.delivered ++ event.toList⟩

/-- **A step of a session**; it does nothing else while a call waits. -/
def step (s : Session) : Action → Session
  | .poll => if s.waiting.isSome then s else s.proceed (recvCall.enter s.backend)
  | .wake wake =>
    match s.waiting with
    | some point => s.proceed (recvCall.resume s.backend point wake)
    | none => s
  | .drop => { s with waiting := none }
  | .pushAudio pcm taken =>
    if s.waiting.isSome then s else { s with backend := s.backend.pushAudio pcm taken }
  | .interrupt taken =>
    if s.waiting.isSome then s else { s with backend := s.backend.interrupt taken }
  | .reconnect => if s.waiting.isSome then s else { s with backend := s.backend.connect }
  | .toolDone i result success =>
    if s.waiting.isSome then s else { s with backend := s.backend.toolDone i result success }

/-- A session that has just connected. -/
def start (library : ToolLibrary) (decode : String → Except String (List UInt8))
    (agentGraph : Option AgentGraphDef) (voiceId : String) : Session :=
  ⟨(NativeMultimodalBackend.new library decode agentGraph voiceId).connect, none, []⟩

end Session

/-! ## What a call holds -/

/-- The tool result a call holds. -/
def heldResult : Option NativePoint → List NativeToolResult
  | some (.toolResult result _) => [result]
  | _ => []

/-- The tool result a call holds, once it is sent. -/
def sentResult : Option NativePoint → List NativeToolResult
  | some (.toolResult result true) => [result]
  | _ => []

/-- The hang-up a call holds. -/
def heldHangUp : Option NativePoint → List String
  | some (.hangUp _ reason _) => [reason]
  | _ => []

/-- The message of the server a call holds. -/
def heldMessage : Option NativePoint → List ServerMessage
  | some (.trigger msg _ _) => [msg]
  | _ => []

/-- A message that tells the model a tool result. -/
def toolResponse? : ClientMessage × Bool → Option ClientMessage
  | (.toolResponse callId name result, _) =>
    if name = hangUpToolName then none else some (.toolResponse callId name result)
  | _ => none

/-- An event that a tool is done. -/
def completed? : NativeAgentEvent → Option NativeAgentEvent
  | .toolCallCompleted id name success => some (.toolCallCompleted id name success)
  | _ => none

/-- The reason in a hang-up event. -/
def hangUp? : NativeAgentEvent → Option String
  | .hangUp reason => some reason
  | _ => none

/-- **Nothing is lost**: the tool results that were produced were sent to the model and reported, in
their order and once each, are held by the call that waits, or are still in their channel; the
hang-ups were delivered or are held, and the messages were converted or are held. -/
structure Kept (b : NativeMultimodalBackend) (waiting : Option NativePoint)
    (delivered : List NativeAgentEvent) : Prop where
  results : ∃ done, Conserved b.produced done (heldResult waiting) b.toolResults ∧
    delivered.filterMap completed? = done.map NativeToolResult.completed ∧
    b.provider.sends.filterMap toolResponse? =
      (done ++ sentResult waiting).map NativeToolResult.response
  hangUps : Conserved b.hangUps (delivered.filterMap hangUp?) (heldHangUp waiting) []
  messages : Conserved b.provider.read b.provider.parsed (heldMessage waiting) []

/-- Nothing is lost in a session so far. -/
def Session.NothingLost (s : Session) : Prop := Kept s.backend s.waiting s.delivered

/-- Dropping a call here loses nothing. -/
def safe : NativePoint → Bool
  | .select | .pong _ _ => true
  | .trigger _ _ _ | .toolResult _ _ | .hangUp _ _ _ => false

/-- **The condition**: a call is dropped only where it holds nothing, by the session or, for a tool
result, by itself. -/
def Session.DropsNothing (s : Session) : Session.Action → Prop
  | .drop => ∀ point, s.waiting = some point → safe point = true
  | .wake .toolResult =>
    ∀ msg uuid taken, s.waiting = some (.trigger msg uuid taken) → s.backend.toolResults = []
  | _ => True

/-! ## What every step keeps -/

/-- **What is kept**, with what it rests on: `hang_up` never becomes a task, and the WebSocket stays. -/
structure Upheld (b : NativeMultimodalBackend) (waiting : Option NativePoint)
    (delivered : List NativeAgentEvent) : Prop where
  kept : Kept b waiting delivered
  tasks : ∀ task ∈ b.toolTasks, task.name ≠ hangUpToolName
  queue : ∀ result ∈ b.toolResults, result.toolName ≠ hangUpToolName
  held : ∀ result ∈ heldResult waiting, result.toolName ≠ hangUpToolName
  ws : b.provider.ws = true

/-- What a call leaves behind, whether it waits or has returned. -/
abbrev Leaves (delivered : List NativeAgentEvent) : NativeMultimodalBackend × NativeStatus → Prop :=
  Holds (fun b point => Upheld b (some point) delivered)
    fun b event => Upheld b none (delivered ++ event.toList)

section Steps

variable {b : NativeMultimodalBackend} {delivered : List NativeAgentEvent}

/-- An event is delivered that is neither a completion nor a hang-up. -/
theorem Upheld.deliver (upheld : Upheld b none delivered) {event : NativeAgentEvent}
    (incomplete : completed? event = none) (talks : hangUp? event = none) :
    Upheld b none (delivered ++ [event]) := by
  obtain ⟨⟨⟨done, results, reported, sent⟩, hangUps, messages⟩, tasks, queue, held, ws⟩ := upheld
  refine ⟨⟨⟨done, results, ?_, sent⟩, ?_, messages⟩, tasks, queue, held, ws⟩
  · rw [List.filterMap_append, reported, List.filterMap_cons_none incomplete, List.filterMap_nil,
      List.append_nil]
  · rw [List.filterMap_append, List.filterMap_cons_none talks, List.filterMap_nil, List.append_nil]
    exact hangUps

/-- Mapping an event upholds what was delivered. -/
theorem leaves_mapEvent (upheld : Upheld b none delivered) (event : RealtimeEvent) :
    Leaves delivered (b.mapEvent event) := by
  cases event with
  | botAudioChunk samples => exact upheld.deliver rfl rfl
  | inputTranscription text isFinal => exact upheld.deliver rfl rfl
  | outputTranscription text isFinal => exact upheld.deliver rfl rfl
  | turnComplete prompt completion => exact upheld.deliver rfl rfl
  | error message => exact upheld.deliver rfl rfl
  | toolCall callId name arguments =>
    by_cases isHangUp : name = hangUpToolName
    · have waits : b.mapEvent (.toolCall callId name arguments) =
          ({ b with hangUps := b.hangUps ++ [hangUpReason b.library arguments] },
            .pending (.hangUp callId (hangUpReason b.library arguments) false)) := by
        simp only [mapEvent, if_pos isHangUp, upheld.ws, if_true]
      rw [waits]
      exact ⟨⟨upheld.kept.results, upheld.kept.hangUps.makeHeld _, upheld.kept.messages⟩, upheld.tasks,
        upheld.queue, upheld.held, upheld.ws⟩
    · have dispatched : b.mapEvent (.toolCall callId name arguments) =
          b.dispatchTool callId name arguments := by
        simp only [mapEvent, if_neg isHangUp]
      rw [dispatched]
      have more : ∀ task ∈ b.toolTasks ++ [⟨callId, name, arguments⟩], task.name ≠ hangUpToolName := by
        intro task held
        rcases List.mem_append.1 held with held | held
        · exact upheld.tasks task held
        · rw [List.mem_singleton.1 held]
          exact isHangUp
      have spawned : Upheld { b with toolTasks := b.toolTasks ++ [⟨callId, name, arguments⟩] } none
          delivered :=
        ⟨⟨upheld.kept.results, upheld.kept.hangUps, upheld.kept.messages⟩, more, upheld.queue,
          upheld.held, upheld.ws⟩
      exact spawned.deliver rfl rfl

/-- Taking the next event upholds what was delivered. -/
theorem leaves_nextEvent (upheld : Upheld b none delivered) : Leaves delivered b.nextEvent := by
  unfold nextEvent
  split
  · refine leaves_mapEvent ?_ _
    exact ⟨⟨upheld.kept.results, upheld.kept.hangUps, upheld.kept.messages⟩, upheld.tasks,
      upheld.queue, upheld.held, upheld.ws⟩
  · exact ⟨⟨upheld.kept.results, upheld.kept.hangUps, upheld.kept.messages⟩, upheld.tasks,
      upheld.queue, upheld.held, upheld.ws⟩

/-- The message a call holds is converted. -/
theorem leaves_convert {msg : ServerMessage} {uuid : ℕ → String} {taken : Bool}
    (upheld : Upheld b (some (.trigger msg uuid taken)) delivered) :
    Leaves delivered (b.convert msg uuid) := by
  have same := b.provider.sameWire_parseServerMessage b.library b.decode uuid msg
  unfold convert
  dsimp only
  generalize b.provider.parseServerMessage b.library b.decode uuid msg = result at same
  refine leaves_nextEvent ?_
  obtain ⟨⟨results, hangUps, messages⟩, tasks, queue, held, ws⟩ := upheld
  refine ⟨⟨?_, hangUps, ?_⟩, tasks, queue, held, same.ws.trans ws⟩
  · rw [same.sends]
    exact results
  · rw [same.read, same.parsed]
    exact messages.pass

/-- **Handling a frame upholds what was delivered.** -/
theorem leaves_handleFrame (upheld : Upheld b none delivered) (frame : WsFrame)
    (uuid : ℕ → String) : Leaves delivered (b.handleFrame frame uuid) := by
  have failed : Leaves delivered b.transportError := by
    unfold transportError
    show Upheld _ none (delivered ++ [])
    rw [List.append_nil]
    exact ⟨⟨upheld.kept.results, upheld.kept.hangUps, upheld.kept.messages⟩, upheld.tasks,
      upheld.queue, upheld.held, upheld.ws⟩
  have waits (point : NativePoint) (free : safe point = true) :
      Leaves delivered (b, .pending point) := by
    obtain ⟨⟨results, hangUps, messages⟩, tasks, queue, held, ws⟩ := upheld
    cases point with
    | select => exact ⟨⟨results, hangUps, messages⟩, tasks, queue, held, ws⟩
    | pong => exact ⟨⟨results, hangUps, messages⟩, tasks, queue, held, ws⟩
    | trigger => cases free
    | toolResult => cases free
    | hangUp => cases free
  have open_ : (!b.provider.ws) = false := by rw [upheld.ws]; rfl
  unfold handleFrame
  rw [if_neg (by rw [open_]; exact Bool.false_ne_true)]
  cases frame with
  | message parsed =>
    cases parsed with
    | error reason => exact failed
    | ok msg =>
      have read : Upheld { b with provider := { b.provider with read := b.provider.read ++ [msg] } }
          (some (.trigger msg uuid false)) delivered :=
        ⟨⟨upheld.kept.results, upheld.kept.hangUps, upheld.kept.messages.makeHeld msg⟩, upheld.tasks,
          upheld.queue, upheld.held, upheld.ws⟩
      show Leaves delivered (b.readMessage msg uuid)
      unfold readMessage
      dsimp only
      split
      · exact read
      · exact leaves_convert read
  | ping payload => exact waits _ rfl
  | closed message => exact failed
  | ignored => exact waits _ rfl

/-- A tool result is taken while the call holds nothing. -/
theorem leaves_takeResult {point : NativePoint} (upheld : Upheld b (some point) delivered)
    (free : safe point = true ∨ b.toolResults = []) : Leaves delivered (b.takeResult point) := by
  obtain ⟨⟨⟨done, results, reported, sent⟩, hangUps, messages⟩, tasks, queue, held, ws⟩ := upheld
  unfold takeResult
  cases waiting : b.toolResults with
  | nil => exact ⟨⟨⟨done, results, reported, sent⟩, hangUps, messages⟩, tasks, queue, held, ws⟩
  | cons result rest =>
    have safe : safe point = true := by
      rcases free with free | none_
      · exact free
      · cases waiting.symm.trans none_
    dsimp only
    rw [if_pos ws]
    have mine := queue result (by rw [waiting]; exact List.mem_cons_self)
    have others : ∀ r ∈ rest, r.toolName ≠ hangUpToolName :=
      fun r inRest => queue r (by rw [waiting]; exact List.mem_cons_of_mem _ inRest)
    rw [waiting] at results
    have one : ∀ r ∈ [result], r.toolName ≠ hangUpToolName := by
      intro r held
      rw [List.mem_singleton.1 held]
      exact mine
    cases point with
    | select => exact ⟨⟨⟨done, results.take, reported, sent⟩, hangUps, messages⟩, tasks, others, one, ws⟩
    | pong => exact ⟨⟨⟨done, results.take, reported, sent⟩, hangUps, messages⟩, tasks, others, one, ws⟩
    | trigger => cases safe
    | toolResult => cases safe
    | hangUp => cases safe

/-- The message of a point is sent. -/
theorem upheld_sendAt {point : NativePoint} (upheld : Upheld b (some point) delivered)
    (untaken : isTaken point = false) (isSent : Bool) :
    Upheld (b.sendAt point isSent) (some (taken point)) delivered := by
  obtain ⟨⟨⟨done, results, reported, sent⟩, hangUps, messages⟩, tasks, queue, held, ws⟩ := upheld
  have more (m : ClientMessage) (other : toolResponse? (m, isSent) = none) :
      (b.provider.sends ++ [(m, isSent)]).filterMap toolResponse? = b.provider.sends.filterMap toolResponse? := by
    rw [List.filterMap_append, List.filterMap_cons_none other, List.filterMap_nil, List.append_nil]
  cases point with
  | select => exact ⟨⟨⟨done, results, reported, sent⟩, hangUps, messages⟩, tasks, queue, held, ws⟩
  | pong payload flag =>
    refine ⟨⟨⟨done, results, reported, ?_⟩, hangUps, messages⟩, tasks, queue, held, ws⟩
    exact (more _ rfl).trans sent
  | trigger msg uuid flag =>
    refine ⟨⟨⟨done, results, reported, ?_⟩, hangUps, messages⟩, tasks, queue, held, ws⟩
    exact (more _ rfl).trans sent
  | hangUp callId reason flag =>
    refine ⟨⟨⟨done, results, reported, ?_⟩, hangUps, messages⟩, tasks, queue, held, ws⟩
    have synthetic : toolResponse? (.toolResponse callId hangUpToolName
        (.obj [("result", .str "Hang up initiated.")]), isSent) = none := by
      unfold toolResponse?
      exact if_pos rfl
    exact (more _ synthetic).trans sent
  | toolResult result flag =>
    have flagged : flag = false := untaken
    subst flagged
    refine ⟨⟨⟨done, results, reported, ?_⟩, hangUps, messages⟩, tasks, queue, held, ws⟩
    have mine : toolResponse? (result.response, isSent) = some result.response :=
      if_neg (held result List.mem_cons_self)
    show (b.provider.sends ++ [(result.response, isSent)]).filterMap toolResponse? =
      (done ++ [result]).map NativeToolResult.response
    rw [List.filterMap_append, sent, List.filterMap_cons_some mine, List.filterMap_nil]
    show (done ++ []).map NativeToolResult.response ++ [result.response] = _
    rw [List.append_nil, List.map_append]
    rfl

/-- The call goes on when the message of its point is sent. -/
theorem leaves_afterSend {point : NativePoint} (upheld : Upheld b (some point) delivered)
    (isSent : isTaken point = true) : Leaves delivered (b.afterSend point) := by
  obtain ⟨⟨⟨done, results, reported, sent⟩, hangUps, messages⟩, tasks, queue, held, ws⟩ := upheld
  cases point with
  | select => cases isSent
  | pong payload flag => exact ⟨⟨⟨done, results, reported, sent⟩, hangUps, messages⟩, tasks, queue, held, ws⟩
  | trigger msg uuid flag =>
    exact leaves_convert
      ⟨⟨⟨done, results, reported, sent⟩, hangUps, messages⟩, tasks, queue, held, ws⟩
  | toolResult result flag =>
    have flagged : flag = true := isSent
    subst flagged
    refine ⟨⟨⟨done ++ [result], results.pass, ?_, ?_⟩, ?_, messages⟩, tasks, queue, ?_, ws⟩
    · show (delivered ++ [result.completed]).filterMap completed? = _
      rw [List.filterMap_append, reported, List.map_append]
      rfl
    · exact sent.trans (by rw [show sentResult none = [] from rfl, List.append_nil]; rfl)
    · show Conserved _ ((delivered ++ [result.completed]).filterMap hangUp?) [] []
      rw [List.filterMap_append]
      exact (List.append_nil (delivered.filterMap hangUp?)).symm ▸ hangUps
    · exact fun r inNone => absurd inNone List.not_mem_nil
  | hangUp callId reason flag =>
    refine ⟨⟨⟨done, results, ?_, sent⟩, ?_, messages⟩, tasks, queue, held, ws⟩
    · show (delivered ++ [NativeAgentEvent.hangUp reason]).filterMap completed? = _
      rw [List.filterMap_append, reported]
      exact List.append_nil _
    · show Conserved _ ((delivered ++ [NativeAgentEvent.hangUp reason]).filterMap hangUp?) [] []
      rw [List.filterMap_append]
      exact hangUps.pass

/-- A tool task sends its result. -/
theorem upheld_toolDone {waiting : Option NativePoint} (upheld : Upheld b waiting delivered) (i : ℕ)
    (result : Json) (success : Bool) : Upheld (b.toolDone i result success) waiting delivered := by
  unfold toolDone
  cases found : b.toolTasks[i]? with
  | none => exact upheld
  | some task =>
    obtain ⟨⟨⟨done, results, reported, sent⟩, hangUps, messages⟩, tasks, queue, held, ws⟩ := upheld
    refine ⟨⟨⟨done, results.make _, reported, sent⟩, hangUps, messages⟩, ?_, ?_, held, ws⟩
    · exact fun other inRest => tasks other (List.mem_of_mem_eraseIdx inRest)
    · intro r inQueue
      rcases List.mem_append.1 inQueue with inQueue | isNew
      · exact queue r inQueue
      · rw [List.mem_singleton.1 isNew]
        exact tasks task (List.mem_of_getElem? found)

/-- **One wake**: a call that waits holds on to what it has, unless its own `select!` drops it. -/
theorem leaves_resume {point : NativePoint} (upheld : Upheld b (some point) delivered)
    (wake : NativeWake)
    (free : ∀ msg uuid taken, wake = .toolResult → point = .trigger msg uuid taken →
      b.toolResults = []) : Leaves delivered (b.resume point wake) := by
  unfold resume
  cases wake with
  | toolDone i result success => exact upheld_toolDone upheld i result success
  | toolResult =>
    cases point with
    | select => exact leaves_takeResult upheld (.inl rfl)
    | pong payload flag => exact leaves_takeResult upheld (.inl rfl)
    | trigger msg uuid flag => exact leaves_takeResult upheld (.inr (free msg uuid flag rfl rfl))
    | toolResult result flag => exact upheld
    | hangUp callId reason flag => exact upheld
  | event =>
    cases point with
    | select => exact leaves_nextEvent ⟨⟨upheld.kept.results, upheld.kept.hangUps,
        upheld.kept.messages⟩, upheld.tasks, upheld.queue, upheld.held, upheld.ws⟩
    | pong => exact upheld
    | trigger => exact upheld
    | toolResult => exact upheld
    | hangUp => exact upheld
  | frame frame uuid =>
    cases point with
    | select =>
      dsimp only
      split
      · exact leaves_handleFrame ⟨⟨upheld.kept.results, upheld.kept.hangUps,
          upheld.kept.messages⟩, upheld.tasks, upheld.queue, upheld.held, upheld.ws⟩ frame uuid
      · exact upheld
    | pong => exact upheld
    | trigger => exact upheld
    | toolResult => exact upheld
    | hangUp => exact upheld
  | taken =>
    have sends : Leaves delivered (if isTaken point = true then (b, .pending point)
        else (b.sendAt point true, .pending (taken point))) := by
      cases flag : isTaken point with
      | true => exact upheld
      | false => exact upheld_sendAt upheld flag true
    cases point with
    | select => exact upheld
    | pong => exact sends
    | trigger => exact sends
    | toolResult => exact sends
    | hangUp => exact sends
  | flushed =>
    dsimp only
    split
    · rename_i flag
      exact leaves_afterSend upheld flag
    · exact upheld
  | failed =>
    have fails (waits : point ≠ .select) :
        Leaves delivered ((if isTaken point = true then b else b.sendAt point false).afterSend point) := by
      cases flag : isTaken point with
      | true => exact leaves_afterSend upheld flag
      | false =>
        have sent := upheld_sendAt upheld flag false
        have isSent : isTaken (taken point) = true := by
          cases point <;> first | rfl | exact absurd rfl waits
        have goesOn := leaves_afterSend sent isSent
        cases point <;> exact goesOn
    cases point with
    | select => exact upheld
    | pong => exact fails nofun
    | trigger => exact fails nofun
    | toolResult => exact fails nofun
    | hangUp => exact fails nofun

end Steps

namespace Session

/-! ## Runs of a session -/

/-- What a session keeps. -/
abbrev Keeps (s : Session) : Prop := Upheld s.backend s.waiting s.delivered

/-- A session that starts keeps what was delivered. -/
theorem keeps_start (library : ToolLibrary) (decode : String → Except String (List UInt8))
    (agentGraph : Option AgentGraphDef) (voiceId : String) :
    (start library decode agentGraph voiceId).Keeps := by
  have none_ {α : Type} {P : α → Prop} : ∀ a ∈ ([] : List α), P a :=
    fun a held => absurd held List.not_mem_nil
  exact ⟨⟨⟨[], .empty, rfl, rfl⟩, .empty, .empty⟩, none_, none_, none_, rfl⟩

/-- A session that proceeds keeps what was delivered. -/
theorem keeps_proceed {s : Session} {result : NativeMultimodalBackend × NativeStatus}
    (leaves : Leaves s.delivered result) : (s.proceed result).Keeps := by
  rcases result with ⟨b, event | point⟩
  · exact leaves
  · exact leaves

/-- The session does something with its backend while no call waits. -/
theorem keeps_idle {s : Session} (keeps : s.Keeps) {next : Session}
    (free : s.waiting = none → next.Keeps) : (if s.waiting.isSome then s else next).Keeps := by
  cases waits : s.waiting with
  | none => exact free waits
  | some point => exact keeps

/-- Sending something that is no tool result. -/
theorem upheld_send {b : NativeMultimodalBackend} {delivered : List NativeAgentEvent}
    (upheld : Upheld b none delivered) {message : ClientMessage} {taken : Bool}
    (other : toolResponse? (message, taken) = none) :
    Upheld { b with provider := b.provider.send message taken } none delivered := by
  obtain ⟨⟨⟨done, results, reported, sent⟩, hangUps, messages⟩, tasks, queue, held, ws⟩ := upheld
  refine ⟨⟨⟨done, results, reported, ?_⟩, hangUps, messages⟩, tasks, queue, held, ws⟩
  show (b.provider.sends ++ [(message, taken)]).filterMap toolResponse? = _
  rw [List.filterMap_append, List.filterMap_cons_none other, List.filterMap_nil, List.append_nil]
  exact sent

/-- **A step that drops nothing loses nothing.** -/
theorem keeps_step {s : Session} (keeps : s.Keeps) {action : Action}
    (careful : s.DropsNothing action) : (s.step action).Keeps := by
  cases action with
  | poll =>
    refine keeps_idle keeps fun idle => keeps_proceed ?_
    rw [Keeps, idle] at keeps
    exact ⟨⟨keeps.kept.results, keeps.kept.hangUps, keeps.kept.messages⟩, keeps.tasks, keeps.queue,
      keeps.held, keeps.ws⟩
  | wake wake =>
    unfold step
    cases waits : s.waiting with
    | none => exact keeps
    | some point =>
      refine keeps_proceed (leaves_resume ?_ wake ?_)
      · rw [← waits]
        exact keeps
      · rintro msg uuid taken rfl rfl
        exact careful msg uuid taken waits
  | drop =>
    cases waits : s.waiting with
    | none =>
      show Upheld s.backend none s.delivered
      rw [← waits]
      exact keeps
    | some point =>
      -- A call is only dropped where it has taken nothing.
      have free := careful point waits
      rw [Keeps, waits] at keeps
      obtain ⟨⟨results, hangUps, messages⟩, tasks, queue, held, ws⟩ := keeps
      cases point with
      | select => exact ⟨⟨results, hangUps, messages⟩, tasks, queue, held, ws⟩
      | pong => exact ⟨⟨results, hangUps, messages⟩, tasks, queue, held, ws⟩
      | trigger => cases free
      | toolResult => cases free
      | hangUp => cases free
  | pushAudio pcm taken =>
    refine keeps_idle keeps fun idle => ?_
    show Upheld (s.backend.pushAudio pcm taken) s.waiting s.delivered
    unfold pushAudio
    split
    · exact keeps
    · rw [idle]
      rw [Keeps, idle] at keeps
      exact upheld_send keeps rfl
  | interrupt taken =>
    refine keeps_idle keeps fun idle => ?_
    show Upheld (s.backend.interrupt taken) s.waiting s.delivered
    unfold interrupt
    split
    · exact keeps
    · rw [idle]
      rw [Keeps, idle] at keeps
      exact upheld_send keeps rfl
  | reconnect =>
    refine keeps_idle keeps fun idle => ?_
    show Upheld s.backend.connect s.waiting s.delivered
    rw [idle]
    rw [Keeps, idle] at keeps
    -- A reconnect sends its setup, which answers no tool.
    obtain ⟨⟨⟨done, results, reported, sent⟩, hangUps, messages⟩, tasks, queue, held, -⟩ := keeps
    refine ⟨⟨⟨done, results, reported, ?_⟩, hangUps, messages⟩, tasks, queue, held, rfl⟩
    show (s.backend.provider.sends ++ [_]).filterMap toolResponse? = _
    rw [List.filterMap_append]
    exact (List.append_nil _).trans sent
  | toolDone i result success =>
    exact keeps_idle keeps fun _ => upheld_toolDone keeps i result success

/-- What a call holds cannot be forgotten. -/
theorem not_kept_of_forgotten {b : NativeMultimodalBackend} {point : NativePoint}
    {delivered : List NativeAgentEvent} (kept : Kept b (some point) delivered)
    (holds : safe point = false) : ¬ Kept b none delivered := by
  rintro ⟨⟨done', results', reported', -⟩, hangUps', messages'⟩
  obtain ⟨⟨done, results, reported, -⟩, hangUps, messages⟩ := kept
  cases point with
  | select => cases holds
  | pong => cases holds
  | trigger msg uuid taken =>
    exact messages.not_forget (List.cons_ne_nil _ _) rfl messages'
  | toolResult result taken =>
    have same : done'.length = done.length := by
      have lengths := congrArg List.length (reported'.symm.trans reported)
      rwa [List.length_map, List.length_map] at lengths
    exact results.not_forget (List.cons_ne_nil _ _) same results'
  | hangUp callId reason taken =>
    exact hangUps.not_forget (List.cons_ne_nil _ _) rfl hangUps'

/-- **A step that drops something loses it.** -/
theorem not_kept_step {s : Session} (keeps : s.Keeps) {action : Action}
    (careless : ¬ s.DropsNothing action) : ¬ (s.step action).NothingLost := by
  cases action with
  | drop =>
    simp only [DropsNothing, not_forall, Bool.not_eq_true] at careless
    obtain ⟨point, waits, holds⟩ := careless
    rw [Keeps, waits] at keeps
    exact not_kept_of_forgotten keeps.kept holds
  | wake wake =>
    cases wake with
    | toolResult =>
      simp only [DropsNothing, not_forall] at careless
      obtain ⟨msg, uuid, taken, waits, available⟩ := careless
      rw [Keeps, waits] at keeps
      rintro ⟨-, -, messages⟩
      unfold step at messages
      rw [waits] at messages
      dsimp only [recvCall, resume, takeResult] at messages
      cases queue : s.backend.toolResults with
      | nil => exact available queue
      | cons result rest =>
        rw [queue] at messages
        dsimp only at messages
        rw [if_pos keeps.ws] at messages
        exact keeps.kept.messages.not_forget (List.cons_ne_nil _ _) rfl messages
    | event | frame | taken | flushed | failed | toolDone => exact absurd trivial careless
  | poll | pushAudio | interrupt | reconnect | toolDone => exact absurd trivial careless

/-- **Nothing is lost in a session exactly if no call is dropped that holds something.** -/
theorem native_recv_kept_iff (library : ToolLibrary) (decode : String → Except String (List UInt8))
    (agentGraph : Option AgentGraphDef) (voiceId : String) (actions : List Action) :
    let start := start library decode agentGraph voiceId
    (∀ front, front <+: actions → (run step start front).NothingLost) ↔
      Along step DropsNothing start actions := by
  have gives (s : Session) (keeps : s.Keeps) : s.NothingLost := keeps.kept
  exact good_iff_along gives (fun _ _ keeps careful => keeps_step keeps careful)
    (fun _ _ keeps careless => not_kept_step keeps careless)
    (keeps_start library decode agentGraph voiceId) actions

/-- A library that reads nothing. -/
def unread : ToolLibrary := ⟨fun _ => .error "no JSON", fun _ => "", fun _ _ => .ok ""⟩

/-- The model calls a tool, and the tool is done. -/
def called : List Action :=
  [.poll, .wake (.frame (.message (.ok { toolCall := some [⟨some "1", "lookup", .null⟩] })) fun _ => ""),
    .toolDone 0 .null true]

/-- **What is lost**: a tool result is taken from its channel, and the call is dropped before the
WebSocket takes the message, so it is neither sent nor reported; a hang-up is dropped while the model
is told, and the first message of the server while the model is asked to speak. -/
theorem recv_losses :
    let start := start unread (fun _ => .ok []) none "Charon"
    let hangUp : ServerMessage := { toolCall := some [⟨some "1", "hang_up", .null⟩] }
    let s := run step start (called ++ [.poll, .wake .toolResult, .drop])
    let t := run step start [.poll, .wake (.frame (.message (.ok hangUp)) fun _ => ""), .drop]
    let u := run step start
      [.poll, .wake (.frame (.message (.ok { setupComplete := true })) fun _ => ""), .drop]
    (s.backend.produced.map (·.callId) = ["1"] ∧ s.backend.toolResults.map (·.callId) = [] ∧
      s.waiting.isNone = true ∧ s.delivered = [.toolCallStarted "1" "lookup"] ∧
      (s.backend.provider.sends.filterMap toolResponse?).length = 0) ∧
    (t.backend.hangUps = ["agent_initiated"] ∧ t.waiting.isNone = true ∧ t.delivered = []) ∧
    (u.backend.provider.read.length = 1 ∧ u.waiting.isNone = true ∧
      u.backend.provider.parsed.length = 0) :=
  ⟨⟨rfl, rfl, rfl, rfl, rfl⟩, ⟨rfl, rfl, rfl⟩, rfl, rfl, rfl⟩

end Session

end Feros.NativeMultimodalBackend
