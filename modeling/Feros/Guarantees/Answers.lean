import Feros.Agent.Calls
import Feros.Agent.History
import Feros.Coordinator.Answers
/-! # The answers in the conversation

The backend appends the answer of a generation when its stream closes.  A suppressed answer is added
once more by the reactor.

* **`ended`** are the texts of the generations whose streams close while the backend is polled, and
  `recv_appends` says that just these enter the conversation.
* **`AnswerLog`** is the reactor with the texts that were generated and those that have entered. -/

namespace Feros

open Run Suspension

/-- The texts of the assistant messages of a conversation. -/
def assistantTexts (conversation : Conversation) : List String :=
  (conversation.filter fun m => m.role = .assistant).filterMap (·.content)

/-- The answers of two conversations are those of the first and of the second. -/
theorem assistantTexts_append (first second : Conversation) :
    assistantTexts (first ++ second) = assistantTexts first ++ assistantTexts second := by
  unfold assistantTexts
  rw [List.filter_append, List.filterMap_append]

/-- Where no message is the assistant's there is no answer. -/
theorem assistantTexts_of_ne {conversation : Conversation}
    (others : ∀ m ∈ conversation, m.role ≠ .assistant) : assistantTexts conversation = [] := by
  have none : conversation.filter (fun m => m.role = .assistant) = [] := by
    rw [List.filter_eq_nil_iff]
    intro m held
    simpa using others m held
  rw [assistantTexts, none]
  rfl

/-! ## The backend -/

namespace DefaultAgentBackend

/-- The text of the generation whose stream a wake closes, if it has one. -/
def closedText (b : DefaultAgentBackend) (point : RecvPoint) (wake : Wake) : Option String :=
  match point, wake with
  | .stream, .llm none _ => b.generatedText
  | _, _ => none

/-- The texts of the generations whose streams close while a call of `recv` waits. -/
def endedFrom (b : DefaultAgentBackend) (point : RecvPoint) : List Wake → List String
  | [] => []
  | wake :: wakes =>
    (b.closedText point wake).toList ++
      match b.resume point wake with
      | (b, .pending point) => endedFrom b point wakes
      | (_, .ready _) => []

/-- **The texts of the generations whose streams close in a call of `recv`.** -/
def ended (wakes : List Wake) (b : DefaultAgentBackend) : List String :=
  match b.enter with
  | (b, .pending point) => b.endedFrom point wakes
  | (_, .ready _) => []

/-- The conversation has grown by messages with these assistant texts. -/
def Grown (b : DefaultAgentBackend) (texts : List String) (t : DefaultAgentBackend) : Prop :=
  ∃ added, t.conversation = b.conversation ++ added ∧ assistantTexts added = texts

variable {b t u : DefaultAgentBackend} {texts more : List String}

/-- The same conversation has grown by nothing. -/
theorem grown_of_eq (same : t.conversation = b.conversation) : b.Grown [] t :=
  ⟨[], by rw [same, List.append_nil], rfl⟩

/-- **What grows twice grows by both texts.** -/
theorem Grown.trans (first : b.Grown texts t) (second : t.Grown more u) : b.Grown (texts ++ more) u := by
  obtain ⟨added, same, rfl⟩ := first
  obtain ⟨added', same', rfl⟩ := second
  refine ⟨added ++ added', ?_, assistantTexts_append added added'⟩
  rw [same', same, List.append_assoc]

/-- The background adds no answer. -/
theorem grown_background (b : DefaultAgentBackend) (event : Background) :
    b.Grown [] (b.background event) := by
  obtain ⟨tasks, results, summarizer, happened⟩ := b.background_eq event
  rw [happened]
  exact grown_of_eq rfl

/-- The result of a tool is no answer. -/
theorem grown_finishResult (b : DefaultAgentBackend) (result : ToolTaskResult) (content : String) :
    b.Grown [] (b.finishResult result content).1 := by
  have pushed : b.Grown [] (b.push (.toolResult result.callId content)) :=
    ⟨[_], rfl, rfl⟩
  rcases finishResult_cases result content b with
    ⟨-, finished⟩ | ⟨-, ⟨pending, -, finished⟩ | ⟨-, -, finished⟩ |
      ⟨-, -, ⟨asked, requested, finished⟩ | ⟨message, -, finished⟩⟩⟩
  · rw [finished]
    exact pushed
  · rw [finished]
    exact pushed
  · rw [finished]
    exact pushed
  · rw [finished]
    obtain ⟨schemas, temperature, maxTokens, model, -, rfl⟩ := requestStream_eq requested
    exact pushed
  · rw [finished]
    exact pushed

/-- A cancelled turn adds no answer. -/
theorem grown_cancel (b : DefaultAgentBackend) : b.Grown [] b.cancel.2 := by
  obtain ⟨complete, -, cancelled⟩ := b.cancel_eq
  rw [cancelled]
  refine ⟨b.placeholders, rfl, assistantTexts_of_ne ?_⟩
  intro m held
  obtain ⟨pending, -, rfl⟩ := List.mem_map.1 held
  exact Role.noConfusion

/-- **A stream that closes appends its text.** -/
theorem grown_closeStream (b : DefaultAgentBackend) : b.Grown b.generatedText.toList b.closeStream.1 := by
  have message : assistantTexts b.assistantMessage.toList = b.generatedText.toList := by
    unfold assistantMessage
    dsimp only
    rcases b.generatedText with - | text
    · split <;> rfl
    · rw [if_neg (by simp)]
      rfl
  obtain ⟨complete, -, ⟨-, ⟨pending, -, closed⟩ | ⟨-, closed⟩⟩ | ⟨-, closed⟩⟩ := b.closeStream_cases
  · rw [closed]
    exact ⟨_, rfl, message⟩
  · rw [closed]
    exact ⟨_, rfl, message⟩
  · rw [closed]
    exact ⟨_, rfl, message⟩

/-- **A resumed call adds the text of the stream it closes**, if it closes one. -/
theorem grown_resume (b : DefaultAgentBackend) (point : RecvPoint) (wake : Wake) :
    b.Grown (b.closedText point wake).toList (b.resume point wake).1 := by
  unfold resume
  split
  · cases point <;> exact b.grown_background _
  · rename_i item uuid
    cases item with
    | token text => exact grown_of_eq rfl
    | usage promptTokens completionTokens cachedInputTokens => exact grown_of_eq rfl
    | error message => exact b.grown_cancel
    | toolCall call =>
      unfold handleStreamItem
      dsimp only
      split
      · unfold handleHangUp
        split
        · exact grown_of_eq rfl
        · exact grown_of_eq rfl
      · split
        · exact grown_of_eq rfl
        · exact grown_of_eq rfl
  · exact b.grown_closeStream
  · split
    · unfold handleResult
      dsimp only
      split
      · exact grown_of_eq rfl
      · exact grown_finishResult _ _ _
    · exact grown_of_eq rfl
  · exact grown_of_eq rfl
  · exact grown_of_eq rfl
  · exact grown_finishResult _ _ _
  · obtain ⟨obs, opened⟩ := b.openStream_eq
    rw [opened]
    exact grown_of_eq rfl
  · exact grown_of_eq rfl
  · rename_i notClosed _ _ _ _ _ _
    have none : b.closedText point wake = none := by
      unfold closedText
      split
      · exact (notClosed _ rfl rfl).elim
      · rfl
    rw [none]
    exact grown_of_eq rfl

/-- What a call adds is what its wakes add. -/
theorem grown_resumeAll (b : DefaultAgentBackend) (point : RecvPoint) (wakes : List Wake) :
    b.Grown (b.endedFrom point wakes) (recvCall.resumeAll b point wakes).1 := by
  induction wakes generalizing b point with
  | nil => exact grown_of_eq rfl
  | cons wake wakes ih =>
    have next := b.grown_resume point wake
    have resumes : recvCall.resume b point wake = b.resume point wake := rfl
    rw [endedFrom, Call.resumeAll, resumes]
    rcases result : b.resume point wake with ⟨t, event | later⟩
    · rw [result] at next
      rw [List.append_nil]
      exact next
    · rw [result] at next
      exact next.trans (ih t later)

/-- **What enters the conversation while the backend is polled** are the texts of the generations whose
streams close. -/
theorem recv_appends (b : DefaultAgentBackend) (wakes : List Wake) :
    b.Grown (b.ended wakes) (b.recv wakes).2 := by
  have entered : b.enter.1.conversation = b.conversation := by
    unfold enter enterPhase
    rcases b.eventBuffer with - | ⟨event, rest⟩
    · dsimp only
      rcases b.phase with - | - | -
      · rfl
      · rfl
      · rfl
    · rfl
  have driven : b.Grown (b.ended wakes) (recvCall.drive wakes b).1 := by
    have enters : recvCall.enter b = b.enter := rfl
    unfold ended Call.drive
    rw [enters]
    rcases result : b.enter with ⟨t, event | point⟩
    · rw [result] at entered
      exact grown_of_eq entered
    · rw [result] at entered
      have start : b.Grown [] t := grown_of_eq entered
      exact start.trans (t.grown_resumeAll point wakes)
  unfold recv
  rcases result : recvCall.drive wakes b with ⟨t, event | point⟩
  · rw [result] at driven
    exact driven
  · rw [result] at driven
    exact driven

/-- The texts that a call brings into the conversation: those of the streams that close, and the one the
caller adds. -/
def answersOf (b : DefaultAgentBackend) : AgentCall → List String
  | .addAssistantMessage text => [text]
  | .recv wakes => b.ended wakes
  | _ => []

/-- A shorter conversation has no other answers. -/
theorem assistantTexts_sublist {first second : Conversation} (shorter : first.Sublist second) :
    assistantTexts first ⊆ assistantTexts second :=
  ((shorter.filter _).filterMap _).subset

/-- **Nothing else writes answers**; a summary that is applied brings its acknowledgment. -/
theorem assistantTexts_step (b : DefaultAgentBackend) (call : AgentCall) :
    ∀ text ∈ assistantTexts (b.step call).conversation,
      text ∈ assistantTexts b.conversation ++ b.answersOf call ∨ summaryAckMsg.content = some text := by
  have grown : ∀ {t : DefaultAgentBackend} {texts : List String}, b.Grown texts t →
      assistantTexts t.conversation = assistantTexts b.conversation ++ texts := by
    rintro t texts ⟨added, same, rfl⟩
    rw [same, assistantTexts_append]
  intro text held
  cases call with
  | setSystemPrompt prompt => cases held
  | addUserMessage said =>
    -- A message of the user is no answer, and trimming adds none.
    have whole : assistantTexts (b.conversation ++ [.say .user said]) = assistantTexts b.conversation := by
      rw [assistantTexts_append]
      exact List.append_nil _
    have kept := assistantTexts_sublist (trimHistory_sublist _) held
    rw [whole] at kept
    exact .inl (List.mem_append_left _ kept)
  | addAssistantMessage said =>
    rw [grown ⟨[.say .assistant said], rfl, rfl⟩] at held
    exact .inl held
  | startTurn reply =>
    obtain ⟨conversation, summarizer, shorter, prepared⟩ := b.prepareTurn_eq reply
    obtain ⟨tasks, results, waiting, before⟩ := backgrounds_eq b reply.background
    -- Whether the turn starts or not, the conversation is the one that was prepared.
    have same : (b.step (.startTurn reply)).conversation = conversation := by
      change (b.startTurn reply).2.conversation = conversation
      have asks : (b.prepareTurn reply).conversation = conversation := by rw [prepared]
      rcases b.startTurn_cases reply with
        ⟨-, started⟩ | ⟨asked, requested, ⟨-, started⟩ | ⟨-, started⟩⟩
      · rw [started, asks]
      · obtain ⟨schemas, temperature, maxTokens, model, -, rfl⟩ := requestStream_eq requested
        rw [started, ← asks]
      · obtain ⟨schemas, temperature, maxTokens, model, -, rfl⟩ := requestStream_eq requested
        obtain ⟨obs, opened⟩ := openStream_eq { b.prepareTurn reply with
          requests := (b.prepareTurn reply).requests ++
            [⟨(b.prepareTurn reply).conversation, schemas, temperature, maxTokens, model⟩] }
        rw [started, opened, ← asks]
    rw [same] at held
    rw [before] at shorter
    -- No summary is applied, or one that leaves its acknowledgement.
    rcases shorter with rfl | ⟨s, -, rfl⟩
    · exact .inl (List.mem_append_left _ held)
    · rcases s.tryApply_cases b.conversation with kept | ⟨summary, task, _, -, -, applied⟩
      · rw [kept] at held
        exact .inl (List.mem_append_left _ held)
      · -- What the summary leaves is the system message and the end.
        obtain ⟨-, -, same⟩ := applySummary_eq applied
        rw [same, assistantTexts_append, assistantTexts_append] at held
        rcases List.mem_append.1 held with held | held
        · rcases List.mem_append.1 held with held | held
          · have system : (systemMessages b.conversation).Sublist b.conversation :=
              List.filter_sublist.trans (List.take_sublist 1 _)
            exact .inl (List.mem_append_left _ (assistantTexts_sublist system held))
          · have ack : assistantTexts [summaryUserMsg summary, summaryAckMsg] =
                summaryAckMsg.content.toList := rfl
            rw [ack] at held
            exact .inr (Option.mem_toList.1 held)
        · exact .inl (List.mem_append_left _ (assistantTexts_sublist (List.drop_sublist _ _) held))
  | recv wakes =>
    have texts := grown (b.recv_appends wakes)
    exact .inl (texts ▸ held)
  | cancel =>
    have texts := grown b.grown_cancel
    exact .inl (texts ▸ held)
  | background event =>
    have texts := grown (b.grown_background event)
    exact .inl (texts ▸ held)

end DefaultAgentBackend

/-! ## The reactor -/

/-- **The reactor over the default backend**, with the texts of the generations whose streams have
closed, and those of the assistant messages that have entered the conversation since. -/
structure AnswerLog where
  reactor : Reactor DefaultAgentBackend
  generations : List String
  entered : List String

namespace AnswerLog

open Reactor

/-- A reactor before any generation. -/
def start (r : Reactor DefaultAgentBackend) : AnswerLog := ⟨r, [], []⟩

/-- The wakes with which the backend is polled, if it is. -/
def polledWith (r : Reactor DefaultAgentBackend) (m : Moment DefaultAgentBackend) : Option (List Wake) :=
  match m.input with
  | .llm wakes => if r.shouldExit = false ∧ r.llm.isActive = true then some wakes else none
  | _ => none

/-- The texts of the generations whose streams close in a step. -/
def generated (r : Reactor DefaultAgentBackend) (m : Moment DefaultAgentBackend) : List String :=
  match polledWith r m with
  | some wakes => r.llm.ended wakes
  | none => []

/-- The texts of the assistant messages that the backend appends in a step, while it is polled. -/
def appended (r : Reactor DefaultAgentBackend) (m : Moment DefaultAgentBackend) : List String :=
  match polledWith r m with
  | some wakes =>
    assistantTexts ((r.llm.recv wakes).2.conversation.drop r.llm.conversation.length)
  | none => []

/-- One step: the backend appends, and then the reactor adds. -/
def step (a : AnswerLog) (m : Moment DefaultAgentBackend) : AnswerLog where
  reactor := a.reactor.step m
  generations := a.generations ++ generated a.reactor m
  entered := a.entered ++ appended a.reactor m ++
    (a.reactor.step m).answers.drop a.reactor.answers.length

/-- The message is the text of a generation, or what is left of it without its markers. -/
def Derives (text message : String) : Prop := message = text ∨ message = stripTurnMarkers text

/-- **Every answer has entered the conversation once**, and no other text. -/
def EachOnce (a : AnswerLog) : Prop := List.Forall₂ Derives a.generations a.entered

/-- No suppressed response is saved. -/
def SavesNothing (a : AnswerLog) (m : Moment DefaultAgentBackend) : Prop := a.reactor.savedAt m = []

instance (a : AnswerLog) (m : Moment DefaultAgentBackend) : Decidable (a.SavesNothing m) :=
  inferInstanceAs (Decidable (_ = _))

/-- The ghosts do not matter to the reactor. -/
theorem run_reactor (a : AnswerLog) (moments : List (Moment DefaultAgentBackend)) :
    (run step a moments).reactor = run Reactor.step a.reactor moments := by
  induction moments generalizing a with
  | nil => rfl
  | cons m moments ih => exact ih (a.step m)

/-- The backend appends what is generated. -/
theorem appended_eq (r : Reactor DefaultAgentBackend) (m : Moment DefaultAgentBackend) :
    appended r m = generated r m := by
  unfold appended generated
  cases polledWith r m with
  | none => rfl
  | some wakes =>
    obtain ⟨added, grown, texts⟩ := r.llm.recv_appends wakes
    dsimp only
    rw [grown, List.drop_left]
    exact texts

/-- **What enters in a step** is what is generated, and what is saved. -/
theorem step_entered (a : AnswerLog) (m : Moment DefaultAgentBackend) :
    (a.step m).entered = a.entered ++ generated a.reactor m ++ a.reactor.savedAt m := by
  change a.entered ++ appended a.reactor m ++ (a.reactor.step m).answers.drop _ = _
  rw [appended_eq, answers_step, List.drop_left]

/-- A step keeps the law exactly if it saves nothing. -/
theorem eachOnce_step (a : AnswerLog) (m : Moment DefaultAgentBackend) (once : a.EachOnce) :
    (a.step m).EachOnce ↔ a.SavesNothing m := by
  have generations : (a.step m).generations = a.generations ++ generated a.reactor m := rfl
  have length := once.length_eq
  unfold EachOnce SavesNothing
  rw [step_entered, generations]
  constructor
  · intro once'
    have length' := once'.length_eq
    simp only [List.length_append] at length'
    exact List.length_eq_zero_iff.1 (by omega)
  · intro none
    rw [none, List.append_nil]
    refine List.rel_append once ?_
    exact List.forall₂_same.2 fun text _ => .inl rfl

/-! ## The guarantee -/

/-- **Every answer enters the conversation exactly once, as long as no response is suppressed**: it
does in all states of a run of the reactor exactly if no step saves a suppressed response. -/
theorem answered_once_iff (r : Reactor DefaultAgentBackend) (moments : List (Moment DefaultAgentBackend)) :
    (∀ front, front <+: moments → (run step (start r) front).EachOnce) ↔
      Along step SavesNothing (start r) moments := by
  have keeps : ∀ (a : AnswerLog) (m : Moment DefaultAgentBackend), True → a.EachOnce →
      ((a.step m).EachOnce ↔ a.SavesNothing m) := fun a m _ once => eachOnce_step a m once
  have none : (start r).EachOnce := List.Forall₂.nil
  exact kept_iff_along EachOnce (fun _ _ _ => trivial) keeps trivial none moments

/-- A session over the default backend, with an HTTP voice. -/
def talk : Reactor DefaultAgentBackend :=
  let backend : DefaultAgentBackend := .new DefaultAgentBackend.silentLibrary none {}
  let reply : TurnReply := ⟨[], .ok ()⟩
  ((Reactor.new {} backend .http (fun text => [text]) ⟨0, reply⟩).connect calmStart).greet none

/-- An input at an instant, in seconds. -/
def talking (secs : ℕ) (input : Input DefaultAgentBackend) : Moment DefaultAgentBackend :=
  let reply : TurnReply := ⟨[], .ok ()⟩
  ⟨⟨Duration.fromSecs secs, reply⟩, input⟩

/-- The user is answered behind a ○, and the stream closes. -/
def incompleteTurn : List (Moment DefaultAgentBackend) :=
  [talking 1 (.vad .speechStarted true), talking 2 (.vad (.speechEnded []) true),
    talking 3 (.stt (.transcript "I would like")), talking 4 (.llm [.llm (some (.token "○ Go on.")) ""]),
    talking 5 (.llm [.llm none ""])]

/-- **An answer enters twice.**  It is suppressed behind a ○: the backend appends it when the stream
closes, and the reactor adds it once more. -/
theorem suppressed_twice :
    Started talk ∧ (run step (start talk) incompleteTurn).generations = ["○ Go on."] ∧
      (run step (start talk) incompleteTurn).entered = ["○ Go on.", " Go on."] ∧
      ¬ (run step (start talk) incompleteTurn).EachOnce := by
  have started : Started talk := by
    let backend : DefaultAgentBackend := .new DefaultAgentBackend.silentLibrary none {}
    let reply : TurnReply := ⟨[], .ok ()⟩
    exact ⟨{}, backend, .http, fun text => [text], ⟨0, reply⟩, calmStart, rfl⟩
  have generations : (run step (start talk) incompleteTurn).generations = ["○ Go on."] := by
    decide +kernel
  have entered : (run step (start talk) incompleteTurn).entered = ["○ Go on.", " Go on."] := by
    decide +kernel
  refine ⟨started, generations, entered, ?_⟩
  intro once
  have length := List.Forall₂.length_eq once
  rw [generations, entered] at length
  cases length

end AnswerLog

end Feros
