import Feros.Coordinator.Conditions
import Feros.Coordinator.Runs
import Feros.Coordinator.Specs
import Feros.Guarantees.Turns
/-! # The side-effect window

The guard counts the side-effect tools in flight.  The log says which they are: those that were started and
neither completed nor cancelled since.

A completion does not say whether its tool has side effects, so the completion of an ordinary tool is counted
as well.  `window_exact_iff` says in which runs the window is exact nevertheless. -/

namespace Feros

open Run

/-! ## The tools in flight -/

/-- What a mark does to the side-effect tools in flight. -/
def Mark.tools (tools : List String) : Mark → List String
  | .llmEvent (.toolCallStarted id _ true) => id :: tools
  | .llmEvent (.toolCallCompleted id _ _ _) => tools.filter (· != id)
  | .cancel => []
  | _ => tools

/-- **The side-effect tools in flight**: started, and neither completed nor cancelled since. -/
def toolsInFlight (trail : List Mark) : List String := trail.foldl Mark.tools []

/-- The id of the tool that starts. -/
def Mark.startsTool : Mark → Option String
  | .llmEvent (.toolCallStarted id _ _) => some id
  | _ => none

/-- The tools that have been started. -/
def startedTools (trail : List Mark) : List String := trail.filterMap Mark.startsTool

/-- The mark leaves the tools in flight alone. -/
def Mark.isInert : Mark → Bool
  | .llmEvent (.toolCallStarted _ _ true) => false
  | .llmEvent (.toolCallCompleted _ _ _ _) => false
  | .cancel => false
  | _ => true

/-- An inert mark is about no tool. -/
theorem Mark.tools_of_inert {mark : Mark} (inert : mark.isInert = true) (tools : List String) :
    mark.tools tools = tools := by
  cases mark with
  | llmEvent event =>
      cases event with
      | toolCallStarted id name sideEffect =>
          cases sideEffect with
          | true => cases inert
          | false => rfl
      | toolCallCompleted id name success errorMessage => cases inert
      | token text | finished content | error message | onHold durationSecs | hangUp reason content
      | llmComplete data => rfl
  | cancel => cases inert
  | transcript text | audio speaking | interrupt | userMessage text | startTts speaking | startTurn active
  | bargeInRejected text | lateTranscriptDropped text => rfl

/-- The tools in flight after marks that follow. -/
theorem toolsInFlight_append (trail marks : List Mark) :
    toolsInFlight (trail ++ marks) = marks.foldl Mark.tools (toolsInFlight trail) :=
  List.foldl_append

/-- Inert marks are about no tool. -/
theorem foldl_tools_of_inert {marks : List Mark} (inert : marks.all Mark.isInert = true) (tools : List String) :
    marks.foldl Mark.tools tools = tools := by
  induction marks generalizing tools with
  | nil => rfl
  | cons mark marks ih =>
      obtain ⟨here, rest⟩ := Bool.and_eq_true_iff.1 inert
      rw [List.foldl_cons, mark.tools_of_inert here, ih rest]

/-- Inert marks leave the tools in flight alone. -/
theorem toolsInFlight_of_inert {trail marks : List Mark} (inert : marks.all Mark.isInert = true) :
    toolsInFlight (trail ++ marks) = toolsInFlight trail := by
  rw [toolsInFlight_append, foldl_tools_of_inert inert]

/-- Behind a cancellation none is in flight. -/
theorem toolsInFlight_of_cancel {trail marks : List Mark} (inert : marks.all Mark.isInert = true) :
    toolsInFlight (trail ++ .cancel :: marks) = [] := by
  rw [toolsInFlight_append, List.foldl_cons, foldl_tools_of_inert inert]
  rfl

/-- Nor are there behind the start of a turn more than before. -/
theorem toolsInFlight_turnMarks (trail : List Mark) (speaking active : Bool) :
    toolsInFlight (trail ++ Coordinator.turnMarks speaking active) =
      if speaking then [] else toolsInFlight trail := by
  cases speaking with
  | true => rw [Coordinator.turnMarks, if_pos rfl, if_pos rfl, List.append_cons, toolsInFlight_of_cancel rfl]
  | false =>
      rw [Coordinator.turnMarks, if_neg Bool.false_ne_true, if_neg Bool.false_ne_true, toolsInFlight_of_inert rfl]

/-- The tools that were started, one list after the other. -/
theorem startedTools_append (trail marks : List Mark) :
    startedTools (trail ++ marks) = startedTools trail ++ startedTools marks :=
  List.filterMap_append

/-- What is in flight has been started. -/
theorem mem_startedTools {trail : List Mark} {id : String} (held : id ∈ toolsInFlight trail) :
    id ∈ startedTools trail := by
  induction trail using List.reverseRecOn with
  | nil => cases held
  | append_singleton trail mark ih =>
      rw [toolsInFlight_append] at held
      rw [startedTools_append, List.mem_append]
      change id ∈ mark.tools (toolsInFlight trail) at held
      unfold Mark.tools at held
      split at held
      · rcases List.mem_cons.1 held with rfl | held
        · exact .inr (List.mem_singleton_self _)
        · exact .inl (ih held)
      · exact .inl (ih (List.mem_filter.1 held).1)
      · cases held
      · exact .inl (ih held)

/-! ## The guard and the tools -/

/-- **The guard is exact**: it counts the tools in flight, has their ids, and has a watchdog exactly while
there are any. -/
structure SideEffectToolsGuard.Exact (g : SideEffectToolsGuard) (tools : List String) : Prop where
  count : g.inFlight = tools.length
  ids : g.toolIds.map Prod.fst = tools
  watchdog : g.timeoutKey.isSome = true ↔ 0 < g.inFlight

namespace SideEffectToolsGuard

variable {g g' : SideEffectToolsGuard} {tools : List String}

/-- Every completion is counted. -/
theorem toolCompleted_inFlight (id : String) : (g.toolCompleted id).1.inFlight = g.inFlight - 1 := by
  unfold toolCompleted
  dsimp only
  split <;> rfl

/-- Only what was deferred has changed. -/
def Same (g g' : SideEffectToolsGuard) : Prop :=
  g'.inFlight = g.inFlight ∧ g'.toolIds = g.toolIds ∧ g'.timeoutKey = g.timeoutKey

/-- A guard has the window that it has. -/
theorem Same.refl (g : SideEffectToolsGuard) : g.Same g := ⟨rfl, rfl, rfl⟩

/-- The window has nothing to do with the buffer. -/
theorem Same.bufferTranscript (text : String) : g.Same (g.bufferTranscript text) := by
  rw [bufferTranscript_eq]
  exact ⟨rfl, rfl, rfl⟩

/-- The same window is as exact. -/
theorem Exact.of_same (exact : g.Exact tools) (same : g.Same g') : g'.Exact tools := by
  obtain ⟨inFlight, toolIds, timeoutKey⟩ := same
  refine ⟨inFlight.trans exact.count, ?_, ?_⟩
  · rw [toolIds]
    exact exact.ids
  · rw [timeoutKey, inFlight]
    exact exact.watchdog

/-- Without a window no tool runs. -/
theorem exact_default : default.Exact [] := ⟨rfl, rfl, iff_of_false (by simp [default]) (by simp [default])⟩

/-- An active guard has a tool. -/
theorem Exact.isActive_iff (exact : g.Exact tools) : g.isActive = true ↔ tools ≠ [] := by
  rw [isActive, decide_eq_true_eq, exact.count]
  exact List.length_pos_iff

/-- A tool starts that is not in flight. -/
theorem Exact.toolStarted (exact : g.Exact tools) {id : String} (name : String) (key : Key) (fresh : id ∉ tools) :
    ((g.toolStarted id name).1.setWatchdogKey key).Exact (id :: tools) := by
  refine ⟨congrArg (· + 1) exact.count, ?_, iff_of_true rfl (Nat.succ_pos _)⟩
  have others : g.toolIds.filter (fun tool => tool.1 != id) = g.toolIds := by
    refine List.filter_eq_self.2 fun tool held => ?_
    have ids : tool.1 ∈ tools := by
      rw [← exact.ids]
      exact List.mem_map_of_mem held
    exact bne_iff_ne.2 fun same => fresh (same ▸ ids)
  show (id :: (g.toolIds.filter fun tool => tool.1 != id).map Prod.fst) = id :: tools
  rw [others, exact.ids]

/-- The ids that are left when a tool completes. -/
theorem map_filter_ids (id : String) (entries : List (String × String)) :
    (entries.filter fun tool => tool.1 != id).map Prod.fst = (entries.map Prod.fst).filter (· != id) := by
  rw [List.filter_map]
  rfl

/-- One of distinct ids is taken out. -/
theorem length_filter_ids {id : String} (distinct : tools.Nodup) (held : id ∈ tools) :
    (tools.filter (· != id)).length = tools.length - 1 := by
  rw [← distinct.erase_eq_filter id, List.length_erase_of_mem held]

/-- A tool completes, one in flight if there are any. -/
theorem Exact.toolCompleted (exact : g.Exact tools) {id : String} (distinct : tools.Nodup)
    (own : g.isActive = true → id ∈ tools) : (g.toolCompleted id).1.Exact (tools.filter (· != id)) := by
  have ids : (g.toolIds.filter fun tool => tool.1 != id).map Prod.fst = tools.filter (· != id) := by
    rw [map_filter_ids, exact.ids]
  have count : g.inFlight - 1 = (tools.filter (· != id)).length := by
    cases window : g.isActive with
    | true => rw [length_filter_ids distinct (own window), exact.count]
    | false =>
        have empty : tools = [] := by
          by_contra some
          exact Bool.false_ne_true (window.symm.trans (exact.isActive_iff.2 some))
        rw [exact.count, empty]
        rfl
  unfold SideEffectToolsGuard.toolCompleted
  dsimp only
  split
  · rename_i more
    have before : g.timeoutKey.isSome = true := exact.watchdog.2 (by omega)
    exact ⟨count, ids, iff_of_true before more⟩
  · rename_i last
    exact ⟨count, ids, iff_of_false Bool.false_ne_true last⟩

end SideEffectToolsGuard

/-! ## What an input does to the window -/

section Conditions

variable {β : Type} [AgentBackend β] (c : Coordination β) (input : Input β)

/-- **A completion is counted for the tool it belongs to**: while tools with side effects are in flight, one of
them completes. -/
def Coordination.CompletesOwn : Prop :=
  match c.yielded input with
  | some (.toolCallCompleted id _ _ _) => c.seGuard.isActive = true → id ∈ c.seGuard.toolIds.map Prod.fst
  | _ => True

instance : Decidable (c.CompletesOwn input) := by
  unfold Coordination.CompletesOwn
  split <;> infer_instance

/-- The tool that starts is none of `started`. -/
def Coordination.StartsFresh (started : List String) : Prop :=
  match c.yielded input with
  | some (.toolCallStarted id _ _) => id ∉ started
  | _ => True

instance (started : List String) : Decidable (c.StartsFresh input started) := by
  unfold Coordination.StartsFresh
  split <;> infer_instance

/-- User speech, a transcript, or the completion of a tool, while another of `tools` is in flight. -/
def Coordination.isShielded (tools : List String) : Bool :=
  match input with
  | .vad _ _ => !tools.isEmpty
  | .stt _ => !tools.isEmpty
  | _ =>
    match c.yielded input with
    | some (.toolCallCompleted id _ _ _) => tools.any (· != id)
    | _ => false

end Conditions

namespace Coordinator

variable {β : Type} [AgentBackend β] {c d e : Coordinator β} {input : Input β}

/-- A side-effect tool is registered, with a fresh watchdog. -/
theorem toolCallStarted_seGuard (c : Coordinator β) (id name : String) :
    ∃ key, (c.toolCallStarted id name true).seGuard = (c.seGuard.toolStarted id name).1.setWatchdogKey key := by
  unfold toolCallStarted
  rw [if_pos rfl]
  exact ⟨_, rfl⟩

/-- A response that is saved leaves the guard. -/
theorem saveSuppressedResponse_seGuard (content : Option String) :
    (c.saveSuppressedResponse content).seGuard = c.seGuard := by
  unfold saveSuppressedResponse
  cases content with
  | none => rfl
  | some text =>
      dsimp only
      split <;> rfl

/-- **What an input can do to the window.** -/
inductive Windowing (c : Coordinator β) (input : Input β) (d : Coordinator β) : Prop
  | kept (same : c.seGuard.Same d.seGuard) (tools : toolsInFlight d.trail = toolsInFlight c.trail)
  | emptied (guard : d.seGuard = .default) (tools : toolsInFlight d.trail = [])
  | closed (window : c.seGuard.isActive = false) (guard : d.seGuard = c.seGuard.onTimeout.2)
      (tools : toolsInFlight d.trail = toolsInFlight c.trail)
  | started {id name : String} {key : Key} (yields : c.yielded input = some (.toolCallStarted id name true))
      (guard : d.seGuard = (c.seGuard.toolStarted id name).1.setWatchdogKey key)
      (tools : toolsInFlight d.trail = id :: toolsInFlight c.trail)
  | completed {id name : String} {success : Bool} {errorMessage : Option String}
      (yields : c.yielded input = some (.toolCallCompleted id name success errorMessage))
      (guard : d.seGuard = (c.seGuard.toolCompleted id).1)
      (tools : toolsInFlight d.trail = (toolsInFlight c.trail).filter (· != id))

namespace Windowing

/-- Inert marks keep the window. -/
theorem of_marks (marks : List Mark) (same : c.seGuard.Same d.seGuard) (trail : d.trail = c.trail ++ marks)
    (inert : marks.all Mark.isInert = true) : Windowing c input d :=
  .kept same (by rw [trail, toolsInFlight_of_inert inert])

/-- So does an input that leaves no mark. -/
theorem of_still (same : c.seGuard.Same d.seGuard) (trail : d.trail = c.trail) : Windowing c input d :=
  .kept same (congrArg toolsInFlight trail)

/-- A pipeline that is cancelled has no window and no tools. -/
theorem cancelPipeline : Windowing c input e.cancelPipeline := by
  refine .emptied rfl ?_
  rw [cancelPipeline_trail, toolsInFlight_of_cancel rfl]

/-- A session that is shut down has no window and no tools. -/
theorem initiateShutdown : Windowing c input e.initiateShutdown := by
  refine .emptied rfl ?_
  rw [initiateShutdown_trail, toolsInFlight_of_cancel rfl]

/-- Skipping the marker check is nothing to the window. -/
theorem of_skip (window : Windowing c input e) (phase : LlmTurnPhase) : Windowing c input (e.setLlmTurn phase) := by
  cases window with
  | kept same tools => exact .kept same tools
  | emptied guard tools => exact .emptied guard tools
  | closed window guard tools => exact .closed window guard tools
  | started yields guard tools => exact .started yields guard tools
  | completed yields guard tools => exact .completed yields guard tools

/-- A turn that starts keeps the window, or is cancelled. -/
theorem startLlmTurn (same : c.seGuard.Same e.seGuard) (tools : toolsInFlight e.trail = toolsInFlight c.trail) :
    Windowing c input e.startLlmTurn := by
  cases speaking : e.turnPhase.isSpeaking with
  | true =>
      rw [startLlmTurn_of_speaking speaking]
      exact .cancelPipeline
  | false =>
      refine .kept ?_ ?_
      · rw [startLlmTurn_seGuard _ speaking]
        exact same
      · rw [startLlmTurn_trail, toolsInFlight_turnMarks, speaking]
        exact tools

/-- A turn of the TTS leaves window and tools. -/
theorem startTtsForTurn (same : c.seGuard.Same e.seGuard) (trail : e.trail = c.trail) :
    Windowing c input e.startTtsForTurn := by
  cases speaking : e.turnPhase.isSpeaking with
  | true =>
      rw [startTtsForTurn_of_speaking speaking]
      exact .cancelPipeline
  | false =>
      rw [startTtsForTurn_of_quiet speaking]
      exact .of_marks [.startTts false] same (congrArg (· ++ [Mark.startTts false]) trail) rfl

/-- A text that is committed leaves the window, or cancels with it. -/
theorem commitTurnText {text : String} (same : c.seGuard.Same e.seGuard)
    (tools : toolsInFlight e.trail = toolsInFlight c.trail) : Windowing c input (e.commitTurnText text) :=
  startLlmTurn same ((toolsInFlight_of_inert rfl).trans tools)

/-- A nudge leaves window and tools. -/
theorem startNudgeTurn {nudge : String} (same : c.seGuard.Same e.seGuard) (trail : e.trail = c.trail) :
    Windowing c input (e.startNudgeTurn nudge) := by
  have started : Windowing c input (e.addUserMessage nudge).startLlmTurn :=
    startLlmTurn same ((toolsInFlight_of_inert rfl).trans (congrArg toolsInFlight trail))
  unfold Coordinator.startNudgeTurn
  rw [skipMarkerCheck_eq]
  exact started.of_skip _

/-- What was deferred is replayed over a cancelled pipeline. -/
theorem replayDeferred {text : String} : Windowing c input (e.replayDeferred text) := by
  have tools : toolsInFlight (e.cancelPipeline.addUserMessage text).trail = [] := by
    rw [show (e.cancelPipeline.addUserMessage text).trail =
      e.trail ++ .cancel :: [.interrupt, .userMessage text] by
        rw [addUserMessage, leave_trail]
        exact List.append_assoc _ _ _]
    exact toolsInFlight_of_cancel rfl
  unfold Coordinator.replayDeferred
  cases speaking : (e.cancelPipeline.addUserMessage text).turnPhase.isSpeaking with
  | true =>
      rw [startLlmTurn_of_speaking speaking]
      exact .cancelPipeline
  | false =>
      refine .emptied ?_ ?_
      · rw [startLlmTurn_seGuard _ speaking]
        rfl
      · rw [startLlmTurn_trail, toolsInFlight_turnMarks, speaking]
        exact tools

end Windowing

/-- **The window after an input.** -/
theorem windowing_of_outcome (out : Outcome c input d) : Windowing c input d := by
  cases out with
  | nothing => exact .of_still (.refl _) rfl
  | engaged | shielded | awaiting | heldBack | noEvent | roundSpoken | staleTimer | fallbackFired
  | waitOvertaken | idleIgnored | goodbyeSpoken => exact .of_still (.refl _) rfl
  | speechBegun free quiet =>
      have begun : (c.engage.beginSpeech c.isPipelineActive).trail = _ := beginSpeech_trail c.engage quiet
      refine .kept ?_ ?_
      · unfold beginSpeech
        rw [if_neg (by exact fun speaking => Bool.false_ne_true (quiet.symm.trans speaking))]
        exact .refl _
      · rw [begun]
        split
        · exact toolsInFlight_of_inert rfl
        · rfl
  | talkedOver => exact .cancelPipeline
  | @unheard text => exact .of_marks [.transcript text] (.refl _) rfl rfl
  | @buffered text =>
      -- The transcript is buffered in a window that stays open.
      obtain ⟨guard, is, eq⟩ := bufferTranscript_eq text (c.leave (.transcript text))
      have same : c.seGuard.Same (c.seGuard.bufferTranscript text) := .bufferTranscript text
      rw [show c.seGuard.bufferTranscript text = guard from is.symm] at same
      rw [eq]
      exact .of_marks [.transcript text] same rfl rfl
  | @blankTurn text =>
      refine .of_marks [.transcript text] ?_ (startIdleTimer_trail _ _ _) rfl
      rw [startIdleTimer_seGuard]
      exact ⟨rfl, rfl, rfl⟩
  | turnCommitted => exact .commitTurnText ⟨rfl, rfl, rfl⟩ (toolsInFlight_of_inert rfl)
  | bargeInCommitted | lateCommitted => exact .commitTurnText (.refl _) (toolsInFlight_of_inert rfl)
  | @bargeInRejected text =>
      refine .of_marks [.transcript text, .bargeInRejected text] ?_ ?_ rfl
      · rw [startIdleTimer_seGuard]
        exact .refl _
      · rw [startIdleTimer_trail]
        exact List.append_assoc _ _ _
  | @lateDropped text =>
      exact .of_marks [.transcript text, .lateTranscriptDropped text] (.refl _) (List.append_assoc _ _ _) rfl
  | @streamed poll llm text | @suppressed poll llm text =>
      exact .of_marks [.llmEvent (.token text)] (.refl _) rfl rfl
  | @finished poll llm content => exact .of_marks [.llmEvent (.finished content)] (.refl _) rfl rfl
  | @hangUpPending poll llm reason content => exact .of_marks [.llmEvent (.hangUp reason content)] (.refl _) rfl rfl
  | @reported poll llm data => exact .of_marks [.llmEvent (.llmComplete data)] (.refl _) rfl rfl
  | @toolStarted poll llm id name sideEffect active yields =>
      cases sideEffect with
      | true =>
          -- Only a tool with side effects opens a window.
          obtain ⟨key, guard⟩ := toolCallStarted_seGuard (c.polled (.toolCallStarted id name true) llm) id name
          refine .started (Coordination.yielded_of_recv active yields) guard ?_
          rw [toolCallStarted_trail, polled_trail, toolsInFlight_append]
          rfl
      | false =>
          refine .of_marks [.llmEvent (.toolCallStarted id name false)] ?_ (toolCallStarted_trail _ _ _ _) rfl
          rw [toolCallStarted, if_neg Bool.false_ne_true]
          exact .refl _
  | toolCounted active yields more =>
      exact .completed (Coordination.yielded_of_recv active yields) rfl (toolsInFlight_append _ _)
  | windowEnded active yields last deferred =>
      exact .completed (Coordination.yielded_of_recv active yields) rfl (toolsInFlight_append _ _)
  | windowReplayed | watchdogReplayed => exact .replayDeferred
  | @suppressedFinished poll llm content =>
      refine .of_marks [.llmEvent (.finished content)] ?_ ?_ rfl
      · rw [startIdleTimer_seGuard, saveSuppressedResponse_seGuard]
        exact .refl _
      · rw [startIdleTimer_trail, saveSuppressedResponse_trail]
        rfl
  | @lateSuppressed poll llm content =>
      refine .of_marks [.llmEvent (.finished content)] ?_ ?_ rfl
      · rw [saveSuppressedResponse_seGuard]
        exact .refl _
      · rw [saveSuppressedResponse_trail]
        rfl
  | @llmFailed poll llm message =>
      refine .of_marks [.llmEvent (.error message)] ?_ (startIdleTimer_trail _ _ _) rfl
      rw [startIdleTimer_seGuard]
      exact .refl _
  | @held poll llm durationSecs =>
      refine .of_marks [.llmEvent (.onHold durationSecs)] ?_ (startIdleTimer_trail _ _ _) rfl
      rw [startIdleTimer_seGuard]
      exact .refl _
  | hungUp | goodbyePlayed | idleHungUp => exact .initiateShutdown
  | delayOver => exact .initiateShutdown
  | audioSent => exact .of_marks [.audio false] (.refl _) rfl rfl
  | greetingSpoken remaining =>
      refine .of_still ?_ (finishGreeting_trail _ _)
      unfold finishGreeting
      rw [startIdleTimer_seGuard]
      exact .refl _
  | turnSpoken | ttsFailed | transcriptOverdue =>
      refine .of_still ?_ (startIdleTimer_trail _ _ _)
      rw [startIdleTimer_seGuard]
      exact .refl _
  | responseReplayed => exact .startTtsForTurn (.refl _) rfl
  | waitNudged | idleNudged => exact .startNudgeTurn (.refl _) rfl
  | watchdogLate due value window => exact .closed window rfl rfl
  | watchdogCancelled => exact .cancelPipeline

/-- What was in flight is distinct, and the guard has it exactly. -/
structure Window (c : Coordinator β) : Prop where
  exact : c.seGuard.Exact (toolsInFlight c.trail)
  distinct : (toolsInFlight c.trail).Nodup

/-- Nothing is in flight while no window is open. -/
theorem Window.empty (window : c.Window) (idle : c.seGuard.isActive = false) : toolsInFlight c.trail = [] := by
  by_contra some
  exact Bool.false_ne_true (idle.symm.trans (window.exact.isActive_iff.2 some))

/-- **An input that completes its own tools** keeps the window exact. -/
theorem Window.outcome (window : c.Window) (fresh : c.StartsFresh input (startedTools c.trail))
    (own : c.CompletesOwn input) (out : Outcome c input d) : d.Window := by
  unfold Coordination.StartsFresh at fresh
  unfold Coordination.CompletesOwn at own
  cases windowing_of_outcome out with
  | kept same tools =>
      constructor
      · rw [tools]
        exact window.exact.of_same same
      · rw [tools]
        exact window.distinct
  | emptied guard tools =>
      constructor
      · rw [tools, guard]
        exact SideEffectToolsGuard.exact_default
      · rw [tools]
        exact List.nodup_nil
  | closed idle guard tools =>
      have empty := window.empty idle
      have ids : c.seGuard.toolIds.map Prod.fst = [] := window.exact.ids.trans empty
      constructor
      · rw [tools, guard, empty]
        exact ⟨rfl, ids, iff_of_false Bool.false_ne_true (Nat.lt_irrefl 0)⟩
      · rw [tools]
        exact window.distinct
  | @started id name key yields guard tools =>
      rw [yields] at fresh
      have unheld : id ∉ toolsInFlight c.trail := fun held => fresh (mem_startedTools held)
      constructor
      · rw [tools, guard]
        exact window.exact.toolStarted name key unheld
      · rw [tools]
        exact List.nodup_cons.2 ⟨unheld, window.distinct⟩
  | completed yields guard tools =>
      rw [yields, window.exact.ids] at own
      constructor
      · rw [tools, guard]
        exact window.exact.toolCompleted window.distinct own
      · rw [tools]
        exact window.distinct.filter _

/-- The tools of an exact window with another one in flight are more than one. -/
theorem Window.many {id : String} (window : c.Window) (held : id ∈ toolsInFlight c.trail)
    (others : (toolsInFlight c.trail).any (· != id) = true) : 1 < c.seGuard.inFlight := by
  obtain ⟨other, held', differs⟩ := List.any_eq_true.1 others
  rw [window.exact.count]
  by_contra few
  obtain ⟨single, only⟩ := List.length_eq_one_iff.1 (show (toolsInFlight c.trail).length = 1 by
    have some := List.length_pos_of_mem held
    omega)
  rw [only] at held held'
  exact bne_iff_ne.1 differs ((List.mem_singleton.1 held').trans (List.mem_singleton.1 held).symm)

/-- Speech that starts cancels nothing. -/
theorem count_cancel_speechStarted (c : Coordinator β) : c.speechStarted.trail.count .cancel = c.trail.count .cancel := by
  unfold speechStarted
  split
  · rfl
  · cases speaking : c.turnPhase.isSpeaking with
    | true =>
        have goesOn : c.engage.beginSpeech c.isPipelineActive = c.engage := if_pos speaking
        rw [goesOn]
        rfl
    | false =>
        have begun : (c.engage.beginSpeech c.isPipelineActive).trail = _ := beginSpeech_trail c.engage speaking
        rw [begun]
        split
        · exact List.count_append
        · rfl

/-- Nor does a transcript in a window. -/
theorem count_cancel_transcript (text : String) (active : c.seGuard.isActive = true) :
    ((c.leave (.transcript text)).transcript text).trail.count .cancel = c.trail.count .cancel := by
  have left : (c.leave (.transcript text)).trail.count .cancel = c.trail.count .cancel := List.count_append
  unfold transcript
  split
  · exact left
  · rw [if_pos (by exact active), bufferTranscript_trail]
    exact left

/-- **Nothing that is shielded cancels the pipeline.** -/
theorem Window.shielded (window : c.Window) (remaining : Duration) (own : c.CompletesOwn input)
    (shield : c.isShielded input (toolsInFlight c.trail) = true) :
    (c.handle input remaining).trail.count .cancel = c.trail.count .cancel := by
  have active : toolsInFlight c.trail ≠ [] → c.seGuard.isActive = true := window.exact.isActive_iff.2
  unfold Coordination.isShielded at shield
  cases input with
  | vad event verdict =>
      have some : toolsInFlight c.trail ≠ [] := by
        intro empty
        rw [empty] at shield
        cases shield
      cases event with
      | speechStarted => exact c.count_cancel_speechStarted
      | speechEnded audio =>
          have handled : c.handle (.vad (.speechEnded audio) verdict) remaining = c.listen := if_pos (active some)
          rw [handled, listen_trail]
  | stt event =>
      have some : toolsInFlight c.trail ≠ [] := by
        intro empty
        rw [empty] at shield
        cases shield
      cases event with
      | transcript text => exact count_cancel_transcript text (active some)
      | firstTextReceived | partialTranscript text | error reason => rfl
  | llm poll =>
      dsimp only at shield
      split at shield
      · rename_i id name success errorMessage yields
        unfold Coordination.CompletesOwn at own
        rw [yields, window.exact.ids] at own
        obtain ⟨other, held, -⟩ := List.any_eq_true.1 shield
        have many := window.many (own (active (List.ne_nil_of_mem held))) shield
        obtain ⟨llm, handled⟩ := handle_of_yielded remaining yields
        have counted : c.handle (.llm poll) remaining =
            (c.polled (.toolCallCompleted id name success errorMessage) llm).countTool id :=
          handled.trans (if_pos many)
        rw [counted, countTool_trail, polled_trail]
        exact List.count_append
      · cases shield
  | tts event | timer key => cases shield

/-- **The completion of another tool** breaks the window, or cancels the pipeline while a tool is in flight. -/
theorem Window.broken (window : c.Window) (remaining : Duration) (foreign : ¬ c.CompletesOwn input)
    (exact : (c.handle input remaining).seGuard.Exact (toolsInFlight (c.handle input remaining).trail))
    (shielded : c.isShielded input (toolsInFlight c.trail) = true →
      (c.handle input remaining).trail.count .cancel = c.trail.count .cancel) : False := by
  unfold Coordination.CompletesOwn at foreign
  split at foreign
  · rename_i id name success errorMessage yields
    obtain ⟨active, unheld⟩ := Classical.not_imp.1 foreign
    rw [window.exact.ids] at unheld
    obtain ⟨llm, handled⟩ := handle_of_yielded remaining yields
    -- The tool is not among those in flight, so its completion takes none of them away.
    have others : (toolsInFlight c.trail).filter (· != id) = toolsInFlight c.trail := by
      refine List.filter_eq_self.2 fun other held => bne_iff_ne.2 fun same => unheld (same ▸ held)
    have nonempty : 0 < (toolsInFlight c.trail).length := by
      rw [← window.exact.count]
      exact of_decide_eq_true active
    have tools : toolsInFlight (c.polled (.toolCallCompleted id name success errorMessage) llm).trail =
        toolsInFlight c.trail := by
      rw [polled_trail, toolsInFlight_append]
      exact others
    -- A tool is missing in the count, but it is still in flight.
    have miscounts : ∀ d : Coordinator β, c.handle input remaining = d →
        d.seGuard.inFlight = (c.seGuard.toolCompleted id).1.inFlight →
        d.trail = (c.polled (.toolCallCompleted id name success errorMessage) llm).trail → False := by
      intro d is count trail
      rw [is, trail, tools] at exact
      have missing := exact.count
      rw [count, SideEffectToolsGuard.toolCompleted_inFlight, window.exact.count] at missing
      omega
    by_cases many : 1 < c.seGuard.inFlight
    · exact miscounts _ (handled.trans (if_pos many)) rfl rfl
    · have last := handled.trans (if_neg many)
      cases deferred : c.seGuard.deferredTranscript with
      | none =>
          rw [show (c.polled (.toolCallCompleted id name success errorMessage) llm).seGuard.deferredTranscript =
            none from deferred] at last
          exact miscounts _ last rfl rfl
      | some text =>
          rw [show (c.polled (.toolCallCompleted id name success errorMessage) llm).seGuard.deferredTranscript =
            some text from deferred] at last
          -- The completion was taken for the last one, and cancelled the turn with a tool in flight.
          have shield : c.isShielded input (toolsInFlight c.trail) = true := by
            obtain ⟨other, held⟩ := List.exists_mem_of_length_pos nonempty
            have differs : (toolsInFlight c.trail).any (· != id) = true :=
              List.any_eq_true.2 ⟨other, held, bne_iff_ne.2 fun same => unheld (same ▸ held)⟩
            unfold Coordination.isShielded
            cases input with
            | llm poll =>
                dsimp only
                rw [yields]
                exact differs
            | vad event verdict | stt event | tts event | timer key => cases yields
          have kept := shielded shield
          rw [last] at kept
          dsimp only at kept
          rw [replayDeferred_trail, endWindow_trail, polled_trail, List.count_append, List.count_append,
            List.count_cons_self] at kept
          omega
  · exact foreign trivial

/-- A session starts without a window. -/
theorem Opened.seGuard (opened : c.Opened) : c.seGuard = .default := by
  cases opened with
  | waiting fresh | greeted fresh =>
      rw [startIdleTimer_seGuard]
      exact fresh.seGuard
  | greeting fresh ws =>
      rw [startTtsForTurn_of_quiet (congrArg TurnPhase.isSpeaking fresh.turnPhase)]
      exact fresh.seGuard

/-- A session starts without tools. -/
theorem Opened.window (opened : c.Opened) : c.Window := by
  have empty : toolsInFlight c.trail = [] := by
    rcases opened.trail with trail | trail | trail
    all_goals
      rw [trail]
      rfl
  have guard := opened.seGuard
  constructor
  · rw [guard, empty]
    exact SideEffectToolsGuard.exact_default
  · rw [empty]
    exact List.nodup_nil

end Coordinator

/-! ## Runs -/

namespace Reactor

variable {β : Type} [AgentBackend β]

/-- **The window holds in a step**: behind it the guard is exact, and what is shielded has not cancelled the
pipeline. -/
def WindowHolds (r : Reactor β) (m : Moment β) : Prop :=
  (r.step m).seGuard.Exact (toolsInFlight (r.step m).core.trail) ∧
    ((r.setWorld m.world).isShielded m.input (toolsInFlight r.core.trail) = true →
      (r.step m).core.trail.count .cancel = r.core.trail.count .cancel)

/-- A tool that starts has not been started before. -/
def StartsFreshTool (r : Reactor β) (m : Moment β) : Prop :=
  r.shouldExit = false → (r.setWorld m.world).StartsFresh m.input (startedTools r.core.trail)

/-- A completion in a window is that of a tool in flight. -/
def CompletesOwnTool (r : Reactor β) (m : Moment β) : Prop :=
  r.shouldExit = false → (r.setWorld m.world).CompletesOwn m.input

instance (r : Reactor β) (m : Moment β) : Decidable (r.StartsFreshTool m) := inferInstanceAs (Decidable (_ → _))

instance (r : Reactor β) (m : Moment β) : Decidable (r.CompletesOwnTool m) := inferInstanceAs (Decidable (_ → _))

/-- **The side-effect window is exact** in a session in which every tool has a fresh id, exactly if every
completion that comes while side-effect tools are in flight is that of one of them. -/
theorem window_exact_iff {r₀ : Reactor β} (started : Started r₀) {moments : List (Moment β)}
    (fresh : Along step StartsFreshTool r₀ moments) :
    (r₀.seGuard.Exact (toolsInFlight r₀.core.trail) ∧ Along step WindowHolds r₀ moments) ↔
      Along step CompletesOwnTool r₀ moments := by
  have began : r₀.core.Window := started.opened.window
  have kept : ∀ (r : Reactor β) (m : Moment β), r.core.Window → r.StartsFreshTool m → r.CompletesOwnTool m →
      (r.step m).core.Window := by
    intro r m window fresh own
    cases exits : r.shouldExit with
    | true =>
        rw [step_of_shouldExit exits]
        exact window
    | false =>
        have same : (r.core.setWorld m.world).Window := ⟨window.exact, window.distinct⟩
        exact same.outcome (fresh exits) (own exits) (step_outcome exits m)
  have agree : ∀ (r : Reactor β) (m : Moment β), r.core.Window → r.StartsFreshTool m →
      (r.WindowHolds m ↔ r.CompletesOwnTool m) := by
    intro r m window fresh
    have same : (r.core.setWorld m.world).Window := ⟨window.exact, window.distinct⟩
    constructor
    · rintro ⟨exact, shielded⟩ exits
      by_contra foreign
      have exact' : (r.step m).core.seGuard.Exact (toolsInFlight (r.step m).core.trail) := exact
      rw [step_core exits] at exact' shielded
      exact same.broken _ foreign exact' shielded
    · intro own
      refine ⟨(kept r m window fresh own).exact, fun shield => ?_⟩
      cases exits : r.shouldExit with
      | true => rw [step_of_shouldExit exits]
      | false =>
          rw [step_core exits]
          exact same.shielded _ (own exits) shield
  refine (and_iff_right ?_).trans (along_congr_of_invariant kept agree began fresh)
  exact began.exact

/-- The user asks for something, and the agent starts to book. -/
def booking : List (Moment AnyBackend) :=
  [calmly 1 (.vad .speechStarted true), calmly 2 (.vad (.speechEnded []) true), calmly 3 (.stt (.transcript "book")),
    calmly 4 (yields (.toolCallStarted "a" "book" true) true)]

/-- Two bookings, completed one after the other while the user speaks. -/
def bookings : List (Moment AnyBackend) :=
  booking ++ [calmly 4 (yields (.toolCallStarted "b" "book" true) true), calmly 5 (.vad .speechStarted true),
    calmly 6 (.vad (.speechEnded []) true), calmly 7 (yields (.toolCallCompleted "a" "book" true none) true),
    calmly 8 (yields (.toolCallCompleted "b" "book" true none) true)]

/-- Their window is exact. -/
theorem window_exact_bookings : (session {}).seGuard.Exact (toolsInFlight (session {}).core.trail) ∧
    Along step WindowHolds (session {}) bookings :=
  (window_exact_iff (started_session {}) (by decide +kernel)).2 (by decide +kernel)

/-- A booking next to a look-up, which is completed first; the user speaks over the booking. -/
def lookedUp : List (Moment AnyBackend) :=
  booking ++ [calmly 4 (yields (.toolCallStarted "b" "look_up" false) true),
    calmly 5 (yields (.toolCallCompleted "b" "look_up" true none) true)]

/-- **The look-up closes the window of the booking**, which the user then cancels. -/
theorem window_lost :
    Along step StartsFreshTool (session {}) (lookedUp ++ [calmly 6 (.vad .speechStarted true),
        calmly 7 (.vad (.speechEnded []) true)]) ∧
      toolsInFlight (run step (session {}) lookedUp).core.trail = ["a"] ∧
      (run step (session {}) lookedUp).seGuard = ⟨0, [("a", "book")], none, none⟩ ∧
      ¬ WindowHolds (run step (session {}) (lookedUp ++ [calmly 6 (.vad .speechStarted true)]))
        (calmly 7 (.vad (.speechEnded []) true)) := by
  refine ⟨by decide +kernel, by decide +kernel, by decide +kernel, ?_⟩
  rintro ⟨-, shielded⟩
  have kept := shielded (by decide +kernel)
  revert kept
  decide +kernel

end Reactor

end Feros
