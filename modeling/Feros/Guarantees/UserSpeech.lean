import Feros.Guarantees.TimerOwnership
import Feros.Guarantees.ToolWindow
import Feros.Library.Batches
/-! # What the user says

A transcript goes to the agent as a message of its own, or it is deferred, and goes to the agent in front of
a later one.  Nothing is to be lost, doubled or reordered on the way.

Whoever cancels the pipeline forgets what is deferred, and a late transcript does not wait for it.
`speech_kept` says that nothing else goes wrong. -/

namespace Feros

open Run Batches

/-! ## What has to be kept -/

/-- What a mark does to the transcripts that have to be kept. -/
def Mark.keep (kept : List String) : Mark → List String
  | .transcript text => if isBlank text then kept else kept ++ [text]
  | .bargeInRejected text => if isBlank text then kept else kept.dropLast
  | .lateTranscriptDropped text => if isBlank text then kept else kept.dropLast
  | _ => kept

/-- **The transcripts that have to be kept**: those that are not blank and were neither rejected by the word
gate nor dropped as late. -/
def keptTranscripts (trail : List Mark) : List String := trail.foldl Mark.keep []

/-- What is kept of marks that follow. -/
theorem keptTranscripts_append (trail marks : List Mark) :
    keptTranscripts (trail ++ marks) = marks.foldl Mark.keep (keptTranscripts trail) :=
  List.foldl_append

/-- No blank transcript has to be kept. -/
theorem spoken_of_mem_kept {trail : List Mark} {text : String} (held : text ∈ keptTranscripts trail) :
    isBlank text = false := by
  induction trail using List.reverseRecOn with
  | nil => cases held
  | append_singleton trail mark ih =>
      rw [keptTranscripts_append] at held
      change text ∈ Mark.keep (keptTranscripts trail) mark at held
      unfold Mark.keep at held
      split at held
      · split at held
        · exact ih held
        · rename_i spoken
          rcases List.mem_append.1 held with held | here
          · exact ih held
          · rw [List.mem_singleton.1 here]
            exact eq_false_of_ne_true spoken
      · split at held
        · exact ih held
        · exact ih (List.dropLast_subset _ held)
      · split at held
        · exact ih held
        · exact ih (List.dropLast_subset _ held)
      · exact ih held

/-- A transcript that is not wanted leaves no trace. -/
theorem keep_rejected (kept : List String) (text : String) :
    Mark.keep (Mark.keep kept (.transcript text)) (.bargeInRejected text) = kept := by
  cases blank : isBlank text with
  | true => simp only [Mark.keep, blank, if_true]
  | false => simp only [Mark.keep, blank, Bool.false_eq_true, if_false, List.dropLast_concat]

/-- A transcript that is dropped is not kept. -/
theorem keep_dropped (kept : List String) (text : String) :
    Mark.keep (Mark.keep kept (.transcript text)) (.lateTranscriptDropped text) = kept :=
  keep_rejected kept text

/-- The mark is neither a transcript, or what became of one, nor a message. -/
def Mark.isMute : Mark → Bool
  | .transcript _ => false
  | .bargeInRejected _ => false
  | .lateTranscriptDropped _ => false
  | .userMessage _ => false
  | _ => true

/-- A mute mark keeps everything. -/
theorem Mark.keep_of_mute {mark : Mark} (mute : mark.isMute = true) (kept : List String) :
    Mark.keep kept mark = kept := by
  cases mark with
  | transcript text | bargeInRejected text | lateTranscriptDropped text | userMessage text => cases mute
  | llmEvent event | audio speaking | interrupt | startTts speaking | startTurn active | cancel => rfl

/-- A message leaves the transcripts. -/
theorem Mark.keep_of_message (message : String) (kept : List String) :
    Mark.keep kept (.userMessage message) = kept := rfl

/-- Mute marks keep everything. -/
theorem foldl_keep_of_mute {marks : List Mark} (mute : marks.all Mark.isMute = true) (kept : List String) :
    marks.foldl Mark.keep kept = kept := by
  induction marks generalizing kept with
  | nil => rfl
  | cons mark marks ih =>
      obtain ⟨here, rest⟩ := Bool.and_eq_true_iff.1 mute
      rw [List.foldl_cons, Mark.keep_of_mute here, ih rest]

/-- Mute marks tell nothing. -/
theorem userMessages_of_mute {marks : List Mark} (mute : marks.all Mark.isMute = true) : userMessages marks = [] := by
  refine List.filterMap_eq_nil_iff.2 fun mark held => ?_
  have here := List.all_eq_true.1 mute mark held
  cases mark with
  | transcript text | bargeInRejected text | lateTranscriptDropped text | userMessage text => cases here
  | llmEvent event | audio speaking | interrupt | startTts speaking | startTurn active | cancel => rfl

/-- The marks of a turn keep everything. -/
theorem foldl_keep_turnMarks (speaking active : Bool) (kept : List String) :
    (Coordinator.turnMarks speaking active).foldl Mark.keep kept = kept := by
  cases speaking <;> rfl

/-! ## How texts are joined -/

/-- `last` behind the trimmed texts of `front`, with spaces between them. -/
def joined : List String → String → String
  | [], last => last
  | text :: front, last => trim text ++ " " ++ joined front last

/-- One more text behind what is joined. -/
theorem joined_append (front : List String) (text last : String) :
    joined front (trim text) ++ " " ++ last = joined (front ++ [text]) last := by
  induction front with
  | nil => rfl
  | cons head front ih =>
      rw [joined, List.cons_append, joined, ← ih]
      simp only [String.append_assoc]

/-- A text is blank exactly if it is so when trimmed. -/
theorem isBlank_trim (text : String) : isBlank (trim text) = isBlank text := by
  unfold isBlank
  rw [trim_trim]

/-- What ends with a spoken text is not blank. -/
theorem isBlank_joined (front : List String) {last : String} (spoken : isBlank last = false) :
    isBlank (joined front last) = false := by
  induction front with
  | nil => exact spoken
  | cons text front ih => rw [joined, isBlank_append, ih, Bool.and_false]

/-- The messages that carry no transcript: nudges, and blank ones. -/
def isNudge (message : String) : Bool :=
  isBlank message || [Reactor.idleNudge, TurnCompletion.nudgePrompt true, TurnCompletion.nudgePrompt false].contains message

/-- The nudges are nudges. -/
theorem isNudge_of_mem {message : String} (held : message ∈ [Reactor.idleNudge, TurnCompletion.nudgePrompt true,
    TurnCompletion.nudgePrompt false]) : isNudge message = true := by
  unfold isNudge
  rw [List.contains_iff_mem.2 held, Bool.or_true]

/-- A blank message counts as a nudge. -/
theorem isNudge_of_blank {message : String} (blank : isBlank message = true) : isNudge message = true := by
  unfold isNudge
  rw [blank, Bool.true_or]

/-- **The message carries these transcripts**, trimmed and joined by spaces; only the last may keep its white
space. -/
inductive Carries : List String → String → Prop
  | nothing {message : String} (nudge : isNudge message = true) : Carries [] message
  | whole (front : List String) (last : String) : Carries (front ++ [last]) (joined front last)
  | trimmed (front : List String) (last : String) {rest : String} (blank : isBlank rest = true) :
      Carries (front ++ [last]) (joined front (trim last) ++ rest)

/-- A text is its trimmed text between white space. -/
theorem exists_trim (text : String) : ∃ front back, text = front ++ trim text ++ back := by
  refine ⟨.ofList (text.toList.takeWhile isWhitespace),
    .ofList ((text.toList.dropWhile isWhitespace).rtakeWhile isWhitespace), ?_⟩
  unfold trim
  rw [← String.ofList_append, ← String.ofList_append, List.append_assoc, List.rdropWhile_append_rtakeWhile,
    List.takeWhile_append_dropWhile, String.ofList_toList]

/-- What is joined contains the texts in front, trimmed, and ends with the last one. -/
theorem exists_joined_front {front : List String} {text : String} (held : text ∈ front) (last : String) :
    ∃ before after, joined front last = before ++ trim text ++ after := by
  induction front with
  | nil => cases held
  | cons head front ih =>
      rw [joined]
      rcases List.mem_cons.1 held with rfl | held
      · exact ⟨"", " " ++ joined front last, by rw [String.empty_append, String.append_assoc]⟩
      · obtain ⟨before, after, same⟩ := ih held
        refine ⟨trim head ++ " " ++ before, after, ?_⟩
        rw [same]
        simp only [String.append_assoc]

/-- The last text is at the end. -/
theorem exists_joined_last (front : List String) (last : String) : ∃ before, joined front last = before ++ last := by
  induction front with
  | nil => exact ⟨"", String.empty_append.symm⟩
  | cons head front ih =>
      obtain ⟨before, same⟩ := ih
      refine ⟨trim head ++ " " ++ before, ?_⟩
      rw [joined, same]
      simp only [String.append_assoc]

/-- **What a message carries is in it.** -/
theorem Carries.contains {group : List String} {message text : String} (carries : Carries group message)
    (held : text ∈ group) : ∃ before after, message = before ++ trim text ++ after := by
  cases carries with
  | nothing nudge => cases held
  | whole front last =>
      rcases List.mem_append.1 held with held | held
      · exact exists_joined_front held last
      · obtain ⟨before, same⟩ := exists_joined_last front last
        obtain ⟨blank, after, whole⟩ := exists_trim text
        rw [List.mem_singleton] at held
        refine ⟨before ++ blank, after, ?_⟩
        rw [same, ← held]
        conv_lhs => rw [whole]
        simp only [String.append_assoc]
  | @trimmed front last rest blank =>
      rcases List.mem_append.1 held with held | held
      · obtain ⟨before, after, same⟩ := exists_joined_front held (trim last)
        exact ⟨before, after ++ rest, by rw [same]; simp only [String.append_assoc]⟩
      · obtain ⟨before, same⟩ := exists_joined_last front (trim last)
        rw [List.mem_singleton] at held
        exact ⟨before, rest, by rw [same, held]⟩

/-- **The transcripts that are deferred.** -/
inductive Defers : List String → Option String → Prop
  | nothing : Defers [] none
  | texts (front : List String) (last : String) : Defers (front ++ [last]) (some (joined front (trim last)))

namespace Defers

variable {held : List String} {deferred : Option String}

/-- Nothing is deferred exactly if nothing is held. -/
theorem eq_nil (defers : Defers held none) : held = [] := by
  cases defers
  rfl

/-- What is deferred is in it. -/
theorem contains {deferred text : String} (defers : Defers held (some deferred)) (here : text ∈ held) :
    ∃ before after, deferred = before ++ trim text ++ after := by
  cases defers with
  | texts front last =>
      have bare : Carries (front ++ [last]) (joined front (trim last) ++ "") := .trimmed front last (by decide)
      rw [String.append_empty] at bare
      exact bare.contains here

/-- One more transcript is deferred. -/
theorem buffer (defers : Defers held deferred) (text : String) :
    Defers (held ++ [text]) (some (SideEffectToolsGuard.prepend deferred (trim text))) := by
  cases defers with
  | nothing => exact .texts [] text
  | texts front last =>
      unfold SideEffectToolsGuard.prepend
      dsimp only
      rw [joined_append]
      exact .texts (front ++ [last]) text

/-- What is deferred is a message by itself. -/
theorem carries {message : String} (defers : Defers held (some message)) : Carries held message := by
  cases defers with
  | texts front last =>
      have bare : Carries (front ++ [last]) (joined front (trim last) ++ "") := .trimmed front last (by decide)
      rwa [String.append_empty] at bare

/-- A transcript that is not blank is committed behind what is deferred. -/
theorem carries_prepend (defers : Defers held deferred) (text : String) :
    Carries (held ++ [text]) (SideEffectToolsGuard.prepend deferred text) := by
  cases defers with
  | nothing => exact .whole [] text
  | texts front last =>
      unfold SideEffectToolsGuard.prepend
      dsimp only
      rw [joined_append]
      exact .whole (front ++ [last]) text

/-- A blank one adds nothing. -/
theorem carries_prepend_blank (defers : Defers held deferred) {text : String} (blank : isBlank text = true) :
    Carries held (SideEffectToolsGuard.prepend deferred text) := by
  cases defers with
  | nothing =>
      exact .nothing (isNudge_of_blank blank)
  | texts front last =>
      unfold SideEffectToolsGuard.prepend
      dsimp only
      rw [String.append_assoc]
      refine .trimmed front last ?_
      rw [isBlank_append, blank]
      decide

end Defers

/-! ## What an input does to the speech of the user -/

section Conditions

variable {β : Type} [AgentBackend β] (c : Coordination β) (input : Input β)

/-- A late transcript is about to be committed. -/
def Coordination.commitsLate : Bool :=
  match input with
  | .stt (.transcript text) =>
    !c.seGuard.isActive && decide (c.turnPhase = .transcriptTimedOut) && !c.isPipelineActive && !isBlank text
  | _ => false

/-- **Deferred speech is about to be lost or overtaken**: the pipeline is about to be cancelled over it, at the
end of a barge-in or by a turn that starts while the user speaks, or a late transcript is about to be committed. -/
def Coordination.losesSpeech : Bool :=
  c.seGuard.deferredTranscript.isSome &&
    (c.endsBargeIn input || ((c.endsWait input || c.nudgesIdle input) && c.turnPhase.isSpeaking) ||
      c.commitsLate input)

end Conditions

namespace Coordinator

variable {β : Type} [AgentBackend β] {c d e : Coordinator β} {input : Input β}

/-- **What an input can do to the speech of the user.** -/
inductive Hears (c d : Coordinator β) : Prop
  | stays (kept : keptTranscripts d.trail = keptTranscripts c.trail)
      (said : userMessages d.trail = userMessages c.trail)
      (deferred : d.seGuard.deferredTranscript = c.seGuard.deferredTranscript)
  | buffers (text : String) (shut : c.seGuard.isActive = true ∨ c.turnPhase.isSpeaking = true)
      (kept : keptTranscripts d.trail = keptTranscripts c.trail ++ [text])
      (said : userMessages d.trail = userMessages c.trail)
      (deferred : d.seGuard.deferredTranscript =
        some (SideEffectToolsGuard.prepend c.seGuard.deferredTranscript (trim text)))
  | commits (text : String)
      (kept : keptTranscripts d.trail = Mark.keep (keptTranscripts c.trail) (.transcript text))
      (said : userMessages d.trail = userMessages c.trail ++ [c.fullText text])
      (deferred : d.seGuard.deferredTranscript = none)
  | replays (text : String) (before : c.seGuard.deferredTranscript = some text)
      (kept : keptTranscripts d.trail = keptTranscripts c.trail)
      (said : userMessages d.trail = userMessages c.trail ++ [text])
      (deferred : d.seGuard.deferredTranscript = none)
  | nudges (message : String) (nudge : isNudge message = true)
      (kept : keptTranscripts d.trail = keptTranscripts c.trail)
      (said : userMessages d.trail = userMessages c.trail ++ [message])
      (deferred : d.seGuard.deferredTranscript = c.seGuard.deferredTranscript)

/-- The speech of the user is all there. -/
def Told (c : Coordinator β) : Prop :=
  ∃ held, Conserved Carries (keptTranscripts c.trail) held (userMessages c.trail) ∧
    Defers held c.seGuard.deferredTranscript

/-- **It stays so** whatever of this an input does. -/
theorem Told.hears (told : c.Told) (hears : Hears c d) : d.Told := by
  obtain ⟨held, conserved, defers⟩ := told
  unfold Told
  cases hears with
  | stays kept said deferred =>
      rw [kept, said, deferred]
      exact ⟨held, conserved, defers⟩
  | buffers text shut kept said deferred =>
      rw [kept, said, deferred]
      exact ⟨held ++ [text], conserved.hold text, defers.buffer text⟩
  | commits text kept said deferred =>
      rw [kept, said, deferred]
      refine ⟨[], ?_, .nothing⟩
      cases blank : isBlank text with
      | true =>
          rw [Mark.keep, if_pos blank]
          exact conserved.release (defers.carries_prepend_blank blank)
      | false =>
          rw [Mark.keep, if_neg (by rw [blank]; exact Bool.false_ne_true)]
          exact (conserved.hold text).release (defers.carries_prepend text)
  | replays text before kept said deferred =>
      rw [kept, said, deferred]
      rw [before] at defers
      exact ⟨[], conserved.release defers.carries, .nothing⟩
  | nudges message nudge kept said deferred =>
      rw [kept, said, deferred]
      exact ⟨held, conserved.skip (.nothing nudge), defers⟩

/-- What is deferred is not blank. -/
theorem Told.spoken (told : c.Told) {text : String} (deferred : c.seGuard.deferredTranscript = some text) :
    isBlank text = false := by
  obtain ⟨held, ⟨batches, order, -⟩, defers⟩ := told
  rw [deferred] at defers
  cases defers with
  | texts front last =>
      have kept : last ∈ keptTranscripts c.trail := by
        rw [← order]
        simp
      refine isBlank_joined front ?_
      rw [isBlank_trim]
      exact spoken_of_mem_kept kept

namespace Hears

/-- Marks that are no words of the user. -/
theorem of_marks (marks : List Mark) (trail : d.trail = c.trail ++ marks) (mute : marks.all Mark.isMute = true)
    (deferred : d.seGuard.deferredTranscript = c.seGuard.deferredTranscript) : Hears c d := by
  refine .stays ?_ ?_ deferred
  · rw [trail, keptTranscripts_append, foldl_keep_of_mute mute]
  · rw [trail, userMessages_append, userMessages_of_mute mute, List.append_nil]

/-- A step that leaves the trail and the deferred text alone hears nothing. -/
theorem of_still (trail : d.trail = c.trail)
    (deferred : d.seGuard.deferredTranscript = c.seGuard.deferredTranscript) : Hears c d :=
  .stays (congrArg keptTranscripts trail) (congrArg userMessages trail) deferred

/-- The guard behind a turn that starts while the user is quiet. -/
theorem deferred_startLlmTurn (quiet : e.turnPhase.isSpeaking = false) :
    e.startLlmTurn.seGuard.deferredTranscript = e.seGuard.deferredTranscript :=
  congrArg SideEffectToolsGuard.deferredTranscript (startLlmTurn_seGuard e quiet)

/-- A message with a turn keeps the transcripts. -/
theorem kept_message (trail : List Mark) (message : String) (speaking active : Bool) :
    keptTranscripts (trail ++ .userMessage message :: turnMarks speaking active) = keptTranscripts trail := by
  rw [keptTranscripts_append, List.foldl_cons, foldl_keep_turnMarks, Mark.keep_of_message]

/-- A message with a turn is told. -/
theorem said_message (trail : List Mark) (message : String) (speaking active : Bool) :
    userMessages (trail ++ .userMessage message :: turnMarks speaking active) = userMessages trail ++ [message] := by
  rw [userMessages_append]
  exact congrArg (userMessages trail ++ message :: ·) (userMessages_turnMarks speaking active)

/-- A transcript is committed behind what was deferred. -/
theorem commit {text message : String} (trail : e.trail = c.trail ++ [.transcript text])
    (quiet : e.turnPhase.isSpeaking = false) (drained : e.seGuard.deferredTranscript = none)
    (full : message = c.fullText text) : Hears c (e.commitTurnText message) := by
  subst full
  refine .commits text ?_ ?_ ((deferred_startLlmTurn (e := e.addUserMessage _) quiet).trans drained)
  · rw [commitTurnText_trail, kept_message, trail, keptTranscripts_append, List.foldl_cons, List.foldl_nil]
  · rw [commitTurnText_trail, said_message, trail, userMessages_append]
    exact congrArg (· ++ [c.fullText text]) (List.append_nil _)

/-- What was deferred is replayed. -/
theorem replay {text : String} (before : c.seGuard.deferredTranscript = some text) (marks : List Mark)
    (trail : e.trail = c.trail ++ marks) (mute : marks.all Mark.isMute = true) : Hears c (e.replayDeferred text) := by
  have front : e.trail ++ .cancel :: .interrupt :: .userMessage text :: turnMarks e.turnPhase.isSpeaking false =
      (e.trail ++ [.cancel, .interrupt]) ++ .userMessage text :: turnMarks e.turnPhase.isSpeaking false := by
    rw [List.append_assoc]
    rfl
  have kept : keptTranscripts (e.trail ++ [.cancel, .interrupt]) = keptTranscripts c.trail := by
    rw [keptTranscripts_append, foldl_keep_of_mute rfl, trail, keptTranscripts_append, foldl_keep_of_mute mute]
  have said : userMessages (e.trail ++ [.cancel, .interrupt]) = userMessages c.trail := by
    rw [userMessages_append, show userMessages [.cancel, .interrupt] = [] from rfl, trail, userMessages_append,
      userMessages_of_mute mute, List.append_nil, List.append_nil]
  refine .replays text before ?_ ?_ ?_
  · rw [replayDeferred_trail, front, kept_message, kept]
  · rw [replayDeferred_trail, front, said_message, said]
  · unfold replayDeferred
    cases speaking : (e.cancelPipeline.addUserMessage text).turnPhase.isSpeaking with
    | true =>
        rw [startLlmTurn_of_speaking speaking]
        rfl
    | false => exact deferred_startLlmTurn speaking

/-- A nudge forgets what is deferred if the user speaks. -/
theorem nudge {message : String} (is : isNudge message = true) (trail : e.trail = c.trail)
    (same : e.seGuard.deferredTranscript = c.seGuard.deferredTranscript)
    (forgets : e.turnPhase.isSpeaking = true → c.seGuard.deferredTranscript = none) :
    Hears c (e.startNudgeTurn message) := by
  refine .nudges message is ?_ ?_ ?_
  · rw [startNudgeTurn_trail, kept_message, trail]
  · rw [startNudgeTurn_trail, said_message, trail]
  · unfold startNudgeTurn
    rw [skipMarkerCheck_eq]
    cases speaking : (e.addUserMessage message).turnPhase.isSpeaking with
    | true =>
        rw [startLlmTurn_of_speaking speaking]
        exact (forgets speaking).symm
    | false => exact (deferred_startLlmTurn speaking).trans same

end Hears

/-- **Where nothing is lost.** -/
structure Safe (c : Coordinator β) (input : Input β) : Prop where
  /-- No hang-up is pending. -/
  free : c.hangUp.isPending = false
  keeps : c.losesSpeech input = false
  /-- Nothing is deferred while the words of a barge-in are counted. -/
  gate : c.turnPhase = .bargeInWordCount → c.seGuard.deferredTranscript = none
  /-- What is deferred is not blank. -/
  spoken : ∀ text, c.seGuard.deferredTranscript = some text → isBlank text = false
  /-- The watchdog fires in a window only. -/
  watch : ∀ key entry, c.timers.due key c.world.now = some entry → entry.value = .sideEffectTimeout →
    c.seGuard.isActive = true

namespace Safe

/-- Nothing is deferred where text would be lost. -/
theorem none_of_loses (safe : c.Safe input)
    (loses : (c.endsBargeIn input || ((c.endsWait input || c.nudgesIdle input) && c.turnPhase.isSpeaking) ||
      c.commitsLate input) = true) : c.seGuard.deferredTranscript = none := by
  have keeps := safe.keeps
  unfold Coordination.losesSpeech at keeps
  rw [loses, Bool.and_true] at keeps
  exact Option.isSome_eq_false_iff.1 keeps |> Option.isNone_iff_eq_none.1

/-- Nothing is deferred while the user speaks and a wait ends. -/
theorem none_of_wait (safe : c.Safe input) (ends : c.endsWait input = true) (speaking : c.turnPhase.isSpeaking = true) :
    c.seGuard.deferredTranscript = none := by
  apply safe.none_of_loses
  rw [ends, speaking, Bool.true_or, Bool.true_and, Bool.or_true, Bool.true_or]

/-- Nothing is deferred while the user speaks and a nudge is due. -/
theorem none_of_nudge (safe : c.Safe input) (nudges : c.nudgesIdle input = true)
    (speaking : c.turnPhase.isSpeaking = true) : c.seGuard.deferredTranscript = none := by
  apply safe.none_of_loses
  rw [nudges, speaking, Bool.or_true, Bool.true_and, Bool.or_true, Bool.true_or]

end Safe

/-- What the guard has deferred behind the completion of a tool. -/
theorem deferred_toolCompleted (g : SideEffectToolsGuard) (id : String)
    (last : g.inFlight ≤ 1 → g.deferredTranscript = none) :
    (g.toolCompleted id).1.deferredTranscript = g.deferredTranscript := by
  unfold SideEffectToolsGuard.toolCompleted
  dsimp only
  split
  · rfl
  · rename_i few
    exact (last (by omega)).symm

/-- A spoken text is deferred behind what was. -/
theorem deferred_bufferTranscript (g : SideEffectToolsGuard) {text : String} (spoken : isBlank text = false) :
    (g.bufferTranscript text).deferredTranscript =
      some (SideEffectToolsGuard.prepend g.deferredTranscript (trim text)) := by
  unfold SideEffectToolsGuard.bufferTranscript
  rw [if_neg (by rw [spoken]; exact Bool.false_ne_true)]
  cases g.deferredTranscript <;> rfl

/-- A blank transcript that is not buffered leaves nothing. -/
theorem hears_blank {text : String} (blank : isBlank text = true) (trail : d.trail = c.trail ++ [.transcript text])
    (deferred : d.seGuard.deferredTranscript = c.seGuard.deferredTranscript) : Hears c d := by
  refine .stays ?_ ?_ deferred
  · rw [trail, keptTranscripts_append, List.foldl_cons, List.foldl_nil, Mark.keep, if_pos blank]
  · rw [trail, userMessages_append]
    exact List.append_nil _

/-- A transcript is buffered. -/
theorem hears_buffered (text : String) (shut : c.seGuard.isActive = true ∨ c.turnPhase.isSpeaking = true) :
    Hears c ((c.leave (.transcript text)).bufferTranscript text) := by
  obtain ⟨guard, is, eq⟩ := bufferTranscript_eq text (c.leave (.transcript text))
  have is : c.seGuard.bufferTranscript text = guard := is.symm
  rw [eq]
  cases blank : isBlank text with
  | true =>
      have same : c.seGuard.bufferTranscript text = c.seGuard := by
        unfold SideEffectToolsGuard.bufferTranscript
        rw [if_pos blank]
      exact hears_blank blank rfl (congrArg SideEffectToolsGuard.deferredTranscript (is.symm.trans same))
  | false =>
      have deferred := deferred_bufferTranscript c.seGuard blank
      rw [is] at deferred
      refine .buffers text shut ?_ ?_ deferred
      · rw [leave_trail, keptTranscripts_append, List.foldl_cons, List.foldl_nil, Mark.keep,
          if_neg (by rw [blank]; exact Bool.false_ne_true)]
      · rw [leave_trail, userMessages_append]
        exact List.append_nil _

/-- A transcript that is rejected, or comes too late, leaves nothing. -/
theorem hears_dropped {text : String} (mark : Mark) (drops : Mark.keep (Mark.keep (keptTranscripts c.trail)
    (.transcript text)) mark = keptTranscripts c.trail) (unsaid : mark.said = none)
    (trail : d.trail = c.trail ++ [.transcript text, mark])
    (deferred : d.seGuard.deferredTranscript = c.seGuard.deferredTranscript) : Hears c d := by
  refine .stays ?_ ?_ deferred
  · rw [trail, keptTranscripts_append, List.foldl_cons, List.foldl_cons, List.foldl_nil, drops]
  · have silent : userMessages [.transcript text, mark] = [] := by
      unfold userMessages
      rw [List.filterMap_cons_none (by rfl), List.filterMap_cons_none unsaid, List.filterMap_nil]
    rw [trail, userMessages_append, silent, List.append_nil]

/-- Nothing is deferred behind blank text. -/
theorem Safe.none_of_blank (safe : c.Safe input) {text : String} (blank : isBlank (c.fullText text) = true) :
    c.seGuard.deferredTranscript = none ∧ isBlank text = true := by
  unfold Coordinator.fullText at blank
  cases deferred : c.seGuard.deferredTranscript with
  | none =>
      rw [deferred] at blank
      exact ⟨rfl, blank⟩
  | some front =>
      rw [deferred] at blank
      unfold SideEffectToolsGuard.prepend at blank
      rw [isBlank_append, isBlank_append, safe.spoken front deferred] at blank
      cases blank

open Hears in
/-- **An outcome from a safe state**, in a call that goes on. -/
theorem hears_of_outcome (safe : c.Safe input) (goesOn : d.shouldExit = false) (free : d.hangUp.isPending = false)
    (out : Outcome c input d) : Hears c d := by
  -- The call goes on, so an outcome that ends it is impossible.
  have ended : ∀ {P : Prop}, d.shouldExit = true → P := fun exits => absurd (goesOn.symm.trans exits) Bool.false_ne_true
  cases out with
  | nothing | engaged | shielded | awaiting | heldBack | noEvent | roundSpoken | staleTimer | fallbackFired
  | waitOvertaken | idleIgnored => exact .of_still rfl rfl
  | speechBegun pending quiet =>
      have begun : (c.engage.beginSpeech c.isPipelineActive).trail = _ := beginSpeech_trail c.engage quiet
      -- Where speech begins the guard of the tools stays as it is.
      have same : (c.engage.beginSpeech c.isPipelineActive).seGuard = c.seGuard := by
        unfold beginSpeech
        rw [if_neg (by exact fun speaking => Bool.false_ne_true (quiet.symm.trans speaking))]
        rfl
      split at begun
      · exact .of_marks [.interrupt] begun rfl (congrArg SideEffectToolsGuard.deferredTranscript same)
      · exact .of_still begun (congrArg SideEffectToolsGuard.deferredTranscript same)
  | @talkedOver audio verdict window phase =>
      have ends : c.endsBargeIn (.vad (.speechEnded audio) verdict) = true := by
        unfold Coordination.endsBargeIn
        dsimp only
        rw [window, phase]
        rfl
      -- Speech that ends a barge-in would lose a deferred transcript; a safe state has none.
      have none := safe.none_of_loses (by rw [ends, Bool.true_or, Bool.true_or])
      exact .of_marks [.cancel, .interrupt] rfl rfl none.symm
  | unheard h =>
      rcases h with pending | blank
      · exact absurd (safe.free.symm.trans pending) Bool.false_ne_true
      · exact hears_blank blank rfl rfl
  | buffered pending shut => exact hears_buffered _ shut
  | @blankTurn text pending window phase blank =>
      obtain ⟨none, blank⟩ := safe.none_of_blank blank
      refine hears_blank blank (startIdleTimer_trail _ _ _) ?_
      rw [startIdleTimer_seGuard]
      exact none.symm
  | @turnCommitted text => exact .commit rfl rfl rfl rfl
  | @bargeInCommitted text pending window phase accepted =>
      -- A barge-in is committed with nothing deferred.
      have none := safe.gate phase
      refine .commit rfl rfl none ?_
      unfold fullText
      rw [none]
      rfl
  | @bargeInRejected text =>
      refine hears_dropped (.bargeInRejected text) (keep_rejected _ _) rfl ?_ ?_
      · rw [startIdleTimer_trail]
        exact List.append_assoc _ _ _
      · rw [startIdleTimer_seGuard]
        rfl
  | @lateDropped text =>
      exact hears_dropped (.lateTranscriptDropped text) (keep_dropped _ _) rfl (List.append_assoc _ _ _) rfl
  | @lateCommitted text pending window phase idle =>
      -- A blank transcript counts as a nudge, one with words as the user's message.
      cases blank : isBlank text with
      | true =>
          refine .nudges text (isNudge_of_blank blank) ?_ ?_ ?_
          · rw [commitTurnText_trail, kept_message, listen_trail, leave_trail, keptTranscripts_append, List.foldl_cons,
              List.foldl_nil, Mark.keep, if_pos blank]
          · rw [commitTurnText_trail, said_message, listen_trail, leave_trail, userMessages_append]
            exact congrArg (· ++ [text]) (List.append_nil _)
          · exact deferred_startLlmTurn (e := (c.leave (.transcript text)).listen.addUserMessage text) rfl
      | false =>
          have late : c.commitsLate (.stt (.transcript text)) = true := by
            unfold Coordination.commitsLate
            dsimp only
            rw [window, phase, idle, blank]
            rfl
          have none := safe.none_of_loses (by rw [late, Bool.or_true])
          refine .commit rfl rfl none ?_
          unfold fullText
          rw [none]
          rfl
  | @streamed poll llm text | @suppressed poll llm text => exact .of_marks [.llmEvent (.token text)] rfl rfl rfl
  | @toolStarted poll llm id name sideEffect active yields =>
      refine .of_marks [.llmEvent (.toolCallStarted id name sideEffect)] (toolCallStarted_trail _ _ _ _) rfl ?_
      unfold toolCallStarted
      split <;> rfl
  | @toolCounted poll llm id name success errorMessage active yields more =>
      exact .of_marks [.llmEvent (.toolCallCompleted id name success errorMessage)] rfl rfl
        (deferred_toolCompleted c.seGuard id fun few => absurd few (Nat.not_le.2 more))
  | @windowEnded poll llm id name success errorMessage active yields last deferred =>
      exact .of_marks [.llmEvent (.toolCallCompleted id name success errorMessage)] rfl rfl
        (deferred_toolCompleted c.seGuard id fun _ => deferred)
  | @windowReplayed poll llm id name text success errorMessage active yields last deferred =>
      exact .replay deferred [.llmEvent (.toolCallCompleted id name success errorMessage)] rfl rfl
  | @suppressedFinished poll llm content =>
      refine .of_marks [.llmEvent (.finished content)] ?_ rfl ?_
      · rw [startIdleTimer_trail, saveSuppressedResponse_trail]
        rfl
      · rw [startIdleTimer_seGuard, saveSuppressedResponse_seGuard]
        rfl
  | @lateSuppressed poll llm content =>
      refine .of_marks [.llmEvent (.finished content)] ?_ rfl ?_
      · rw [saveSuppressedResponse_trail]
        rfl
      · rw [saveSuppressedResponse_seGuard]
        rfl
  | @finished poll llm content => exact .of_marks [.llmEvent (.finished content)] rfl rfl rfl
  | @llmFailed poll llm message =>
      refine .of_marks [.llmEvent (.error message)] (startIdleTimer_trail _ _ _) rfl ?_
      rw [startIdleTimer_seGuard]
      rfl
  | @held poll llm durationSecs =>
      refine .of_marks [.llmEvent (.onHold durationSecs)] (startIdleTimer_trail _ _ _) rfl ?_
      rw [startIdleTimer_seGuard]
      rfl
  | hangUpPending => cases free
  | hungUp | goodbyePlayed | idleHungUp | delayOver => exact ended rfl
  | goodbyeSpoken => cases free
  | @reported poll llm data => exact .of_marks [.llmEvent (.llmComplete data)] rfl rfl rfl
  | audioSent => exact .of_marks [.audio false] rfl rfl rfl
  | greetingSpoken remaining =>
      refine .of_still (finishGreeting_trail _ _) ?_
      unfold finishGreeting
      rw [startIdleTimer_seGuard]
      rfl
  | turnSpoken | ttsFailed | transcriptOverdue =>
      refine .of_still (startIdleTimer_trail _ _ _) ?_
      rw [startIdleTimer_seGuard]
      rfl
  | responseReplayed due value fires idle saved =>
      have ends := Coordination.endsWait_of_due due value fires idle
      -- A response that is replayed while the user speaks is cancelled at once.
      cases speaking : c.turnPhase.isSpeaking with
      | true =>
          rw [startTtsForTurn_of_speaking (by exact speaking)]
          exact .of_marks [.startTts true, .cancel, .interrupt] (List.append_assoc _ _ _) rfl
            (safe.none_of_wait ends speaking).symm
      | false =>
          rw [startTtsForTurn_of_quiet (by exact speaking)]
          exact .of_marks [.startTts false] rfl rfl rfl
  | @waitNudged key entry isShort reengagement due value fires idle unsaved =>
      have ends := Coordination.endsWait_of_due due value fires idle
      refine .nudge (isNudge_of_mem ?_) rfl rfl fun speaking => safe.none_of_wait ends speaking
      cases isShort <;> simp
  | idleNudged due value fires nudge =>
      have nudges := Coordination.nudgesIdle_of_due due value fires nudge
      exact .nudge (isNudge_of_mem (by simp)) rfl rfl fun speaking => safe.none_of_nudge nudges speaking
  | watchdogLate due value window =>
      exact absurd (window.symm.trans (safe.watch _ _ due value)) Bool.false_ne_true
  | watchdogReplayed due value window deferred => exact .replay deferred [] (List.append_nil _).symm rfl
  | watchdogCancelled due value window deferred => exact .of_marks [.cancel, .interrupt] rfl rfl deferred.symm

/-- The words of a barge-in are counted behind its end only. -/
theorem counts_of_outcome (out : Outcome c input d) (counts : d.turnPhase = .bargeInWordCount) :
    c.turnPhase = .bargeInWordCount ∨ d.seGuard = .default := by
  cases out with
  | talkedOver => exact .inr rfl
  | @buffered text =>
      obtain ⟨guard, -, eq⟩ := bufferTranscript_eq text (c.leave (.transcript text))
      rw [eq] at counts
      exact .inl counts
  | nothing | engaged | unheard | noEvent | streamed | suppressed | toolCounted | windowEnded
  | finished | hangUpPending | hungUp | reported | audioSent | roundSpoken | goodbyePlayed | goodbyeSpoken
  | staleTimer | waitOvertaken | idleHungUp | idleIgnored | watchdogLate | watchdogCancelled | delayOver =>
      exact .inl counts
  | speechBegun free quiet =>
      -- Speech that begins ends the count.
      unfold beginSpeech at counts
      rw [if_neg (by exact fun speaking => Bool.false_ne_true (quiet.symm.trans speaking))] at counts
      cases counts
  | shielded | awaiting | heldBack | lateDropped | fallbackFired => cases counts
  | blankTurn | bargeInRejected | transcriptOverdue =>
      rw [startIdleTimer_turnPhase] at counts
      cases counts
  | turnCommitted | bargeInCommitted | lateCommitted =>
      rw [commitTurnText_turnPhase] at counts
      cases counts
  | toolStarted =>
      rw [toolCallStarted_turnPhase] at counts
      exact .inl counts
  | windowReplayed | watchdogReplayed =>
      rw [replayDeferred_turnPhase] at counts
      exact .inl counts
  | suppressedFinished =>
      rw [startIdleTimer_turnPhase, saveSuppressedResponse_turnPhase] at counts
      exact .inl counts
  | lateSuppressed =>
      rw [saveSuppressedResponse_turnPhase] at counts
      exact .inl counts
  | llmFailed | held | turnSpoken | ttsFailed =>
      rw [startIdleTimer_turnPhase] at counts
      exact .inl counts
  | greetingSpoken =>
      unfold finishGreeting at counts
      rw [startIdleTimer_turnPhase] at counts
      exact .inl counts
  | responseReplayed =>
      rw [startTtsForTurn_turnPhase] at counts
      exact .inl counts
  | waitNudged | idleNudged =>
      rw [startNudgeTurn_turnPhase] at counts
      exact .inl counts

/-- **What holds of a call in which nothing the user says is lost.** -/
structure Heard (c : Coordinator β) : Prop where
  told : c.Told
  free : c.hangUp.isPending = false
  gate : c.turnPhase = .bargeInWordCount → c.seGuard.deferredTranscript = none
  quiet : c.Quiet
  watched : c.seGuard.timeoutKey.isSome = true → c.seGuard.isActive = true
  accounted : c.AccountedFor

namespace Heard

/-- A state in which all was heard is safe for a step that loses nothing. -/
theorem safe (heard : c.Heard) (keeps : c.losesSpeech input = false) : c.Safe input where
  free := heard.free
  keeps := keeps
  gate := heard.gate
  spoken := fun _ => heard.told.spoken
  watch := by
    obtain ⟨strays, delays, accounted⟩ := heard.accounted
    intro key entry due value
    have awaited := awaited_of_due_ne accounted delays due value nofun
    exact heard.watched (congrArg Option.isSome awaited)

/-- The watchdog stays with the window. -/
theorem watched_of_outcome (watched : c.seGuard.timeoutKey.isSome = true → c.seGuard.isActive = true)
    (out : Outcome c input d) : d.seGuard.timeoutKey.isSome = true → d.seGuard.isActive = true := by
  cases windowing_of_outcome out with
  | kept same tools =>
      obtain ⟨inFlight, -, timeoutKey⟩ := same
      unfold SideEffectToolsGuard.isActive at watched ⊢
      rw [timeoutKey, inFlight]
      exact watched
  | emptied guard tools =>
      rw [guard]
      exact nofun
  | closed window guard tools =>
      rw [guard]
      exact nofun
  | started yields guard tools =>
      rw [guard]
      exact fun _ => decide_eq_true (Nat.succ_pos _)
  | @completed id name success errorMessage yields guard tools =>
      rw [guard]
      unfold SideEffectToolsGuard.toolCompleted
      dsimp only
      split
      · rename_i more
        exact fun _ => decide_eq_true more
      · exact nofun

/-- **A step** at which nothing is lost and the call goes on. -/
theorem outcome (heard : c.Heard) (keeps : c.losesSpeech input = false) (goesOn : d.shouldExit = false)
    (free : d.hangUp.isPending = false) (out : Outcome c input d) : d.Heard := by
  have hears := hears_of_outcome (heard.safe keeps) goesOn free out
  obtain ⟨strays, delays, accounted⟩ := heard.accounted
  obtain ⟨strays', delays', accounted', -⟩ := accounted.outcome delays out
  refine ⟨heard.told.hears hears, free, fun counts => ?_, heard.quiet.outcome out,
    watched_of_outcome heard.watched out, strays', delays', accounted'⟩
  rcases counts_of_outcome out counts with before | guard
  · have none := heard.gate before
    cases hears with
    | stays kept said deferred => exact deferred.trans none
    | buffers text shut kept said deferred =>
        have idle := (heard.quiet (by rw [before]; rfl)).1
        have window : c.seGuard.isActive = false := by
          unfold Coordination.isPipelineActive at idle
          exact (Bool.or_eq_false_iff.1 idle).2
        rcases shut with active | speaking
        · exact absurd (window.symm.trans active) Bool.false_ne_true
        · rw [before] at speaking
          cases speaking
    | commits text kept said deferred => exact deferred
    | replays text before kept said deferred => exact deferred
    | nudges message nudge kept said deferred => exact deferred.trans none
  · rw [guard]
    rfl

end Heard

/-- A session starts with nothing heard. -/
theorem Opened.heard (opened : c.Opened) : c.Heard := by
  have guard := opened.seGuard
  have free : c.hangUp.isPending = false := by
    cases opened with
    | waiting fresh | greeted fresh =>
        rw [startIdleTimer_hangUp]
        exact congrArg HangUpPhase.isPending fresh.hangUp
    | greeting fresh ws =>
        rw [startTtsForTurn_of_quiet (congrArg TurnPhase.isSpeaking fresh.turnPhase)]
        exact congrArg HangUpPhase.isPending fresh.hangUp
  have told : c.Told := by
    refine ⟨[], ?_, by rw [guard]; exact .nothing⟩
    rcases opened.trail with trail | trail | trail
    all_goals
      rw [trail]
      exact .empty
  refine ⟨told, free, fun _ => ?_, opened.quiet, ?_, 0, fun _ mem => absurd mem (Multiset.notMem_zero _),
    opened.accounted⟩
  · rw [guard]
    rfl
  · rw [guard]
    exact nofun

end Coordinator

/-! ## Runs -/

namespace Reactor

variable {β : Type} [AgentBackend β]

/-- **The speech of the user is kept**: the transcripts to be kept are carried by the messages to the agent, one
behind the other, and those that no message carries yet are deferred. -/
def SpeechKept (r : Reactor β) : Prop :=
  ∃ held, Conserved Carries (keptTranscripts r.core.trail) held (r.log.filterMap Effect.said) ∧
    Defers held r.seGuard.deferredTranscript

/-- No hang-up is decided on in a step, and the call goes on. -/
def NoHangUp (r : Reactor β) (m : Moment β) : Prop :=
  (r.step m).hangUp.isPending = false ∧ (r.step m).shouldExit = false

instance (r : Reactor β) (m : Moment β) : Decidable (r.NoHangUp m) := inferInstanceAs (Decidable (_ ∧ _))

/-- **No user speech is lost, doubled or reordered**, in every run without a hang-up at no step of which deferred
speech is lost or overtaken. -/
theorem speech_kept {r₀ : Reactor β} (started : Started r₀) {moments : List (Moment β)}
    (goesOn : Along step NoHangUp r₀ moments)
    (keeps : Along step (fun r m => (r.setWorld m.world).losesSpeech m.input = false) r₀ moments)
    {front : List (Moment β)} (here : front <+: moments) : (run step r₀ front).SpeechKept := by
  have both := along_and.2 ⟨goesOn.of_prefix here, keeps.of_prefix here⟩
  have kept : ∀ (r : Reactor β) (m : Moment β), r.core.Heard →
      r.NoHangUp m ∧ (r.setWorld m.world).losesSpeech m.input = false → (r.step m).core.Heard := by
    rintro r m heard ⟨⟨free, goesOn⟩, keeps⟩
    cases exits : r.shouldExit with
    | true =>
        rw [step_of_shouldExit exits]
        exact heard
    | false =>
        have same : (r.core.setWorld m.world).Heard := ⟨heard.told, heard.free, heard.gate, heard.quiet,
          heard.watched, heard.accounted⟩
        exact same.outcome keeps goesOn free (step_outcome exits m)
  obtain ⟨held, conserved, defers⟩ := (Run.invariant kept started.opened.heard both).told
  refine ⟨held, ?_, defers⟩
  rw [show userMessages (run step r₀ front).core.trail = (run step r₀ front).log.filterMap Effect.said from
    userMessages_marks _] at conserved
  exact conserved

/-- The user says something in two pieces, the first of which is transcribed while the second is spoken. -/
def pieces : List (Moment AnyBackend) :=
  [calmly 1 (.vad .speechStarted true), calmly 2 (.stt (.transcript "I want to")), calmly 3 (.vad (.speechEnded []) true),
    calmly 4 (.stt (.transcript "book a table"))]

/-- Both are in the message. -/
theorem speech_kept_pieces : (run step (session {}) pieces).SpeechKept :=
  speech_kept (started_session {}) (by decide +kernel) (by decide +kernel) List.prefix_rfl

/-- The agent is talked over, and the words are transcribed before the user stops. -/
def talkedOver : List (Moment AnyBackend) :=
  [calmly 1 (.vad .speechStarted true), calmly 2 (.vad (.speechEnded []) true), calmly 3 (.stt (.transcript "hello")),
    calmly 4 (.vad .speechStarted true), calmly 5 (.stt (.transcript "wait")), calmly 6 (.vad (.speechEnded []) true)]

/-- The second piece comes late. -/
def late : List (Moment AnyBackend) :=
  pieces.take 3 ++ [calmly 5 (.timer 0), calmly 6 (.stt (.transcript "book a table"))]

/-- A character of what is contained is in the whole. -/
theorem mem_of_contains {whole text : String} {c : Char} (mem : c ∈ (trim text).toList)
    (contains : ∃ before after, whole = before ++ trim text ++ after) : c ∈ whole.toList := by
  obtain ⟨before, after, rfl⟩ := contains
  rw [String.toList_append, String.toList_append]
  exact List.mem_append_left _ (List.mem_append_right _ mem)

/-- **Speech is lost** when its barge-in ends, **and overtaken** by a late transcript. -/
theorem speech_lost :
    (Along step NoHangUp (session {}) talkedOver ∧ ¬ (run step (session {}) talkedOver).SpeechKept) ∧
      Along step NoHangUp (session {}) late ∧ ¬ (run step (session {}) late).SpeechKept := by
  refine ⟨⟨by decide +kernel, ?_⟩, by decide +kernel, ?_⟩
  · rintro ⟨held, ⟨batches, order, carried⟩, defers⟩
    rw [show (run step (session {}) talkedOver).seGuard.deferredTranscript = none by decide +kernel] at defers
    rw [defers.eq_nil, List.append_nil,
      show keptTranscripts (run step (session {}) talkedOver).core.trail = ["hello", "wait"] by decide +kernel] at order
    rw [show (run step (session {}) talkedOver).log.filterMap Effect.said = ["hello"] by decide +kernel] at carried
    obtain ⟨batch, none, carries, rest, rfl⟩ := List.forall₂_cons_right_iff.1 carried
    rw [List.forall₂_nil_right_iff.1 rest, List.flatten_singleton] at order
    have here : "wait" ∈ batch := by
      rw [order]
      decide
    have absent : 'w' ∉ "hello".toList := by decide
    exact absent (mem_of_contains (by decide +kernel) (carries.contains here))
  · rintro ⟨held, ⟨batches, order, carried⟩, defers⟩
    rw [show (run step (session {}) late).seGuard.deferredTranscript = some "I want to" by decide +kernel] at defers
    rw [show keptTranscripts (run step (session {}) late).core.trail = ["I want to", "book a table"] by
      decide +kernel] at order
    rw [show (run step (session {}) late).log.filterMap Effect.said = ["book a table"] by decide +kernel] at carried
    obtain ⟨batch, none, carries, rest, rfl⟩ := List.forall₂_cons_right_iff.1 carried
    rw [List.forall₂_nil_right_iff.1 rest, List.flatten_singleton] at order
    -- The message has the second piece only, so the first is not in front of it.
    have first : "I want to" ∉ batch := by
      intro here
      have absent : 'w' ∉ "book a table".toList := by decide
      exact absent (mem_of_contains (by decide +kernel) (carries.contains here))
    have second : "book a table" ∉ held := by
      intro here
      have absent : 'b' ∉ "I want to".toList := by decide
      exact absent (mem_of_contains (by decide +kernel) (defers.contains here))
    cases batch with
    | nil =>
        rw [List.nil_append] at order
        exact second (by rw [order]; decide)
    | cons head batch =>
        have here : head = "I want to" := (List.cons.inj order).1
        exact first (here ▸ List.mem_cons_self)

end Reactor

end Feros
