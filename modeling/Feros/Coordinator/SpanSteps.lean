import Feros.Coordinator.Conditions
import Feros.Coordinator.Refinement
import Feros.Coordinator.Spans
/-! # What one iteration does to the turn span

The handlers, one after the other: a transcript may open a span, an event of the LLM or a timer may make the
reactor speak, the end of synthesis closes a span or reports the greeting, and everything may be cancelled.

`span_step` is the inversion lemma: what one iteration can do to the view. -/

namespace Feros

namespace SpanView

/-- **What a transcript does to the span**: if it is committed, a span opens, and otherwise nothing. -/
inductive Transcribed (v : SpanView) (commits : Bool) : SpanView → Prop
  | ignored : Transcribed v commits v
  | committed {w : SpanView} (taken : commits = true) (may : MayCancel v.start w) : Transcribed v commits w

/-- **What the end of synthesis does to the span**: nothing in a tool round, else the greeting or a turn is
over. -/
inductive Synthesised (v : SpanView) (greeting : Bool) : SpanView → Prop
  | quiet : Synthesised v greeting v
  | dropped : Synthesised v greeting v.cancel
  | greeted (ends : greeting = true) {event : Event} (report : event.isTtsComplete = true) :
      Synthesised v greeting (v.emit [event]).cancel
  | closed {w : SpanView} (report : Option (String × String × String)) (may : MayCancel (v.finish report) w) :
      Synthesised v greeting w

end SpanView

/-! ## Turn events -/

/-- The action neither cancels nor commits. -/
def TurnAction.isMild : TurnAction → Bool
  | .cancelPipeline | .commitTurn _ | .commitBargeIn _ | .commitLateTranscript _ => false
  | _ => true

/-- The text a token makes the reactor speak. -/
def TokenAction.spoken : TokenAction → String
  | .passthrough token => cleanForTts token
  | .markerCheckCompleted (some .incompleteShort) _ => ""
  | .markerCheckCompleted (some .incompleteLong) _ => ""
  | .markerCheckCompleted _ emittedText => cleanForTts emittedText
  | _ => ""

/-- The text the end of the stream makes the reactor speak. -/
def TokenAction.spokenLate : Option TokenAction → String
  | some (.markerCheckCompleted marker emittedText) => (markerCheckCompleted marker emittedText).spoken
  | _ => ""

/-- What the statechart does at the end of speech that was talked over. -/
def TurnPhase.bargeInActions : List TurnAction :=
  [.trace "BargeIn", .emitAgentEvent "barge_in", .cancelPipeline, .finalizeStt, .markSttFinalizeSent]

/-- A transition that hears no transcript does nothing to the spans, or is a barge-in. -/
theorem TurnPhase.mild_or_bargeIn (phase : TurnPhase) {event : TurnEvent}
    (silent : ∀ text, event ≠ .transcript text) :
    (phase.transition event).2.all TurnAction.isMild = true ∨ (phase.transition event).2 = bargeInActions := by
  have flush (sent : Bool) : (flushActions sent).all TurnAction.isMild = true := by cases sent <;> rfl
  cases event with
  | transcript text => exact absurd rfl (silent text)
  | speechStarted active sent =>
      rcases phase with _ | (_ | _) | _ | _ | _ | _ <;> first | exact .inl (flush sent) | exact .inl rfl
  | speechEnded complete =>
      cases phase with
      | userSpeaking active =>
          cases active with
          | true => exact .inr rfl
          | false => cases complete <;> exact .inl rfl
      | listening | waitingForTranscript _ | transcriptTimedOut | eotFallback _ | bargeInWordCount =>
          exact .inl rfl
  | sttTimeout | eotFallback => rcases phase with _ | (_ | _) | _ | _ | _ | _ <;> exact .inl rfl

/-- The phase commits a transcript. -/
def Coordination.takes {β : Type} [AgentBackend β] (c : Coordination β) (text : String) : TurnPhase → Bool
  | .listening => !isBlank text && !isBlank (SideEffectToolsGuard.prepend c.seGuard.deferredTranscript text)
  | .userSpeaking _ => false
  | .waitingForTranscript _ => !isBlank (SideEffectToolsGuard.prepend c.seGuard.deferredTranscript text)
  | .eotFallback _ => !isBlank (SideEffectToolsGuard.prepend c.seGuard.deferredTranscript text)
  | .transcriptTimedOut => !c.isPipelineActive
  | .bargeInWordCount => shouldAccept true ((c.unicodeWords text).length % 2 ^ 32) c.config.minBargeInWords

/-- **A transcript is about to be committed** as a turn. -/
def Coordination.commits {β : Type} [AgentBackend β] (c : Coordination β) (text : String) : Bool :=
  !c.hangUp.isPending && !c.seGuard.isActive && c.takes text c.turnPhase

namespace Reactor

variable {β : Type} [AgentBackend β] (r : Reactor β)

open SpanView (MayCancel Speaks Transcribed Synthesised)

/-- A mild action leaves the spans alone. -/
theorem spans_executeTurnAction {action : TurnAction} (mild : action.isMild = true) :
    (r.executeTurnAction action).spans = r.spans := by
  unfold executeTurnAction
  cases action with
  | cancelPipeline | commitTurn _ | commitBargeIn _ | commitLateTranscript _ => cases mild
  | emitInterrupt => exact r.spans_emit_other rfl
  | emitAgentEvent kind => exact r.spans_emit_other rfl
  | trace name => exact r.spans_trace name
  | finalizeStt => exact r.spans_finalizeStt
  | cancelTimer key => exact r.spans_removeTimer _
  | startIdleTimer => exact r.spans_startIdleTimer
  | bufferTranscript text => exact r.spans_setSeGuard _
  | clearBotAudioSent => exact r.spans_setBotAudioSent false
  | markSpeechEnded => exact r.spans_markSpeechEnded
  | markSttFinalizeSent => rfl

/-- Mild actions leave the spans alone. -/
theorem spans_executeActions {actions : List TurnAction} (mild : actions.all TurnAction.isMild = true) :
    (r.executeActions actions).spans = r.spans := by
  unfold executeActions
  induction actions generalizing r with
  | nil => rfl
  | cons action actions ih =>
      rw [List.all_cons, Bool.and_eq_true] at mild
      rw [List.foldl_cons, ih _ mild.2, spans_executeTurnAction r mild.1]

/-- The next phase leaves the spans alone. -/
@[simp] theorem spans_resolveNextPhase (next : NextPhase) : (r.resolveNextPhase next).spans = r.spans := by
  cases next <;> exact spans_congr rfl rfl

/-- A mild transition leaves the spans alone. -/
theorem spans_runTransition {event : TurnEvent} (mild : (r.turnPhase.transition event).2.all TurnAction.isMild = true) :
    (r.runTransition event).spans = r.spans :=
  (spans_executeActions _ mild).trans (r.spans_resolveNextPhase _)

/-- Without a transcript only speech that was talked over cancels. -/
theorem mayCancel_runTransition {event : TurnEvent} (silent : ∀ text, event ≠ .transcript text) :
    MayCancel r.spans (r.runTransition event).spans := by
  rcases TurnPhase.mild_or_bargeIn r.turnPhase silent with mild | bargeIn
  · exact .of_eq (r.spans_runTransition mild)
  · have same : (((r.resolveNextPhase (r.turnPhase.transition event).1).trace "BargeIn").emitAgentEvent
        "barge_in").spans = r.spans := by
      unfold emitAgentEvent
      rw [spans_emit, spans_trace, spans_resolveNextPhase]
      exact SpanView.emit_nil _
    unfold runTransition
    dsimp only
    rw [bargeIn]
    unfold executeActions
    dsimp only [TurnPhase.bargeInActions, List.foldl, executeTurnAction]
    rw [spans_finalizeStt, spans_cancelPipeline, same]
    exact .cancels

/-- An event of the turn that hears no transcript can only cancel. -/
theorem mayCancel_dispatchTurnEvent (event : TurnEvent) (silent : ∀ text, event ≠ .transcript text) :
    MayCancel r.spans (r.dispatchTurnEvent event).spans := by
  unfold dispatchTurnEvent
  split
  · exact .stays
  · exact .stays
  · exact absurd rfl (silent _)
  · exact .of_eq r.spans_finalizeStt
  · exact r.mayCancel_runTransition silent

/-- **A turn that is committed** is transcribed, if it is one. -/
theorem transcribed_commitTurn {s : Reactor β} (text : String) (same : s.spans = r.spans)
    (commits : isBlank (SideEffectToolsGuard.prepend s.seGuard.deferredTranscript text) = false → r.commits text = true) :
    Transcribed r.spans (r.commits text) (s.executeTurnAction (.commitTurn text)).spans := by
  unfold executeTurnAction SideEffectToolsGuard.takeDeferred
  dsimp only
  split
  · rw [spans_startIdleTimer, spans_setSeGuard, same]
    exact .ignored
  · rename_i spoken
    have opened := mayCancel_commitTurnText (s.setSeGuard { s.seGuard with deferredTranscript := none })
      (SideEffectToolsGuard.prepend s.seGuard.deferredTranscript text)
    rw [spans_setSeGuard, same] at opened
    exact .committed (commits (eq_false_of_ne_true spoken)) opened

/-- The turn of a late transcript, or of a barge-in. -/
theorem transcribed_commitTurnText {s : Reactor β} (text : String) (same : s.spans = r.spans)
    (commits : r.commits text = true) : Transcribed r.spans (r.commits text) (s.commitTurnText text).spans := by
  have opened := s.mayCancel_commitTurnText text
  rw [same] at opened
  exact .committed commits opened

/-- **A transcript** in a phase. -/
theorem transcribed_runTransition (text : String) (pending : r.hangUp.isPending = false)
    (window : r.seGuard.isActive = false) : Transcribed r.spans (r.commits text) (r.runTransition (.transcript text)).spans := by
  have commits (takes : r.takes text r.turnPhase = true) : r.commits text = true := by
    unfold Coordination.commits
    rw [pending, window, takes]
    rfl
  have runs {actions : List TurnAction}
      (moves : r.turnPhase.transition (.transcript text) = (.set .listening, actions)) :
      r.runTransition (.transcript text) = (r.setTurnPhase .listening).executeActions actions := by
    unfold runTransition
    rw [moves]
    rfl
  -- behind what takes the timer back and sets the anchor
  have waited (key : Key)
      (moves : r.turnPhase.transition (.transcript text) =
        (.set .listening, [.cancelTimer key, .markSpeechEnded, .commitTurn text]))
      (takes : r.takes text r.turnPhase =
        !isBlank (SideEffectToolsGuard.prepend r.seGuard.deferredTranscript text)) :
      Transcribed r.spans (r.commits text) (r.runTransition (.transcript text)).spans := by
    rw [runs moves, executeActions_cons, executeActions_cons, executeActions_cons, executeActions_nil]
    apply r.transcribed_commitTurn
    · rw [spans_executeTurnAction _ rfl, spans_executeTurnAction _ rfl, spans_setTurnPhase]
    · intro spoken
      apply commits
      rw [takes, Bool.not_eq_true']
      exact spoken
  cases phase : r.turnPhase with
  | listening =>
      by_cases blank : isBlank text = true
      · have moves : r.turnPhase.transition (.transcript text) = (.set .listening, []) := by
          rw [phase, TurnPhase.transition, if_pos blank]
        rw [runs moves, executeActions_nil, spans_setTurnPhase]
        exact .ignored
      · have moves : r.turnPhase.transition (.transcript text) = (.set .listening, [.commitTurn text]) := by
          rw [phase, TurnPhase.transition, if_neg blank]
        rw [runs moves, executeActions_cons, executeActions_nil]
        refine r.transcribed_commitTurn text (r.spans_setTurnPhase .listening) fun spoken => commits ?_
        rw [phase, Coordination.takes, eq_false_of_ne_true blank, Bool.not_false, Bool.true_and, Bool.not_eq_true']
        exact spoken
  | userSpeaking active =>
      -- While the user speaks nothing is committed.
      have mild : (r.turnPhase.transition (.transcript text)).2.all TurnAction.isMild = true := by
        rw [phase]
        cases active <;> rfl
      rw [r.spans_runTransition mild]
      exact .ignored
  | waitingForTranscript key => exact waited key (by rw [phase]; rfl) (by rw [phase]; rfl)
  | eotFallback key => exact waited key (by rw [phase]; rfl) (by rw [phase]; rfl)
  | transcriptTimedOut =>
      have moves : r.turnPhase.transition (.transcript text) =
          (.set .listening, [.markSpeechEnded, .commitLateTranscript text]) := by
        rw [phase]
        rfl
      have same : ((r.setTurnPhase .listening).executeTurnAction .markSpeechEnded).spans = r.spans := by
        rw [spans_executeTurnAction _ rfl, spans_setTurnPhase]
      rw [runs moves, executeActions_cons, executeActions_cons, executeActions_nil]
      -- The anchor changes no span, so the commit is looked at behind it.
      generalize marked : (r.setTurnPhase .listening).executeTurnAction .markSpeechEnded = s at same ⊢
      have idle : s.isPipelineActive = r.isPipelineActive := by
        rw [← marked]
        rfl
      unfold executeTurnAction
      dsimp only
      by_cases busy : s.isPipelineActive = true
      · rw [if_pos busy, spans_note_other _ rfl, same]
        exact .ignored
      · rw [if_neg busy]
        apply r.transcribed_commitTurnText text same
        apply commits
        rw [phase, Coordination.takes, ← idle, eq_false_of_ne_true busy]
        rfl
  | bargeInWordCount =>
      have moves : r.turnPhase.transition (.transcript text) =
          (.set .listening, [.markSpeechEnded, .commitBargeIn text]) := by
        rw [phase]
        rfl
      have same : ((r.setTurnPhase .listening).executeTurnAction .markSpeechEnded).spans = r.spans := by
        rw [spans_executeTurnAction _ rfl, spans_setTurnPhase]
      rw [runs moves, executeActions_cons, executeActions_cons, executeActions_nil]
      generalize marked : (r.setTurnPhase .listening).executeTurnAction .markSpeechEnded = s at same ⊢
      have accepts : shouldAccept true ((s.unicodeWords text).length % 2 ^ 32) s.config.minBargeInWords =
          r.takes text .bargeInWordCount := by
        rw [← marked]
        rfl
      unfold executeTurnAction
      dsimp only
      rw [accepts]
      by_cases accepted : r.takes text .bargeInWordCount = true
      · rw [if_pos accepted]
        apply r.transcribed_commitTurnText text same
        apply commits
        rw [phase]
        exact accepted
      · rw [if_neg accepted, spans_startIdleTimer, spans_note_other _ rfl, same]
        exact .ignored

/-- **A transcript.** -/
theorem transcribed_dispatchTurnEvent (text : String) :
    Transcribed r.spans (r.commits text) (r.dispatchTurnEvent (.transcript text)).spans := by
  unfold dispatchTurnEvent
  cases pending : r.hangUp.isPending with
  | true => exact .ignored
  | false =>
      cases window : r.seGuard.isActive with
      | true =>
          dsimp only
          rw [spans_setSeGuard]
          exact .ignored
      | false => exact r.transcribed_runTransition text pending window

/-- An event of the VAD can only cancel. -/
theorem mayCancel_onVadEvent (event : VadEvent) (verdict : Bool) :
    MayCancel r.spans (r.onVadEvent event verdict).spans := by
  cases event with
  | speechStarted =>
      have started := mayCancel_dispatchTurnEvent (((r.trace "SpeechStarted").setSessionPhase .active).cancelReengagement)
        (.speechStarted (((r.trace "SpeechStarted").setSessionPhase .active).cancelReengagement).isPipelineActive
          (((r.trace "SpeechStarted").setSessionPhase .active).cancelReengagement).botAudioSent) (by simp)
      rw [spans_cancelReengagement, spans_setSessionPhase, spans_trace] at started
      exact started
  | speechEnded audio =>
      have ended := mayCancel_dispatchTurnEvent (r.trace "SpeechEnded")
        (.speechEnded (if (r.trace "SpeechEnded").smartTurn then verdict else true)) (by simp)
      rw [spans_trace] at ended
      exact ended

/-! ## LLM events -/

/-- Nothing is left of nothing. -/
theorem cleanForTts_empty : cleanForTts "" = "" := by decide +kernel

/-- An empty text is not spoken. -/
theorem spans_sayUnlessEmpty (text : String) :
    (if text.isEmpty then r else r.sendTtsToken text).spans = r.spans.say (cleanForTts text) := by
  by_cases empty : text.isEmpty = true
  · rw [if_pos empty, String.isEmpty_iff.1 empty, cleanForTts_empty, SpanView.say_empty]
  · rw [if_neg empty, spans_sendTtsToken]

/-- **A token is spoken** as far as the phase lets it through. -/
theorem spans_onToken (token : String) : (r.onToken token).spans =
    r.spans.say (r.llmTurn.processToken token r.config.turnCompletionEnabled).2.spoken := by
  have counted : (r.countTokenText token).spans = r.spans := by
    unfold countTokenText
    exact spans_congr rfl rfl
  unfold onToken
  dsimp only
  have same : (r.countTokenText token).llmTurn = r.llmTurn ∧ (r.countTokenText token).config = r.config := by
    unfold countTokenText
    exact ⟨rfl, rfl⟩
  rw [same.1, same.2]
  generalize r.llmTurn.processToken token r.config.turnCompletionEnabled = processed
  obtain ⟨phase, action⟩ := processed
  dsimp only
  rcases action with _ | _ | ⟨marker, text⟩ | text
  · rw [spans_setLlmTurn, counted]
    exact (SpanView.say_empty _).symm
  · rw [spans_setLlmTurn, counted]
    exact (SpanView.say_empty _).symm
  · unfold onMarkerCheck
    rcases marker with _ | _ | _ | _
    · dsimp only
      rw [spans_sayUnlessEmpty, spans_setLlmTurn, counted]
      rfl
    · dsimp only
      rw [spans_sayUnlessEmpty, spans_setLlmTurn, counted]
      rfl
    · dsimp only
      rw [spans_setLlmTurn, spans_armTurnCompletionWait, spans_setLlmTurn, counted]
      exact (SpanView.say_empty _).symm
    · dsimp only
      rw [spans_setLlmTurn, spans_armTurnCompletionWait, spans_setLlmTurn, counted]
      exact (SpanView.say_empty _).symm
  · dsimp only
    rw [spans_sendTtsToken, spans_setLlmTurn, counted]
    rfl

/-- The content of a turn leaves the spans alone. -/
@[simp] theorem spans_emitContent (content : Option String) : (r.emitContent content).spans = r.spans := by
  cases content with
  | none => rfl
  | some text => exact r.spans_emitAssistant text

/-- The end of a turn of the LLM leaves the spans alone. -/
@[simp] theorem spans_finishLlmTurn (content : Option String) : (r.finishLlmTurn content).spans = r.spans := by
  have shown : (r.flushTts.emitContent content).spans = r.spans := by
    rw [spans_emitContent, spans_flushTts]
  unfold finishLlmTurn countTurn
  exact (spans_congr rfl rfl).trans shown

/-- What was held back is spoken when the stream ends. -/
theorem spans_onStreamEnd (action : Option TokenAction) (content : Option String) :
    (r.onStreamEnd action content).spans = r.spans.say (TokenAction.spokenLate action) := by
  unfold onStreamEnd TokenAction.spokenLate
  rcases action with _ | _ | _ | ⟨_ | _ | _ | _, text⟩ | _
  case some.markerCheckCompleted.some.incompleteShort | some.markerCheckCompleted.some.incompleteLong =>
    dsimp only [TokenAction.spoken]
    rw [spans_saveSuppressedResponse, spans_armTurnCompletionWait, SpanView.say_empty]
  case some.markerCheckCompleted.none | some.markerCheckCompleted.some.complete =>
    dsimp only [TokenAction.spoken]
    rw [spans_finishLlmTurn, spans_sayUnlessEmpty]
  all_goals exact (r.spans_finishLlmTurn content).trans (SpanView.say_empty _).symm

/-- What an event of the LLM makes the reactor speak. -/
def spokenOf : LlmEvent → String
  | .token token => (r.llmTurn.processToken token r.config.turnCompletionEnabled).2.spoken
  | .finished _ =>
    match r.llmTurn with
    | .suppressing _ => ""
    | phase => TokenAction.spokenLate (phase.processLateFlush r.config.turnCompletionEnabled).2
  | _ => ""

/-- What was held back is spoken when the LLM has finished. -/
theorem spans_onFinished (content : Option String) :
    (r.onFinished content).spans = r.spans.say (r.spokenOf (.finished content)) := by
  have same : (r.trace "LlmFinished").llmTurn = r.llmTurn ∧ (r.trace "LlmFinished").config = r.config := ⟨rfl, rfl⟩
  unfold onFinished spokenOf
  dsimp only
  rw [same.1, same.2]
  cases r.llmTurn with
  | suppressing response =>
      dsimp only
      rw [spans_startIdleTimer, spans_saveSuppressedResponse, spans_trace, SpanView.say_empty]
  | idle =>
      dsimp only
      rw [spans_onStreamEnd, spans_setLlmTurn, spans_trace]
  | generating buffer =>
      dsimp only
      rw [spans_onStreamEnd, spans_setLlmTurn, spans_trace]

/-- Showing the spoken text leaves the spans alone. -/
@[simp] theorem spans_showSpokenText : r.showSpokenText.spans = r.spans := by
  unfold showSpokenText
  dsimp only
  split
  · exact spans_congr rfl rfl
  · exact (spans_emitAssistant _ _).trans (spans_congr rfl rfl)

/-- A tool with side effects that starts leaves the spans alone. -/
@[simp] theorem spans_startSideEffectTool (id name : String) : (r.startSideEffectTool id name).spans = r.spans := by
  unfold startSideEffectTool
  dsimp only
  split
  · unfold rearmWatchdog
    dsimp only
    rw [spans_setSeGuard, spans_setTimers, spans_removeTimer, spans_setSeGuard]
  · exact r.spans_setSeGuard _

/-- A tool that starts leaves the spans alone. -/
theorem spans_onToolCallStarted (id name : String) (sideEffect : Bool) :
    (r.onToolCallStarted id name sideEffect).spans = r.spans := by
  unfold onToolCallStarted
  dsimp only
  rw [spans_emit]
  refine (SpanView.emit_nil _).trans ?_
  split
  · rw [spans_startSideEffectTool, spans_showSpokenText, spans_trace]
  · rw [spans_showSpokenText, spans_trace]

/-- A tool that has ended can only cancel. -/
theorem mayCancel_onToolCallCompleted (id name : String) (success : Bool) (errorMessage : Option String) :
    MayCancel r.spans (r.onToolCallCompleted id name success errorMessage).spans := by
  have active (s : Reactor β) (status : String) :
      (s.emit (.toolActivity (some id) name status errorMessage)).spans = s.spans :=
    s.spans_emit_other rfl
  unfold onToolCallCompleted
  dsimp only
  split
  · split
    · rw [spans_replayDeferred, active, spans_removeTimer, spans_setSeGuard]
      exact .cancels
    · apply MayCancel.of_eq
      rw [active, spans_removeTimer, spans_setSeGuard]
  · apply MayCancel.of_eq
    rw [active, spans_setSeGuard]

/-- The hang-up of the agent can only cancel. -/
theorem mayCancel_onHangUp (content : Option String) : MayCancel r.spans (r.onHangUp content).spans := by
  have before : ((((r.trace "HangUp").emitContent content).flushTts).setHangUp .waitingForTts).spans = r.spans := by
    rw [spans_setHangUp, spans_flushTts, spans_emitContent, spans_trace]
  unfold onHangUp
  dsimp only
  split
  · exact .of_eq before
  · rw [spans_initiateShutdown, before]
    exact .cancels

/-- **An event of the LLM.** -/
theorem speaks_onLlmEvent (event : LlmEvent) : Speaks r.spans (r.spokenOf event) (r.onLlmEvent event).spans := by
  cases event with
  | token token =>
      dsimp only [onLlmEvent]
      rw [spans_onToken]
      exact .voiced
  | finished content =>
      dsimp only [onLlmEvent]
      rw [spans_onFinished]
      exact .voiced
  | toolCallStarted id name sideEffect =>
      exact MayCancel.speaks (.of_eq (r.spans_onToolCallStarted id name sideEffect))
  | toolCallCompleted id name success errorMessage =>
      exact MayCancel.speaks (r.mayCancel_onToolCallCompleted id name success errorMessage)
  | error message =>
      apply MayCancel.speaks
      apply MayCancel.of_eq
      dsimp only [onLlmEvent]
      rw [spans_startIdleTimer, spans_cancelTts, spans_emit]
      exact SpanView.emit_nil _
  | onHold durationSecs =>
      apply MayCancel.speaks
      apply MayCancel.of_eq
      dsimp only [onLlmEvent]
      rw [spans_startIdleTimer, spans_setReengagement, spans_trace]
  | hangUp reason content => exact MayCancel.speaks (r.mayCancel_onHangUp content)
  | llmComplete data =>
      apply MayCancel.speaks
      apply MayCancel.of_eq
      exact r.spans_emit_other rfl

/-! ## TTS events -/

/-- Audio of the TTS leaves the spans alone. -/
theorem spans_onTtsAudio (pcm : Bytes) : (r.onTtsAudio pcm).spans = r.spans := by
  have marked : r.markGreetingAudio.spans = r.spans := by
    unfold markGreetingAudio
    split <;> exact spans_congr rfl rfl
  unfold onTtsAudio
  split
  · rfl
  · unfold sendAudio
    dsimp only
    rw [spans_emit]
    refine (SpanView.emit_nil _).trans (Eq.trans ?_ marked)
    exact spans_congr rfl rfl

/-- **The greeting is about to be reported** to have been spoken. -/
def endsGreeting : Input β → Bool
  | .tts .finished =>
    r.tts.isActive && !(AgentBackend.isActive r.llm || r.seGuard.isActive) &&
      decide (r.sessionPhase = .greetingPlaying) && r.greetingObservability.any fun obs => !isBlank obs.text
  | _ => false

/-- The report of a greeting is emitted before the span is cancelled. -/
theorem spans_finishGreeting : r.finishGreeting.spans = r.spans.cancel ∨
    ∃ event, event.isTtsComplete = true ∧ (r.greetingObservability.any fun obs => !isBlank obs.text) = true ∧
      r.finishGreeting.spans = (r.spans.emit [event]).cancel := by
  have rest : r.finishGreeting.spans = r.emitGreetingTtsComplete.spans.cancel := by
    unfold finishGreeting startIdleTimerAfterGreetingWithOffset
    dsimp only
    rw [spans_startIdleTimerInner, spans_resetPlayback, spans_setSessionPhase, spans_cancelTurn]
  rw [rest]
  unfold emitGreetingTtsComplete
  cases greeting : r.greetingObservability with
  | none => exact .inl rfl
  | some obs =>
      dsimp only
      by_cases blank : isBlank obs.text = true
      · rw [if_pos blank]
        exact .inl (congrArg SpanView.cancel (spans_congr rfl rfl))
      · rw [if_neg blank, spans_emit]
        refine .inr ⟨_, rfl, ?_, congrArg (fun v => (SpanView.emit _ v).cancel) (spans_congr rfl rfl)⟩
        rw [Option.any_some, eq_false_of_ne_true blank]
        rfl

/-- The span of a spoken turn is closed; a pending hang-up may cancel after it. -/
theorem mayCancel_finishSpokenTurn : ∃ report, MayCancel (r.spans.finish report) r.finishSpokenTurn.spans := by
  obtain ⟨report, closed⟩ := r.spans_finishTurnSpan
  refine ⟨report, ?_⟩
  unfold finishSpokenTurn
  dsimp only
  rw [← closed]
  split
  · split
    · rw [spans_initiateShutdown, spans_resetPlayback]
      exact .cancels
    · apply MayCancel.of_eq
      rw [spans_setHangUp, spans_setTimers, spans_resetPlayback]
  · apply MayCancel.of_eq
    unfold startIdleTimerWithOffset
    rw [spans_startIdleTimerInner, spans_resetPlayback]

/-- **A TTS event.** -/
theorem synthesised_onTtsEvent (event : TtsEvent) (active : r.tts.isActive = true) :
    Synthesised r.spans (r.endsGreeting (.tts event)) (r.onTtsEvent event).spans := by
  cases event with
  | audio pcm =>
      have same := r.spans_onTtsAudio pcm
      dsimp only [onTtsEvent]
      rw [same]
      exact .quiet
  | error message =>
      dsimp only [onTtsEvent]
      rw [spans_startIdleTimer, spans_resetPlayback, spans_setTts]
      exact .quiet
  | finished =>
      have before : ((r.trace "TtsFinished").setTts (r.trace "TtsFinished").tts.markFinished).spans = r.spans := by
        rw [spans_setTts, spans_trace]
      have same : ((r.trace "TtsFinished").setTts (r.trace "TtsFinished").tts.markFinished).llm = r.llm ∧
          ((r.trace "TtsFinished").setTts (r.trace "TtsFinished").tts.markFinished).seGuard = r.seGuard ∧
          ((r.trace "TtsFinished").setTts (r.trace "TtsFinished").tts.markFinished).sessionPhase = r.sessionPhase ∧
          ((r.trace "TtsFinished").setTts (r.trace "TtsFinished").tts.markFinished).greetingObservability =
            r.greetingObservability := ⟨rfl, rfl, rfl, rfl⟩
      dsimp only [onTtsEvent]
      unfold onTtsFinished
      dsimp only
      generalize (r.trace "TtsFinished").setTts (r.trace "TtsFinished").tts.markFinished = s at before same ⊢
      obtain ⟨llm, guard, phase, greeting⟩ := same
      by_cases round : (AgentBackend.isActive s.llm || s.seGuard.isActive) = true
      · rw [if_pos round, spans_resetPlayback, before]
        exact .quiet
      rw [if_neg round]
      split
      · rename_i playing
        rcases s.spans_finishGreeting with same | ⟨event, report, any, same⟩
        · rw [same, before]
          exact .dropped
        · rw [same, before]
          refine .greeted ?_ report
          unfold endsGreeting
          rw [active, ← llm, ← guard, eq_false_of_ne_true round, ← phase, playing, ← greeting, any]
          rfl
      · obtain ⟨report, may⟩ := s.mayCancel_finishSpokenTurn
        rw [before] at may
        exact .closed report may

/-! ## Timers -/

/-- The wait after a ○ or ◐ ends with the replay of a response. -/
def replayed : String :=
  match r.llmTurn with
  | .suppressing (some text) => if r.turnPhase.isSpeaking then "" else cleanForTts text
  | _ => ""

/-- A suppressed response is spoken over an idle pipeline. -/
theorem speaks_replayOrNudge (isShort : Bool) (idle : r.isPipelineActive = false) :
    Speaks r.spans r.replayed (r.replayOrNudge isShort).spans := by
  have nudge : Speaks r.spans "" (r.startNudgeTurn (TurnCompletion.nudgePrompt isShort)).spans :=
    MayCancel.speaks (r.mayCancel_startNudgeTurn _)
  unfold replayOrNudge replayed
  rw [if_neg (by rw [idle]; exact Bool.false_ne_true)]
  rcases r.llmTurn with _ | _ | _ | text
  · exact nudge
  · exact nudge
  · exact nudge
  · dsimp only
    have noted : ((r.setLlmTurn .idle).note (.startTtsForTurn r.turnPhase.isSpeaking)).spans = r.spans :=
      (spans_note_other _ rfl).trans (r.spans_setLlmTurn _)
    unfold replaySuppressed startTtsForTurn
    rw [show (r.setLlmTurn .idle).turnPhase = r.turnPhase from rfl]
    by_cases speaking : r.turnPhase.isSpeaking = true
    · rw [if_pos speaking, if_pos speaking]
      dsimp only
      rw [spans_cancelPipeline, noted]
      exact .cancels rfl
    · rw [if_neg speaking, if_neg speaking]
      dsimp only
      have opened : ((r.setLlmTurn .idle).note (.startTtsForTurn r.turnPhase.isSpeaking)).beginCursorTurn.openTts.spans =
          r.spans := (spans_openTts _).trans noted
      rw [spans_flushTts, spans_sendTtsToken, spans_emit_other _ rfl, opened]
      exact .voiced

/-- A nudge or a hang-up can only cancel. -/
theorem mayCancel_nudgeOrHangUp (retryCount : ℕ) : MayCancel r.spans (r.nudgeOrHangUp retryCount).spans := by
  unfold nudgeOrHangUp
  split
  · have nudged := (r.emitAgentEvent "user_idle").mayCancel_startNudgeTurn idleNudge
    have same : (r.emitAgentEvent "user_idle").spans = r.spans := r.spans_emit_other rfl
    rw [same] at nudged
    exact nudged
  · split
    · exact .stays
    · split
      · rw [spans_initiateShutdown]
        exact .cancels
      · exact .stays

/-- The idle timer can only cancel. -/
theorem mayCancel_onUserIdle : MayCancel r.spans r.onUserIdle.spans := by
  unfold onUserIdle
  dsimp only
  split
  · exact .of_eq (r.spans_trace _)
  · rename_i retryCount reengagement _
    have nudged := ((r.trace "UserIdle").setReengagement (reengagement, (r.trace "UserIdle").timers)).mayCancel_nudgeOrHangUp
      retryCount
    rw [spans_setReengagement, spans_trace] at nudged
    exact nudged

/-- The watchdog of a side effect can only cancel. -/
theorem mayCancel_onSideEffectTimeout : MayCancel r.spans r.onSideEffectTimeout.spans := by
  unfold onSideEffectTimeout SideEffectToolsGuard.onTimeout
  dsimp only
  split
  · split
    · rw [spans_replayDeferred, spans_setSeGuard]
      exact .cancels
    · rw [spans_cancelPipeline, spans_setSeGuard]
      exact .cancels
  · exact .of_eq (r.spans_setSeGuard _)

/-- The delay of a hang-up cancels. -/
theorem spans_onHangUpDelay : r.onHangUpDelay.spans = r.spans.cancel := by
  unfold onHangUpDelay
  dsimp only
  split
  · rw [spans_initiateShutdown, spans_setHangUp]
  · rw [spans_initiateShutdown]

/-- What a fired timer makes the reactor speak. -/
def spokenAfter : TimerKey → String
  | .turnCompletion => if !r.isPipelineActive && r.reengagement.onTurnCompletionFired.isSome then r.replayed else ""
  | _ => ""

/-- **The timer of an incomplete turn** speaks what was suppressed. -/
theorem speaks_onTurnCompletion : Speaks r.spans (r.spokenAfter .turnCompletion) r.onTurnCompletion.spans := by
  have same : (r.trace "TurnCompletionTimeout").reengagement = r.reengagement := rfl
  unfold onTurnCompletion spokenAfter
  dsimp only
  rw [same]
  cases armed : r.reengagement.onTurnCompletionFired with
  | none =>
      rw [Option.isSome_none, Bool.and_false, if_neg Bool.false_ne_true]
      exact MayCancel.speaks (.of_eq (r.spans_trace _))
  | some fired =>
      obtain ⟨isShort, reengagement⟩ := fired
      have spans : ((r.trace "TurnCompletionTimeout").setReengagement
          (reengagement, (r.trace "TurnCompletionTimeout").timers)).spans = r.spans := by
        rw [spans_setReengagement, spans_trace]
      have replayed : ((r.trace "TurnCompletionTimeout").setReengagement
          (reengagement, (r.trace "TurnCompletionTimeout").timers)).replayed = r.replayed := rfl
      have active : ((r.trace "TurnCompletionTimeout").setReengagement
          (reengagement, (r.trace "TurnCompletionTimeout").timers)).isPipelineActive = r.isPipelineActive := rfl
      dsimp only
      generalize (r.trace "TurnCompletionTimeout").setReengagement
        (reengagement, (r.trace "TurnCompletionTimeout").timers) = s at spans replayed active ⊢
      rw [Option.isSome_some, Bool.and_true]
      by_cases busy : r.isPipelineActive = true
      · rw [busy, Bool.not_true, if_neg Bool.false_ne_true]
        unfold replayOrNudge
        rw [active, if_pos busy]
        exact MayCancel.speaks (.of_eq spans)
      · have idle := eq_false_of_ne_true busy
        rw [idle, Bool.not_false, if_pos rfl, ← replayed]
        have spoken := s.speaks_replayOrNudge isShort (active.trans idle)
        rw [spans] at spoken
        exact spoken

/-- **A timer.** -/
theorem speaks_onTimer (key : TimerKey) : Speaks r.spans (r.spokenAfter key) (r.onTimer key).spans := by
  cases key with
  | turnCompletion => exact r.speaks_onTurnCompletion
  | endOfTurnFallback => exact MayCancel.speaks (r.mayCancel_dispatchTurnEvent _ (by simp))
  | sttTimeout =>
      have fired := (r.trace "SttTimeout").mayCancel_dispatchTurnEvent .sttTimeout (by simp)
      rw [spans_trace] at fired
      exact MayCancel.speaks fired
  | userIdle => exact MayCancel.speaks r.mayCancel_onUserIdle
  | sideEffectTimeout => exact MayCancel.speaks r.mayCancel_onSideEffectTimeout
  | hangUpDelay =>
      have closed := r.spans_onHangUpDelay
      dsimp only [onTimer]
      rw [closed]
      exact .cancels rfl

/-! ## One step -/

/-- The text an iteration passes to `append_tts_text`. -/
def saidAt (m : Moment β) : String :=
  if r.shouldExit then ""
  else
    match r.yielded m.input, (r.setWorld m.world).fires m.input with
    | some event, _ => r.spokenOf event
    | none, some key => r.spokenAfter key
    | none, none => ""

/-- **What one iteration can do to the span.** -/
inductive SpanStep (m : Moment β) : SpanView → Prop
  | speaks {v : SpanView} (speaks : Speaks r.spans (r.saidAt m) v) : SpanStep m v
  | transcribed {text : String} {v : SpanView} (input : m.input = .stt (.transcript text))
      (transcribed : Transcribed r.spans (r.commits text) v) : SpanStep m v
  | synthesised {event : TtsEvent} {v : SpanView} (input : m.input = .tts event)
      (synthesised : Synthesised r.spans (r.endsGreeting m.input) v) : SpanStep m v

/-- A step that says nothing and can only cancel. -/
theorem SpanStep.of_mayCancel {m : Moment β} {v : SpanView} (silent : r.saidAt m = "")
    (may : MayCancel r.spans v) : r.SpanStep m v := by
  apply SpanStep.speaks
  rw [silent]
  exact may.speaks

/-- **The inversion lemma of spans.** -/
theorem span_step (m : Moment β) : r.SpanStep m (r.step m).spans := by
  obtain ⟨world, input⟩ := m
  unfold step
  by_cases exits : r.shouldExit = true
  · rw [if_pos exits]
    apply SpanStep.of_mayCancel
    · exact if_pos exits
    · exact .stays
  rw [if_neg exits]
  -- Without an event of the LLM and without a timer nothing is said.
  have silent (unheard : r.yielded input = none) (unfired : (r.setWorld world).fires input = none) :
      r.saidAt ⟨world, input⟩ = "" := by
    unfold saidAt
    rw [if_neg exits]
    dsimp only
    rw [unheard, unfired]
  have spans (taken : ReactorInput) : ((r.setWorld world).receive taken).spans = r.spans :=
    (spans_receive _ _).trans (spans_congr rfl rfl)
  unfold handle
  cases input with
  | vad event verdict =>
      dsimp only
      apply SpanStep.of_mayCancel
      · exact silent rfl rfl
      · have handled := mayCancel_onVadEvent ((r.setWorld world).receive (.vadEvent event)) event verdict
        rw [spans] at handled
        rw [spans_computeAndEmitState]
        exact handled
  | stt event =>
      dsimp only
      rw [spans_computeAndEmitState]
      cases event with
      | transcript text =>
          have handled := transcribed_dispatchTurnEvent
            (((r.setWorld world).receive (.sttEvent (.transcript text))).trace "Transcript") text
          rw [spans_trace, spans] at handled
          exact .transcribed rfl handled
      | firstTextReceived | partialTranscript text | error message =>
          exact .of_mayCancel r (silent rfl rfl) (.of_eq (spans _))
  | llm poll =>
      dsimp only
      by_cases active : AgentBackend.isActive r.llm = true
      · rw [show (r.setWorld world).llm = r.llm from rfl, if_pos active]
        rcases recv : LlmStage.recv poll r.llm with ⟨_ | event, llm⟩
        · apply SpanStep.of_mayCancel
          · exact silent (Coordination.yielded_of_recv active recv) rfl
          · exact .of_eq ((spans_setLlm _ _).trans (spans_congr rfl rfl))
        -- What is said is what the LLM yields.
        · have heard : r.yielded (.llm poll) = some event := Coordination.yielded_of_recv active recv
          have same : (((r.setWorld world).setLlm llm).receive (.llmEvent event)).spans = r.spans :=
            (spans_receive _ _).trans (spans_congr rfl rfl)
          have handled := speaks_onLlmEvent (((r.setWorld world).setLlm llm).receive (.llmEvent event)) event
          dsimp only
          rw [spans_computeAndEmitState]
          rw [same] at handled
          apply SpanStep.speaks
          unfold saidAt
          rw [if_neg exits]
          dsimp only
          rw [heard]
          exact handled
      · rw [show (r.setWorld world).llm = r.llm from rfl, if_neg active]
        apply SpanStep.of_mayCancel
        · exact silent (if_neg active) rfl
        · exact .of_eq (spans_congr rfl rfl)
  | tts event =>
      dsimp only
      by_cases active : r.tts.isActive = true
      · rw [show (r.setWorld world).tts = r.tts from rfl, if_pos active, spans_computeAndEmitState]
        have handled := synthesised_onTtsEvent ((r.setWorld world).receive (.ttsEvent event)) event active
        rw [spans] at handled
        exact .synthesised rfl handled
      · rw [show (r.setWorld world).tts = r.tts from rfl, if_neg active]
        apply SpanStep.of_mayCancel
        · exact silent rfl rfl
        · exact .of_eq (spans_congr rfl rfl)
  | timer key =>
      dsimp only
      cases due : (r.setWorld world).timers.due key (r.setWorld world).world.now with
      | none =>
          dsimp only
          apply SpanStep.of_mayCancel
          · refine silent rfl ?_
            unfold Coordination.fires
            dsimp only
            rw [due]
            rfl
          · exact .of_eq (spans_congr rfl rfl)
      | some entry =>
          dsimp only
          have same : (((r.setWorld world).setTimers ((r.setWorld world).timers.erase key)).receive
              (.timerFired entry.value)).spans = r.spans :=
            (spans_receive _ _).trans (spans_congr rfl rfl)
          have handled := speaks_onTimer (((r.setWorld world).setTimers ((r.setWorld world).timers.erase key)).receive
            (.timerFired entry.value)) entry.value
          rw [same] at handled
          rw [spans_computeAndEmitState]
          apply SpanStep.speaks
          unfold saidAt
          rw [if_neg exits]
          dsimp only
          rw [Coordination.fires_of_due due rfl]
          exact handled

end Reactor

end Feros
