import Feros.Coordinator.Runs
import Feros.Coordinator.Specs
/-! # The output gate

While the user speaks no agent audio goes out, and the client is told to drop what it still has:
`botAudioSent` says exactly whether audio was sent that no `Interrupt` has flushed. -/

namespace Feros

/-- Audio is unflushed after `mark`, if it was (`sent`) before. -/
def Mark.unflushed (sent : Bool) : Mark → Bool
  | .audio _ => true
  | .interrupt => false
  | _ => sent

/-- Some audio of the trail is not followed by an interrupt. -/
def unflushed (trail : List Mark) : Bool := trail.foldl Mark.unflushed false

/-- The mark neither sends nor flushes audio. -/
def Mark.isNeutral : Mark → Bool
  | .audio _ => false
  | .interrupt => false
  | _ => true

/-- Neutral marks flush nothing. -/
theorem unflushed_append_neutral {trail marks : List Mark}
    (neutral : ∀ mark ∈ marks, mark.isNeutral = true) :
    unflushed (trail ++ marks) = unflushed trail := by
  unfold unflushed
  rw [List.foldl_append]
  generalize trail.foldl Mark.unflushed false = sent
  induction marks with
  | nil => rfl
  | cons mark marks ih =>
    have step : Mark.unflushed sent mark = sent := by
      have := neutral mark List.mem_cons_self
      cases mark <;> first | rfl | cases this
    rw [List.foldl_cons, step]
    exact ih fun mark h => neutral mark (List.mem_cons_of_mem _ h)

/-- An interruption flushes the audio. -/
@[simp] theorem unflushed_append_interrupt (trail : List Mark) :
    unflushed (trail ++ [.interrupt]) = false := by
  simp [unflushed, Mark.unflushed]

/-- Audio that is sent is not flushed. -/
@[simp] theorem unflushed_append_audio (speaking : Bool) (trail : List Mark) :
    unflushed (trail ++ [.audio speaking]) = true := by
  simp [unflushed, Mark.unflushed]

/-- **The gate invariant**, about the trail, `botAudioSent` and whether the user speaks. -/
structure OutputGate (trail : List Mark) (sent speaking : Bool) : Prop where
  /-- No audio went out while the user spoke. -/
  muted : Mark.audio true ∉ trail
  /-- `botAudioSent` is about the trail. -/
  sent_eq : unflushed trail = sent
  /-- A speaking user is not spoken to. -/
  closed : speaking = true → sent = false

namespace OutputGate

variable {trail : List Mark} {sent speaking : Bool}

/-- Neutral marks keep the gate. -/
theorem append (h : OutputGate trail sent speaking) {marks : List Mark}
    (neutral : ∀ mark ∈ marks, mark.isNeutral = true) :
    OutputGate (trail ++ marks) sent speaking where
  muted := by
    rw [List.mem_append]
    rintro (old | new)
    · exact h.muted old
    · exact Bool.false_ne_true (neutral _ new)
  sent_eq := by rw [unflushed_append_neutral neutral, h.sent_eq]
  closed := h.closed

/-- A neutral mark keeps the gate. -/
theorem leave (h : OutputGate trail sent speaking) {mark : Mark}
    (neutral : mark.isNeutral = true) : OutputGate (trail ++ [mark]) sent speaking :=
  h.append fun _ mem => List.mem_singleton.1 mem ▸ neutral

/-- An interrupt flushes whatever was sent; the user may speak or not. -/
theorem interrupt (h : OutputGate trail sent speaking) (speaks : Bool) :
    OutputGate (trail ++ [.interrupt]) false speaks where
  muted := by
    rw [List.mem_append]
    rintro (old | new)
    · exact h.muted old
    · exact Mark.noConfusion (List.mem_singleton.1 new)
  sent_eq := unflushed_append_interrupt trail
  closed _ := rfl

/-- The user stops speaking. -/
theorem silence (h : OutputGate trail sent speaking) : OutputGate trail sent false :=
  ⟨h.muted, h.sent_eq, nofun⟩

/-- The user starts to speak, and nothing was sent. -/
theorem speak (h : OutputGate trail false speaking) : OutputGate trail false true :=
  ⟨h.muted, h.sent_eq, fun _ => rfl⟩

/-- Audio goes out to a silent user. -/
theorem audio (h : OutputGate trail sent false) :
    OutputGate (trail ++ [.audio false]) true false where
  muted := by
    rw [List.mem_append]
    rintro (old | new)
    · exact h.muted old
    · exact Bool.noConfusion (Mark.audio.inj (List.mem_singleton.1 new))
  sent_eq := unflushed_append_audio false trail
  closed := nofun

end OutputGate

namespace Coordinator

variable {β : Type} [AgentBackend β]

/-- The gate invariant holds of the coordinator. -/
def Gated (c : Coordinator β) : Prop :=
  OutputGate c.trail c.botAudioSent c.turnPhase.isSpeaking

namespace Gated

variable {c d : Coordinator β}

/-- A pipeline that is cancelled keeps the gate, as the audio is flushed. -/
theorem cancelPipeline (h : Gated c) : Gated c.cancelPipeline := by
  have cancelled : OutputGate (c.trail ++ [.cancel] ++ [.interrupt]) false _ :=
    (OutputGate.leave h rfl).interrupt c.turnPhase.isSpeaking
  unfold Gated
  rw [cancelPipeline_trail]
  rwa [List.append_assoc] at cancelled

/-- A shutdown keeps the gate. -/
theorem initiateShutdown (h : Gated c) : Gated c.initiateShutdown := h.cancelPipeline

/-- The idle timer keeps the gate. -/
theorem startIdleTimer {offset : Duration} {force : Bool} (h : Gated c) :
    Gated (c.startIdleTimer offset force) := by
  unfold Gated
  rwa [startIdleTimer_trail, startIdleTimer_botAudioSent, startIdleTimer_turnPhase]

/-- A turn of the TTS keeps the gate. -/
theorem startTtsForTurn (h : Gated c) : Gated c.startTtsForTurn := by
  have asked : ∀ speaking, Gated (c.leave (.startTts speaking)) := fun _ => OutputGate.leave h rfl
  cases speaking : c.turnPhase.isSpeaking with
  | true =>
    rw [startTtsForTurn_of_speaking speaking]
    exact (asked true).cancelPipeline
  | false =>
    rw [startTtsForTurn_of_quiet speaking]
    exact asked false

/-- A turn of the LLM keeps the gate. -/
theorem startLlmTurn (h : Gated c) : Gated c.startLlmTurn := by
  cases speaking : c.turnPhase.isSpeaking with
  | true =>
    have asked : Gated (c.prepareTurn.leave (.startTts true)) := OutputGate.leave h rfl
    rw [startLlmTurn_of_speaking speaking]
    exact asked.cancelPipeline
  | false =>
    have started : OutputGate (c.trail ++ turnMarks false (AgentBackend.isActive c.llm))
        c.botAudioSent c.turnPhase.isSpeaking :=
      OutputGate.append h (by simp [turnMarks, Mark.isNeutral])
    unfold Gated
    rw [startLlmTurn_trail, startLlmTurn_botAudioSent c speaking, startLlmTurn_turnPhase]
    rwa [speaking] at started ⊢

/-- A message of the user keeps the gate. -/
theorem addUserMessage {text : String} (h : Gated c) : Gated (c.addUserMessage text) :=
  OutputGate.leave h rfl

/-- A text that is committed keeps the gate. -/
theorem commitTurnText {text : String} (h : Gated c) : Gated (c.commitTurnText text) :=
  h.addUserMessage.startLlmTurn

/-- A replay keeps the gate. -/
theorem replayDeferred {text : String} (h : Gated c) : Gated (c.replayDeferred text) :=
  h.cancelPipeline.addUserMessage.startLlmTurn

/-- A nudge keeps the gate. -/
theorem startNudgeTurn {nudge : String} (h : Gated c) : Gated (c.startNudgeTurn nudge) := by
  unfold Coordinator.startNudgeTurn
  rw [skipMarkerCheck_eq]
  exact h.addUserMessage.startLlmTurn

/-- When the user starts to speak, what was sent is flushed. -/
theorem beginSpeech (h : Gated c) (quiet : c.turnPhase.isSpeaking = false)
    (pipelineWasActive : Bool) : Gated (c.beginSpeech pipelineWasActive) := by
  have flushed : OutputGate c.flushClient.trail false true := by
    unfold flushClient
    unfold Gated at h
    cases sent : c.botAudioSent with
    | true => exact h.interrupt true
    | false =>
      rw [sent] at h
      exact h.speak
  unfold Coordinator.beginSpeech
  rw [if_neg (by rw [quiet]; exact Bool.false_ne_true)]
  exact flushed

/-- **Audio keeps the gate**, while the user is silent. -/
theorem sendAudio (h : Gated c) (silent : c.turnPhase.isSpeaking = false) :
    Gated c.sendAudio := by
  unfold Gated at h ⊢
  rw [silent] at h
  rw [show c.sendAudio.turnPhase.isSpeaking = false from silent]
  exact h.audio

/-- A transcript that is buffered keeps the gate. -/
theorem bufferTranscript {text : String} (h : Gated c) : Gated (c.bufferTranscript text) := by
  unfold Coordinator.bufferTranscript
  generalize c.seGuard.bufferTranscript text = guard
  exact h

/-- A response that is saved keeps the gate. -/
theorem saveSuppressedResponse {content : Option String} (h : Gated c) :
    Gated (c.saveSuppressedResponse content) := by
  unfold Coordinator.saveSuppressedResponse
  cases content with
  | none => exact h
  | some text =>
    dsimp only
    split <;> exact h

/-- **Every outcome keeps the gate.** -/
theorem outcome {input : Input β} (h : Gated c) (o : Outcome c input d) : Gated d := by
  have left : ∀ {mark : Mark}, mark.isNeutral = true →
      OutputGate (c.trail ++ [mark]) c.botAudioSent c.turnPhase.isSpeaking := OutputGate.leave h
  have heard : ∀ text, OutputGate (c.trail ++ [.transcript text]) c.botAudioSent false :=
    fun text => (left rfl).silence
  cases o with
  | nothing | engaged _ | noEvent _ _ | roundSpoken _ _ | goodbyeSpoken _ _ _ _ _
  | staleTimer _ _ | waitOvertaken _ _ _ _ | idleIgnored _ _ _ _ | watchdogLate _ _ _ => exact h
  | speechBegun _ silent =>
    have engaged : Gated c.engage := h
    exact engaged.beginSpeech silent _
  | shielded _ | awaiting _ _ | heldBack _ _ | fallbackFired _ _ _ => exact OutputGate.silence h
  | talkedOver _ _ =>
    have waiting : Gated (c.setTurnPhase .bargeInWordCount) := OutputGate.silence h
    exact waiting.cancelPipeline
  | unheard _ | streamed _ _ | suppressed _ _ _ _ | toolCounted _ _ _
  | windowEnded _ _ _ _ | finished _ _ | hangUpPending _ _ _ | reported _ _ => exact left rfl
  | buffered _ _ => exact Gated.bufferTranscript (left rfl)
  | blankTurn _ _ _ _ => exact Gated.startIdleTimer (heard _)
  | turnCommitted _ _ _ _ _ => exact Gated.commitTurnText (heard _)
  | bargeInCommitted _ _ _ _ | lateCommitted _ _ _ _ => exact Gated.commitTurnText (heard _)
  | bargeInRejected _ _ _ _ => exact Gated.startIdleTimer ((heard _).leave rfl)
  | lateDropped _ _ _ _ => exact (heard _).leave rfl
  | toolStarted _ _ =>
    unfold Coordinator.toolCallStarted
    split <;> exact left rfl
  | windowReplayed _ _ _ _ => exact Gated.replayDeferred (left rfl)
  | suppressedFinished _ _ _ =>
    exact Gated.startIdleTimer (Gated.saveSuppressedResponse (left rfl))
  | lateSuppressed _ _ _ _ => exact Gated.saveSuppressedResponse (left rfl)
  | llmFailed _ _ | held _ _ => exact Gated.startIdleTimer (left rfl)
  | hungUp _ _ _ => exact Gated.initiateShutdown (left rfl)
  | audioSent _ silent => exact h.sendAudio silent
  | greetingSpoken _ _ _ _ | turnSpoken _ _ _ _ _ | ttsFailed _ =>
    exact Gated.startIdleTimer h
  | goodbyePlayed _ _ _ _ | idleHungUp _ _ _ _ | delayOver _ _ => exact Gated.initiateShutdown h
  | transcriptOverdue _ _ _ => exact Gated.startIdleTimer (OutputGate.silence h)
  | responseReplayed _ _ _ _ _ => exact Gated.startTtsForTurn h
  | waitNudged _ _ _ _ _ | idleNudged _ _ _ _ => exact Gated.startNudgeTurn h
  | watchdogReplayed _ _ _ _ => exact Gated.replayDeferred h
  | watchdogCancelled _ _ _ _ => exact Gated.cancelPipeline h

end Gated

end Coordinator

/-- The gate invariant holds when a session starts. -/
theorem Coordinator.Opened.gated {β : Type} [AgentBackend β] {c : Coordinator β}
    (h : c.Opened) : c.Gated := by
  have silent : ∀ {c : Coordinator β}, c.Fresh → c.turnPhase.isSpeaking = false := by
    intro c fresh
    rw [fresh.turnPhase]
    rfl
  have start : ∀ {c : Coordinator β}, c.Fresh → c.Gated := by
    intro c fresh
    unfold Gated
    rw [fresh.trail, fresh.botAudioSent, silent fresh]
    exact ⟨List.not_mem_nil, rfl, nofun⟩
  cases h with
  | waiting fresh => exact (start fresh).startIdleTimer
  | greeted fresh => exact ((start fresh).sendAudio (silent fresh)).startIdleTimer
  | greeting fresh ws => exact (start fresh).startTtsForTurn

/-! ## The log -/

/-- Agent audio on the bus. -/
def Effect.isAudio : Effect → Bool
  | .event _ (.agentAudio _ _ _) => true
  | _ => false

/-- An interrupt on the bus. -/
def Effect.isInterrupt : Effect → Bool
  | .event _ .interrupt => true
  | _ => false

/-- **Some agent audio was emitted after the last interrupt.** -/
def Unflushed (log : List Effect) : Prop :=
  ∃ before audio after, log = before ++ audio :: after ∧ audio.isAudio = true ∧
    ∀ effect ∈ after, effect.isInterrupt = false

/-- The last effect decides, unless it is neutral. -/
theorem unflushed_snoc (log : List Effect) (last : Effect) :
    Unflushed (log ++ [last]) ↔
      last.isAudio = true ∨ last.isInterrupt = false ∧ Unflushed log := by
  constructor
  · rintro ⟨before, audio, after, split, isAudio, quiet⟩
    rcases List.eq_nil_or_concat after with rfl | ⟨after, effect, rfl⟩
    · obtain ⟨-, last_eq⟩ := List.append_inj' split rfl
      obtain rfl := List.singleton_inj.1 last_eq
      exact .inl isAudio
    · rw [List.concat_eq_append] at split quiet
      rw [← List.cons_append, ← List.append_assoc] at split
      obtain ⟨rfl, last_eq⟩ := List.append_inj' split rfl
      obtain rfl := List.singleton_inj.1 last_eq
      refine .inr ⟨quiet _ (by simp), before, audio, after, rfl, isAudio, ?_⟩
      exact fun effect mem => quiet effect (List.mem_append_left _ mem)
  · rintro (isAudio | ⟨quiet, before, audio, after, rfl, isAudio, quietAfter⟩)
    · exact ⟨log, last, [], rfl, isAudio, nofun⟩
    · refine ⟨before, audio, after ++ [last], by simp, isAudio, ?_⟩
      intro effect mem
      rcases List.mem_append.1 mem with old | new
      · exact quietAfter effect old
      · rw [List.mem_singleton.1 new]
        exact quiet

/-- What one more effect does to the unflushed audio. -/
theorem unflushed_append_mark (trail : List Mark) (last : Effect) :
    unflushed (trail ++ [last].filterMap Effect.mark) =
      (last.isAudio || !last.isInterrupt && unflushed trail) := by
  unfold unflushed
  rw [List.foldl_append]
  generalize trail.foldl Mark.unflushed false = sent
  cases last with
  | received input =>
    cases input with
    | sttEvent event => cases event <;> rfl
    | vadEvent event | llmEvent event | ttsEvent event | timerFired key => rfl
  | event speaking event => cases event <;> rfl
  | backend active call => cases call <;> rfl
  | startTtsForTurn _ | tts _ | sttFinalize | transportClose | bargeInRejected _
  | lateTranscriptDropped _ => rfl

/-- The log is unflushed exactly if its marks are. -/
theorem unflushed_marks (log : List Effect) :
    unflushed (log.filterMap Effect.mark) = true ↔ Unflushed log := by
  induction log using List.reverseRecOn with
  | nil =>
    refine ⟨nofun, ?_⟩
    rintro ⟨before, audio, after, split, -, -⟩
    simp at split
  | append_singleton log last ih =>
    rw [unflushed_snoc, ← ih, List.filterMap_append, unflushed_append_mark]
    simp

/-- Audio in the log is audio in the trail. -/
theorem audio_mem_trail {β : Type} [AgentBackend β] {r : Reactor β} {speaking : Bool}
    {pcm : Bytes} {sampleRate offset : ℕ}
    (h : Effect.event speaking (.agentAudio pcm sampleRate offset) ∈ r.log) :
    Mark.audio speaking ∈ r.core.trail :=
  List.mem_filterMap.2 ⟨_, h, rfl⟩

namespace Reactor

variable {β : Type} [AgentBackend β]

/-- **Output gate and interruption.**  While the user speaks no agent audio is emitted; the flag
`botAudioSent` says whether some audio was emitted after the last interrupt; and when the user
starts to speak, every audio emitted so far has been followed by an interrupt. -/
theorem output_gate {r₀ : Reactor β} (started : Started r₀) (moments : List (Moment β)) :
    let r := Run.run step r₀ moments
    (∀ speaking pcm sampleRate offset,
      Effect.event speaking (.agentAudio pcm sampleRate offset) ∈ r.log → speaking = false) ∧
    (r.botAudioSent = true ↔ Unflushed r.log) ∧
    ∀ m, r.turnPhase.isSpeaking = false → (r.step m).turnPhase.isSpeaking = true →
      ¬ Unflushed (r.step m).log := by
  intro r
  have gated : ∀ moments, (Run.run step r₀ moments).core.Gated := fun moments =>
    run_keeps Coordinator.Opened.gated (fun _ h => h) Coordinator.Gated.outcome started moments
  refine ⟨?_, ?_, ?_⟩
  · intro speaking pcm sampleRate offset mem
    cases speaking with
    | false => rfl
    | true => exact absurd (audio_mem_trail mem) (gated moments).muted
  · rw [← unflushed_marks]
    exact (gated moments).sent_eq ▸ Iff.rfl
  · intro m _ speaks audio
    have after : (r.step m).core.Gated := by
      have := gated (moments ++ [m])
      rwa [Run.run_append] at this
    have flushed : unflushed (r.step m).core.trail = false :=
      after.sent_eq.trans (after.closed speaks)
    exact Bool.false_ne_true (flushed.symm.trans ((unflushed_marks _).2 audio))

/-- A session in which the agent speaks and the user interrupts it. -/
theorem output_gate_interrupted :
    let r := Run.run step (session {}) [calmly 1 (.vad .speechStarted true),
      calmly 2 (.vad (.speechEnded []) true), calmly 3 (.stt (.transcript "hi")),
      calmly 4 (.tts (.audio [0, 0]))]
    (r.botAudioSent = true ↔ Unflushed r.log) ∧
      ¬ Unflushed (r.step (calmly 5 (.vad .speechStarted true))).log :=
  have gate := output_gate (started_session {}) _
  ⟨gate.2.1, gate.2.2 _ (by decide) (by decide)⟩

end Reactor

end Feros
