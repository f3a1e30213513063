import Feros.Guarantees.NativeTranscripts
import Feros.Guarantees.TtsBatches
/-! # What a native turn is billed for

The provider delivers the words of a turn in chunks, and again as a full text.  The transcript buffer takes the
full text in place of the chunks; the tracer, whose text is billed, takes it behind them.  So the two agree if
and only if nothing was heard before the full text, and, in a turn that has none, nothing was left in the
transcript buffer when it was opened.

* **`Bill`**: a session with what has been heard in its turn.
* **`replacedText`**: what is heard before the last full text.
* **`Metered`**: what a branch of the loop does to the span of the turn, and what it bills. -/

namespace Feros

open Run TtsBatching NativeTranscripts

namespace NativeBilling

/-! ## What is billed -/

/-- What a `TtsComplete` bills: a text, and a number of characters. -/
def billOf : NativeBusEvent → Option (String × ℕ)
  | .event (.ttsComplete _ _ text _ characterCount) => some (text, characterCount)
  | _ => none

/-- The bills so far. -/
def bills (s : NativeSession) : List (String × ℕ) := s.emitted.filterMap billOf

/-- **A session, with what has been heard in its turn**, and what was in the transcript buffer when the turn was
opened. -/
structure Bill where
  session : NativeSession
  left : String := ""
  heard : List (String × Bool) := []

/-- The bot is transcribed. -/
def hearsOutput : NativeOccurrence → Bool
  | .event (.outputTranscript _ _) => true
  | _ => false

/-- The model has finished its turn. -/
def completesTurn : NativeOccurrence → Bool
  | .event (.turnComplete _ _) => true
  | _ => false

/-- A turn is completed by its event only. -/
theorem eq_of_completesTurn {occurrence : NativeOccurrence} (isEnd : completesTurn occurrence = true) :
    ∃ prompt completion, occurrence = .event (.turnComplete prompt completion) := by
  unfold completesTurn at isEnd
  split at isEnd
  · exact ⟨_, _, rfl⟩
  · cases isEnd

namespace Bill

/-- Note what is heard, and when a turn is opened. -/
def note (occurrence : NativeOccurrence) (b : Bill) : Bill :=
  match occurrence with
  | .event (.inputTranscript _ true) => { b with left := b.session.botTranscriptBuf, heard := [] }
  | .event (.outputTranscript text isFinal) => { b with heard := b.heard ++ [(text, isFinal)] }
  | _ => b

/-- **One turn of the loop.** -/
def step (b : Bill) (input : NativeAction × Instant) : Bill :=
  let (occurrence, s) := b.session.select input.1
  { b.note occurrence with session := s.handle occurrence input.2 }

/-- Output arrives only while a turn is open. -/
def InTurn (b : Bill) (input : NativeAction × Instant) : Prop :=
  hearsOutput (b.session.select input.1).1 = true → b.session.tracer.turnOpen = true

instance (b : Bill) (input : NativeAction × Instant) : Decidable (b.InTurn input) :=
  inferInstanceAs (Decidable (_ = true → _ = true))

/-- The model completes a turn that is open. -/
def Completes (b : Bill) (input : NativeAction × Instant) : Prop :=
  b.session.tracer.turnOpen = true ∧ completesTurn (b.session.select input.1).1 = true

instance (b : Bill) (input : NativeAction × Instant) : Decidable (b.Completes input) :=
  inferInstanceAs (Decidable (_ ∧ _))

/-- The bills of a step. -/
def billed (b : Bill) (input : NativeAction × Instant) : List (String × ℕ) :=
  (bills (b.step input).session).drop (bills b.session).length

/-- The texts of the agent that a step puts on the bus. -/
def shown (b : Bill) (input : NativeAction × Instant) : List String :=
  (NativeTranscripts.assistantTexts (b.step input).session).drop
    (NativeTranscripts.assistantTexts b.session).length

end Bill

/-! ## Chunks and full texts -/

/-- **What is heard before the last full text**, if there is one. -/
def replacedText : List (String × Bool) → Option String
  | [] => none
  | (text, isFinal) :: rest =>
    match replacedText rest with
    | some later => some (text ++ later)
    | none => if isFinal && !text.isEmpty then some "" else none

/-- The transcript buffer after what was heard. -/
def gathered (left : String) (heard : List (String × Bool)) : String :=
  heard.foldl (fun buf item => written (.event (.outputTranscript item.1 item.2)) buf) left

/-- **A turn is billed once**: nothing but white space is heard before its last full text, or, if it has none,
was left in the transcript buffer when it was opened. -/
def Once (left : String) (heard : List (String × Bool)) : Prop :=
  isBlank ((replacedText heard).getD left) = true

instance (left : String) (heard : List (String × Bool)) : Decidable (Once left heard) :=
  inferInstanceAs (Decidable (_ = true))

/-- The transcript buffer has all that was heard but what was replaced, or has it behind what was left. -/
theorem gathered_spec (left : String) (heard : List (String × Bool)) :
    match replacedText heard with
    | some early => String.join (heard.map Prod.fst) = early ++ gathered left heard
    | none => gathered left heard = left ++ String.join (heard.map Prod.fst) := by
  induction heard generalizing left with
  | nil => exact String.append_empty.symm
  | cons item heard ih =>
      obtain ⟨text, isFinal⟩ := item
      have rest := ih (written (.event (.outputTranscript text isFinal)) left)
      have same : gathered left ((text, isFinal) :: heard) =
          gathered (written (.event (.outputTranscript text isFinal)) left) heard := rfl
      rw [same, List.map_cons, String.join_cons]
      rw [replacedText]
      rcases replaced : replacedText heard with _ | later
      · rw [replaced] at rest
        dsimp only at rest ⊢
        rw [rest]
        unfold written
        dsimp only
        by_cases empty : text.isEmpty = true
        · rw [if_pos empty, String.isEmpty_iff.1 empty, String.empty_append]
          cases isFinal <;> rfl
        · rw [if_neg empty, Bool.eq_false_iff.2 empty]
          cases isFinal with
          | false => exact String.append_assoc
          | true => exact String.empty_append.symm
      · rw [replaced] at rest
        dsimp only at rest ⊢
        rw [rest, String.append_assoc]

/-- Text in front is trimmed away if it is blank, and not otherwise. -/
theorem trim_append_iff (first second : String) :
    trim (first ++ second) = trim second ↔ isBlank first = true := by
  constructor
  · intro same
    have characters := congrArg solid same
    rw [solid_trim, solid_trim, solid_append, List.append_left_eq_self] at characters
    exact isBlank_of_solid characters
  · intro blank
    exact trim_append_of_isBlank blank second

/-- **What was heard and what was gathered** agree, white space around them aside. -/
theorem once_iff (left : String) (heard : List (String × Bool)) :
    trim (String.join (heard.map Prod.fst)) = trim (gathered left heard) ↔ Once left heard := by
  have spec := gathered_spec left heard
  unfold Once
  rcases replaced : replacedText heard with _ | early
  · rw [replaced] at spec
    rw [spec, eq_comm]
    exact trim_append_iff _ _
  · rw [replaced] at spec
    rw [spec]
    exact trim_append_iff _ _

/-! ## The tracer -/

/-- What is known of the span of a turn: whether it is open, its text, and whether text was fed. -/
structure Span where
  isOpen : Bool
  text : String
  fed : Bool
  deriving DecidableEq

/-- The span of a tracer. -/
def span (t : Tracer) : Span := ⟨t.turnOpen, t.ttsText, t.ttsTextFed⟩

/-- No turn, and no text. -/
def closed : Span := ⟨false, "", false⟩

/-- A turn that is cancelled is not billed. -/
theorem unbilled_cancelTurn (t : Tracer) :
    span t.cancelTurn.1 = closed ∧ ∀ event ∈ t.cancelTurn.2, billOf (.event event) = none := by
  unfold Tracer.cancelTurn
  dsimp only
  by_cases isOpen : t.turnOpen = true
  · have opened : t.resetPipeline.turnOpen = true := isOpen
    rw [if_pos opened]
    refine ⟨rfl, ?_⟩
    intro event held
    rw [List.mem_singleton.1 held]
    rfl
  · have notOpen : ¬ t.resetPipeline.turnOpen = true := isOpen
    rw [if_neg notOpen]
    have shut : t.turnOpen = false := Bool.eq_false_iff.2 isOpen
    refine ⟨?_, nofun⟩
    exact congrArg (Span.mk · "" false) shut

/-- A turn that starts bills nothing. -/
theorem unbilled_startTurn (provider model text language : String) (vadEnabled : Bool) (t : Tracer) :
    span (t.startTurn provider model text language vadEnabled).1 =
        (if t.turnOpen = true then ⟨true, "", false⟩ else ⟨true, t.ttsText, t.ttsTextFed⟩) ∧
      ∀ event ∈ (t.startTurn provider model text language vadEnabled).2, billOf (.event event) = none := by
  have started : ∀ (count : ℕ), ∀ event ∈ [Event.turnStarted count,
      .sttComplete provider model text true (some language) vadEnabled], billOf (.event event) = none := by
    intro count event held
    rcases List.mem_cons.1 held with rfl | held
    · rfl
    · rw [List.mem_singleton.1 held]
      rfl
  unfold Tracer.startTurn
  dsimp only
  by_cases isOpen : t.turnOpen = true
  · obtain ⟨cancelled, unbilled⟩ := unbilled_cancelTurn t
    rw [if_pos isOpen, if_pos isOpen]
    refine ⟨?_, ?_⟩
    · have text := congrArg Span.text cancelled
      have fed := congrArg Span.fed cancelled
      exact congrArg₂ (Span.mk true) text fed
    · intro event held
      rcases List.mem_append.1 held with held | held
      · exact unbilled event held
      · exact started _ event held
  · rw [if_neg isOpen, if_neg isOpen]
    exact ⟨rfl, started _⟩

/-- **The end of a turn** bills its text, if text was fed. -/
theorem billed_finishTurn (provider model voiceId : String) (t : Tracer) :
    (∃ fed, span (t.finishTurn false provider model voiceId).1 =
      if t.turnOpen = true then ⟨false, "", fed⟩ else span t) ∧
    ((t.finishTurn false provider model voiceId).2.map NativeBusEvent.event).filterMap billOf =
      if (t.turnOpen && t.ttsTextFed) = true then [(t.ttsText, t.ttsText.length)] else [] := by
  unfold Tracer.finishTurn
  by_cases isOpen : t.turnOpen = true
  · rw [isOpen]
    cases t.ttsTextFed with
    | true =>
        cases t.speechEnded with
        | true => exact ⟨⟨false, rfl⟩, rfl⟩
        | false => exact ⟨⟨true, rfl⟩, rfl⟩
    | false =>
        cases t.speechEnded with
        | true => exact ⟨⟨false, rfl⟩, rfl⟩
        | false => exact ⟨⟨false, rfl⟩, rfl⟩
  · have shut : t.turnOpen = false := Bool.eq_false_iff.2 isOpen
    rw [shut]
    exact ⟨⟨false, rfl⟩, rfl⟩

/-! ## The branches -/

section Session

variable {s s' : NativeSession} {now : Span} {billed : List (String × ℕ)}

/-- **What a branch does** to the span of the turn, and what it bills. -/
structure Metered (s s' : NativeSession) (now : Span) (billed : List (String × ℕ)) : Prop where
  span : span s'.tracer = now
  bills : bills s' = bills s ++ billed

namespace Metered

/-- Nothing has happened. -/
theorem refl (s : NativeSession) : Metered s s (NativeBilling.span s.tracer) [] :=
  ⟨rfl, (List.append_nil _).symm⟩

/-- More is put on the bus, but no bill. -/
theorem emits (metered : Metered s s' now billed) {t : NativeSession} {events : List NativeBusEvent}
    (others : ∀ event ∈ events, billOf event = none) (emitted : t.emitted = s'.emitted ++ events)
    (tracer : t.tracer = s'.tracer) : Metered s t now billed := by
  refine ⟨?_, ?_⟩
  · rw [tracer]
    exact metered.span
  · have none_ : events.filterMap billOf = [] := List.filterMap_eq_nil_iff.2 others
    rw [← metered.bills]
    unfold NativeBilling.bills
    rw [emitted, List.filterMap_append, none_, List.append_nil]

/-- Another event is emitted. -/
theorem emit (metered : Metered s s' now billed) {event : Event} (other : billOf (.event event) = none) :
    Metered s (s'.emit event) now billed := by
  refine metered.emits (fun e held => ?_) rfl rfl
  rw [List.mem_singleton.1 held]
  exact other

/-- The session ends. -/
theorem ends (metered : Metered s s' now billed) :
    Metered s (({ s' with ended := true } : NativeSession).emit .sessionEnded) now billed := by
  have ended : Metered s { s' with ended := true } now billed := ⟨metered.span, metered.bills⟩
  exact ended.emit rfl

/-- A call of the tracer that bills nothing. -/
theorem withTracer (metered : Metered s s' now billed) {f : Tracer → Tracer × List Event} {later : Span}
    (called : NativeBilling.span (f s'.tracer).1 = later)
    (others : ∀ event ∈ (f s'.tracer).2, billOf (.event event) = none) :
    Metered s (s'.withTracer f) later billed := by
  have none_ : ((f s'.tracer).2.map NativeBusEvent.event).filterMap billOf = [] := by
    rw [List.filterMap_eq_nil_iff]
    intro e held
    obtain ⟨event, emitted, rfl⟩ := List.mem_map.1 held
    exact others event emitted
  refine ⟨called, ?_⟩
  rw [← metered.bills]
  unfold NativeBilling.bills NativeSession.withTracer
  dsimp only
  rw [List.filterMap_append, none_, List.append_nil]

/-- The transcript buffer is flushed. -/
theorem flush (metered : Metered s s' now billed) : Metered s s'.flushTranscript now billed := by
  unfold NativeSession.flushTranscript
  dsimp only
  split
  · exact ⟨metered.span, metered.bills⟩
  · exact metered.emits (fun e held => by rw [List.mem_singleton.1 held]; rfl) rfl rfl

/-- The tracer is called to cancel the turn. -/
theorem cancel (metered : Metered s s' now billed) :
    Metered s (s'.withTracer Tracer.cancelTurn) closed billed :=
  metered.withTracer (unbilled_cancelTurn s'.tracer).1 (unbilled_cancelTurn s'.tracer).2

/-- A raw trace event. -/
theorem traced (metered : Metered s s' now billed) (label : String) :
    Metered s (s'.withTracer (Tracer.trace label)) now billed := by
  refine metered.withTracer metered.span ?_
  intro event held
  rw [List.mem_singleton.1 held]
  rfl

end Metered

/-- The span after a turn was finished. -/
def Span.finish (fed : Bool) (span : Span) : Span := if span.isOpen = true then ⟨false, "", fed⟩ else span

/-- What is billed for a span. -/
def Span.bill (span : Span) : List (String × ℕ) :=
  if (span.isOpen && span.fed) = true then [(span.text, span.text.length)] else []

/-- **The end of a turn bills its span.** -/
theorem metered_finishTurn (metered : Metered s s' now []) :
    ∃ fed, Metered s s'.finishTurn (now.finish fed) now.bill := by
  obtain ⟨⟨fed, finished⟩, billed⟩ :=
    billed_finishTurn "gemini_live" s'.modelName s'.config.voiceId s'.tracer
  have before : bills s' = bills s := by
    rw [metered.bills, List.append_nil]
  refine ⟨fed, ?_, ?_⟩
  · rw [← metered.span]
    exact finished
  · rw [← metered.span, ← before]
    unfold NativeSession.finishTurn NativeSession.withTracer bills
    dsimp only
    rw [List.filterMap_append, billed]
    rfl

/-- A barge-in closes the span, and bills nothing. -/
theorem metered_bargeIn (metered : Metered s s' now billed) (taken : Bool) :
    Metered s (s'.bargeIn taken) closed billed := by
  have stopped : Metered s
      { s' with
        backend := s'.backend.interrupt taken
        botSpeaking := false
        playback := s'.playback.reset } now billed := ⟨metered.span, metered.bills⟩
  have ended := stopped.flush.cancel.traced "SpeechEnded"
  have other : billOf (.event .interrupt) = none := rfl
  exact (ended.emit other).emit rfl

/-- Audio of the user closes the span at a barge-in, and bills nothing. -/
theorem metered_handleMic (frames : List (List (BitVec 16))) (speechStarted taken : Bool)
    (s : NativeSession) :
    Metered s (s.handleMic frames speechStarted taken)
      (if (s.config.vadOk && speechStarted && s.botSpeaking) = true then closed else span s.tracer) [] := by
  have audio : ∀ event ∈ frames.map NativeBusEvent.userAudio, billOf event = none := by
    intro event held
    obtain ⟨samples, -, rfl⟩ := List.mem_map.1 held
    rfl
  have recorded : Metered s (if s.config.recordingEnabled = true then
      { s with emitted := s.emitted ++ frames.map .userAudio } else s) (span s.tracer) [] := by
    split
    · exact (Metered.refl s).emits audio rfl rfl
    · exact .refl s
  have same : (if s.config.recordingEnabled = true then
        { s with emitted := s.emitted ++ frames.map .userAudio } else s).config = s.config ∧
      (if s.config.recordingEnabled = true then
        { s with emitted := s.emitted ++ frames.map .userAudio } else s).botSpeaking =
          s.botSpeaking := by
    split <;> exact ⟨rfl, rfl⟩
  unfold NativeSession.handleMic
  dsimp only
  generalize (if s.config.recordingEnabled = true then
    { s with emitted := s.emitted ++ frames.map .userAudio } else s) = t at recorded same ⊢
  have pushed : Metered s
      { t with backend := frames.foldl (fun b pcm => b.pushAudio pcm taken) t.backend } (span s.tracer) [] :=
    ⟨recorded.span, recorded.bills⟩
  have heard := pushed.traced "SpeechStarted"
  rw [← same.1, ← same.2]
  by_cases starts : (t.config.vadOk && speechStarted) = true
  · rw [if_pos starts, starts, Bool.true_and]
    show Metered s (if t.botSpeaking = true then _ else _) _ _
    by_cases speaks : t.botSpeaking = true
    · rw [if_pos speaks, if_pos speaks]
      exact metered_bargeIn heard taken
    · rw [if_neg speaks, if_neg speaks]
      exact heard
  · have ignored : ¬ (t.config.vadOk && speechStarted && t.botSpeaking) = true := by
      rw [Bool.and_eq_true]
      exact fun both => starts both.1
    rw [if_neg starts, if_neg ignored]
    exact pushed

/-- Audio of the bot bills nothing. -/
theorem metered_handleBotAudio (samples : List (BitVec 16)) (now : Instant) (s : NativeSession) :
    Metered s (s.handleBotAudio samples now) (span s.tracer) [] := by
  unfold NativeSession.handleBotAudio
  dsimp only
  split
  · exact (Metered.refl s).emits (fun e held => by rw [List.mem_singleton.1 held]; rfl) rfl rfl
  · exact (Metered.refl s).emits (fun e held => by rw [List.mem_singleton.1 held]; rfl) rfl rfl

/-- A transcript of the bot is added to the span. -/
theorem metered_handleOutputTranscript (text : String) (isFinal : Bool) (s : NativeSession) :
    Metered s (s.handleOutputTranscript text isFinal)
      ⟨s.tracer.turnOpen, s.tracer.ttsText ++ text, true⟩ [] := by
  have chunk : (s.emitted ++ [NativeBusEvent.transcriptChunk "assistant" text]).filterMap billOf = bills s := by
    rw [List.filterMap_append]
    exact List.append_nil _
  unfold NativeSession.handleOutputTranscript
  dsimp only
  split
  · exact ⟨rfl, (List.append_nil _).symm⟩
  · split
    · exact ⟨rfl, (List.append_nil _).symm⟩
    · refine ⟨rfl, ?_⟩
      rw [List.append_nil]
      exact chunk

/-- A final transcript of the user opens a span. -/
theorem metered_opened (text : String) (s : NativeSession) :
    Metered s (s.handleInputTranscript text true)
      (if s.tracer.turnOpen = true then ⟨true, "", false⟩
        else ⟨true, s.tracer.ttsText, s.tracer.ttsTextFed⟩) [] := by
  have told : billOf (.event (.transcript "user" text)) = none := rfl
  have opened := unbilled_startTurn "gemini_live" s.modelName text s.config.language s.config.vadOk s.tracer
  exact ((Metered.refl s).emit told).withTracer opened.1 opened.2

/-- An interim transcript of the user leaves the span. -/
theorem metered_interim (text : String) (s : NativeSession) :
    Metered s (s.handleInputTranscript text false) (span s.tracer) [] := by
  refine (Metered.refl s).emits (fun e held => ?_) rfl rfl
  rw [List.mem_singleton.1 held]
  rfl

/-- The hang-up of the agent bills nothing. -/
theorem metered_handleHangUp (now : Instant) (s : NativeSession) :
    Metered s (s.handleHangUp now) (span s.tracer) [] := by
  unfold NativeSession.handleHangUp
  split
  · exact .refl s
  · refine (Metered.refl s).emits (fun e held => ?_) rfl rfl
    rw [List.mem_singleton.1 held]
    rfl

/-- **The end of a turn** bills its span. -/
theorem metered_completed (promptTokens completionTokens : ℕ) (s : NativeSession) :
    ∃ fed, Metered s (s.handleTurnComplete promptTokens completionTokens) ((span s.tracer).finish fed)
      (span s.tracer).bill := by
  have silenced : Metered s { s with botSpeaking := false } (span s.tracer) [] :=
    ⟨rfl, (List.append_nil _).symm⟩
  unfold NativeSession.handleTurnComplete
  dsimp only
  exact metered_finishTurn (silenced.flush.emit rfl)

/-- The end of the call bills its span. -/
theorem metered_elapsed (s : NativeSession) :
    ∃ fed, Metered s s.handleHangupElapsed ((span s.tracer).finish fed) (span s.tracer).bill := by
  obtain ⟨fed, finished⟩ := metered_finishTurn (Metered.refl s).flush
  unfold NativeSession.handleHangupElapsed
  exact ⟨fed, finished.ends⟩

end Session

/-! ## A turn of the loop -/

/-- **What is known of a turn**: the tracer has all that was heard in it, and the transcript buffer what was
gathered; between turns the tracer has no text. -/
structure Sound (left : String) (heard : List (String × Bool)) (now : Span) (buf : String) : Prop where
  between : now.isOpen = false → now.text = ""
  text : now.isOpen = true → now.text = String.join (heard.map Prod.fst)
  fed : now.isOpen = true → heard ≠ [] → now.fed = true
  buffer : now.isOpen = true → buf = gathered left heard

namespace Bill

/-- What is known of the turn of a session. -/
def Sound (b : Bill) : Prop :=
  NativeBilling.Sound b.left b.heard (span b.session.tracer) b.session.botTranscriptBuf

section Step

variable {b : Bill} {occurrence : NativeOccurrence} {s s' : NativeSession} {now : Span}
  {billed : List (String × ℕ)} {buf : String}

/-- A closed span is sound. -/
theorem sound_closed (left : String) (heard : List (String × Bool)) (buf : String) :
    NativeBilling.Sound left heard closed buf := ⟨fun _ => rfl, nofun, nofun, nofun⟩

/-- A span that was finished is sound. -/
theorem sound_finish (left : String) (heard : List (String × Bool)) (buf : String) (fed : Bool)
    (between : now.isOpen = false → now.text = "") :
    NativeBilling.Sound left heard (now.finish fed) buf := by
  unfold Span.finish
  by_cases isOpen : now.isOpen = true
  · rw [if_pos isOpen]
    exact ⟨fun _ => rfl, nofun, nofun, nofun⟩
  · rw [if_neg isOpen]
    exact ⟨between, fun opened => absurd opened isOpen, fun opened => absurd opened isOpen,
      fun opened => absurd opened isOpen⟩

/-- What is known after a branch. -/
theorem sound_of {left : String} {heard : List (String × Bool)} (metered : Metered s s' now billed)
    (buffer : s'.botTranscriptBuf = buf) (sound : NativeBilling.Sound left heard now buf) :
    NativeBilling.Sound left heard (span s'.tracer) s'.botTranscriptBuf := by
  rw [metered.span, buffer]
  exact sound

/-- A turn is opened. -/
theorem sound_opened (between : s.tracer.turnOpen = false → s.tracer.ttsText = "") (left : String) :
    NativeBilling.Sound left [] (if s.tracer.turnOpen = true then ⟨true, "", false⟩
      else ⟨true, s.tracer.ttsText, s.tracer.ttsTextFed⟩) left := by
  by_cases isOpen : s.tracer.turnOpen = true
  · rw [if_pos isOpen]
    exact ⟨nofun, fun _ => rfl, fun _ some_ => absurd rfl some_, fun _ => rfl⟩
  · rw [if_neg isOpen, between (Bool.eq_false_iff.2 isOpen)]
    exact ⟨nofun, fun _ => rfl, fun _ some_ => absurd rfl some_, fun _ => rfl⟩

/-- Another text is heard. -/
theorem sound_heard {left : String} {heard : List (String × Bool)} (isOpen : now.isOpen = true)
    (sound : NativeBilling.Sound left heard now buf) (text : String) (isFinal : Bool) :
    NativeBilling.Sound left (heard ++ [(text, isFinal)]) ⟨now.isOpen, now.text ++ text, true⟩
      (written (.event (.outputTranscript text isFinal)) buf) := by
  refine ⟨fun shut => absurd (isOpen.symm.trans shut) Bool.false_ne_true.symm, fun _ => ?_, fun _ _ => rfl,
    fun _ => ?_⟩
  · show now.text ++ text = String.join ((heard ++ [(text, isFinal)]).map Prod.fst)
    rw [sound.text isOpen, List.map_append]
    exact (join_concat _ text).symm
  · rw [sound.buffer isOpen]
    unfold gathered
    rw [List.foldl_append]
    rfl

/-- **A branch** keeps what is known of the turn. -/
theorem sound_handle (clock : Instant)
    (sound : NativeBilling.Sound b.left b.heard (span s.tracer) s.botTranscriptBuf)
    (inTurn : hearsOutput occurrence = true → s.tracer.turnOpen = true)
    (noted : s.botTranscriptBuf = b.session.botTranscriptBuf) :
    NativeBilling.Sound (b.note occurrence).left (b.note occurrence).heard
      (span (s.handle occurrence clock).tracer) (s.handle occurrence clock).botTranscriptBuf := by
  have handled := (handled_handle occurrence clock s).buf
  cases occurrence with
  | event event =>
      cases event with
      | botAudio samples => exact sound_of (metered_handleBotAudio samples clock s) handled sound
      | toolCallStarted id name => exact sound_of ((Metered.refl s).emit rfl) handled sound
      | toolCallCompleted id name success => exact sound_of ((Metered.refl s).emit rfl) handled sound
      | hangUp reason => exact sound_of (metered_handleHangUp clock s) handled sound
      | error message => exact sound_of ((Metered.refl s).emit rfl) handled sound
      | outputTranscript text isFinal =>
          -- A text of the model is only heard in an open turn.
          have isOpen := inTurn rfl
          exact sound_of (metered_handleOutputTranscript text isFinal s) handled
            (sound_heard isOpen sound text isFinal)
      | inputTranscript text isFinal =>
          cases isFinal with
          | false => exact sound_of (metered_interim text s) handled sound
          | true =>
              -- A final transcript opens the next turn, and the text so far belongs to the one before.
              have opened := sound_opened sound.between s.botTranscriptBuf
              show NativeBilling.Sound b.session.botTranscriptBuf [] _ _
              rw [← noted]
              exact sound_of (metered_opened text s) handled opened
      | turnComplete prompt completion =>
          obtain ⟨fed, metered⟩ := metered_completed prompt completion s
          exact sound_of metered rfl (sound_finish _ _ _ fed sound.between)
  | reconnected =>
      -- A new connection speaks no more, and its turn is closed.
      have silenced : Metered s { s with botSpeaking := false } (span s.tracer) [] :=
        ⟨rfl, (List.append_nil _).symm⟩
      exact sound_of silenced.cancel rfl (sound_closed _ _ _)
  | reconnectFailed => exact sound_of (Metered.refl s).ends handled sound
  | mic frames speechStarted taken =>
      have metered := metered_handleMic frames speechStarted taken s
      -- A local barge-in closes the turn, any other sound leaves it.
      by_cases bargesIn : (s.config.vadOk && speechStarted && s.botSpeaking) = true
      · rw [if_pos bargesIn] at metered
        exact sound_of metered rfl (sound_closed _ _ _)
      · rw [if_neg bargesIn] at metered
        have kept : ¬ flushes s (.mic frames speechStarted taken) = true := bargesIn
        rw [if_neg kept] at handled
        exact sound_of metered handled sound
  | micClosed => exact sound_of (Metered.refl s).ends handled sound
  | hangupElapsed =>
      obtain ⟨fed, metered⟩ := metered_elapsed s
      exact sound_of metered rfl (sound_finish _ _ _ fed sound.between)
  | nothing => exact sound

end Step

/-- Choosing a branch does nothing that is heard or billed. -/
theorem select_same (action : NativeAction) (s : NativeSession) :
    (s.select action).2.tracer = s.tracer ∧ (s.select action).2.botTranscriptBuf = s.botTranscriptBuf ∧
      (s.select action).2.emitted = s.emitted := by
  have proceeded (reconnects : Bool) (result : NativeMultimodalBackend × NativeStatus) :
      (s.proceed reconnects result).2.tracer = s.tracer ∧
        (s.proceed reconnects result).2.botTranscriptBuf = s.botTranscriptBuf ∧
        (s.proceed reconnects result).2.emitted = s.emitted := by
    obtain ⟨backend, (_ | event) | point⟩ := result
    · cases reconnects with
      | true => exact ⟨rfl, rfl, rfl⟩
      | false => exact ⟨rfl, rfl, rfl⟩
    · exact ⟨rfl, rfl, rfl⟩
    · exact ⟨rfl, rfl, rfl⟩
  unfold NativeSession.select
  split
  · exact ⟨rfl, rfl, rfl⟩
  · cases action with
    | poll =>
        dsimp only
        split <;> exact ⟨rfl, rfl, rfl⟩
    | wake wake reconnects =>
        dsimp only
        split
        · exact proceeded reconnects _
        · exact ⟨rfl, rfl, rfl⟩
    | mic => exact ⟨rfl, rfl, rfl⟩
    | micClosed => exact ⟨rfl, rfl, rfl⟩
    | hangupElapsed =>
        dsimp only
        split <;> exact ⟨rfl, rfl, rfl⟩
    | toolDone =>
        dsimp only
        split <;> exact ⟨rfl, rfl, rfl⟩

/-- **A turn of the loop** keeps what is known. -/
theorem sound_step {b : Bill} (sound : b.Sound) {input : NativeAction × Instant} (inTurn : b.InTurn input) :
    (b.step input).Sound := by
  obtain ⟨tracer, buffer, -⟩ := select_same input.1 b.session
  have chosen : NativeBilling.Sound b.left b.heard (span (b.session.select input.1).2.tracer)
      (b.session.select input.1).2.botTranscriptBuf := by
    rw [tracer, buffer]
    exact sound
  have opened : hearsOutput (b.session.select input.1).1 = true →
      (b.session.select input.1).2.tracer.turnOpen = true := by
    rw [tracer]
    exact inTurn
  exact sound_handle input.2 chosen opened buffer

/-- **What is shown and billed at the end of a turn.** -/
theorem completes_spec {b : Bill} {input : NativeAction × Instant} (completes : b.Completes input) :
    b.shown input = flushed b.session.botTranscriptBuf ∧ b.billed input = (span b.session.tracer).bill := by
  obtain ⟨prompt, completion, isEnd⟩ := eq_of_completesTurn completes.2
  obtain ⟨tracer, buffer, emitted⟩ := select_same input.1 b.session
  have before : NativeTranscripts.assistantTexts (b.session.select input.1).2 =
      NativeTranscripts.assistantTexts b.session :=
    congrArg (List.filterMap NativeTranscripts.assistantText) emitted
  have beforeBills : bills (b.session.select input.1).2 = bills b.session :=
    congrArg (List.filterMap billOf) emitted
  have ended : (b.step input).session =
      (b.session.select input.1).2.handleTurnComplete prompt completion := by
    unfold step
    dsimp only
    rw [isEnd]
    rfl
  have handled := handled_handleTurnComplete prompt completion (b.session.select input.1).2
  obtain ⟨fed, metered⟩ := metered_completed prompt completion (b.session.select input.1).2
  refine ⟨?_, ?_⟩
  · unfold shown
    rw [ended, handled.texts, before, List.drop_left, buffer]
  · unfold Bill.billed
    rw [ended, metered.bills, beforeBills, List.drop_left, tracer]

/-- **The text that is billed** at the end of a turn is all that was heard in it. -/
theorem join_billed {b : Bill} (sound : b.Sound) {input : NativeAction × Instant}
    (completes : b.Completes input) :
    String.join ((b.billed input).map Prod.fst) = String.join (b.heard.map Prod.fst) := by
  have isOpen : (span b.session.tracer).isOpen = true := completes.1
  rw [(completes_spec completes).2]
  unfold Span.bill
  rw [isOpen, Bool.true_and]
  split
  · rw [← sound.text isOpen]
    exact String.empty_append
  · rename_i unfed
    have nothing : b.heard = [] := by
      by_contra some_
      exact unfed (sound.fed isOpen some_)
    rw [nothing]
    rfl

/-- **The text that is shown** at the end of a turn is what was gathered in it. -/
theorem join_shown {b : Bill} (sound : b.Sound) {input : NativeAction × Instant}
    (completes : b.Completes input) : String.join (b.shown input) = trim (gathered b.left b.heard) := by
  rw [(completes_spec completes).1, sound.buffer completes.1]
  unfold flushed
  split
  · rename_i blank
    exact (String.isEmpty_iff.1 blank).symm
  · exact String.empty_append

end Bill

/-- **Native speech is billed once** in a turn if and only if nothing but white space is heard in it before its
last full text, or, if it has none, was left in the transcript buffer when it was opened.  Each text is billed
with the number of its characters. -/
theorem billed_once_iff (config : NativeSessionConfig) (library : ToolLibrary)
    (decode : String → Except String (List UInt8)) (agentGraph : Option AgentGraphDef)
    (systemPrompt : String) (now : Instant) (inputs : List (NativeAction × Instant))
    (input : NativeAction × Instant) :
    let start : Bill := { session := .start config library decode agentGraph systemPrompt now }
    let b := run Bill.step start inputs
    Along Bill.step Bill.InTurn start inputs → b.Completes input →
      (trim (String.join ((b.billed input).map Prod.fst)) = trim (String.join (b.shown input)) ↔
        Once b.left b.heard) ∧
      ∀ bill ∈ b.billed input, bill.2 = bill.1.length := by
  intro start b inTurn completes
  have keeps (b : Bill) (input : NativeAction × Instant) : b.Sound → b.InTurn input → (b.step input).Sound :=
    fun sound inTurn => Bill.sound_step sound inTurn
  have starts : start.Sound := ⟨fun _ => rfl, nofun, nofun, nofun⟩
  have sound : b.Sound := invariant keeps starts inTurn
  refine ⟨?_, ?_⟩
  · rw [Bill.join_billed sound completes, Bill.join_shown sound completes, trim_trim]
    exact once_iff b.left b.heard
  · intro bill held
    rw [(Bill.completes_spec completes).2] at held
    unfold Span.bill at held
    split at held
    · rw [List.mem_singleton.1 held]
    · cases held

/-- The session before anybody speaks. -/
def silent : Bill where
  session := .start { upsample := fun _ => [] } ⟨fun _ => .error "no JSON", fun _ => "", fun _ _ => .ok ""⟩
    (fun _ => .ok []) none "" 0

/-- The user greets the bot, and it answers. -/
def greeted : List (NativeAction × Instant) :=
  hears { inputTranscription := some (some "Hi.") } ++ [(.poll, 0), (.wake .event true, 0)] ++
    hears { outputTranscription := some (some "Hello.") }

/-- The server interrupts the answer, so that there is no full text of it. -/
def cutOff : List (NativeAction × Instant) := greeted ++ hears { interrupted := some true } ++ [(.poll, 0)]

/-- The turn ends, in a message of its own. -/
def ending : NativeAction × Instant :=
  (.wake (.frame (.message (.ok { serverContent := some { turnComplete := some true } })) fun _ => "") true, 0)

/-- The first turn is cut off, and what was billed is what was shown. -/
theorem billed_once_cutOff :
    ((run Bill.step silent cutOff).billed ending) = [("Hello.", 6)] ∧
      trim (String.join (((run Bill.step silent cutOff).billed ending).map Prod.fst)) =
        trim (String.join ((run Bill.step silent cutOff).shown ending)) := by
  have inTurn : Along Bill.step Bill.InTurn silent cutOff := by decide +kernel
  have completes : (run Bill.step silent cutOff).Completes ending := by decide +kernel
  have isOnce : Once (run Bill.step silent cutOff).left (run Bill.step silent cutOff).heard := by
    decide +kernel
  have agree := billed_once_iff { upsample := fun _ => [] }
    ⟨fun _ => .error "no JSON", fun _ => "", fun _ _ => .ok ""⟩ (fun _ => .ok []) none "" 0 cutOff ending
    inTurn completes
  exact ⟨by decide +kernel, agree.1.2 isOnce⟩

/-- **A turn is billed twice**: its full text comes behind its only chunk. -/
theorem billed_twice :
    let inputs := greeted ++ hears { turnComplete := some true } ++ [(.poll, 0)]
    let b := run Bill.step silent inputs
    let input : NativeAction × Instant := (.wake .event true, 0)
    Along Bill.step Bill.InTurn silent inputs ∧ b.Completes input ∧
      b.billed input = [("Hello.Hello.", 12)] ∧ b.shown input = ["Hello."] := by
  decide +kernel

end NativeBilling

end Feros
