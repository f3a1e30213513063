import Feros.Library.Run
import Feros.NativeSession
/-! # Whose turn the text of the agent belongs to

The session gathers the chunks of a transcription in a buffer of its own, and the provider in its
output turn; a boundary of a turn clears one of them, or none.  An **`Observer`** notes the chunks
that were heard since the last boundary.  While no boundary leaves text behind that is used later,
each transcript is made of them.

* **`Hears`** runs the queue of the provider ahead: what its output turn will hold.
* **`Matched`** relates the two buffers to the chunks that were heard. -/

namespace Feros

open Run Suspension

/-! ## What the provider gathers -/

namespace GeminiLivePhase

/-- The text of the output turn. -/
def text : GeminiLivePhase → String
  | .botSpeaking buf => buf
  | .listening => ""

/-- A turn that begins keeps the text that is there. -/
theorem text_begin (phase : GeminiLivePhase) : phase.begin.text = phase.text := by
  cases phase <;> rfl

/-- A chunk is appended to the text. -/
theorem text_push {phase : GeminiLivePhase} (chunk : String) :
    (phase.begin.push chunk).text = phase.text ++ chunk := by
  cases phase with
  | listening => exact String.empty_append.symm
  | botSpeaking buf => rfl

/-- What a text adds is what is reported. -/
theorem text_pushDelta (text : String) (phase : GeminiLivePhase) :
    (phase.pushDelta text).2.text = phase.text ++ (phase.pushDelta text).1.getD "" := by
  unfold pushDelta
  dsimp only
  split
  · exact text_push _
  · rw [text_begin]
    exact String.append_empty.symm

/-- The full text is that of the turn. -/
theorem trim_of_fullText {phase : GeminiLivePhase} {full : String} (said : phase.fullText = some full) :
    full = trim phase.text := by
  cases phase with
  | listening => cases said
  | botSpeaking buf =>
    unfold fullText at said
    dsimp only at said
    split at said
    · cases said
    · exact (Option.some.inj said).symm

end GeminiLivePhase

namespace NativeTranscripts

/-- **The queue is heard**: from the chunks `spoken` of the output turn its events lead to the chunks
`after`.  A full text is that of the chunks, and the turn ends right after it. -/
def Hears : (spoken : List String) → List RealtimeEvent → (after : List String) → Prop
  | spoken, [], after => spoken = after
  | spoken, .outputTranscription text false :: rest, after => Hears (spoken ++ [text]) rest after
  | spoken, .outputTranscription text true :: rest, after =>
    text = trim (String.join spoken) ∧ (∃ prompt completion later,
      rest = .turnComplete prompt completion :: later) ∧ Hears spoken rest after
  | _, .turnComplete _ _ :: rest, after => Hears [] rest after
  | spoken, _ :: rest, after => Hears spoken rest after

/-- An event that says nothing about the output. -/
def Unheard : RealtimeEvent → Prop
  | .outputTranscription _ _ | .turnComplete _ _ => False
  | _ => True

/-- An event that says nothing may be left out in front. -/
theorem hears_unheard {event : RealtimeEvent} (unheard : Unheard event) (spoken : List String)
    (rest : List RealtimeEvent) (after : List String) :
    Hears spoken (event :: rest) after ↔ Hears spoken rest after := by
  cases event with
  | outputTranscription => cases unheard
  | turnComplete => cases unheard
  | botAudioChunk => rfl
  | toolCall => rfl
  | inputTranscription => rfl
  | error => rfl

/-- Events that say nothing leave what was said. -/
theorem hears_of_unheard {events : List RealtimeEvent} (unheard : ∀ event ∈ events, Unheard event)
    (spoken : List String) : Hears spoken events spoken := by
  induction events with
  | nil => rfl
  | cons event events ih =>
    rw [hears_unheard (unheard event List.mem_cons_self)]
    exact ih fun other held => unheard other (List.mem_cons_of_mem _ held)

/-- What is heard of two lists of events one after the other. -/
theorem Hears.append {spoken middle after : List String} {first second : List RealtimeEvent}
    (hears : Hears spoken first middle) (hears' : Hears middle second after) :
    Hears spoken (first ++ second) after := by
  induction first generalizing spoken with
  | nil =>
    obtain rfl : spoken = middle := hears
    exact hears'
  | cons event first ih =>
    cases event with
    | outputTranscription text isFinal =>
      cases isFinal with
      | false => exact ih hears
      | true =>
        obtain ⟨full, ⟨prompt, completion, later, rfl⟩, hears⟩ := hears
        exact ⟨full, ⟨prompt, completion, later ++ second, rfl⟩, ih hears⟩
    | turnComplete => exact ih hears
    | botAudioChunk => exact ih hears
    | toolCall => exact ih hears
    | inputTranscription => exact ih hears
    | error => exact ih hears

/-! ## Reading a message -/

/-- The message interrupts the output. -/
def interrupts (msg : ServerMessage) : Bool :=
  (msg.serverContent.bind (·.interrupted)).getD false

/-- The message transcribes nothing before it interrupts. -/
def silent (msg : ServerMessage) : Bool :=
  ((msg.serverContent.bind (·.outputTranscription)).join.getD "").isEmpty

section Messages

variable {p : GeminiLiveProvider} {spoken : List String}

/-- **A piece of a message is heard**: its events lead from the chunks of the output turn to its new
ones. -/
def Heard (spoken : List String) (events : List RealtimeEvent) (q : GeminiLiveProvider) : Prop :=
  ∃ after, Hears spoken events after ∧ q.outputPhase.text = String.join after

/-- Nothing about the output. -/
theorem heard_of_unheard {events : List RealtimeEvent} (unheard : ∀ event ∈ events, Unheard event)
    (same : p.outputPhase.text = String.join spoken) : Heard spoken events p :=
  ⟨spoken, hears_of_unheard unheard spoken, same⟩

/-- One piece after the other. -/
theorem Heard.andThen {events more : List RealtimeEvent} {q : GeminiLiveProvider}
    (heard : Heard spoken events p)
    (next : ∀ {after}, p.outputPhase.text = String.join after → Heard after more q) :
    Heard spoken (events ++ more) q := by
  obtain ⟨middle, hears, same⟩ := heard
  obtain ⟨after, hears', same'⟩ := next same
  exact ⟨after, hears.append hears', same'⟩

/-- The event that is put out unless its text is empty. -/
theorem unheard_unless (empty : Bool) {event : RealtimeEvent} (unheard : Unheard event) :
    ∀ e ∈ (if empty = true then [] else [event]), Unheard e := by
  intro e held
  cases empty with
  | true => exact absurd held List.not_mem_nil
  | false =>
    rw [List.mem_singleton.1 held]
    exact unheard

/-- The rest of the user's words says nothing of the bot. -/
theorem unheard_flushPendingInput (p : GeminiLiveProvider) :
    ∀ event ∈ p.flushPendingInput.1, Unheard event := by
  unfold GeminiLiveProvider.flushPendingInput
  dsimp only
  refine unheard_unless _ ?_
  trivial

/-- What the user says is nothing about the output. -/
theorem unheard_pushInput (text : String) (p : GeminiLiveProvider) :
    ∀ event ∈ (p.pushInput text).1, Unheard event := by
  unfold GeminiLiveProvider.pushInput
  dsimp only
  split
  · intro event held
    rcases List.mem_append.1 held with held | held
    · refine unheard_unless _ ?_ event held
      trivial
    · refine unheard_unless _ ?_ event held
      trivial
  · refine unheard_unless _ ?_
    trivial

/-- The words of the user leave the output turn alone. -/
theorem outputPhase_pushInput (text : String) (p : GeminiLiveProvider) :
    (p.pushInput text).2.outputPhase = p.outputPhase := by
  unfold GeminiLiveProvider.pushInput
  dsimp only
  split <;> rfl

/-- A transcription of the user leaves what the bot said. -/
theorem heard_handleInput (transcription : Option (Option String))
    (same : p.outputPhase.text = String.join spoken) :
    Heard spoken (p.handleInput transcription).1 (p.handleInput transcription).2 := by
  have unchanged : Heard spoken [] p :=
    heard_of_unheard (fun _ held => absurd held List.not_mem_nil) same
  unfold GeminiLiveProvider.handleInput
  split
  · split
    · exact unchanged
    · refine heard_of_unheard (unheard_pushInput _ p) ?_
      rw [outputPhase_pushInput]
      exact same
  · exact unchanged

/-- A text is pushed onto the output turn. -/
theorem heard_pushOutput (text : String) (same : p.outputPhase.text = String.join spoken) :
    Heard spoken (p.pushOutput text).1 (p.pushOutput text).2 := by
  have unchanged : Heard spoken [] p :=
    heard_of_unheard (fun _ held => absurd held List.not_mem_nil) same
  have pushed (effective : String) (q : GeminiLiveProvider)
      (phase : q.outputPhase = (p.outputPhase.pushDelta effective).2) :
      Heard spoken ((p.outputPhase.pushDelta effective).1.toList.map (.outputTranscription · false))
        q := by
    have gathered := GeminiLivePhase.text_pushDelta effective p.outputPhase
    cases delta : (p.outputPhase.pushDelta effective).1 with
    | none =>
      rw [delta] at gathered
      refine ⟨spoken, rfl, ?_⟩
      rw [phase, gathered, same]
      exact String.append_empty
    | some chunk =>
      rw [delta] at gathered
      refine ⟨spoken ++ [chunk], rfl, ?_⟩
      rw [phase, gathered, same, String.join_append]
      simp [String.join]
  unfold GeminiLiveProvider.pushOutput
  split
  · exact unchanged
  · unfold GeminiLiveProvider.pushOutputDelta
    dsimp only
    split
    · exact unchanged
    · exact pushed _ _ rfl

/-- A transcription of the bot is heard. -/
theorem heard_handleOutput (transcription : Option (Option String))
    (same : p.outputPhase.text = String.join spoken) :
    Heard spoken (p.handleOutput transcription).1 (p.handleOutput transcription).2 := by
  cases transcription with
  | none => exact heard_of_unheard (fun _ held => absurd held List.not_mem_nil) same
  | some text =>
    have flushed : Heard spoken p.flushPendingInput.1 p.flushPendingInput.2 :=
      heard_of_unheard (unheard_flushPendingInput p) same
    unfold GeminiLiveProvider.handleOutput
    dsimp only
    exact flushed.andThen fun next => heard_pushOutput _ next

/-- Audio of the model is no text of the bot. -/
theorem heard_handleModelTurn (decode : String → Except String (List UInt8))
    (modelTurn : Option (List ModelPart)) (same : p.outputPhase.text = String.join spoken) :
    Heard spoken (p.handleModelTurn decode modelTurn).1 (p.handleModelTurn decode modelTurn).2 := by
  cases modelTurn with
  | none => exact heard_of_unheard (fun _ held => absurd held List.not_mem_nil) same
  | some parts =>
    have flushed : Heard spoken p.flushPendingInput.1 p.flushPendingInput.2 :=
      heard_of_unheard (unheard_flushPendingInput p) same
    have audio : ∀ event ∈ (parts.filter (·.thought != some true)).filterMap
        (GeminiLiveProvider.audioOf decode), Unheard event := by
      intro event held
      obtain ⟨part, -, audible⟩ := List.mem_filterMap.1 held
      unfold GeminiLiveProvider.audioOf at audible
      split at audible
      · split at audible
        · split at audible
          · cases audible
          · cases audible
          · rw [← Option.some.inj audible]
            trivial
        · cases audible
      · cases audible
    unfold GeminiLiveProvider.handleModelTurn
    dsimp only
    refine (flushed.andThen fun next => heard_pushOutput _ next).andThen fun next => ?_
    exact heard_of_unheard audio next

/-- **A turn is complete**: its full text, if any, and then its end. -/
theorem heard_handleTurnComplete (turnComplete : Option Bool)
    (same : p.outputPhase.text = String.join spoken) :
    Heard spoken (p.handleTurnComplete turnComplete).1 (p.handleTurnComplete turnComplete).2 := by
  unfold GeminiLiveProvider.handleTurnComplete
  split
  · dsimp only
    rw [List.append_assoc]
    have flushed : Heard spoken p.flushPendingInput.1 p.flushPendingInput.2 :=
      heard_of_unheard (unheard_flushPendingInput p) same
    refine flushed.andThen fun {after} next => ?_
    refine ⟨[], ?_, rfl⟩
    cases full : p.flushPendingInput.2.outputPhase.complete.1 with
    | none => rfl
    | some text =>
      refine ⟨?_, ⟨_, _, [], rfl⟩, rfl⟩
      rw [← next]
      exact GeminiLivePhase.trim_of_fullText full
  · exact heard_of_unheard (fun _ held => absurd held List.not_mem_nil) same

/-- A transcription of the user makes only events that say nothing of the bot. -/
theorem unheard_handleInput (transcription : Option (Option String)) (p : GeminiLiveProvider) :
    ∀ event ∈ (p.handleInput transcription).1, Unheard event := by
  have empty : ∀ event ∈ ([] : List RealtimeEvent), Unheard event :=
    fun _ held => absurd held List.not_mem_nil
  unfold GeminiLiveProvider.handleInput
  split
  · split
    · exact empty
    · exact unheard_pushInput _ p
  · exact empty

/-- Without a text there is no chunk. -/
theorem unheard_handleOutput {transcription : Option (Option String)}
    (silent : (transcription.join.getD "").isEmpty = true) (p : GeminiLiveProvider) :
    ∀ event ∈ (p.handleOutput transcription).1, Unheard event := by
  cases transcription with
  | none => exact fun _ held => absurd held List.not_mem_nil
  | some text =>
    unfold GeminiLiveProvider.handleOutput GeminiLiveProvider.pushOutput
    dsimp only
    have empty : (text.getD "").isEmpty = true := silent
    rw [if_pos empty, List.append_nil]
    exact unheard_flushPendingInput p

/-- An interruption empties the output turn. -/
theorem unheard_handleInterrupted {interrupted : Option Bool} (isTrue : interrupted = some true)
    (p : GeminiLiveProvider) :
    (∀ event ∈ (p.handleInterrupted interrupted).1, Unheard event) ∧
      (p.handleInterrupted interrupted).2.outputPhase = .listening := by
  unfold GeminiLiveProvider.handleInterrupted
  rw [if_pos isTrue]
  dsimp only
  exact ⟨unheard_flushPendingInput p, rfl⟩

/-- A message that does not interrupt is passed over. -/
theorem handleInterrupted_of_ne {interrupted : Option Bool} (isFalse : interrupted ≠ some true)
    (p : GeminiLiveProvider) : p.handleInterrupted interrupted = ([], p) := by
  unfold GeminiLiveProvider.handleInterrupted
  rw [if_neg isFalse]

/-- **The content of a message is heard**: what comes after an interruption is a new turn. -/
theorem heard_handleContent (decode : String → Except String (List UInt8)) {content : ServerContent}
    (same : content.interrupted ≠ some true → p.outputPhase.text = String.join spoken)
    (ends : content.interrupted = some true → spoken = [] ∧
      (content.outputTranscription.join.getD "").isEmpty = true) :
    Heard spoken (p.handleContent decode content).1 (p.handleContent decode content).2 := by
  unfold GeminiLiveProvider.handleContent
  dsimp only
  have rest {events : List RealtimeEvent} {q : GeminiLiveProvider} (heard : Heard spoken events q) :
      Heard spoken (events ++ (q.handleModelTurn decode content.modelTurn).1 ++
          ((q.handleModelTurn decode content.modelTurn).2.handleTurnComplete content.turnComplete).1)
        ((q.handleModelTurn decode content.modelTurn).2.handleTurnComplete content.turnComplete).2 :=
    (heard.andThen fun next => heard_handleModelTurn decode _ next).andThen fun next =>
      heard_handleTurnComplete _ next
  by_cases interrupted : content.interrupted = some true
  · obtain ⟨rfl, silent⟩ := ends interrupted
    have input := unheard_handleInput content.inputTranscription p
    have output := unheard_handleOutput silent (p.handleInput content.inputTranscription).2
    obtain ⟨flushed, listening⟩ := unheard_handleInterrupted interrupted
      ((p.handleInput content.inputTranscription).2.handleOutput content.outputTranscription).2
    refine rest (heard_of_unheard (fun event held => ?_) ?_)
    · rw [List.mem_append, List.mem_append] at held
      rcases held with (held | held) | held
      · exact input event held
      · exact output event held
      · exact flushed event held
    · rw [listening]
      rfl
  · refine rest ?_
    have input := heard_handleInput content.inputTranscription (same interrupted)
    have output := input.andThen fun next => heard_handleOutput content.outputTranscription next
    refine output.andThen fun next => ?_
    rw [handleInterrupted_of_ne interrupted]
    exact heard_of_unheard (fun _ held => absurd held List.not_mem_nil) next

/-- The chunks of the output turn when a message is read: an interruption ends it. -/
def afterInterruption (msg : ServerMessage) (spoken : List String) : List String :=
  if interrupts msg then [] else spoken

/-- **A message is heard**, unless it transcribes something and interrupts it. -/
theorem heard_parseServerMessage (library : ToolLibrary)
    (decode : String → Except String (List UInt8)) (uuid : ℕ → String) {msg : ServerMessage}
    (same : p.outputPhase.text = String.join spoken)
    (still : interrupts msg = true → silent msg = true) :
    Heard (afterInterruption msg spoken) (p.parseServerMessage library decode uuid msg).1
      (p.parseServerMessage library decode uuid msg).2 := by
  have calls : ∀ event ∈ GeminiLiveProvider.toolCallEvents library uuid (msg.toolCall.getD []),
      Unheard event := by
    intro event held
    obtain ⟨⟨call, i⟩, -, rfl⟩ := List.mem_map.1 held
    trivial
  have resumed (q : GeminiLiveProvider) :
      (q.handleResumption msg.sessionResumptionUpdate).outputPhase = q.outputPhase := by
    unfold GeminiLiveProvider.handleResumption
    split <;> rfl
  unfold GeminiLiveProvider.parseServerMessage
  dsimp only
  have phase := resumed { p with parsed := p.parsed ++ [msg] }
  generalize GeminiLiveProvider.handleResumption msg.sessionResumptionUpdate
    { p with parsed := p.parsed ++ [msg] } = q at phase ⊢
  cases carried : msg.serverContent with
  | none =>
    have uninterrupted : interrupts msg = false := by
      unfold interrupts
      rw [carried]
      rfl
    unfold afterInterruption
    rw [uninterrupted]
    exact heard_of_unheard (by simpa using calls) ((congrArg GeminiLivePhase.text phase).trans same)
  | some content =>
    have known : interrupts msg = content.interrupted.getD false := by
      unfold interrupts
      rw [carried]
      rfl
    refine Heard.andThen (heard_handleContent decode (fun uninterrupted => ?_) fun interrupted => ?_)
      fun next => heard_of_unheard calls next
    · have quiet : interrupts msg = false := by
        rw [known]
        cases flag : content.interrupted with
        | none => rfl
        | some isTrue =>
          cases isTrue with
          | false => rfl
          | true => exact absurd flag uninterrupted
      unfold afterInterruption
      rw [quiet]
      exact (congrArg GeminiLivePhase.text phase).trans same
    · have loud : interrupts msg = true := by rw [known, interrupted]; rfl
      refine ⟨?_, ?_⟩
      · unfold afterInterruption
        rw [loud]
        rfl
      · have quiet := still loud
        unfold silent at quiet
        rw [carried] at quiet
        exact quiet

end Messages

/-! ## Receiving -/

/-- What a backend has converted since. -/
def converted (b b' : NativeMultimodalBackend) : List ServerMessage :=
  b'.provider.parsed.drop b.provider.parsed.length

/-- The chunks of the output turn when messages were read. -/
def cross (messages : List ServerMessage) (spoken : List String) : List String :=
  if messages.any interrupts then [] else spoken

/-- The chunks of the output turn after an event. -/
def hear (spoken : List String) : NativeAgentEvent → List String
  | .outputTranscript text false => spoken ++ [text]
  | .turnComplete _ _ => []
  | _ => spoken

/-- The end of a turn is next. -/
def Ends (b : NativeMultimodalBackend) : Prop :=
  ∃ prompt completion later, b.provider.pendingEvents = .turnComplete prompt completion :: later

/-- **The provider is in step** with the chunks its session has heard. -/
def InStep (spoken : List String) (b : NativeMultimodalBackend) : Prop :=
  Heard spoken b.provider.pendingEvents b.provider

/-- A delivered event that says nothing about the output. -/
def Aside : NativeAgentEvent → Prop
  | .outputTranscript _ _ | .turnComplete _ _ => False
  | _ => True

/-- What an event says is right: a full text is that of the chunks, and the end of a turn is delivered
when it is due. -/
structure Right (spoken : List String) (b b' : NativeMultimodalBackend) (event : NativeAgentEvent) :
    Prop where
  full : ∀ text, event = .outputTranscript text true → text = trim (String.join spoken) ∧ Ends b'
  due : Ends b → (∃ prompt completion, event = .turnComplete prompt completion) ∨
    Aside event ∧ Ends b'

/-- A message waits to be converted. -/
def holdsMessage : Option NativePoint → Bool
  | some (.trigger _ _ _) => true
  | _ => false

/-- No message is held while something is in the queue. -/
def Idle (b : NativeMultimodalBackend) (point : Option NativePoint) : Prop :=
  holdsMessage point = true → b.provider.pendingEvents = []

/-- A call that holds no message. -/
theorem idle_of_free {b : NativeMultimodalBackend} {point : Option NativePoint}
    (free : holdsMessage point = false) : Idle b point := by
  intro holds
  cases free.symm.trans holds

/-- **How a call goes on**: the provider stays in step. -/
def GoesOn (spoken : List String) (b : NativeMultimodalBackend) :
    NativeMultimodalBackend × NativeStatus → Prop :=
  Holds
    (fun b' point => InStep (cross (converted b b') spoken) b' ∧ Idle b' (some point) ∧
      (Ends b → Ends b'))
    fun b' event => match event with
      | some event => InStep (hear (cross (converted b b') spoken) event) b' ∧
          Right (cross (converted b b') spoken) b b' event
      | none => InStep (cross (converted b b') spoken) b' ∧ (Ends b → Ends b')

/-- The queue and the output turn are the same. -/
structure SameQueue (b b' : NativeMultimodalBackend) : Prop where
  pendingEvents : b'.provider.pendingEvents = b.provider.pendingEvents
  outputPhase : b'.provider.outputPhase = b.provider.outputPhase
  parsed : b'.provider.parsed = b.provider.parsed

section Receive

variable {b b' : NativeMultimodalBackend} {spoken : List String}

namespace SameQueue

/-- Nothing has happened. -/
theorem refl (b : NativeMultimodalBackend) : SameQueue b b := ⟨rfl, rfl, rfl⟩

/-- One step after the other. -/
theorem trans {b'' : NativeMultimodalBackend} (first : SameQueue b b') (second : SameQueue b' b'') :
    SameQueue b b'' :=
  ⟨second.pendingEvents.trans first.pendingEvents, second.outputPhase.trans first.outputPhase,
    second.parsed.trans first.parsed⟩

/-- What was said is still what the phase and the queue hold. -/
theorem inStep (same : SameQueue b b') (inStep : InStep spoken b) : InStep spoken b' := by
  unfold InStep Heard at inStep ⊢
  rw [same.pendingEvents, same.outputPhase]
  exact inStep

/-- The backend that has no connection left still has none. -/
theorem ends (same : SameQueue b b') (ends : Ends b) : Ends b' := by
  unfold Ends at ends ⊢
  rw [same.pendingEvents]
  exact ends

/-- No message was read. -/
theorem converted (same : SameQueue b b') : converted b b' = [] := by
  unfold NativeTranscripts.converted
  rw [same.parsed, List.drop_length]

end SameQueue

/-- Without a message nothing is crossed out. -/
@[simp] theorem cross_nil (spoken : List String) : cross [] spoken = spoken := rfl

/-- An event aside is no transcript of the bot. -/
theorem Aside.ne_output {event : NativeAgentEvent} (aside : Aside event) (text : String)
    (isFinal : Bool) : event ≠ .outputTranscript text isFinal := by
  rintro rfl
  exact aside

/-- An event aside leaves what was said. -/
theorem hear_aside {event : NativeAgentEvent} (aside : Aside event) (spoken : List String) :
    hear spoken event = spoken := by
  cases event with
  | outputTranscript => cases aside
  | turnComplete => cases aside
  | botAudio => rfl
  | inputTranscript => rfl
  | toolCallStarted => rfl
  | toolCallCompleted => rfl
  | hangUp => rfl
  | error => rfl

/-- The call waits, with the same queue. -/
theorem goesOn_waits (same : SameQueue b b') (inStep : InStep spoken b) {point : NativePoint}
    (idle : Idle b' (some point)) : GoesOn spoken b (b', .pending point) := by
  show InStep (cross (converted b b') spoken) b' ∧ _
  rw [same.converted]
  exact ⟨same.inStep inStep, idle, same.ends⟩

/-- The call returns something else, with the same queue. -/
theorem goesOn_aside (same : SameQueue b b') (inStep : InStep spoken b) {event : NativeAgentEvent}
    (aside : Aside event) : GoesOn spoken b (b', .ready (some event)) := by
  show InStep (hear (cross (converted b b') spoken) event) b' ∧ Right _ b b' event
  rw [same.converted, cross_nil, hear_aside aside]
  refine ⟨same.inStep inStep, fun text isFull => absurd isFull (aside.ne_output text true),
    fun ends => ?_⟩
  exact .inr ⟨aside, same.ends ends⟩

/-- The stream of events ends. -/
theorem goesOn_none (same : SameQueue b b') (inStep : InStep spoken b) :
    GoesOn spoken b (b', .ready none) := by
  show InStep (cross (converted b b') spoken) b' ∧ _
  rw [same.converted]
  exact ⟨same.inStep inStep, same.ends⟩

/-- No event was next in the queue, or a hang-up, of which the model is told first. -/
structure Waits (spoken : List String) (b b' : NativeMultimodalBackend) (point : NativePoint) : Prop where
  parsed : b'.provider.parsed = b.provider.parsed
  inStep : InStep spoken b'
  idle : Idle b' (some point)
  open_ : ¬ Ends b

/-- The event that was next in the queue is delivered. -/
structure Passes (spoken : List String) (b b' : NativeMultimodalBackend) (event : NativeAgentEvent) :
    Prop where
  parsed : b'.provider.parsed = b.provider.parsed
  inStep : InStep (hear spoken event) b'
  full : ∀ text, event = .outputTranscript text true → text = trim (String.join spoken) ∧ Ends b'
  due : Ends b → ∃ prompt completion, event = .turnComplete prompt completion

/-- The event at the head of the queue is handed out. -/
theorem mapEvent_cases (event : RealtimeEvent) (b : NativeMultimodalBackend) :
    (∃ b' callId reason, SameQueue b b' ∧ Unheard event ∧
        b.mapEvent event = (b', .pending (.hangUp callId reason false))) ∨
      (∃ b' heard, SameQueue b b' ∧ Unheard event ∧ Aside heard ∧
        b.mapEvent event = (b', .ready (some heard))) ∨
      (∃ text isFinal, event = .outputTranscription text isFinal ∧
        b.mapEvent event = (b, .ready (some (.outputTranscript text isFinal)))) ∨
      ∃ prompt completion, event = .turnComplete prompt completion ∧
        b.mapEvent event = (b, .ready (some (.turnComplete prompt completion))) := by
  have passes {b' : NativeMultimodalBackend} {heard : NativeAgentEvent}
      (eq : b.mapEvent event = (b', .ready (some heard))) (same : SameQueue b b')
      (unheard : Unheard event) (aside : Aside heard) :
      ∃ b' heard, SameQueue b b' ∧ Unheard event ∧ Aside heard ∧
        b.mapEvent event = (b', .ready (some heard)) := ⟨b', heard, same, unheard, aside, eq⟩
  cases event with
  | botAudioChunk samples => exact .inr (.inl (passes rfl (.refl b) trivial trivial))
  | inputTranscription text isFinal => exact .inr (.inl (passes rfl (.refl b) trivial trivial))
  | error message => exact .inr (.inl (passes rfl (.refl b) trivial trivial))
  | outputTranscription text isFinal => exact .inr (.inr (.inl ⟨text, isFinal, rfl, rfl⟩))
  | turnComplete prompt completion => exact .inr (.inr (.inr ⟨prompt, completion, rfl, rfl⟩))
  | toolCall callId name arguments =>
    by_cases isHangUp : name = hangUpToolName
    · let reason := NativeMultimodalBackend.hangUpReason b.library arguments
      let asked : NativeMultimodalBackend := { b with hangUps := b.hangUps ++ [reason] }
      have same : SameQueue b asked := ⟨rfl, rfl, rfl⟩
      cases ws : b.provider.ws with
      | true =>
        have eq : b.mapEvent (.toolCall callId name arguments) =
            (asked, .pending (.hangUp callId reason false)) := by
          simp only [NativeMultimodalBackend.mapEvent, if_pos isHangUp, ws, if_true]
          rfl
        exact .inl ⟨asked, callId, reason, same, trivial, eq⟩
      | false =>
        have eq : b.mapEvent (.toolCall callId name arguments) =
            (asked, .ready (some (.hangUp reason))) := by
          simp only [NativeMultimodalBackend.mapEvent, if_pos isHangUp, ws]
          rfl
        exact .inr (.inl (passes eq same trivial trivial))
    · have eq : b.mapEvent (.toolCall callId name arguments) = b.dispatchTool callId name arguments := by
        simp only [NativeMultimodalBackend.mapEvent, if_neg isHangUp]
      have same : SameQueue b (b.dispatchTool callId name arguments).1 := ⟨rfl, rfl, rfl⟩
      exact .inr (.inl (passes eq same trivial trivial))

/-- **The next event is taken from the queue.** -/
theorem nextEvent_cases (inStep : InStep spoken b) :
    (∃ b' point, b.nextEvent = (b', .pending point) ∧ Waits spoken b b' point) ∨
      ∃ b' event, b.nextEvent = (b', .ready (some event)) ∧ Passes spoken b b' event := by
  obtain ⟨after, hears, text⟩ := inStep
  unfold NativeMultimodalBackend.nextEvent
  cases queue : b.provider.pendingEvents with
  | nil =>
    -- The queue is empty, and the call waits at the select.
    refine .inl ⟨b, .select, rfl, rfl, ⟨after, hears, text⟩, idle_of_free rfl, ?_⟩
    rintro ⟨prompt, completion, later, same⟩
    cases queue.symm.trans same
  | cons event rest =>
    rw [queue] at hears
    dsimp only
    let popped : NativeMultimodalBackend := NativeMultimodalBackend.keepHandle
      { b with provider := { b.provider with pendingEvents := rest } }
    -- Only the end of a turn ends one.
    have ends : Ends b → ∃ prompt completion, event = .turnComplete prompt completion := by
      rintro ⟨prompt, completion, later, same⟩
      exact ⟨prompt, completion, (List.cons.inj (queue.symm.trans same)).1⟩
    have unended (unheard : Unheard event) : ¬ Ends b := by
      intro isEnd
      obtain ⟨prompt, completion, rfl⟩ := ends isEnd
      exact unheard
    -- A hang-up, an event of another kind, a text of the model, or the end of the turn.
    rcases mapEvent_cases event popped with
      ⟨b', callId, reason, same, unheard, eq⟩ | ⟨b', heard, same, unheard, aside, eq⟩ |
        ⟨said, isFinal, rfl, eq⟩ | ⟨prompt, completion, rfl, eq⟩
    · rw [hears_unheard unheard] at hears
      have held : InStep spoken popped := ⟨after, hears, text⟩
      exact .inl ⟨b', _, eq, same.parsed, same.inStep held, idle_of_free rfl, unended unheard⟩
    · rw [hears_unheard unheard] at hears
      have held : InStep spoken popped := ⟨after, hears, text⟩
      refine .inr ⟨b', heard, eq, same.parsed, ?_, fun text isFull => absurd isFull (aside.ne_output text true),
        fun isEnd => absurd isEnd (unended unheard)⟩
      rw [hear_aside aside]
      exact same.inStep held
    · have open_ : ¬ Ends b := by
        intro isEnd
        obtain ⟨_, _, same⟩ := ends isEnd
        cases same
      cases isFinal with
      | false =>
        have held : InStep (spoken ++ [said]) popped := ⟨after, hears, text⟩
        exact .inr ⟨popped, _, eq, rfl, held, nofun, fun isEnd => absurd isEnd open_⟩
      | true =>
        obtain ⟨full, next, hears⟩ := hears
        have held : InStep spoken popped := ⟨after, hears, text⟩
        refine .inr ⟨popped, _, eq, rfl, held, fun other same => ?_, fun isEnd => absurd isEnd open_⟩
        cases same
        exact ⟨full, next⟩
    · have held : InStep [] popped := ⟨after, hears, text⟩
      exact .inr ⟨popped, _, eq, rfl, held, nofun, fun _ => ⟨prompt, completion, rfl⟩⟩

/-- Where nothing was read, nothing was converted. -/
theorem converted_of_parsed (same : b'.provider.parsed = b.provider.parsed) : converted b b' = [] := by
  unfold converted
  rw [same, List.drop_length]

/-- **The next event is delivered.** -/
theorem goesOn_nextEvent (inStep : InStep spoken b) : GoesOn spoken b b.nextEvent := by
  rcases nextEvent_cases inStep with ⟨b', point, eq, waits⟩ | ⟨b', event, eq, passes⟩
  · rw [eq]
    show InStep (cross (converted b b') spoken) b' ∧ _
    rw [converted_of_parsed waits.parsed]
    exact ⟨waits.inStep, waits.idle, fun ends => absurd ends waits.open_⟩
  · rw [eq]
    show InStep (hear (cross (converted b b') spoken) event) b' ∧ Right _ b b' event
    rw [converted_of_parsed passes.parsed]
    exact ⟨passes.inStep, passes.full, fun ends => .inl (passes.due ends)⟩

/-- **A message is converted**, and its first event is delivered. -/
theorem goesOn_convert (inStep : InStep spoken b) (empty : b.provider.pendingEvents = [])
    {msg : ServerMessage} (still : interrupts msg = true → silent msg = true) (uuid : ℕ → String) :
    GoesOn spoken b (b.convert msg uuid) := by
  have open_ : ¬ Ends b := by
    rintro ⟨prompt, completion, later, same⟩
    cases empty.symm.trans same
  obtain ⟨after, hears, text⟩ := inStep
  rw [empty] at hears
  obtain rfl : spoken = after := hears
  have same := b.provider.sameWire_parseServerMessage b.library b.decode uuid msg
  have heard := heard_parseServerMessage b.library b.decode uuid text still
  unfold NativeMultimodalBackend.convert
  dsimp only
  generalize b.provider.parseServerMessage b.library b.decode uuid msg = result at same heard ⊢
  obtain ⟨events, p⟩ := result
  have queue : p.pendingEvents = [] := same.pendingEvents.trans empty
  have read {b' : NativeMultimodalBackend} (parsed : b'.provider.parsed = p.parsed) :
      cross (converted b b') spoken = afterInterruption msg spoken := by
    unfold converted
    rw [parsed, same.parsed, List.drop_left]
    unfold cross afterInterruption
    rw [List.any_cons, List.any_nil, Bool.or_false]
  dsimp only
  have start : InStep (afterInterruption msg spoken)
      { b with provider := { p with pendingEvents := p.pendingEvents ++ events } } := by
    obtain ⟨after, hears, text⟩ := heard
    refine ⟨after, ?_, text⟩
    show Hears _ (p.pendingEvents ++ events) after
    rw [queue]
    exact hears
  rcases nextEvent_cases start with ⟨b', point, eq, waits⟩ | ⟨b', event, eq, passes⟩
  · rw [eq]
    show InStep (cross (converted b b') spoken) b' ∧ _
    rw [read waits.parsed]
    exact ⟨waits.inStep, waits.idle, fun ends => absurd ends open_⟩
  · rw [eq]
    show InStep (hear (cross (converted b b') spoken) event) b' ∧ Right _ b b' event
    rw [read passes.parsed]
    exact ⟨passes.inStep, passes.full, fun ends => absurd ends open_⟩

/-- Taking an event from the queue reads no message. -/
theorem parsed_nextEvent (b : NativeMultimodalBackend) :
    b.nextEvent.1.provider.parsed = b.provider.parsed := by
  unfold NativeMultimodalBackend.nextEvent
  cases b.provider.pendingEvents with
  | nil => rfl
  | cons event rest =>
    let popped : NativeMultimodalBackend := NativeMultimodalBackend.keepHandle
      { b with provider := { b.provider with pendingEvents := rest } }
    show (popped.mapEvent event).1.provider.parsed = popped.provider.parsed
    rcases mapEvent_cases event popped with
      ⟨b', callId, reason, same, -, eq⟩ | ⟨b', heard, same, -, -, eq⟩ | ⟨_, _, -, eq⟩ | ⟨_, _, -, eq⟩
    · rw [eq]
      exact same.parsed
    · rw [eq]
      exact same.parsed
    · rw [eq]
    · rw [eq]

/-- A message that is converted is the one that was read. -/
theorem converted_convert (b : NativeMultimodalBackend) (msg : ServerMessage) (uuid : ℕ → String) :
    converted b (b.convert msg uuid).1 = [msg] := by
  unfold converted NativeMultimodalBackend.convert
  dsimp only
  rw [parsed_nextEvent,
    (b.provider.sameWire_parseServerMessage b.library b.decode uuid msg).parsed, List.drop_left]

/-- A message is converted by a backend with the same queue. -/
theorem goesOn_convert_of_same {b₁ : NativeMultimodalBackend} (same : SameQueue b b₁)
    (inStep : InStep spoken b) (empty : b.provider.pendingEvents = []) {msg : ServerMessage}
    {uuid : ℕ → String}
    (still : ∀ m ∈ converted b (b₁.convert msg uuid).1, interrupts m = true → silent m = true) :
    GoesOn spoken b (b₁.convert msg uuid) := by
  have since (b' : NativeMultimodalBackend) : converted b b' = converted b₁ b' := by
    unfold converted
    rw [same.parsed]
  have isStill : interrupts msg = true → silent msg = true := by
    refine still msg ?_
    rw [since, converted_convert]
    exact List.mem_cons_self
  have goesOn := goesOn_convert (same.inStep inStep) (same.pendingEvents.trans empty) isStill uuid
  have ends : Ends b → Ends b₁ := same.ends
  rcases result : b₁.convert msg uuid with ⟨b', (- | event) | point⟩
  · rw [result] at goesOn
    show InStep (cross (converted b b') spoken) b' ∧ _
    rw [since]
    exact ⟨goesOn.1, fun isEnd => goesOn.2 (ends isEnd)⟩
  · rw [result] at goesOn
    show InStep (hear (cross (converted b b') spoken) event) b' ∧ Right _ b b' event
    rw [since]
    exact ⟨goesOn.1, goesOn.2.full, fun isEnd => goesOn.2.due (ends isEnd)⟩
  · rw [result] at goesOn
    show InStep (cross (converted b b') spoken) b' ∧ _
    rw [since]
    exact ⟨goesOn.1, goesOn.2.1, fun isEnd => goesOn.2.2 (ends isEnd)⟩

/-- A frame of the server keeps the queue in step with what was said. -/
theorem goesOn_handleFrame (inStep : InStep spoken b) (empty : b.provider.pendingEvents = [])
    (frame : WsFrame) (uuid : ℕ → String)
    (still : ∀ m ∈ converted b (b.handleFrame frame uuid).1, interrupts m = true → silent m = true) :
    GoesOn spoken b (b.handleFrame frame uuid) := by
  have failed : GoesOn spoken b b.transportError := goesOn_none ⟨rfl, rfl, rfl⟩ inStep
  unfold NativeMultimodalBackend.handleFrame at still ⊢
  split
  · exact failed
  · rename_i open_
    rw [if_neg open_] at still
    cases frame with
    | message parsed =>
      cases parsed with
      | error reason => exact failed
      | ok msg =>
        let read : NativeMultimodalBackend :=
          { b with provider := { b.provider with read := b.provider.read ++ [msg] } }
        have same : SameQueue b read := ⟨rfl, rfl, rfl⟩
        dsimp only at still ⊢
        unfold NativeMultimodalBackend.readMessage at still ⊢
        dsimp only at still ⊢
        split
        · exact goesOn_waits same inStep fun _ => empty
        · rename_i direct
          rw [if_neg direct] at still
          exact goesOn_convert_of_same same inStep empty still
    | ping payload => exact goesOn_waits (.refl b) inStep (idle_of_free rfl)
    | closed message => exact failed
    | ignored => exact goesOn_waits (.refl b) inStep (idle_of_free rfl)

/-- A result of a tool keeps the queue in step with what was said. -/
theorem goesOn_takeResult (inStep : InStep spoken b) {point : NativePoint}
    (idle : Idle b (some point)) : GoesOn spoken b (b.takeResult point) := by
  unfold NativeMultimodalBackend.takeResult
  cases b.toolResults with
  | nil => exact goesOn_waits (.refl b) inStep idle
  | cons result rest =>
    dsimp only
    split
    · exact goesOn_waits ⟨rfl, rfl, rfl⟩ inStep (idle_of_free rfl)
    · have delivered : Aside result.completed := trivial
      have kept : SameQueue b
          (NativeMultimodalBackend.keepHandle { b with toolResults := rest }) := ⟨rfl, rfl, rfl⟩
      exact goesOn_aside kept inStep delivered

/-- Sending leaves the queue alone. -/
theorem sameQueue_sendAt (b : NativeMultimodalBackend) (point : NativePoint) (taken : Bool) :
    SameQueue b (b.sendAt point taken) := by
  cases point <;> exact ⟨rfl, rfl, rfl⟩

/-- What follows a message that was sent keeps the queue in step with what was said. -/
theorem goesOn_afterSend {b₁ : NativeMultimodalBackend} (same : SameQueue b b₁)
    (inStep : InStep spoken b) {point : NativePoint} (idle : Idle b (some point))
    (still : ∀ m ∈ converted b (b₁.afterSend point).1, interrupts m = true → silent m = true) :
    GoesOn spoken b (b₁.afterSend point) := by
  cases point with
  | select => exact goesOn_waits same inStep (idle_of_free rfl)
  | pong => exact goesOn_waits same inStep (idle_of_free rfl)
  | trigger msg uuid taken => exact goesOn_convert_of_same same inStep (idle rfl) still
  | toolResult result taken =>
    have delivered : Aside result.completed := trivial
    have kept : SameQueue b b₁.keepHandle := same.trans ⟨rfl, rfl, rfl⟩
    exact goesOn_aside kept inStep delivered
  | hangUp callId reason taken => exact goesOn_aside same inStep trivial

/-- A tool that is done leaves the queue alone. -/
theorem sameQueue_toolDone (b : NativeMultimodalBackend) (i : ℕ) (result : Json) (success : Bool) :
    SameQueue b (b.toolDone i result success) := by
  unfold NativeMultimodalBackend.toolDone
  cases b.toolTasks[i]? <;> exact ⟨rfl, rfl, rfl⟩

/-- **A call goes on**: the provider stays in step. -/
theorem goesOn_resume (inStep : InStep spoken b) {point : NativePoint} (idle : Idle b (some point))
    (wake : NativeWake)
    (still : ∀ m ∈ converted b (b.resume point wake).1, interrupts m = true → silent m = true) :
    GoesOn spoken b (b.resume point wake) := by
  have stays : GoesOn spoken b (b, .pending point) := goesOn_waits (.refl b) inStep idle
  unfold NativeMultimodalBackend.resume at still ⊢
  cases wake with
  | toolDone i result success =>
    have same := sameQueue_toolDone b i result success
    exact goesOn_waits same inStep fun holds => same.pendingEvents.trans (idle holds)
  | toolResult =>
    cases point with
    | select => exact goesOn_takeResult inStep idle
    | pong => exact goesOn_takeResult inStep idle
    | trigger => exact goesOn_takeResult inStep idle
    | toolResult => exact stays
    | hangUp => exact stays
  | event =>
    cases point with
    | select => exact goesOn_nextEvent inStep
    | pong => exact stays
    | trigger => exact stays
    | toolResult => exact stays
    | hangUp => exact stays
  | frame frame uuid =>
    cases point with
    | select =>
      dsimp only at still ⊢
      split
      · rename_i empty
        rw [if_pos empty] at still
        exact goesOn_handleFrame inStep (List.isEmpty_iff.1 empty) frame uuid still
      · exact stays
    | pong => exact stays
    | trigger => exact stays
    | toolResult => exact stays
    | hangUp => exact stays
  | taken =>
    -- A message that the socket takes leaves the queue.
    have sends (kept : Idle b (some (NativeMultimodalBackend.taken point))) :
        GoesOn spoken b (if NativeMultimodalBackend.isTaken point = true then (b, .pending point)
          else (b.sendAt point true, .pending (NativeMultimodalBackend.taken point))) := by
      have same := sameQueue_sendAt b point true
      split
      · exact stays
      · exact goesOn_waits same inStep fun holds => same.pendingEvents.trans (kept holds)
    cases point with
    | select => exact stays
    | pong => exact sends (idle_of_free rfl)
    | trigger => exact sends fun _ => idle rfl
    | toolResult => exact sends (idle_of_free rfl)
    | hangUp => exact sends (idle_of_free rfl)
  | flushed =>
    dsimp only at still ⊢
    split
    · rename_i flag
      rw [if_pos flag] at still
      exact goesOn_afterSend (.refl b) inStep idle still
    · exact stays
  | failed =>
    -- A message that fails leaves it as well.
    have same : SameQueue b (if NativeMultimodalBackend.isTaken point = true then b
        else b.sendAt point false) := by
      split
      · exact .refl b
      · exact sameQueue_sendAt b point false
    cases point with
    | select => exact stays
    | pong => exact goesOn_afterSend same inStep idle still
    | trigger => exact goesOn_afterSend same inStep idle still
    | toolResult => exact goesOn_afterSend same inStep idle still
    | hangUp => exact goesOn_afterSend same inStep idle still

end Receive

/-! ## The session -/

/-- A text that is put on the bus as one of the agent. -/
def assistantText : NativeBusEvent → Option String
  | .event (.transcript role text) => if role = "assistant" then some text else none
  | _ => none

/-- The texts of the agent so far. -/
def assistantTexts (s : NativeSession) : List String := s.emitted.filterMap assistantText

/-- The body of the branch emits what is in the transcript buffer. -/
def flushes (s : NativeSession) : NativeOccurrence → Bool
  | .event (.turnComplete _ _) | .hangupElapsed => true
  | .mic _ speechStarted _ => s.config.vadOk && speechStarted && s.botSpeaking
  | _ => false

/-- What is emitted of a buffer. -/
def flushed (buf : String) : List String := if isBlank buf then [] else [trim buf]

/-- The transcript buffer after a branch that does not flush it. -/
def written : NativeOccurrence → String → String
  | .event (.outputTranscript text isFinal), buf =>
    if text.isEmpty then buf else if isFinal then text else buf ++ text
  | _, buf => buf

/-- **What the body of a branch does** for the transcripts: the texts it emits, and the buffer it
leaves. -/
structure Handled (s s' : NativeSession) (texts : List String) (buf : String) : Prop where
  texts : assistantTexts s' = assistantTexts s ++ texts
  buf : s'.botTranscriptBuf = buf
  queue : SameQueue s.backend s'.backend
  waiting : s'.waiting = s.waiting

section Session

variable {s s' : NativeSession} {texts : List String} {buf : String}

namespace Handled

/-- Nothing has happened. -/
theorem refl (s : NativeSession) : Handled s s [] s.botTranscriptBuf :=
  ⟨(List.append_nil _).symm, rfl, .refl _, rfl⟩

/-- More is put on the bus, but no text of the agent. -/
theorem emits (handled : Handled s s' texts buf) {t : NativeSession} {events : List NativeBusEvent}
    (others : ∀ event ∈ events, assistantText event = none) (emitted : t.emitted = s'.emitted ++ events)
    (sameBuf : t.botTranscriptBuf = s'.botTranscriptBuf) (queue : SameQueue s'.backend t.backend)
    (waiting : t.waiting = s'.waiting) : Handled s t texts buf := by
  refine ⟨?_, sameBuf.trans handled.buf, handled.queue.trans queue, waiting.trans handled.waiting⟩
  have none_ : events.filterMap assistantText = [] := List.filterMap_eq_nil_iff.2 others
  rw [← handled.texts]
  unfold assistantTexts
  rw [emitted, List.filterMap_append, none_, List.append_nil]

/-- Another event is emitted. -/
theorem emit (handled : Handled s s' texts buf) {event : Event}
    (other : assistantText (.event event) = none) : Handled s (s'.emit event) texts buf := by
  refine handled.emits (fun e held => ?_) rfl rfl (.refl _) rfl
  rw [List.mem_singleton.1 held]
  exact other

/-- The session is over. -/
theorem ends (handled : Handled s s' texts buf) :
    Handled s (({ s' with ended := true } : NativeSession).emit .sessionEnded) texts buf := by
  have ended : Handled s { s' with ended := true } texts buf :=
    ⟨handled.texts, handled.buf, handled.queue, handled.waiting⟩
  exact ended.emit rfl

/-- A call of the tracer. -/
theorem withTracer (handled : Handled s s' texts buf) {f : Tracer → Tracer × List Event}
    (others : ∀ event ∈ (f s'.tracer).2, assistantText (.event event) = none) :
    Handled s (s'.withTracer f) texts buf := by
  refine handled.emits (fun e held => ?_) rfl rfl (.refl _) rfl
  obtain ⟨event, emitted, rfl⟩ := List.mem_map.1 held
  exact others event emitted

/-- The transcript buffer is flushed. -/
theorem flush (handled : Handled s s' [] buf) : Handled s s'.flushTranscript (flushed buf) "" := by
  have known : s'.botTranscriptBuf = buf := handled.buf
  have before : assistantTexts s' = assistantTexts s := by
    rw [handled.texts, List.append_nil]
  unfold NativeSession.flushTranscript flushed isBlank
  dsimp only
  rw [known]
  split
  · refine ⟨?_, rfl, handled.queue, handled.waiting⟩
    rw [List.append_nil]
    exact before
  · refine ⟨?_, rfl, handled.queue, handled.waiting⟩
    rw [← before]
    exact List.filterMap_append

end Handled

/-- The tracer never emits a text of the agent. -/
theorem others_cancelTurn (t : Tracer) :
    ∀ event ∈ t.cancelTurn.2, assistantText (.event event) = none := by
  intro event held
  unfold Tracer.cancelTurn at held
  dsimp only at held
  split at held
  · rw [List.mem_singleton.1 held]
    rfl
  · cases held

/-- A turn that starts in the tracer emits no transcript of the bot. -/
theorem others_startTurn (provider model text language : String) (vadEnabled : Bool) (t : Tracer) :
    ∀ event ∈ (t.startTurn provider model text language vadEnabled).2,
      assistantText (.event event) = none := by
  intro event held
  unfold Tracer.startTurn at held
  dsimp only at held
  rcases List.mem_append.1 held with held | held
  · split at held
    · exact others_cancelTurn t event held
    · cases held
  · rcases List.mem_cons.1 held with rfl | held
    · rfl
    · rw [List.mem_singleton.1 held]
      rfl

/-- A turn that ends in the tracer emits no transcript of the bot. -/
theorem others_finishTurn (provider model voiceId : String) (t : Tracer) :
    ∀ event ∈ (t.finishTurn false provider model voiceId).2, assistantText (.event event) = none := by
  intro event held
  unfold Tracer.finishTurn at held
  by_cases isOpen : (!t.turnOpen) = true
  · rw [if_pos isOpen] at held
    cases held
  · rw [if_neg isOpen] at held
    dsimp only at held
    rcases List.mem_append.1 held with held | held
    · rcases List.mem_append.1 held with held | held
      · split at held
        · rw [List.mem_singleton.1 held]
          rfl
        · cases held
      · split at held
        · rw [List.mem_singleton.1 held]
          rfl
        · cases held
    · rw [List.mem_singleton.1 held]
      rfl

/-- A label in the trace is no transcript of the bot. -/
theorem others_trace (label : String) (t : Tracer) :
    ∀ event ∈ (t.trace label).2, assistantText (.event event) = none := by
  intro event held
  rw [List.mem_singleton.1 held]
  rfl

/-- Audio of the user goes to the model. -/
theorem sameQueue_pushAudio (pcm : List (BitVec 16)) (taken : Bool) (b : NativeMultimodalBackend) :
    SameQueue b (b.pushAudio pcm taken) := by
  unfold NativeMultimodalBackend.pushAudio
  split <;> exact ⟨rfl, rfl, rfl⟩

/-- Audio of the user leaves the queue alone. -/
theorem sameQueue_pushAll (frames : List (List (BitVec 16))) (taken : Bool)
    (b : NativeMultimodalBackend) :
    SameQueue b (frames.foldl (fun b pcm => b.pushAudio pcm taken) b) := by
  induction frames generalizing b with
  | nil => exact .refl b
  | cons pcm frames ih => exact (sameQueue_pushAudio pcm taken b).trans (ih _)

/-- An interruption from here leaves the queue alone. -/
theorem sameQueue_interrupt (taken : Bool) (b : NativeMultimodalBackend) :
    SameQueue b (b.interrupt taken) := by
  unfold NativeMultimodalBackend.interrupt
  split <;> exact ⟨rfl, rfl, rfl⟩

/-- The end of a turn emits no transcript. -/
theorem handled_finishTurn (handled : Handled s s' texts buf) : Handled s s'.finishTurn texts buf :=
  handled.withTracer (others_finishTurn _ _ _ _)

/-- **A barge-in flushes the buffer.** -/
theorem handled_bargeIn (handled : Handled s s' [] buf) (taken : Bool) :
    Handled s (s'.bargeIn taken) (flushed buf) "" := by
  have stopped : Handled s
      { s' with
        backend := s'.backend.interrupt taken
        botSpeaking := false
        playback := s'.playback.reset } [] buf :=
    ⟨handled.texts, handled.buf, handled.queue.trans (sameQueue_interrupt taken _), handled.waiting⟩
  have cancelled := stopped.flush.withTracer (others_cancelTurn _)
  have ended := cancelled.withTracer (others_trace "SpeechEnded" _)
  have other : assistantText (.event .interrupt) = none := rfl
  exact (ended.emit other).emit rfl

/-- Audio of the user flushes the buffer at a barge-in and leaves it otherwise. -/
theorem handled_handleMic (frames : List (List (BitVec 16))) (speechStarted taken : Bool)
    (s : NativeSession) :
    Handled s (s.handleMic frames speechStarted taken)
      (if (s.config.vadOk && speechStarted && s.botSpeaking) = true then flushed s.botTranscriptBuf
        else [])
      (if (s.config.vadOk && speechStarted && s.botSpeaking) = true then ""
        else s.botTranscriptBuf) := by
  unfold NativeSession.handleMic
  dsimp only
  have audio : ∀ event ∈ frames.map NativeBusEvent.userAudio, assistantText event = none := by
    intro event held
    obtain ⟨samples, -, rfl⟩ := List.mem_map.1 held
    rfl
  have recorded : Handled s (if s.config.recordingEnabled = true then
      { s with emitted := s.emitted ++ frames.map .userAudio } else s) [] s.botTranscriptBuf := by
    split
    · exact (Handled.refl s).emits audio rfl rfl (.refl _) rfl
    · exact .refl s
  have same : (if s.config.recordingEnabled = true then
        { s with emitted := s.emitted ++ frames.map .userAudio } else s).config = s.config ∧
      (if s.config.recordingEnabled = true then
        { s with emitted := s.emitted ++ frames.map .userAudio } else s).botSpeaking =
          s.botSpeaking := by
    split <;> exact ⟨rfl, rfl⟩
  generalize (if s.config.recordingEnabled = true then
    { s with emitted := s.emitted ++ frames.map .userAudio } else s) = t at recorded same ⊢
  have pushed : Handled s
      { t with backend := frames.foldl (fun b pcm => b.pushAudio pcm taken) t.backend }
      [] s.botTranscriptBuf :=
    ⟨recorded.texts, recorded.buf, recorded.queue.trans (sameQueue_pushAll frames taken _),
      recorded.waiting⟩
  rw [← same.1, ← same.2]
  have traced := pushed.withTracer (others_trace "SpeechStarted" _)
  by_cases starts : (t.config.vadOk && speechStarted) = true
  · rw [if_pos starts, starts, Bool.true_and]
    show Handled s (if t.botSpeaking = true then _ else _) _ _
    by_cases speaks : t.botSpeaking = true
    · rw [if_pos speaks, if_pos speaks, if_pos speaks]
      exact handled_bargeIn traced taken
    · rw [if_neg speaks, if_neg speaks, if_neg speaks]
      exact traced
  · have ignored : ¬ (t.config.vadOk && speechStarted && t.botSpeaking) = true := by
      rw [Bool.and_eq_true]
      exact fun both => starts both.1
    rw [if_neg starts, if_neg ignored, if_neg ignored]
    exact pushed

/-- Audio of the bot leaves the buffer. -/
theorem handled_handleBotAudio (samples : List (BitVec 16)) (now : Instant) (s : NativeSession) :
    Handled s (s.handleBotAudio samples now) [] s.botTranscriptBuf := by
  unfold NativeSession.handleBotAudio
  dsimp only
  split <;> exact (Handled.refl s).emits (fun e held => by rw [List.mem_singleton.1 held]; rfl) rfl rfl
    (.refl _) rfl

/-- A transcript of the bot is written to the buffer. -/
theorem handled_handleOutputTranscript (text : String) (isFinal : Bool) (s : NativeSession) :
    Handled s (s.handleOutputTranscript text isFinal) []
      (written (.event (.outputTranscript text isFinal)) s.botTranscriptBuf) := by
  unfold NativeSession.handleOutputTranscript written
  dsimp only
  split
  · exact ⟨(List.append_nil _).symm, rfl, .refl _, rfl⟩
  · split
    · exact ⟨(List.append_nil _).symm, rfl, .refl _, rfl⟩
    · refine ⟨?_, rfl, .refl _, rfl⟩
      exact List.filterMap_append

/-- A transcript of the user leaves the buffer. -/
theorem handled_handleInputTranscript (text : String) (isFinal : Bool) (s : NativeSession) :
    Handled s (s.handleInputTranscript text isFinal) [] s.botTranscriptBuf := by
  unfold NativeSession.handleInputTranscript
  split
  · have told : assistantText (.event (.transcript "user" text)) = none := rfl
    exact ((Handled.refl s).emit told).withTracer (others_startTurn _ _ _ _ _ _)
  · refine (Handled.refl s).emits (fun e held => ?_) rfl rfl (.refl _) rfl
    rw [List.mem_singleton.1 held]
    rfl

/-- The hang-up of the agent leaves the buffer. -/
theorem handled_handleHangUp (now : Instant) (s : NativeSession) :
    Handled s (s.handleHangUp now) [] s.botTranscriptBuf := by
  unfold NativeSession.handleHangUp
  split
  · exact .refl s
  · refine (Handled.refl s).emits (fun e held => ?_) rfl rfl (.refl _) rfl
    rw [List.mem_singleton.1 held]
    rfl

/-- **The end of a turn flushes the buffer.** -/
theorem handled_handleTurnComplete (promptTokens completionTokens : ℕ) (s : NativeSession) :
    Handled s (s.handleTurnComplete promptTokens completionTokens) (flushed s.botTranscriptBuf) "" := by
  have silenced : Handled s { s with botSpeaking := false } [] s.botTranscriptBuf :=
    ⟨(List.append_nil _).symm, rfl, .refl _, rfl⟩
  unfold NativeSession.handleTurnComplete
  dsimp only
  refine handled_finishTurn (Handled.emit silenced.flush ?_)
  rfl

/-- The end of the call flushes the buffer. -/
theorem handled_handleHangupElapsed (s : NativeSession) :
    Handled s s.handleHangupElapsed (flushed s.botTranscriptBuf) "" := by
  have finished := handled_finishTurn (Handled.refl s).flush
  unfold NativeSession.handleHangupElapsed
  exact finished.ends

/-- **The body of a branch** emits what is in the transcript buffer, or writes to it. -/
theorem handled_handle (occurrence : NativeOccurrence) (now : Instant) (s : NativeSession) :
    Handled s (s.handle occurrence now)
      (if flushes s occurrence = true then flushed s.botTranscriptBuf else [])
      (if flushes s occurrence = true then "" else written occurrence s.botTranscriptBuf) := by
  cases occurrence with
  | event event =>
    cases event with
    | botAudio samples => exact handled_handleBotAudio samples now s
    | turnComplete prompt completion =>
      have isFlush : flushes s (.event (.turnComplete prompt completion)) = true := rfl
      rw [if_pos isFlush, if_pos isFlush]
      exact handled_handleTurnComplete prompt completion s
    | inputTranscript text isFinal => exact handled_handleInputTranscript text isFinal s
    | outputTranscript text isFinal => exact handled_handleOutputTranscript text isFinal s
    | toolCallStarted id name => exact (Handled.refl s).emit rfl
    | toolCallCompleted id name success => exact (Handled.refl s).emit rfl
    | hangUp reason => exact handled_handleHangUp now s
    | error message => exact (Handled.refl s).emit rfl
  | reconnected =>
    have silenced : Handled s { s with botSpeaking := false } [] s.botTranscriptBuf :=
      ⟨(List.append_nil _).symm, rfl, .refl _, rfl⟩
    exact silenced.withTracer (others_cancelTurn _)
  | reconnectFailed => exact (Handled.refl s).ends
  | mic frames speechStarted taken => exact handled_handleMic frames speechStarted taken s
  | micClosed => exact (Handled.refl s).ends
  | hangupElapsed =>
    have isFlush : flushes s .hangupElapsed = true := rfl
    rw [if_pos isFlush, if_pos isFlush]
    exact handled_handleHangupElapsed s
  | nothing => exact .refl s

end Session

/-- The chunks of the output turn after a branch. -/
def heardIn (spoken : List String) : NativeOccurrence → List String
  | .event event => hear spoken event
  | _ => spoken

/-- A branch that says nothing about the output. -/
def AsideIn : NativeOccurrence → Prop
  | .event event => Aside event
  | _ => True

/-- **What a branch gets**: its event is right, and the provider stays in step. -/
structure Selected (spoken : List String) (b b' : NativeMultimodalBackend)
    (occurrence : NativeOccurrence) : Prop where
  inStep : InStep (heardIn spoken occurrence) b'
  full : ∀ text, occurrence = .event (.outputTranscript text true) →
    text = trim (String.join spoken) ∧ Ends b'
  due : Ends b → (∃ prompt completion, occurrence = .event (.turnComplete prompt completion)) ∨
    AsideIn occurrence ∧ Ends b'

section Select

variable {s : NativeSession} {spoken : List String}

/-- A branch without an event. -/
def Eventless : NativeOccurrence → Prop
  | .event _ => False
  | _ => True

/-- An occurrence without an event is selected. -/
theorem selected_aside {b b' : NativeMultimodalBackend} {occurrence : NativeOccurrence}
    (eventless : Eventless occurrence) (inStep : InStep spoken b') (ends : Ends b → Ends b') :
    Selected spoken b b' occurrence := by
  have aside : AsideIn occurrence := by
    cases occurrence with
    | event => cases eventless
    | _ => trivial
  have still : heardIn spoken occurrence = spoken := by
    cases occurrence with
    | event => cases eventless
    | _ => rfl
  refine ⟨?_, fun text isEvent => ?_, fun isEnd => .inr ⟨aside, ends isEnd⟩⟩
  · rw [still]
    exact inStep
  · rw [isEvent] at eventless
    cases eventless

/-- What stays when a branch is taken. -/
structure Kept (s s' : NativeSession) : Prop where
  buf : s'.botTranscriptBuf = s.botTranscriptBuf
  texts : assistantTexts s' = assistantTexts s
  idle : Idle s'.backend s'.waiting

/-- The result of the backend is selected, behind what the messages have crossed out. -/
theorem selected_proceed {result : NativeMultimodalBackend × NativeStatus}
    (goesOn : GoesOn spoken s.backend result) (reconnects : Bool) :
    Selected (cross (converted s.backend (s.proceed reconnects result).2.backend) spoken) s.backend
        (s.proceed reconnects result).2.backend (s.proceed reconnects result).1 ∧
      Kept s (s.proceed reconnects result).2 := by
  obtain ⟨b', (- | event) | point⟩ := result
  · obtain ⟨inStep, ends⟩ := goesOn
    cases reconnects with
    | true =>
      have same : SameQueue b' b'.connect := ⟨rfl, rfl, rfl⟩
      exact ⟨selected_aside trivial (same.inStep inStep) fun isEnd => same.ends (ends isEnd),
        rfl, rfl, idle_of_free rfl⟩
    | false => exact ⟨selected_aside trivial inStep ends, rfl, rfl, idle_of_free rfl⟩
  · obtain ⟨inStep, right⟩ := goesOn
    refine ⟨⟨inStep, fun text isFull => right.full text (NativeOccurrence.event.inj isFull),
      fun isEnd => ?_⟩, rfl, rfl, idle_of_free rfl⟩
    rcases right.due isEnd with ⟨prompt, completion, same⟩ | aside
    · exact .inl ⟨prompt, completion, congrArg _ same⟩
    · exact .inr aside
  · obtain ⟨inStep, idle, ends⟩ := goesOn
    exact ⟨selected_aside trivial inStep ends, rfl, rfl, idle⟩

/-- Going on with a result reads no further message. -/
theorem converted_proceed (b : NativeMultimodalBackend) (s : NativeSession)
    (result : NativeMultimodalBackend × NativeStatus) (reconnects : Bool) :
    converted b (s.proceed reconnects result).2.backend = converted b result.1 := by
  obtain ⟨b', (- | event) | point⟩ := result
  · cases reconnects <;> rfl
  · rfl
  · rfl

/-- **A branch is taken**: the provider stays in step, and nothing is emitted yet. -/
theorem selected_select (inStep : InStep spoken s.backend) (idle : Idle s.backend s.waiting)
    (action : NativeAction)
    (still : ∀ msg ∈ converted s.backend (s.select action).2.backend,
      interrupts msg = true → silent msg = true) :
    Selected (cross (converted s.backend (s.select action).2.backend) spoken) s.backend
        (s.select action).2.backend (s.select action).1 ∧ Kept s (s.select action).2 := by
  -- What brings no event of the server leaves the two transcripts as they are.
  have stays (occurrence : NativeOccurrence) (eventless : Eventless occurrence)
      {b' : NativeMultimodalBackend} (same : SameQueue s.backend b') :
      Selected (cross (converted s.backend b') spoken) s.backend b' occurrence := by
    rw [same.converted]
    exact selected_aside eventless (same.inStep inStep) same.ends
  have same := SameQueue.refl s.backend
  unfold NativeSession.select at still ⊢
  split
  -- The session has ended, or the socket is gone.
  · exact ⟨stays .nothing trivial same, rfl, rfl, idle⟩
  · rename_i goes
    rw [if_neg goes] at still
    cases action with
    | poll =>
      dsimp only
      split
      · exact ⟨stays .nothing trivial same, rfl, rfl, idle⟩
      · exact ⟨stays .nothing trivial same, rfl, rfl, idle_of_free rfl⟩
    | wake wake reconnects =>
      cases waits : s.waiting with
      | none => exact ⟨stays .nothing trivial same, rfl, rfl, idle⟩
      | some point =>
        rw [waits] at still idle
        have idles : Idle s.backend (some point) := idle
        refine selected_proceed (goesOn_resume inStep idles wake fun msg read => still msg ?_) reconnects
        rw [converted_proceed]
        exact read
    | mic frames speechStarted taken =>
      exact ⟨stays (.mic frames speechStarted taken) trivial same, rfl, rfl, idle_of_free rfl⟩
    | micClosed => exact ⟨stays .micClosed trivial same, rfl, rfl, idle_of_free rfl⟩
    | hangupElapsed =>
      dsimp only
      split
      -- The hang-up is due, or it is not.
      · exact ⟨stays .hangupElapsed trivial same, rfl, rfl, idle_of_free rfl⟩
      · exact ⟨stays .nothing trivial same, rfl, rfl, idle⟩
    | toolDone i result success =>
      dsimp only
      split
      · exact ⟨stays .nothing trivial same, rfl, rfl, idle⟩
      · rename_i unheld
        -- No call is under way.
        have none_ : s.waiting = none := by
          cases waits : s.waiting with
          | none => rfl
          | some point => exact absurd (by rw [waits]; rfl) unheld
        refine ⟨stays .nothing trivial (sameQueue_toolDone s.backend i result success), rfl, rfl, ?_⟩
        show Idle _ s.waiting
        rw [none_]
        exact idle_of_free rfl

end Select

/-! ## Turns -/

/-- A transcript of the agent, with the turn it was emitted in and the chunks that were heard in
it. -/
structure Attribution where
  turn : ℕ
  chunks : List String
  text : String
  deriving DecidableEq, Repr

/-- **An observer** of a session, who notes the chunks of each turn. -/
structure Observer where
  session : NativeSession
  turn : ℕ := 0
  /-- What was heard since the last boundary of a turn. -/
  chunks : List String := []
  /-- What was heard in earlier turns, and never flushed from the transcript buffer. -/
  left : List String := []
  /-- What was heard in earlier turns, and still belongs to the output turn of the provider. -/
  held : List String := []
  transcripts : List Attribution := []

namespace Observer

/-- The observer of a session that has just started. -/
def watch (s : NativeSession) : Observer := { session := s }

/-- A chunk is heard. -/
def heard (chunk : String) (o : Observer) : Observer := { o with chunks := o.chunks ++ [chunk] }

/-- The full text of the output turn replaces what is in the transcript buffer. -/
def replaced (o : Observer) : Observer := { o with left := o.held }

/-- The model has finished its turn: both buffers are cleared. -/
def completed (o : Observer) : Observer :=
  { o with turn := o.turn + 1, chunks := [], left := [], held := [] }

/-- The server interrupts: the transcript buffer is not cleared. -/
def interrupted (o : Observer) : Observer :=
  { o with turn := o.turn + 1, chunks := [], left := o.left ++ o.chunks, held := [] }

/-- The user barges in, or the session is over: the output turn of the provider is not cleared. -/
def cut (o : Observer) : Observer :=
  { o with turn := o.turn + 1, chunks := [], left := [], held := o.held ++ o.chunks }

/-- The connection was opened again: neither is cleared. -/
def reconnected (o : Observer) : Observer :=
  { o with turn := o.turn + 1, chunks := [], left := o.left ++ o.chunks, held := o.held ++ o.chunks }

/-- What the messages that were read say about the turn. -/
def cross (messages : List ServerMessage) (o : Observer) : Observer :=
  if messages.any interrupts then o.interrupted else o

/-- What a branch says about the turn. -/
def note (s : NativeSession) (occurrence : NativeOccurrence) (o : Observer) : Observer :=
  match occurrence with
  | .event (.outputTranscript text false) => o.heard text
  | .event (.outputTranscript text true) => if text.isEmpty then o else o.replaced
  | .event (.turnComplete _ _) => o.completed
  | .reconnected => o.reconnected
  | occurrence => if flushes s occurrence then o.cut else o

/-- The session has emitted texts. -/
def emitted (s : NativeSession) (texts : List String) (o : Observer) : Observer :=
  { o with session := s, transcripts := o.transcripts ++ texts.map (⟨o.turn, o.chunks, ·⟩) }

/-- The observer after the branch is chosen, and before its body. -/
def chosen (o : Observer) (action : NativeAction) : Observer :=
  o.cross (converted o.session.backend (o.session.select action).2.backend)

/-- **One turn of the loop**, observed. -/
def step (o : Observer) (input : NativeAction × Instant) : Observer :=
  let (occurrence, s) := o.session.select input.1
  let s' := s.handle occurrence input.2
  let said := (assistantTexts s').drop (assistantTexts s).length
  ((o.chosen input.1).emitted s' said).note s occurrence

/-- **The turns are told apart**: each transcript is the text of the chunks of its turn, and no turn
has two. -/
def Attributed (o : Observer) : Prop :=
  (∀ a ∈ o.transcripts, a.text = trim (String.join a.chunks)) ∧
    (o.transcripts.map (·.turn)).Nodup

/-- **Nothing is left over** where a transcript is emitted: a message that interrupts transcribes
nothing, and a buffer that is flushed holds no text of an earlier turn. -/
def Clean (o : Observer) (input : NativeAction × Instant) : Prop :=
  (∀ msg ∈ converted o.session.backend (o.session.select input.1).2.backend,
      interrupts msg = true → silent msg = true) ∧
    (flushes (o.session.select input.1).2 (o.session.select input.1).1 = true →
      isBlank (String.join (o.chosen input.1).left) = true)

instance decidableClean (o : Observer) (input : NativeAction × Instant) : Decidable (o.Clean input) :=
  inferInstanceAs (Decidable ((∀ msg ∈ converted o.session.backend
      (o.session.select input.1).2.backend, interrupts msg = true → silent msg = true) ∧
    (flushes (o.session.select input.1).2 (o.session.select input.1).1 = true →
      isBlank (String.join (o.chosen input.1).left) = true)))

/-- The observer looks on only. -/
theorem session_note (s : NativeSession) (occurrence : NativeOccurrence) (o : Observer) :
    (o.note s occurrence).session = o.session := by
  unfold note
  split
  · rfl
  · split <;> rfl
  · rfl
  · rfl
  · split <;> rfl

/-- The session of the observer is the session. -/
theorem session_step (o : Observer) (input : NativeAction × Instant) :
    (o.step input).session = o.session.step input := session_note _ _ _

/-- **The buffers are what was heard**: the transcript buffer holds what is left over and the chunks of
the turn, and the output turn of the provider what is held and these chunks. -/
structure Matched (o : Observer) : Prop where
  inStep : InStep (o.held ++ o.chunks) o.session.backend
  idle : Idle o.session.backend o.session.waiting
  buffer : o.session.botTranscriptBuf = String.join (o.left ++ o.chunks) ∨
    trim o.session.botTranscriptBuf = trim (String.join (o.left ++ o.chunks)) ∧
      Ends o.session.backend

/-- The transcripts so far are told apart, and belong to earlier turns. -/
structure Recorded (o : Observer) : Prop where
  attributed : o.Attributed
  earlier : ∀ a ∈ o.transcripts, a.turn < o.turn

/-- Looking on adds no transcript. -/
theorem transcripts_note (s : NativeSession) (occurrence : NativeOccurrence) (o : Observer) :
    (o.note s occurrence).transcripts = o.transcripts := by
  unfold note
  split
  · rfl
  · split <;> rfl
  · rfl
  · rfl
  · split <;> rfl

/-- A flush is the end of a turn. -/
theorem turn_note (s : NativeSession) (occurrence : NativeOccurrence) (o : Observer) :
    o.turn ≤ (o.note s occurrence).turn ∧
      (flushes s occurrence = true → (o.note s occurrence).turn = o.turn + 1) := by
  unfold note
  split
  · exact ⟨le_refl _, nofun⟩
  · split <;> exact ⟨le_refl _, nofun⟩
  · exact ⟨Nat.le_succ _, fun _ => rfl⟩
  · exact ⟨Nat.le_succ _, nofun⟩
  · split
    · exact ⟨Nat.le_succ _, fun _ => rfl⟩
    · rename_i kept
      exact ⟨le_refl _, fun isFlush => absurd isFlush kept⟩

/-- What an interruption leaves is what was there. -/
theorem chosen_spec (o : Observer) (action : NativeAction) :
    (o.chosen action).transcripts = o.transcripts ∧ o.turn ≤ (o.chosen action).turn ∧
      (o.chosen action).left ++ (o.chosen action).chunks = o.left ++ o.chunks ∧
      (o.chosen action).held ++ (o.chosen action).chunks =
        NativeTranscripts.cross (converted o.session.backend (o.session.select action).2.backend)
          (o.held ++ o.chunks) := by
  unfold chosen cross NativeTranscripts.cross
  split
  · refine ⟨rfl, Nat.le_succ _, List.append_nil _, rfl⟩
  · exact ⟨rfl, le_refl _, rfl, rfl⟩

/-- At most one text is emitted, and then the turn is over. -/
theorem recorded_emitted {o : Observer} (recorded : o.Recorded) {s : NativeSession}
    (s' : NativeSession) {occurrence : NativeOccurrence} {texts : List String}
    (few : texts = [] ∨ flushes s occurrence = true ∧ texts = [trim (String.join o.chunks)]) :
    ((o.emitted s' texts).note s occurrence).Recorded := by
  obtain ⟨⟨right, once⟩, earlier⟩ := recorded
  obtain ⟨passes, ends⟩ := turn_note s occurrence (o.emitted s' texts)
  have noted := transcripts_note s occurrence (o.emitted s' texts)
  rcases few with rfl | ⟨isFlush, rfl⟩
  · have same : ((o.emitted s' []).note s occurrence).transcripts = o.transcripts :=
      noted.trans (List.append_nil _)
    refine ⟨⟨?_, ?_⟩, ?_⟩
    · rw [same]
      exact right
    · rw [same]
      exact once
    · rw [same]
      exact fun a held => Nat.lt_of_lt_of_le (earlier a held) passes
  · have more : ((o.emitted s' [trim (String.join o.chunks)]).note s occurrence).transcripts =
        o.transcripts ++ [⟨o.turn, o.chunks, trim (String.join o.chunks)⟩] := noted
    refine ⟨⟨?_, ?_⟩, ?_⟩
    · rw [more]
      intro a held
      rcases List.mem_append.1 held with held | held
      · exact right a held
      · rw [List.mem_singleton.1 held]
    · rw [more, List.map_append, List.nodup_append]
      refine ⟨once, List.nodup_singleton _, ?_⟩
      intro turn held turn' held' same
      obtain ⟨a, past, rfl⟩ := List.mem_map.1 held
      have current : turn' = o.turn := List.mem_singleton.1 held'
      have before := earlier a past
      omega
    · rw [more, ends isFlush]
      intro a held
      have now : (o.emitted s' [trim (String.join o.chunks)]).turn = o.turn := rfl
      rw [now]
      rcases List.mem_append.1 held with held | held
      · exact Nat.lt_succ_of_lt (earlier a held)
      · rw [List.mem_singleton.1 held]
        exact Nat.lt_succ_self _

/-- What is flushed when nothing is left over. -/
theorem flushed_cases {buf : String} {left chunks : List String}
    (buffer : trim buf = trim (String.join (left ++ chunks)))
    (clean : isBlank (String.join left) = true) :
    flushed buf = [] ∨ flushed buf = [trim (String.join chunks)] := by
  have same : trim buf = trim (String.join chunks) := by
    rw [buffer, String.join_append, trim_append_of_isBlank clean]
  unfold flushed
  split
  · exact .inl rfl
  · exact .inr (congrArg (fun text => [text]) same)

/-- **A turn of the loop records** the text of its chunks. -/
theorem recorded_step {o : Observer} (recorded : o.Recorded) {input : NativeAction × Instant}
    (buffer : trim (o.session.select input.1).2.botTranscriptBuf =
      trim (String.join (o.left ++ o.chunks)))
    (clean : o.Clean input) : (o.step input).Recorded := by
  obtain ⟨transcripts, later, same, -⟩ := o.chosen_spec input.1
  have flushing := clean.2
  have chosen : (o.chosen input.1).Recorded := by
    refine ⟨?_, ?_⟩
    · unfold Attributed
      rw [transcripts]
      exact recorded.attributed
    · rw [transcripts]
      exact fun a held => Nat.lt_of_lt_of_le (recorded.earlier a held) later
  have handled := handled_handle (o.session.select input.1).1 input.2 (o.session.select input.1).2
  unfold step
  dsimp only
  rw [handled.texts, List.drop_left]
  refine recorded_emitted chosen _ ?_
  split
  · rename_i isFlush
    rw [← same] at buffer
    rcases flushed_cases buffer (flushing isFlush) with none_ | one
    · exact .inl none_
    · exact .inr ⟨isFlush, one⟩
  · exact .inl rfl

/-- A branch that does not write to the buffer: it flushes it, or leaves it alone. -/
structure Plain (s : NativeSession) (occurrence : NativeOccurrence) : Prop where
  note : ∀ o : Observer, o.note s occurrence = if flushes s occurrence = true then o.cut else o
  hears : ∀ spoken, heardIn spoken occurrence = spoken
  writes : ∀ buf, written occurrence buf = buf
  open_ : ∀ prompt completion, occurrence ≠ .event (.turnComplete prompt completion)

section Matched

variable {o : Observer} {s s' : NativeSession} {occurrence : NativeOccurrence}
  {b : NativeMultimodalBackend} {texts : List String}

/-- What a branch finds: the two buffers are what was heard. -/
structure Found (o : Observer) (s : NativeSession) (occurrence : NativeOccurrence)
    (b : NativeMultimodalBackend) : Prop where
  selected : Selected (o.held ++ o.chunks) b s.backend occurrence
  idle : Idle s.backend s.waiting
  buffer : s.botTranscriptBuf = String.join (o.left ++ o.chunks) ∨
    trim s.botTranscriptBuf = trim (String.join (o.left ++ o.chunks)) ∧ Ends b

/-- After the buffer was flushed. -/
theorem matched_flushed {o' : Observer} (inStep : InStep (o'.held ++ o'.chunks) o'.session.backend)
    (idle : Idle o'.session.backend o'.session.waiting) (empty : o'.session.botTranscriptBuf = "")
    (left : o'.left = []) (chunks : o'.chunks = []) : o'.Matched := by
  refine ⟨inStep, idle, .inl ?_⟩
  rw [empty, left, chunks]
  rfl

/-- Where no turn crosses a boundary, the buffer still is what was said since the last one. -/
theorem matched_plain (found : Found o s occurrence b) (plain : Plain s occurrence)
    (handled : Handled s s' texts
      (if flushes s occurrence = true then "" else written occurrence s.botTranscriptBuf))
    (said : List String) : ((o.emitted s' said).note s occurrence).Matched := by
  have inStep := handled.queue.inStep found.selected.inStep
  rw [plain.hears] at inStep
  have idle : Idle s'.backend s'.waiting := by
    rw [handled.waiting]
    exact fun holds => handled.queue.pendingEvents.trans (found.idle holds)
  have buf := handled.buf
  rw [plain.note]
  split
  · rename_i isFlush
    rw [if_pos isFlush] at buf
    refine matched_flushed ?_ idle buf rfl rfl
    show InStep (o.held ++ o.chunks ++ []) s'.backend
    rw [List.append_nil]
    exact inStep
  · rename_i kept
    rw [if_neg kept, plain.writes] at buf
    refine ⟨inStep, idle, ?_⟩
    show s'.botTranscriptBuf = String.join (o.left ++ o.chunks) ∨
      trim s'.botTranscriptBuf = trim (String.join (o.left ++ o.chunks)) ∧ Ends s'.backend
    rw [buf]
    refine found.buffer.imp_right fun ⟨same, isEnd⟩ => ⟨same, ?_⟩
    rcases found.selected.due isEnd with ⟨prompt, completion, completes⟩ | ⟨-, isEnd⟩
    · exact absurd completes (plain.open_ prompt completion)
    · exact handled.queue.ends isEnd

/-- A chunk is heard, and written to the buffer. -/
theorem matched_chunk {text : String} (found : Found o s (.event (.outputTranscript text false)) b)
    (handled : Handled s s' texts
      (written (.event (.outputTranscript text false)) s.botTranscriptBuf))
    (said : List String) : ((o.emitted s' said).heard text).Matched := by
  have inStep := handled.queue.inStep found.selected.inStep
  have idle : Idle s'.backend s'.waiting := by
    rw [handled.waiting]
    exact fun holds => handled.queue.pendingEvents.trans (found.idle holds)
  refine ⟨?_, idle, ?_⟩
  · show InStep (o.held ++ (o.chunks ++ [text])) s'.backend
    rw [← List.append_assoc]
    exact inStep
  · rcases found.buffer with same | ⟨-, isEnd⟩
    · refine .inl ?_
      show s'.botTranscriptBuf = String.join (o.left ++ (o.chunks ++ [text]))
      have grown : written (.event (.outputTranscript text false)) s.botTranscriptBuf =
          s.botTranscriptBuf ++ text := by
        unfold written
        dsimp only
        split
        · rename_i empty
          rw [String.isEmpty_iff.1 empty, String.append_empty]
        · exact if_neg Bool.false_ne_true
      have last : String.join (o.left ++ o.chunks ++ [text]) =
          String.join (o.left ++ o.chunks) ++ text := by
        rw [String.join_append]
        exact congrArg _ String.empty_append
      rw [handled.buf, grown, same, ← List.append_assoc, last]
    · rcases found.selected.due isEnd with ⟨prompt, completion, completes⟩ | ⟨aside, -⟩
      · cases completes
      · exact absurd aside id

/-- The full text replaces what is in the buffer. -/
theorem matched_full {text : String} (found : Found o s (.event (.outputTranscript text true)) b)
    (handled : Handled s s' texts
      (written (.event (.outputTranscript text true)) s.botTranscriptBuf))
    (said : List String) :
    (if text.isEmpty = true then o.emitted s' said else (o.emitted s' said).replaced).Matched := by
  have inStep := handled.queue.inStep found.selected.inStep
  have idle : Idle s'.backend s'.waiting := by
    rw [handled.waiting]
    exact fun holds => handled.queue.pendingEvents.trans (found.idle holds)
  obtain ⟨full, isEnd⟩ := found.selected.full text rfl
  have ends := handled.queue.ends isEnd
  have buf := handled.buf
  unfold written at buf
  dsimp only at buf
  split
  · rename_i empty
    rw [if_pos empty] at buf
    refine ⟨inStep, idle, .inr ⟨?_, ends⟩⟩
    show trim s'.botTranscriptBuf = trim (String.join (o.left ++ o.chunks))
    rw [buf]
    rcases found.buffer with same | ⟨same, -⟩
    · rw [same]
    · exact same
  · rename_i some_
    rw [if_neg some_, if_pos rfl] at buf
    refine ⟨inStep, idle, .inr ⟨?_, ends⟩⟩
    show trim s'.botTranscriptBuf = trim (String.join (o.held ++ o.chunks))
    rw [buf, full, trim_trim]

/-- The connection was opened again. -/
theorem matched_reconnected (found : Found o s .reconnected b)
    (handled : Handled s s' texts s.botTranscriptBuf) (said : List String) :
    (o.emitted s' said).reconnected.Matched := by
  have inStep := handled.queue.inStep found.selected.inStep
  have idle : Idle s'.backend s'.waiting := by
    rw [handled.waiting]
    exact fun holds => handled.queue.pendingEvents.trans (found.idle holds)
  refine ⟨?_, idle, ?_⟩
  · show InStep (o.held ++ o.chunks ++ []) s'.backend
    rw [List.append_nil]
    exact inStep
  · show s'.botTranscriptBuf = String.join (o.left ++ o.chunks ++ []) ∨
      trim s'.botTranscriptBuf = trim (String.join (o.left ++ o.chunks ++ [])) ∧ Ends s'.backend
    rw [List.append_nil, handled.buf]
    refine found.buffer.imp_right fun ⟨same, isEnd⟩ => ⟨same, ?_⟩
    rcases found.selected.due isEnd with ⟨prompt, completion, completes⟩ | ⟨-, isEnd⟩
    · cases completes
    · exact handled.queue.ends isEnd

/-- **The body of a branch** leaves the buffers as they were heard. -/
theorem matched_note (found : Found o s occurrence b)
    (handled : Handled s s' texts
      (if flushes s occurrence = true then "" else written occurrence s.botTranscriptBuf))
    (said : List String) : ((o.emitted s' said).note s occurrence).Matched := by
  have plain (plain : Plain s occurrence) : ((o.emitted s' said).note s occurrence).Matched :=
    matched_plain found plain handled said
  cases occurrence with
  | event event =>
    cases event with
    | botAudio => exact plain ⟨fun _ => rfl, fun _ => rfl, fun _ => rfl, nofun⟩
    | inputTranscript => exact plain ⟨fun _ => rfl, fun _ => rfl, fun _ => rfl, nofun⟩
    | toolCallStarted => exact plain ⟨fun _ => rfl, fun _ => rfl, fun _ => rfl, nofun⟩
    | toolCallCompleted => exact plain ⟨fun _ => rfl, fun _ => rfl, fun _ => rfl, nofun⟩
    | hangUp => exact plain ⟨fun _ => rfl, fun _ => rfl, fun _ => rfl, nofun⟩
    | error => exact plain ⟨fun _ => rfl, fun _ => rfl, fun _ => rfl, nofun⟩
    | outputTranscript text isFinal =>
      cases isFinal with
      | false => exact matched_chunk found handled said
      | true => exact matched_full found handled said
    | turnComplete prompt completion =>
      refine matched_flushed (handled.queue.inStep found.selected.inStep) ?_ handled.buf rfl rfl
      show Idle s'.backend s'.waiting
      rw [handled.waiting]
      exact fun holds => handled.queue.pendingEvents.trans (found.idle holds)
  | reconnected => exact matched_reconnected found handled said
  | reconnectFailed => exact plain ⟨fun _ => rfl, fun _ => rfl, fun _ => rfl, nofun⟩
  | mic => exact plain ⟨fun _ => rfl, fun _ => rfl, fun _ => rfl, nofun⟩
  | micClosed => exact plain ⟨fun _ => rfl, fun _ => rfl, fun _ => rfl, nofun⟩
  | hangupElapsed => exact plain ⟨fun _ => rfl, fun _ => rfl, fun _ => rfl, nofun⟩
  | nothing => exact plain ⟨fun _ => rfl, fun _ => rfl, fun _ => rfl, nofun⟩

end Matched

/-- **A turn of the loop** keeps the record. -/
theorem kept_step {o : Observer} (kept : o.Matched ∧ o.Recorded) {input : NativeAction × Instant}
    (clean : o.Clean input) : (o.step input).Matched ∧ (o.step input).Recorded := by
  obtain ⟨⟨inStep, idle, buffer⟩, recorded⟩ := kept
  obtain ⟨selected, stays⟩ := selected_select inStep idle input.1 clean.1
  obtain ⟨-, -, same, crossed⟩ := o.chosen_spec input.1
  have handled := handled_handle (o.session.select input.1).1 input.2 (o.session.select input.1).2
  have found : Found (o.chosen input.1) (o.session.select input.1).2 (o.session.select input.1).1
      o.session.backend := by
    refine ⟨?_, stays.idle, ?_⟩
    · rw [crossed]
      exact selected
    · rw [same, stays.buf]
      exact buffer
  refine ⟨matched_note found handled _, recorded_step recorded ?_ clean⟩
  rw [stays.buf]
  rcases buffer with same | ⟨same, -⟩
  · rw [same]
  · exact same

end Observer

/-- **Agent text belongs to its turn**: while nothing is left over where a transcript is emitted, each
one is the text of the chunks of its turn, and no turn has two. -/
theorem attributed_of_clean (config : NativeSessionConfig) (library : ToolLibrary)
    (decode : String → Except String (List UInt8)) (agentGraph : Option AgentGraphDef)
    (systemPrompt : String) (now : Instant) (inputs : List (NativeAction × Instant)) :
    let start := Observer.watch (.start config library decode agentGraph systemPrompt now)
    Along Observer.step Observer.Clean start inputs →
      (run Observer.step start inputs).Attributed := by
  intro start clean
  have keeps (o : Observer) (input : NativeAction × Instant) :
      o.Matched ∧ o.Recorded → o.Clean input → (o.step input).Matched ∧ (o.step input).Recorded :=
    fun kept clean => Observer.kept_step kept clean
  have starts : start.Matched ∧ start.Recorded := by
    refine ⟨⟨⟨[], rfl, rfl⟩, idle_of_free rfl, .inl rfl⟩, ⟨?_, List.nodup_nil⟩, ?_⟩
    · intro a held
      cases held
    · intro a held
      cases held
  exact (invariant keeps starts clean).2.attributed

/-- The start of a session whose audio is silence. -/
def opening : Observer :=
  .watch (.start { upsample := fun _ => [] } ⟨fun _ => .error "no JSON", fun _ => "", fun _ _ => .ok ""⟩
    (fun _ => .ok [0, 0]) none "" 0)

/-- The server says something, and the next event is delivered. -/
def hears (content : ServerContent) : List (NativeAction × Instant) :=
  [(.poll, 0), (.wake (.frame (.message (.ok { serverContent := some content })) fun _ => "") true, 0)]

/-- The bot is heard, and begins to say something. -/
def begins : List (NativeAction × Instant) :=
  hears { modelTurn := some [⟨none, some ⟨"", "audio/pcm"⟩, none⟩] } ++
    hears { outputTranscription := some (some "Hello, I am ") }

/-- The turn is complete: its full text is delivered, and its end. -/
def ends : List (NativeAction × Instant) :=
  hears { turnComplete := some true } ++ [(.poll, 0), (.wake .event true, 0)]

/-- A barge-in is noticed here, the server says that the bot was interrupted, and the bot says something else. -/
def confirmed : List (NativeAction × Instant) :=
  begins ++ [(.mic [] true true, 0)] ++ hears { interrupted := some true } ++
    (begins ++ hears { outputTranscription := some (some "here.") } ++ ends)

/-- The text up to the barge-in belongs to the first turn, and nothing of it to the next. -/
theorem attributed_of_clean_bargeIn :
    (run Observer.step opening confirmed).Attributed ∧
      (run Observer.step opening confirmed).transcripts =
        [⟨0, ["Hello, I am "], "Hello, I am"⟩, ⟨2, ["Hello, I am ", "here."], "Hello, I am here."⟩] :=
  ⟨attributed_of_clean { upsample := fun _ => [] }
    ⟨fun _ => .error "no JSON", fun _ => "", fun _ _ => .ok ""⟩ (fun _ => .ok [0, 0]) none "" 0 confirmed
    (by decide +kernel), by decide +kernel⟩

/-- **What was said before a barge-in is said again**: the transcript of the next turn is made of it. -/
theorem transcript_repeated :
    let after := run Observer.step opening (begins ++ [(.mic [] true true, 0)] ++ ends)
    after.transcripts = [⟨0, ["Hello, I am "], "Hello, I am"⟩, ⟨1, [], "Hello, I am"⟩] ∧
      ¬ after.Attributed := by
  have transcripts : (run Observer.step opening
      (begins ++ [(.mic [] true true, 0)] ++ ends)).transcripts =
        [⟨0, ["Hello, I am "], "Hello, I am"⟩, ⟨1, [], "Hello, I am"⟩] := by decide +kernel
  refine ⟨transcripts, fun attributed => ?_⟩
  have second := attributed.1 ⟨1, [], "Hello, I am"⟩ (by rw [transcripts]; simp)
  revert second
  decide +kernel

end NativeTranscripts

end Feros
