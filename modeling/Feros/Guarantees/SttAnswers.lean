import Feros.Library.Run
import Feros.Providers.Stt
/-! # What answers a finalize

The reactor waits for the transcript of each `finalize`.  An **`Observer`** numbers the calls, and
notes which transcript answers which of them.  **`Answered`** says that each finalize that the service
has answered led to one transcript, in the order of the calls; **`Answers`** says what that takes. -/

namespace Feros

open Run

namespace SttAnswers

/-- The transcripts among events. -/
def texts (events : List SttEvent) : List String :=
  events.filterMap fun
    | .transcript text => some text
    | _ => none

/-- The texts of events, one list after the other. -/
@[simp] theorem texts_append (first second : List SttEvent) :
    texts (first ++ second) = texts first ++ texts second := List.filterMap_append

/-- A service answers a finalize: Deepgram with a result that says so, the others with a final text, or
with a failure. -/
def isAnswer : SttProvider → SttIncoming → Bool
  | .builtin _, .builtin (.ok (some tr)) => tr.isFinal
  | .deepgram _, .deepgram (.ok res) => decide (res.msgType = "Results") && res.fromFinalize
  | .cartesia _, .cartesia (.ok msg) => decide (msg.msgType = "transcript") && msg.isFinal
  | .openaiRealtime _, .openai (.ok (.completed _)) => true
  | .openaiRealtime _, .openai (.ok .failed) => true
  | .openaiRealtime _, .openai (.ok .error) => true
  | _, _ => false

/-- The message has no text; a result of Deepgram also stands for the segments before it. -/
def isSilent : SttProvider → SttIncoming → Bool
  | .builtin _, .builtin (.ok (some tr)) => isBlank tr.text
  | .deepgram p, .deepgram (.ok res) =>
    (DeepgramSttProvider.transcript res).isEmpty && p.accumulatedSegments.isEmpty
  | .cartesia _, .cartesia (.ok msg) => isBlank msg.text
  | .openaiRealtime _, .openai (.ok (.completed text)) => isBlank (text.getD "")
  | _, _ => true

/-- The response to an upload has no text. -/
def lacksText : SttOutcome → Bool
  | .body (.ok text) => isBlank (text.getD "")
  | _ => true

/-- A task has nothing left to do. -/
def isDone : SttTask → Bool
  | .sending [] => true
  | _ => false

/-- **An observer** of a provider. -/
structure Observer where
  provider : SttProvider
  /-- How often `finalize` was called. -/
  finalized : ℕ := 0
  /-- How many answers were read from a WebSocket. -/
  read : ℕ := 0
  /-- The finalizes whose answer has no text. -/
  silent : List ℕ := []
  /-- The finalizes that led to a transcript, with the transcript. -/
  released : List (ℕ × String) := []

namespace Observer

/-- How many finalizes were answered, and the answer has been dealt with. -/
def answered (o : Observer) : ℕ :=
  match o.provider with
  | .segmented p => p.tasks.countP isDone
  | _ => o.read

/-- The provider goes on; what transcripts it emits are for a finalize. -/
def goOn (id : ℕ) (p : SttProvider) (o : Observer) : Observer :=
  { o with
    provider := p
    released := o.released ++
      ((texts p.results).drop (texts o.provider.results).length).map fun text => (id, text) }

/-- `finalize` is called. -/
def finalize (o : Observer) : Observer :=
  { o with
    provider := o.provider.call .finalize
    finalized := o.finalized + 1
    silent := match o.provider with
      | .segmented p => if p.pcmBuffer.isEmpty then o.silent ++ [o.finalized] else o.silent
      | _ => o.silent }

/-- The service says something; it answers one finalize after the other, and no more. -/
def hear (msg : SttIncoming) (o : Observer) : Observer :=
  let p := o.provider.taskStep (.read msg)
  if isAnswer o.provider msg then
    if o.read < o.finalized then
      { o.goOn o.read p with
        read := o.read + 1
        silent := if isSilent o.provider msg then o.silent ++ [o.read] else o.silent }
    else o
  else { o with provider := p }

/-- An upload is answered. -/
def respond (i : ℕ) (outcome : SttOutcome) (o : Observer) : Observer :=
  { o with
    provider := o.provider.taskStep (.respond i outcome)
    silent := match o.provider with
      | .segmented p => if p.tasks[i]? = some .posted ∧ lacksText outcome = true then o.silent ++ [i]
        else o.silent
      | _ => o.silent }

/-- **One step**, observed. -/
def step (o : Observer) : SttAction → Observer
  | .call .finalize => o.finalize
  | .call c => { o with provider := o.provider.call c }
  | .task (.read msg) => o.hear msg
  | .task (.respond i outcome) => o.respond i outcome
  | .task (.sendNext i) => o.goOn i (o.provider.taskStep (.sendNext i))
  | .task t => { o with provider := o.provider.taskStep t }

/-- **Every finalize is answered, in order**: those that were answered led to one transcript each, which
is empty when there is no text. -/
def Answered (o : Observer) : Prop :=
  o.released.map Prod.fst = List.range o.answered ∧
    ∀ r ∈ o.released, r.1 ∈ o.silent → r.2 = ""

/-- **What it takes**: an answer of the builtin service and of OpenAI has text, a successful body can be
read, and the tasks of uploads send their transcripts in the order of the calls. -/
def Answers (o : Observer) (action : SttAction) : Prop :=
  match o.provider, action with
  | .builtin _, .task (.read (.builtin (.ok (some tr)))) =>
    o.read < o.finalized → tr.isFinal = true → isBlank tr.text = false
  | .openaiRealtime _, .task (.read (.openai (.ok (.completed text)))) =>
    o.read < o.finalized → isBlank (text.getD "") = false
  | .openaiRealtime _, .task (.read (.openai (.ok .failed))) => ¬ o.read < o.finalized
  | .openaiRealtime _, .task (.read (.openai (.ok .error))) => ¬ o.read < o.finalized
  | .segmented p, .task (.respond i (.body (.error _))) => p.tasks[i]? ≠ some .posted
  | .segmented p, .task (.sendNext i) =>
    ∀ text, p.tasks[i]? = some (.sending [.transcript text]) → i = p.tasks.countP isDone
  | _, _ => True

end Observer

/-! ## What reading says -/

/-- The transcript of a final text, if there is any. -/
def spoken (text : String) : List String := if isBlank text then [] else [trim text]

/-- A final text of the builtin service is reported unless it is blank. -/
theorem texts_read_builtin (tr : TranscriptResult) (p : BuiltinSttProvider) :
    texts (p.read (.ok (some tr))).results =
      texts p.results ++ if tr.isFinal = true then spoken tr.text else [] := by
  unfold BuiltinSttProvider.read spoken isBlank
  dsimp only
  rw [texts_append, texts_append, List.append_assoc]
  congr 1
  have quiet (b : Bool) : texts (if b = true then [.firstTextReceived] else []) = [] := by
    cases b <;> rfl
  rw [quiet, List.nil_append]
  cases tr.isFinal with
  | false => rfl
  | true =>
    cases (trim tr.text).isEmpty with
    | true => rfl
    | false => rfl

/-- A text of OpenAI is reported unless it is blank. -/
theorem texts_read_openai (text : Option String) (p : OpenAIRealtimeSttProvider) :
    texts (p.read (.ok (.completed text))).results = texts p.results ++ spoken (text.getD "") := by
  unfold OpenAIRealtimeSttProvider.read OpenAIRealtimeSttProvider.readEvent spoken isBlank
  dsimp only
  split
  · exact (List.append_nil _).symm
  · dsimp only
    rw [texts_append, texts_append]
    have quiet (b : Bool) : texts (if b = true then [] else [.firstTextReceived]) = [] := by
      cases b <;> rfl
    rw [quiet, List.append_nil]
    rfl

/-- A final text of Cartesia is reported. -/
theorem texts_read_cartesia {msg : CartesiaTranscriptMsg} (isTranscript : msg.msgType = "transcript")
    (isFinal : msg.isFinal = true) (p : CartesiaSttProvider) :
    texts (p.read (.ok msg)).results = texts p.results ++ [trim msg.text] := by
  unfold CartesiaSttProvider.read
  dsimp only
  rw [if_pos isTranscript]
  unfold CartesiaSttProvider.readTranscript
  rw [isFinal, Bool.not_true, Bool.and_false, if_neg Bool.false_ne_true]
  dsimp only
  rw [if_pos rfl]
  dsimp only
  rw [texts_append]
  congr 1
  split
  · exact (texts_append _ _).trans (List.append_nil _)
  · rfl

/-- The full text of an utterance that ends with a result. -/
def fullText (res : DeepgramResult) (p : DeepgramSttProvider) : String :=
  trim (String.intercalate " " (p.accumulatedSegments ++
    if (DeepgramSttProvider.transcript res).isEmpty then [] else [DeepgramSttProvider.transcript res]))

/-- A text of Deepgram that was asked for is reported, with the segments before it. -/
theorem texts_read_deepgram {res : DeepgramResult} (isResult : res.msgType = "Results")
    (asked : res.fromFinalize = true) (p : DeepgramSttProvider) :
    texts (p.read (.ok res)).results = texts p.results ++ [fullText res p] := by
  unfold DeepgramSttProvider.read
  dsimp only
  rw [if_pos isResult]
  unfold DeepgramSttProvider.readResult DeepgramSttProvider.endUtterance fullText
  dsimp only
  generalize DeepgramSttProvider.transcript res = text
  rw [asked, Bool.not_true, Bool.and_false, if_neg Bool.false_ne_true, Bool.or_true, if_pos rfl,
    Bool.and_false, if_neg Bool.false_ne_true]
  dsimp only
  rw [texts_append]
  cases text.isEmpty with
  | true =>
    cases res.isFinal <;> simp [texts]
  | false =>
    cases res.isFinal <;> cases p.sentFirstText <;> simp [texts]

/-- What an answer says. -/
def said : SttProvider → SttIncoming → List String
  | .builtin _, .builtin (.ok (some tr)) => spoken tr.text
  | .deepgram p, .deepgram (.ok res) => [fullText res p]
  | .cartesia _, .cartesia (.ok msg) => [trim msg.text]
  | .openaiRealtime _, .openai (.ok (.completed text)) => spoken (text.getD "")
  | _, _ => []

/-- **What an answer says is emitted.** -/
theorem texts_hear {p : SttProvider} {msg : SttIncoming} (answer : isAnswer p msg = true) :
    texts (p.taskStep (.read msg)).results = texts p.results ++ said p msg := by
  unfold isAnswer at answer
  split at answer
  · rename_i p tr
    have read := texts_read_builtin tr p
    rw [if_pos answer] at read
    exact read
  · rename_i p res
    rw [Bool.and_eq_true, decide_eq_true_eq] at answer
    exact texts_read_deepgram answer.1 answer.2 p
  · rename_i p msg
    rw [Bool.and_eq_true, decide_eq_true_eq] at answer
    exact texts_read_cartesia answer.1 answer.2 p
  · rename_i p text
    exact texts_read_openai text p
  · exact (List.append_nil _).symm
  · exact (List.append_nil _).symm
  · cases answer

/-- Blank text says nothing. -/
theorem eq_empty_of_spoken {text transcript : String} (blank : isBlank text = true)
    (held : transcript ∈ spoken text) : transcript = "" := by
  unfold spoken at held
  rw [if_pos blank] at held
  cases held

/-- An answer without text says nothing. -/
theorem said_of_silent {p : SttProvider} {msg : SttIncoming} (silent : isSilent p msg = true)
    {text : String} (held : text ∈ said p msg) : text = "" := by
  unfold said at held
  split at held
  · exact eq_empty_of_spoken silent held
  · rename_i p res
    obtain ⟨mute, fresh⟩ := Bool.and_eq_true_iff.1 silent
    rw [List.mem_singleton.1 held]
    unfold fullText
    rw [if_pos mute, List.isEmpty_iff.1 fresh]
    rfl
  · have blank : (trim _).isEmpty = true := silent
    rw [List.mem_singleton.1 held]
    exact String.isEmpty_iff.1 blank
  · exact eq_empty_of_spoken silent held
  · cases held

/-! ## Streaming providers -/

/-- A provider with a WebSocket. -/
def Streams : SttProvider → Prop
  | .segmented _ => False
  | _ => True

/-- A task leaves a streaming provider one. -/
theorem streams_taskStep {p : SttProvider} (streams : Streams p) (t : SttTaskStep) :
    Streams (p.taskStep t) := by
  cases p with
  | segmented => cases streams
  | _ =>
    cases t with
    | read msg => cases msg <;> trivial
    | _ => trivial

/-- A call leaves a streaming provider one. -/
theorem streams_call {p : SttProvider} (streams : Streams p) (c : SttCall) : Streams (p.call c) := by
  cases p with
  | segmented => cases streams
  | _ => cases c <;> trivial

namespace Observer

variable {o : Observer}

/-- A streaming provider has answered what was read. -/
theorem answered_of_streams (streams : Streams o.provider) : o.answered = o.read := by
  unfold answered
  cases provider : o.provider with
  | segmented p =>
    rw [provider] at streams
    cases streams
  | _ => rfl

/-- **What the record of a streaming provider keeps**: nothing was answered yet that is still to be
read. -/
structure Streamed (o : Observer) : Prop where
  streams : Streams o.provider
  released : ∀ r ∈ o.released, r.1 < o.read
  silent : ∀ i ∈ o.silent, i < o.read
  empty : ∀ r ∈ o.released, r.1 ∈ o.silent → r.2 = ""

/-- The provider goes on, and the record is the same. -/
theorem Streamed.withProvider (streamed : o.Streamed) {p : SttProvider} (streams : Streams p) :
    Streamed { o with provider := p } :=
  ⟨streams, streamed.released, streamed.silent, streamed.empty⟩

/-- **An answer is read.** -/
theorem streamed_hear (streamed : o.Streamed) (msg : SttIncoming) : (o.hear msg).Streamed := by
  have streams := streams_taskStep streamed.streams (.read msg)
  unfold hear
  dsimp only
  split
  · rename_i answer
    split
    · unfold goOn
      dsimp only
      rw [texts_hear answer, List.drop_left]
      have inSilent {i : ℕ} (held : i ∈ (if isSilent o.provider msg = true then o.silent ++ [o.read]
          else o.silent)) : i ∈ o.silent ∨ i = o.read ∧ isSilent o.provider msg = true := by
        split at held
        · rename_i mute
          rcases List.mem_append.1 held with held | held
          · exact .inl held
          · exact .inr ⟨List.mem_singleton.1 held, mute⟩
        · exact .inl held
      refine ⟨streams, fun r held => ?_, fun i held => ?_, fun r held mute => ?_⟩
      · rcases List.mem_append.1 held with held | held
        · exact Nat.lt_succ_of_lt (streamed.released r held)
        · obtain ⟨text, -, rfl⟩ := List.mem_map.1 held
          exact Nat.lt_succ_self _
      · rcases inSilent held with held | ⟨rfl, -⟩
        · exact Nat.lt_succ_of_lt (streamed.silent i held)
        · exact Nat.lt_succ_self _
      · rcases List.mem_append.1 held with held | held
        · rcases inSilent mute with mute | ⟨same, -⟩
          · exact streamed.empty r held mute
          · exact absurd same (Nat.ne_of_lt (streamed.released r held))
        · obtain ⟨text, said, rfl⟩ := List.mem_map.1 held
          rcases inSilent mute with mute | ⟨-, mute⟩
          · exact absurd (streamed.silent _ mute) (Nat.lt_irrefl _)
          · exact said_of_silent mute said
    · exact streamed
  · exact streamed.withProvider streams

/-- **An answer is one transcript** exactly if it says one thing. -/
theorem answered_hear (streamed : o.Streamed) (answered : o.Answered) {msg : SttIncoming}
    (answer : isAnswer o.provider msg = true) (due : o.read < o.finalized) :
    (o.hear msg).Answered ↔ (said o.provider msg).length = 1 := by
  have later := streamed_hear streamed msg
  have each := answered.1
  rw [answered_of_streams streamed.streams] at each
  unfold Answered
  rw [answered_of_streams later.streams, and_iff_left later.empty]
  unfold hear
  dsimp only
  rw [if_pos answer, if_pos due]
  unfold goOn
  dsimp only
  rw [texts_hear answer, List.drop_left, List.map_append, each, List.range_succ, List.map_map]
  rw [List.append_right_inj]
  have ids : List.map (Prod.fst ∘ fun text => (o.read, text)) (said o.provider msg) =
      List.replicate (said o.provider msg).length o.read := List.map_const
  rw [ids]
  constructor
  · intro same
    have lengths := congrArg List.length same
    rw [List.length_replicate] at lengths
    exact lengths
  · intro one
    rw [one]
    rfl

/-- A text is reported exactly if it is not blank. -/
theorem length_spoken (text : String) : (spoken text).length = 1 ↔ isBlank text = false := by
  unfold spoken
  cases isBlank text <;> simp

/-- What it takes is that the answer says one thing. -/
theorem answers_read {msg : SttIncoming} (streams : Streams o.provider) :
    o.Answers (.task (.read msg)) ↔
      (isAnswer o.provider msg = true → o.read < o.finalized → (said o.provider msg).length = 1) := by
  unfold Answers
  cases provider : o.provider with
  | segmented p =>
    rw [provider] at streams
    cases streams
  | builtin p =>
    cases msg with
    | builtin msg =>
      cases msg with
      | error => exact ⟨fun _ => nofun, fun _ => trivial⟩
      | ok msg =>
        cases msg with
        | none => exact ⟨fun _ => nofun, fun _ => trivial⟩
        | some tr =>
          constructor
          · exact fun speaks isFinal due => (length_spoken tr.text).2 (speaks due isFinal)
          · exact fun one due isFinal => (length_spoken tr.text).1 (one isFinal due)
    | _ => exact ⟨fun _ => nofun, fun _ => trivial⟩
  | deepgram p =>
    cases msg with
    | deepgram msg =>
      cases msg with
      | error => exact ⟨fun _ => nofun, fun _ => trivial⟩
      | ok res => exact ⟨fun _ _ _ => rfl, fun _ => trivial⟩
    | _ => exact ⟨fun _ => nofun, fun _ => trivial⟩
  | cartesia p =>
    cases msg with
    | cartesia msg =>
      cases msg with
      | error => exact ⟨fun _ => nofun, fun _ => trivial⟩
      | ok msg => exact ⟨fun _ _ _ => rfl, fun _ => trivial⟩
    | _ => exact ⟨fun _ => nofun, fun _ => trivial⟩
  | openaiRealtime p =>
    cases msg with
    | openai msg =>
      cases msg with
      | error => exact ⟨fun _ => nofun, fun _ => trivial⟩
      | ok event =>
        cases event with
        | completed text =>
          constructor
          · exact fun speaks _ due => (length_spoken _).2 (speaks due)
          · exact fun one due => (length_spoken _).1 (one rfl due)
        | failed =>
          constructor
          · exact fun late _ due => absurd due late
          · exact fun one due => absurd (one rfl due) Nat.zero_ne_one
        | error =>
          constructor
          · exact fun late _ due => absurd due late
          · exact fun one due => absurd (one rfl due) Nat.zero_ne_one
        | _ => exact ⟨fun _ => nofun, fun _ => trivial⟩
    | _ => exact ⟨fun _ => nofun, fun _ => trivial⟩

/-- **A message keeps all answered** exactly if it is what it takes. -/
theorem answered_hear_iff (streamed : o.Streamed) (answered : o.Answered) (msg : SttIncoming) :
    (o.hear msg).Answered ↔ o.Answers (.task (.read msg)) := by
  rw [answers_read streamed.streams]
  by_cases answer : isAnswer o.provider msg = true
  · by_cases due : o.read < o.finalized
    · rw [answered_hear streamed answered answer due]
      exact ⟨fun one _ _ => one, fun one => one answer due⟩
    · have same : o.hear msg = o := by
        unfold hear
        dsimp only
        rw [if_pos answer, if_neg due]
      rw [same]
      exact ⟨fun _ _ isDue => absurd isDue due, fun _ => answered⟩
  · have aside : o.hear msg = { o with provider := o.provider.taskStep (.read msg) } := by
      unfold hear
      dsimp only
      rw [if_neg answer]
    rw [aside]
    refine ⟨fun _ isAnswer => absurd isAnswer answer, fun _ => ⟨?_, answered.2⟩⟩
    rw [answered_of_streams (streams_taskStep streamed.streams (.read msg))]
    have each := answered.1
    rw [answered_of_streams streamed.streams] at each
    exact each

/-- A step that is no message leaves the record of a streaming provider alone. -/
theorem step_aside (streams : Streams o.provider) {action : SttAction}
    (aside : ∀ msg, action ≠ .task (.read msg)) :
    (o.step action).released = o.released ∧ (o.step action).read = o.read ∧
      (o.step action).silent = o.silent ∧ Streams (o.step action).provider ∧ o.Answers action := by
  cases action with
  | call c =>
    have called := streams_call streams c
    cases c with
    | feedAudio pcm => exact ⟨rfl, rfl, rfl, called, by unfold Answers; split <;> trivial⟩
    | finalize =>
      refine ⟨rfl, rfl, ?_, called, by unfold Answers; split <;> trivial⟩
      show (o.finalize).silent = o.silent
      unfold finalize
      dsimp only
      split
      · rename_i p provider
        rw [provider] at streams
        cases streams
      · rfl
  | task t =>
    -- A provider that streams has no task that posts or sends.
    have goesOn := streams_taskStep streams t
    have free : o.Answers (.task t) := by
      unfold Answers
      split
      · rename_i same
        exact absurd same (aside _)
      · rename_i same
        exact absurd same (aside _)
      · rename_i same
        exact absurd same (aside _)
      · rename_i same
        exact absurd same (aside _)
      · rename_i provider _
        rw [provider] at streams
        cases streams
      · rename_i provider _
        rw [provider] at streams
        cases streams
      · trivial
    cases t with
    | read msg => exact absurd rfl (aside msg)
    | respond i outcome =>
      refine ⟨rfl, rfl, ?_, goesOn, free⟩
      show (o.respond i outcome).silent = o.silent
      unfold respond
      dsimp only
      split
      · rename_i p provider
        rw [provider] at streams
        cases streams
      · rfl
    | sendNext i =>
      have same : o.provider.taskStep (.sendNext i) = o.provider := by
        cases provider : o.provider with
        | segmented p =>
          rw [provider] at streams
          cases streams
        | _ => rfl
      refine ⟨?_, rfl, rfl, goesOn, free⟩
      show (o.goOn i (o.provider.taskStep (.sendNext i))).released = o.released
      unfold goOn
      dsimp only
      rw [same, List.drop_length]
      exact List.append_nil _
    | write => exact ⟨rfl, rfl, rfl, goesOn, free⟩
    | writeControl => exact ⟨rfl, rfl, rfl, goesOn, free⟩
    | tick => exact ⟨rfl, rfl, rfl, goesOn, free⟩
    | resample => exact ⟨rfl, rfl, rfl, goesOn, free⟩
    | append => exact ⟨rfl, rfl, rfl, goesOn, free⟩
    | post i => exact ⟨rfl, rfl, rfl, goesOn, free⟩

/-- **The step of a streaming provider.** -/
theorem streamed_step (streamed : o.Streamed) (action : SttAction) : (o.step action).Streamed := by
  by_cases reads : ∃ msg, action = .task (.read msg)
  · obtain ⟨msg, rfl⟩ := reads
    exact streamed_hear streamed msg
  · obtain ⟨released, read, silent, streams, -⟩ :=
      step_aside streamed.streams fun msg same => reads ⟨msg, same⟩
    refine ⟨streams, ?_, ?_, ?_⟩
    · rw [released, read]
      exact streamed.released
    · rw [silent, read]
      exact streamed.silent
    · rw [released, silent]
      exact streamed.empty

/-- **A streaming provider keeps up** exactly if it answers the action. -/
theorem answered_step_iff_of_streamed (streamed : o.Streamed) (answered : o.Answered)
    (action : SttAction) : (o.step action).Answered ↔ o.Answers action := by
  by_cases reads : ∃ msg, action = .task (.read msg)
  · obtain ⟨msg, rfl⟩ := reads
    exact answered_hear_iff streamed answered msg
  · obtain ⟨released, read, silent, streams, answers⟩ :=
      step_aside streamed.streams fun msg same => reads ⟨msg, same⟩
    refine ⟨fun _ => answers, fun _ => ⟨?_, ?_⟩⟩
    · rw [released, answered_of_streams streams, read, ← answered_of_streams streamed.streams]
      exact answered.1
    · rw [released, silent]
      exact answered.2

end Observer

/-! ## Segmented providers -/

/-- The events that a task still has to send end with a transcript, which is empty if there is no
text. -/
def Fits (silent : Prop) (events : List SttEvent) : Prop :=
  events = [] ∨ ∃ text, (silent → text = "") ∧
    (events = [.transcript text] ∨ events = [.firstTextReceived, .transcript text])

/-- An outcome has as many events as it should, and none exactly if it lacks text. -/
theorem fits_events (outcome : SttOutcome) : Fits (lacksText outcome = true) outcome.events := by
  cases outcome with
  | requestFailed => exact .inr ⟨"", fun _ => rfl, .inl rfl⟩
  | status => exact .inr ⟨"", fun _ => rfl, .inl rfl⟩
  | body text =>
    cases text with
    | error => exact .inl rfl
    | ok text =>
      refine .inr ⟨trim (text.getD ""), fun blank => String.isEmpty_iff.1 blank, ?_⟩
      unfold SttOutcome.events
      dsimp only
      cases (trim (text.getD "")).isEmpty with
      | true => exact .inl rfl
      | false => exact .inr rfl

/-- Only a body that cannot be read says nothing. -/
theorem events_eq_nil {outcome : SttOutcome} :
    outcome.events = [] ↔ ∃ reason, outcome = .body (.error reason) := by
  constructor
  · intro none_
    cases outcome with
    | requestFailed => cases none_
    | status => cases none_
    | body text =>
      cases text with
      | error reason => exact ⟨reason, rfl⟩
      | ok text => exact absurd (List.append_eq_nil_iff.1 none_).2 (List.cons_ne_nil _ _)
  · rintro ⟨reason, rfl⟩
    rfl

/-- A task that has sent everything is done. -/
theorem isDone_sending (events : List SttEvent) : isDone (.sending events) = events.isEmpty := by
  cases events <;> rfl

section Tasks

variable {tasks : List SttTask} {i : ℕ} {task : SttTask}

/-- A task that was not done is replaced. -/
theorem countP_set_isDone (found : tasks[i]? = some task) (undone : isDone task = false)
    (task' : SttTask) : (tasks.set i task').countP isDone =
      tasks.countP isDone + if isDone task' = true then 1 else 0 := by
  obtain ⟨isLess, same⟩ := List.getElem?_eq_some_iff.1 found
  rw [List.countP_set isLess, same, undone, if_neg Bool.false_ne_true, Nat.sub_zero]

/-- A task of a list in which one was set. -/
theorem getElem?_set_cases {task' : SttTask} {j : ℕ} {other : SttTask}
    (found : (tasks.set i task')[j]? = some other) :
    (i = j ∧ other = task') ∨ (i ≠ j ∧ tasks[j]? = some other) := by
  by_cases same : i = j
  · subst same
    rw [List.getElem?_set] at found
    rw [if_pos rfl] at found
    split at found
    · exact .inl ⟨rfl, (Option.some.inj found).symm⟩
    · cases found
  · rw [List.getElem?_set_ne same] at found
    exact .inr ⟨same, found⟩

/-- The task that was set is there. -/
theorem getElem?_set_of (found : tasks[i]? = some task) (task' : SttTask) :
    (tasks.set i task')[i]? = some task' :=
  List.getElem?_set_self (List.getElem?_eq_some_iff.1 found).1

end Tasks

namespace Observer

variable {o : Observer} {p : SegmentedSttProvider}

/-- **What the record of a segmented provider keeps**: the transcripts are those of tasks that are done,
and tasks that are not still have one to send. -/
structure Tasked (o : Observer) (tasks : List SttTask) : Prop where
  length : tasks.length = o.finalized
  fits : ∀ i events, tasks[i]? = some (.sending events) → Fits (i ∈ o.silent) events
  past : ∀ r ∈ o.released, tasks[r.1]? = some (.sending [])
  silent : ∀ i ∈ o.silent, ∃ events, tasks[i]? = some (.sending events)
  empty : ∀ r ∈ o.released, r.1 ∈ o.silent → r.2 = ""

/-- `finalize` adds a task. -/
theorem tasked_finalize (tasked : o.Tasked p.tasks) (provider : o.provider = .segmented p) :
    o.finalize.Tasked p.finalize.tasks := by
  -- The tasks before stay what they are.
  have before {i : ℕ} {task : SttTask} (found : p.tasks[i]? = some task) :
      p.finalize.tasks[i]? = some task := by
    obtain ⟨isLess, -⟩ := List.getElem?_eq_some_iff.1 found
    exact (List.getElem?_append_left isLess).trans found
  have isLess {i : ℕ} {task : SttTask} (found : p.tasks[i]? = some task) : i < o.finalized := by
    rw [← tasked.length]
    exact (List.getElem?_eq_some_iff.1 found).1
  have silent : o.finalize.silent = if p.pcmBuffer.isEmpty = true then o.silent ++ [o.finalized]
      else o.silent := by
    unfold finalize
    rw [provider]
  -- Only the new task may be silent.
  have old {i : ℕ} (isOld : i < o.finalized) : i ∈ o.finalize.silent ↔ i ∈ o.silent := by
    rw [silent]
    split
    · rw [List.mem_append, List.mem_singleton]
      exact or_iff_left (Nat.ne_of_lt isOld)
    · rfl
  -- The new task posts the buffer, or it has an empty text at once.
  have last : p.finalize.tasks[o.finalized]? = some (if p.pcmBuffer.isEmpty = true then
      .sending [.transcript ""] else .spawned (p.upload p.pcmBuffer)) := by
    rw [← tasked.length]
    exact List.getElem?_concat_length
  refine ⟨?_, fun i events found => ?_, fun r held => before (tasked.past r held), fun i held => ?_,
    fun r held mute => ?_⟩
  · show (p.tasks ++ [_]).length = o.finalized + 1
    rw [List.length_append, tasked.length]
    rfl
  · rcases Nat.lt_or_ge i o.finalized with isOld | isNew
    · rw [← tasked.length] at isOld
      have was : p.tasks[i]? = some (.sending events) :=
        (List.getElem?_append_left isOld).symm.trans found
      rcases tasked.fits i events was with none_ | ⟨text, mute, shape⟩
      · exact .inl none_
      · exact .inr ⟨text, fun held => mute ((old (isLess was)).1 held), shape⟩
    -- The new task is the last one.
    · have bound := (List.getElem?_eq_some_iff.1 found).1
      have most : p.finalize.tasks.length = o.finalized + 1 := by
        show (p.tasks ++ [_]).length = o.finalized + 1
        rw [List.length_append, tasked.length]
        rfl
      obtain rfl : i = o.finalized := by omega
      rw [last] at found
      split at found
      · cases found
        exact .inr ⟨"", fun _ => rfl, .inl rfl⟩
      · cases found
  · rw [silent] at held
    split at held
    · rename_i empty
      rcases List.mem_append.1 held with held | held
      · obtain ⟨events, found⟩ := tasked.silent i held
        exact ⟨events, before found⟩
      · rw [if_pos empty] at last
        rw [List.mem_singleton.1 held]
        exact ⟨_, last⟩
    · obtain ⟨events, found⟩ := tasked.silent i held
      exact ⟨events, before found⟩
  · exact tasked.empty r held ((old (isLess (tasked.past r held))).1 mute)

/-- A task that has nothing to send yet goes over to another state. -/
theorem tasked_set (tasked : o.Tasked p.tasks) {i : ℕ} {task task' : SttTask}
    (found : p.tasks[i]? = some task) (early : ∀ events, task ≠ .sending events)
    {o' : Observer} (finalized : o'.finalized = o.finalized) (released : o'.released = o.released)
    (silent : ∀ j, j ∈ o'.silent → j ∈ o.silent ∨ j = i ∧ ∃ events, task' = .sending events)
    (fits : ∀ events, task' = .sending events → Fits (i ∈ o'.silent) events) :
    o'.Tasked (p.tasks.set i task') := by
  have stays {j : ℕ} {events : List SttEvent} (was : p.tasks[j]? = some (.sending events)) :
      (p.tasks.set i task')[j]? = some (.sending events) := by
    have other : i ≠ j := by
      rintro rfl
      exact early events (Option.some.inj (found.symm.trans was))
    rw [List.getElem?_set_ne other]
    exact was
  refine ⟨?_, fun j events is => ?_, fun r held => ?_, fun j held => ?_, fun r held mute => ?_⟩
  · rw [List.length_set, finalized]
    exact tasked.length
  · rcases getElem?_set_cases is with ⟨rfl, same⟩ | ⟨other, was⟩
    · exact fits events same.symm
    · rcases tasked.fits j events was with none_ | ⟨text, mute, shape⟩
      · exact .inl none_
      · refine .inr ⟨text, fun held => mute ?_, shape⟩
        rcases silent j held with held | ⟨same, -⟩
        · exact held
        · exact absurd same.symm other
  · rw [released] at held
    exact stays (tasked.past r held)
  · rcases silent j held with held | ⟨rfl, events, rfl⟩
    · obtain ⟨events, was⟩ := tasked.silent j held
      exact ⟨events, stays was⟩
    · exact ⟨events, getElem?_set_of found _⟩
  · rw [released] at held
    rcases silent r.1 mute with mute | ⟨same, -⟩
    · exact tasked.empty r held mute
    · have was := tasked.past r held
      rw [same] at was
      exact absurd (Option.some.inj (found.symm.trans was)) (early [])

/-- A task sends an event: a transcript is its last. -/
theorem tasked_advance (tasked : o.Tasked p.tasks) {i : ℕ} {event : SttEvent} {events : List SttEvent}
    (found : p.tasks[i]? = some (.sending (event :: events))) {o' : Observer}
    (finalized : o'.finalized = o.finalized) (silent : o'.silent = o.silent)
    (released : o'.released = o.released ++ (texts [event]).map fun text => (i, text))
    (fits : Fits (i ∈ o.silent) events)
    (last : ∀ text ∈ texts [event], events = [] ∧ (i ∈ o.silent → text = "")) :
    o'.Tasked (p.tasks.set i (.sending events)) := by
  have old {r : ℕ × String} (held : r ∈ o.released) :
      (p.tasks.set i (.sending events))[r.1]? = some (.sending []) := by
    have was := tasked.past r held
    have other : i ≠ r.1 := by
      intro same
      rw [← same, found] at was
      cases was
    rw [List.getElem?_set_ne other]
    exact was
  refine ⟨?_, fun j later is => ?_, fun r held => ?_, fun j held => ?_, fun r held mute => ?_⟩
  · rw [List.length_set, finalized]
    exact tasked.length
  · rw [silent]
    rcases getElem?_set_cases is with ⟨rfl, same⟩ | ⟨-, was⟩
    · cases same
      exact fits
    · exact tasked.fits j later was
  · rw [released] at held
    rcases List.mem_append.1 held with held | held
    · exact old held
    · obtain ⟨text, new, rfl⟩ := List.mem_map.1 held
      rw [(last text new).1]
      exact getElem?_set_of found _
  · rw [silent] at held
    by_cases same : i = j
    · subst same
      exact ⟨events, getElem?_set_of found _⟩
    · obtain ⟨later, was⟩ := tasked.silent j held
      rw [List.getElem?_set_ne same]
      exact ⟨later, was⟩
  · rw [silent] at mute
    rw [released] at held
    rcases List.mem_append.1 held with held | held
    · exact tasked.empty r held mute
    · obtain ⟨text, new, rfl⟩ := List.mem_map.1 held
      exact (last text new).2 mute

/-- A segmented provider has answered with each task that is done. -/
theorem answered_of_segmented (provider : o.provider = .segmented p) :
    o.answered = p.tasks.countP isDone := by
  unfold answered
  rw [provider]

/-- All answered, in terms of the tasks. -/
theorem answered_iff (provider : o.provider = .segmented p) (tasked : o.Tasked p.tasks) :
    o.Answered ↔ o.released.map Prod.fst = List.range (p.tasks.countP isDone) := by
  unfold Answered
  rw [answered_of_segmented provider]
  exact and_iff_left tasked.empty

/-- The `i`-th task is not there, or not in the state that is asked for. -/
theorem respond_of_ne (provider : o.provider = .segmented p) {i : ℕ}
    (unposted : p.tasks[i]? ≠ some .posted) (outcome : SttOutcome) : o.respond i outcome = o := by
  have same : p.respond i outcome = p := by
    unfold SegmentedSttProvider.respond
    split
    · rename_i found
      exact absurd found unposted
    · rfl
  unfold respond
  rw [provider]
  dsimp only
  rw [if_neg fun both => unposted both.1]
  show { o with provider := .segmented (p.respond i outcome) } = o
  rw [same, ← provider]

/-- **An upload is answered**: all is answered still, unless the body cannot be read. -/
theorem tasked_respond (provider : o.provider = .segmented p) (tasked : o.Tasked p.tasks) (i : ℕ)
    (outcome : SttOutcome) : ∃ p', (o.respond i outcome).provider = .segmented p' ∧
      (o.respond i outcome).Tasked p'.tasks ∧
      (o.Answered → ((o.respond i outcome).Answered ↔ o.Answers (.task (.respond i outcome)))) := by
  have asked : o.Answers (.task (.respond i outcome)) ↔
      (p.tasks[i]? = some .posted → outcome.events ≠ []) := by
    rw [ne_eq, events_eq_nil]
    unfold Answers
    rw [provider]
    cases outcome with
    | requestFailed => exact ⟨fun _ _ => nofun, fun _ => trivial⟩
    | status => exact ⟨fun _ _ => nofun, fun _ => trivial⟩
    | body text =>
      cases text with
      | ok => exact ⟨fun _ _ => nofun, fun _ => trivial⟩
      | error reason =>
        exact ⟨fun unposted posted => absurd posted unposted,
          fun readable posted => readable posted ⟨reason, rfl⟩⟩
  rw [asked]
  by_cases posted : p.tasks[i]? = some .posted
  -- A task that was posted goes on to send what its response holds.
  · have goesOn : p.respond i outcome = { p with tasks := p.tasks.set i (.sending outcome.events) } := by
      unfold SegmentedSttProvider.respond
      rw [posted]
    have now : (o.respond i outcome).provider = .segmented (p.respond i outcome) := by
      unfold respond
      rw [provider]
      rfl
    have silent : (o.respond i outcome).silent =
        if lacksText outcome = true then o.silent ++ [i] else o.silent := by
      unfold respond
      rw [provider]
      simp only [posted, true_and]
    -- It is not among the silent ones, it has nothing to send yet.
    have free : i ∉ o.silent := by
      intro held
      obtain ⟨events, found⟩ := tasked.silent i held
      cases posted.symm.trans found
    have later : (o.respond i outcome).Tasked (p.tasks.set i (.sending outcome.events)) := by
      refine tasked_set tasked posted (fun _ => nofun) rfl rfl (fun j held => ?_)
        fun events same => ?_
      · rw [silent] at held
        split at held
        · rcases List.mem_append.1 held with held | held
          · exact .inl held
          · exact .inr ⟨List.mem_singleton.1 held, _, rfl⟩
        · exact .inl held
      · cases same
        rcases fits_events outcome with none_ | ⟨text, mute, shape⟩
        · exact .inl none_
        · refine .inr ⟨text, fun held => mute ?_, shape⟩
          rw [silent] at held
          split at held
          · assumption
          · exact absurd held free
    refine ⟨p.respond i outcome, now, ?_, fun answered => ?_⟩
    · rw [goesOn]
      exact later
    · have before := (answered_iff provider tasked).1 answered
      rw [goesOn] at now
      rw [answered_iff now later]
      have undone : isDone .posted = false := rfl
      show o.released.map Prod.fst = List.range ((p.tasks.set i _).countP isDone) ↔ _
      rw [before, countP_set_isDone posted undone, isDone_sending]
      cases outcome.events with
      | nil =>
        constructor
        -- A response without events leaves the task behind, and the numbers of the released texts no longer fit.
        · intro same
          have lengths := congrArg List.length same
          rw [List.length_range, List.length_range] at lengths
          exact absurd lengths (Nat.ne_of_lt (Nat.lt_succ_self _))
        · intro speaks
          exact absurd rfl (speaks posted)
      | cons event events => exact ⟨fun _ _ => List.cons_ne_nil _ _, fun _ => rfl⟩
  -- Any other task ignores the response.
  · rw [respond_of_ne provider posted]
    exact ⟨p, provider, tasked, fun answered =>
      ⟨fun _ isPosted => absurd isPosted posted, fun _ => answered⟩⟩

/-- Nothing is sent. -/
theorem sendNext_of_ne {i : ℕ} (mute : ∀ event events, p.tasks[i]? ≠ some (.sending (event :: events))) :
    p.sendNext i = p := by
  unfold SegmentedSttProvider.sendNext
  split
  · rename_i event events found
    exact absurd found (mute event events)
  · rfl

/-- **A task sends an event**: all is answered still, unless it overtakes another. -/
theorem tasked_sendNext (provider : o.provider = .segmented p) (tasked : o.Tasked p.tasks) (i : ℕ) :
    ∃ p', (o.step (.task (.sendNext i))).provider = .segmented p' ∧
      (o.step (.task (.sendNext i))).Tasked p'.tasks ∧
      (o.Answered → ((o.step (.task (.sendNext i))).Answered ↔ o.Answers (.task (.sendNext i)))) := by
  have asked : o.Answers (.task (.sendNext i)) ↔
      ∀ text, p.tasks[i]? = some (.sending [.transcript text]) → i = p.tasks.countP isDone := by
    unfold Answers
    rw [provider]
  have stepped : o.step (.task (.sendNext i)) = o.goOn i (.segmented (p.sendNext i)) := by
    show o.goOn i (o.provider.taskStep (.sendNext i)) = _
    rw [provider]
    rfl
  rw [stepped, asked]
  -- The task sends its next event.
  have goesOn {event : SttEvent} {events : List SttEvent}
      (found : p.tasks[i]? = some (.sending (event :: events))) :
      p.sendNext i = { p with
        tasks := p.tasks.set i (.sending events), results := p.results ++ [event] } := by
    unfold SegmentedSttProvider.sendNext
    rw [found]
  have released {event : SttEvent} {events : List SttEvent}
      (found : p.tasks[i]? = some (.sending (event :: events))) :
      (o.goOn i (.segmented (p.sendNext i))).released =
        o.released ++ (texts [event]).map fun text => (i, text) := by
    unfold goOn
    rw [goesOn found, provider]
    show o.released ++ ((texts (p.results ++ [event])).drop (texts p.results).length).map _ = _
    rw [texts_append, List.drop_left]
  have advanced {event : SttEvent} {events : List SttEvent}
      (found : p.tasks[i]? = some (.sending (event :: events))) (fits : Fits (i ∈ o.silent) events)
      (last : ∀ text ∈ texts [event], events = [] ∧ (i ∈ o.silent → text = "")) :
      (o.goOn i (.segmented (p.sendNext i))).Tasked (p.sendNext i).tasks := by
    have tasks : (p.sendNext i).tasks = p.tasks.set i (.sending events) := by rw [goesOn found]
    rw [tasks]
    exact tasked_advance tasked found rfl rfl (released found) fits last
  by_cases speaks : ∃ event events, p.tasks[i]? = some (.sending (event :: events))
  · obtain ⟨event, events, found⟩ := speaks
    have count : (p.sendNext i).tasks.countP isDone =
        p.tasks.countP isDone + if events.isEmpty = true then 1 else 0 := by
      rw [goesOn found]
      have undone : isDone (.sending (event :: events)) = false := rfl
      rw [countP_set_isDone found undone, isDone_sending]
    -- Its events are one text, or the first word and one text.
    rcases tasked.fits i _ found with none_ | ⟨text, mute, one | two⟩
    · cases none_
    · cases one
      -- The text is released: it is in turn exactly if all tasks before are done.
      have later := advanced found (.inl rfl) fun new held => by
        rw [List.mem_singleton.1 held]
        exact ⟨rfl, mute⟩
      refine ⟨p.sendNext i, rfl, later, fun answered => ?_⟩
      have before := (answered_iff provider tasked).1 answered
      have now : (o.goOn i (.segmented (p.sendNext i))).provider = .segmented (p.sendNext i) := rfl
      rw [answered_iff now later, released found, List.map_append, before, count]
      show _ ++ [i] = List.range (p.tasks.countP isDone + 1) ↔ _
      rw [List.range_succ, List.append_right_inj, List.cons.injEq, and_iff_left rfl]
      refine ⟨fun same other isOther => same, fun inOrder => inOrder text found⟩
    · cases two
      -- The first word is no text.
      have later := advanced found (.inr ⟨text, mute, .inl rfl⟩) fun new held => by cases held
      refine ⟨p.sendNext i, rfl, later, fun answered => ?_⟩
      have before := (answered_iff provider tasked).1 answered
      have now : (o.goOn i (.segmented (p.sendNext i))).provider = .segmented (p.sendNext i) := rfl
      rw [answered_iff now later, released found, List.map_append, before, count]
      refine ⟨fun _ other isOther => ?_, fun _ => List.append_nil _⟩
      cases found.symm.trans isOther
  -- A task without events stays as it is.
  · have same : p.sendNext i = p := sendNext_of_ne fun event events found => speaks ⟨event, events, found⟩
    have still : o.goOn i (.segmented p) = o := by
      unfold goOn
      rw [← provider, List.drop_length]
      show { o with released := o.released ++ [] } = o
      rw [List.append_nil]
    rw [same, still]
    exact ⟨p, provider, tasked, fun answered =>
      ⟨fun _ text found => absurd ⟨_, _, found⟩ speaks, fun _ => answered⟩⟩

/-- What a step does to the record of a segmented provider. -/
def Steps (o : Observer) (action : SttAction) : Prop :=
  ∃ p', (o.step action).provider = .segmented p' ∧ (o.step action).Tasked p'.tasks ∧
    (o.Answered → ((o.step action).Answered ↔ o.Answers action))

/-- Nothing is done about the tasks. -/
theorem steps_of_same (provider : o.provider = .segmented p) (tasked : o.Tasked p.tasks)
    {action : SttAction} {p' : SegmentedSttProvider} (tasks : p'.tasks = p.tasks)
    (stepped : o.step action = { o with provider := .segmented p' }) (answers : o.Answers action) :
    o.Steps action := by
  have later : Tasked { o with provider := .segmented p' } p'.tasks := by
    rw [tasks]
    exact ⟨tasked.length, tasked.fits, tasked.past, tasked.silent, tasked.empty⟩
  unfold Steps
  rw [stepped]
  refine ⟨p', rfl, later, fun answered => ⟨fun _ => answers, fun _ => ?_⟩⟩
  have before := (answered_iff provider tasked).1 answered
  rw [answered_iff rfl later, tasks]
  exact before

/-- A call of `finalize` starts a task. -/
theorem steps_finalize (provider : o.provider = .segmented p) (tasked : o.Tasked p.tasks) :
    o.Steps (.call .finalize) := by
  have later := tasked_finalize tasked provider
  have now : o.finalize.provider = .segmented p.finalize := by
    unfold finalize
    rw [provider]
    rfl
  refine ⟨p.finalize, now, later, fun answered => ⟨fun _ => ?_, fun _ => ?_⟩⟩
  · unfold Answers
    rw [provider]
    trivial
  · have before := (answered_iff provider tasked).1 answered
    refine (answered_iff now later).2 ?_
    have count : p.finalize.tasks.countP isDone = p.tasks.countP isDone := by
      unfold SegmentedSttProvider.finalize
      dsimp only
      rw [List.countP_append]
      cases p.pcmBuffer.isEmpty <;> rfl
    rw [count]
    exact before

/-- A request that is answered keeps the number of the tasks. -/
theorem steps_post (provider : o.provider = .segmented p) (tasked : o.Tasked p.tasks) (i : ℕ) :
    o.Steps (.task (.post i)) := by
  have answers : o.Answers (.task (.post i)) := by
    unfold Answers
    rw [provider]
    trivial
  have stepped : o.step (.task (.post i)) = { o with provider := .segmented (p.post i) } := by
    show { o with provider := o.provider.taskStep (.post i) } = _
    rw [provider]
    rfl
  by_cases spawned : ∃ upload, p.tasks[i]? = some (.spawned upload)
  · obtain ⟨upload, found⟩ := spawned
    have tasks : (p.post i).tasks = p.tasks.set i .posted := by
      unfold SegmentedSttProvider.post
      rw [found]
    have later : Tasked { o with provider := .segmented (p.post i) } (p.post i).tasks := by
      rw [tasks]
      exact tasked_set tasked found (fun _ => nofun) rfl rfl (fun _ => .inl) fun _ => nofun
    unfold Steps
    rw [stepped]
    refine ⟨p.post i, rfl, later, fun answered => ⟨fun _ => answers, fun _ => ?_⟩⟩
    have before := (answered_iff provider tasked).1 answered
    have undone : isDone (.spawned upload) = false := rfl
    rw [answered_iff rfl later, tasks, countP_set_isDone found undone]
    exact before
  · have same : p.post i = p := by
      unfold SegmentedSttProvider.post
      split
      · rename_i upload found
        exact absurd ⟨upload, found⟩ spawned
      · rfl
    exact steps_of_same provider tasked (congrArg _ same) stepped answers

/-- **The step of a segmented provider.** -/
theorem steps_of_tasked (provider : o.provider = .segmented p) (tasked : o.Tasked p.tasks)
    (action : SttAction) : o.Steps action := by
  have same {t : SttTaskStep} (stepped : o.step (.task t) = { o with provider := o.provider.taskStep t })
      (unmoved : o.provider.taskStep t = o.provider) (answers : o.Answers (.task t)) :
      o.Steps (.task t) := by
    rw [unmoved, provider] at stepped
    exact steps_of_same provider tasked rfl stepped answers
  have free {action : SttAction} (answers : Answers { o with provider := .segmented p } action) :
      o.Answers action := by
    rw [← provider] at answers
    exact answers
  -- A step of the stream leaves a provider with segments alone.
  have stays {t : SttTaskStep} (unmoved : (SttProvider.segmented p).taskStep t = .segmented p) :
      o.provider.taskStep t = o.provider := by
    rw [provider]
    exact unmoved
  cases action with
  | call c =>
    cases c with
    | finalize => exact steps_finalize provider tasked
    | feedAudio pcm =>
      have stepped : o.step (.call (.feedAudio pcm)) =
          { o with provider := .segmented (p.feedAudio pcm) } := by
        show { o with provider := o.provider.call (.feedAudio pcm) } = _
        rw [provider]
        rfl
      have tasks : (p.feedAudio pcm).tasks = p.tasks := rfl
      exact steps_of_same provider tasked tasks stepped (free trivial)
  | task t =>
    cases t with
    | post i => exact steps_post provider tasked i
    | respond i outcome => exact tasked_respond provider tasked i outcome
    | sendNext i => exact tasked_sendNext provider tasked i
    | read msg =>
      -- Such a provider reads no answers.
      have deaf : isAnswer o.provider msg = false := by
        rw [provider]
        cases msg <;> rfl
      have stepped : o.step (.task (.read msg)) =
          { o with provider := o.provider.taskStep (.read msg) } := by
        show o.hear msg = _
        unfold hear
        dsimp only
        rw [deaf, if_neg Bool.false_ne_true]
      refine same stepped (stays ?_) (free ?_)
      · cases msg <;> rfl
      · cases msg <;> trivial
    | write => exact same rfl (stays rfl) (free trivial)
    | writeControl => exact same rfl (stays rfl) (free trivial)
    | tick => exact same rfl (stays rfl) (free trivial)
    | resample => exact same rfl (stays rfl) (free trivial)
    | append => exact same rfl (stays rfl) (free trivial)

/-- **What every run keeps.** -/
def Recorded (o : Observer) : Prop :=
  o.Streamed ∨ ∃ p, o.provider = .segmented p ∧ o.Tasked p.tasks

/-- An action keeps the record. -/
theorem recorded_step (recorded : o.Recorded) (action : SttAction) : (o.step action).Recorded := by
  rcases recorded with streamed | ⟨p, provider, tasked⟩
  · exact .inl (streamed_step streamed action)
  · obtain ⟨p', now, later, -⟩ := steps_of_tasked provider tasked action
    exact .inr ⟨p', now, later⟩

/-- **A provider keeps up** exactly if it answers the action. -/
theorem answered_step_iff (recorded : o.Recorded) (answered : o.Answered) (action : SttAction) :
    (o.step action).Answered ↔ o.Answers action := by
  rcases recorded with streamed | ⟨p, provider, tasked⟩
  · exact answered_step_iff_of_streamed streamed answered action
  · obtain ⟨-, -, -, iff⟩ := steps_of_tasked provider tasked action
    exact iff answered

end Observer

/-- **Every finalize is answered, in order**, all along a run, exactly if each step is what it takes. -/
theorem answered_iff_answers (cfg : SttProviderConfig) (actions : List SttAction) :
    let start : Observer := ⟨buildSttProvider cfg, 0, 0, [], []⟩
    (∀ front, front <+: actions → (run Observer.step start front).Answered) ↔
      Along Observer.step Observer.Answers start actions := by
  intro start
  have none_ {α : Type} {P : α → Prop} : ∀ a ∈ ([] : List α), P a := fun _ held => nomatch held
  have streamed (streams : Streams start.provider) : start.Recorded := .inl ⟨streams, none_, none_, none_⟩
  have tasked {p : SegmentedSttProvider} (provider : start.provider = .segmented p)
      (empty : p.tasks = []) : start.Recorded := by
    refine .inr ⟨p, provider, ?_⟩
    rw [empty]
    exact ⟨rfl, fun i events found => (nomatch found), none_, none_, none_⟩
  have recorded : start.Recorded ∧ start.Answered := by
    have provider : ∃ p, start.provider = p ∧ (Streams p ∨ ∃ q, p = .segmented q ∧ q.tasks = []) := by
      show ∃ p, buildSttProvider cfg = p ∧ _
      unfold buildSttProvider
      dsimp only
      split
      · exact ⟨_, rfl, .inl trivial⟩
      · exact ⟨_, rfl, .inl trivial⟩
      · exact ⟨_, rfl, .inl trivial⟩
      · exact ⟨_, rfl, .inr ⟨_, rfl, rfl⟩⟩
      · exact ⟨_, rfl, .inr ⟨_, rfl, rfl⟩⟩
      · exact ⟨_, rfl, .inr ⟨_, rfl, rfl⟩⟩
      · exact ⟨_, rfl, .inl trivial⟩
    obtain ⟨p, is, streams | ⟨q, rfl, empty⟩⟩ := provider
    · have streams : Streams start.provider := by
        rw [is]
        exact streams
      refine ⟨streamed streams, ?_, none_⟩
      rw [Observer.answered_of_streams streams]
      rfl
    · refine ⟨tasked is empty, ?_, none_⟩
      rw [Observer.answered_of_segmented is, empty]
      rfl
  have keeps (o : Observer) (action : SttAction) :
      o.Recorded → o.Answered → ((o.step action).Answered ↔ o.Answers action) :=
    fun recorded answered => Observer.answered_step_iff recorded answered action
  exact kept_iff_along _ (fun o action recorded => Observer.recorded_step recorded action) keeps
    recorded.1 recorded.2 actions

instance decidableAnswered (o : Observer) : Decidable o.Answered :=
  inferInstanceAs (Decidable (o.released.map Prod.fst = List.range o.answered ∧
    ∀ r ∈ o.released, r.1 ∈ o.silent → r.2 = ""))

/-- The start of a session. -/
def fresh (provider : String) : Observer := ⟨buildSttProvider ⟨provider, "key", "en-US", ""⟩, 0, 0, [], []⟩

/-- Two utterances are finalized one after the other, and uploaded. -/
def uploaded : List SttAction :=
  [.call (.feedAudio [1, 2]), .call .finalize, .call (.feedAudio [3, 4]), .call .finalize,
    .task (.post 0), .task (.post 1)]

/-- **A finalize without an answer**: a final text of the builtin service that is empty, a transcription
that failed at OpenAI, and a body that cannot be read; and of two uploads the second may be answered
first. -/
theorem finalize_unanswered :
    let builtin := run Observer.step (fresh "builtin")
      [.call .finalize, .task (.read (.builtin (.ok (some ⟨true, ""⟩))))]
    let realtime := run Observer.step (fresh "openai-realtime")
      [.call .finalize, .task (.read (.openai (.ok .failed)))]
    let unreadable := run Observer.step (fresh "groq")
      (uploaded ++ [.task (.respond 0 (.body (.error "expected value")))])
    let overtaken := run Observer.step (fresh "openai-whisper")
      (uploaded ++ [.task (.respond 1 (.body (.ok (some "no"))))] ++
        [.task (.sendNext 1), .task (.sendNext 1)])
    (builtin.read = 1 ∧ builtin.provider.results = [] ∧ ¬ builtin.Answered) ∧
      (realtime.read = 1 ∧ realtime.provider.results = [] ∧ ¬ realtime.Answered) ∧
      (unreadable.answered = 1 ∧ unreadable.provider.results = [] ∧ ¬ unreadable.Answered) ∧
      overtaken.provider.results = [.firstTextReceived, .transcript "no"] ∧
      overtaken.released = [(1, "no")] ∧ ¬ overtaken.Answered := by
  decide +kernel

end SttAnswers

end Feros
