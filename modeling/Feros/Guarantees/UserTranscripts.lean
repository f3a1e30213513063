import Feros.Agent.ServerEvents
import Feros.Guarantees.TtsBatches
import Feros.Utf8
/-! # What the user says is transcribed once

Chunks of what the user says gather in a buffer.  A chunk that ends a sentence hands the text up to there out,
and so does the first part of a message that needs it, all of it.  Trimming takes nothing but white space, so
that the text without white space goes from the chunks to the buffer and from there to the finals.

* **`Flushing`**: a part of a message hands the buffer out before it does anything else, or is not there.
* **`Transcribed`**: the finals and the buffer are what the chunks were, and no final is blank. -/

namespace Feros

open Run TtsBatching
open String (utf8Len)

namespace RealtimeEvent

/-- A final text of the user. -/
def finalInput : RealtimeEvent → Option String
  | .inputTranscription text true => some text
  | _ => none

end RealtimeEvent

/-- The final texts of the user among events. -/
def finalInputsOf (events : List RealtimeEvent) : List String := events.filterMap RealtimeEvent.finalInput

/-- The final texts of events, one list after the other. -/
theorem finalInputsOf_append (first second : List RealtimeEvent) :
    finalInputsOf (first ++ second) = finalInputsOf first ++ finalInputsOf second := List.filterMap_append

/-- Events that are not the user's have no final text. -/
theorem finalInputsOf_others {events : List RealtimeEvent} (others : ∀ event ∈ events, event.isInput = false) :
    finalInputsOf events = [] := by
  unfold finalInputsOf
  rw [List.filterMap_eq_nil_iff]
  intro event held
  have notInput := others event held
  cases event with
  | inputTranscription => cases notInput
  | botAudioChunk => rfl
  | toolCall => rfl
  | outputTranscription => rfl
  | turnComplete => rfl
  | error => rfl

namespace Arrival

/-- The chunk of what the user says in a message. -/
def inputChunk (arrival : Arrival) : String :=
  ((arrival.msg.serverContent.bind (·.inputTranscription)).getD none).getD ""

end Arrival

/-- **A part of the content needs the text of the user** to be handed out. -/
def ServerContent.Flushes (content : ServerContent) : Prop :=
  content.outputTranscription.isSome = true ∨ content.interrupted = some true ∨
    content.modelTurn.isSome = true ∨ content.turnComplete = some true

instance (content : ServerContent) : Decidable content.Flushes :=
  inferInstanceAs (Decidable (_ ∨ _ ∨ _ ∨ _))

/-- **The message flushes** what the user has said. -/
def Arrival.Flushes (arrival : Arrival) : Prop :=
  ∃ content, arrival.msg.serverContent = some content ∧ content.Flushes

/-- The end of a sentence. -/
def isSentenceMark (c : Char) : Bool := c == '.' || c == '?' || c == '!'

namespace GeminiLiveProvider

section Reading

variable (library : ToolLibrary) (decode : String → Except String (List UInt8))

/-- **The final texts of the user** in a run of messages. -/
def finalInputs (p : GeminiLiveProvider) (arrivals : List Arrival) : List String :=
  outputs (reads library decode) (fun p arrival => finalInputsOf (p.emits library decode arrival)) p arrivals

end Reading

/-! ## The end of a sentence -/

/-- No character passes the test if none is found. -/
theorem rfindChars_none {test : Char → Bool} {chars : List Char} (missing : rfindChars test chars = none) :
    ∀ c ∈ chars, test c = false := by
  induction chars with
  | nil => exact nofun
  | cons c chars ih =>
      rw [rfindChars] at missing
      rcases later : rfindChars test chars with _ | pos
      · rw [later] at missing
        by_cases passes : test c = true
        · rw [if_pos passes] at missing
          cases missing
        · intro d held
          rcases List.mem_cons.1 held with rfl | held
          · exact Bool.eq_false_iff.2 passes
          · exact ih later d held
      · rw [later] at missing
        cases missing

/-- The last character that passes the test. -/
theorem rfindChars_last {test : Char → Bool} {chars : List Char} {pos : ℕ}
    (found : rfindChars test chars = some pos) : ∃ front c back, chars = front ++ c :: back ∧
      utf8Len front = pos ∧ test c = true ∧ ∀ d ∈ back, test d = false := by
  induction chars generalizing pos with
  | nil => cases found
  | cons c chars ih =>
      rw [rfindChars] at found
      rcases later : rfindChars test chars with _ | next
      · rw [later] at found
        by_cases passes : test c = true
        · rw [if_pos passes] at found
          have here : 0 = pos := Option.some.inj found
          exact ⟨[], c, chars, rfl, here, passes, rfindChars_none later⟩
        · rw [if_neg passes] at found
          cases found
      · rw [later] at found
        have there : c.utf8Size + next = pos := Option.some.inj found
        obtain ⟨front, d, back, rfl, size, passes, last⟩ := ih later
        refine ⟨c :: front, d, back, rfl, ?_, passes, last⟩
        rw [String.utf8Len_cons, size, Nat.add_comm]
        exact there

/-- A sentence mark has one byte. -/
theorem utf8Size_mark {c : Char} (mark : isSentenceMark c = true) : c.utf8Size = 1 := by
  unfold isSentenceMark at mark
  rw [Bool.or_eq_true, Bool.or_eq_true, beq_iff_eq, beq_iff_eq, beq_iff_eq] at mark
  rcases mark with (rfl | rfl) | rfl
  · rfl
  · rfl
  · rfl

/-- The text up to the last mark. -/
theorem rdropWhile_mark {front back : List Char} {c : Char} (mark : isSentenceMark c = true)
    (last : ∀ d ∈ back, isSentenceMark d = false) :
    (front ++ c :: back).rdropWhile (fun d => !isSentenceMark d) = front ++ [c] := by
  have skipped : ∀ d ∈ back.reverse, (!isSentenceMark d) = true := by
    intro d held
    rw [last d (List.mem_reverse.1 held)]
    rfl
  have stopped : (c :: front.reverse).dropWhile (fun d => !isSentenceMark d) = c :: front.reverse := by
    refine List.dropWhile_cons_of_neg ?_
    rw [mark]
    exact Bool.false_ne_true
  rw [List.rdropWhile, List.reverse_append, List.reverse_cons, List.append_assoc,
    List.dropWhile_append_of_pos skipped, List.singleton_append, stopped, List.reverse_cons,
    List.reverse_reverse]

/-- **The slices of a sentence** are at character boundaries, and split the text there. -/
theorem splitSentence_slices {text : String} {pos : ℕ} (found : rfind isSentenceMark text = some pos) :
    IsCharBoundary text pos ∧ IsCharBoundary text (pos + 1) ∧
      splitSentence text = some (sliceTo text (pos + 1), sliceFrom text (pos + 1)) := by
  obtain ⟨front, c, back, chars, size, mark, last⟩ := rfindChars_last found
  have size' : utf8Len (front ++ [c]) = pos + 1 := by
    rw [String.utf8Len_append, size, String.utf8Len_cons, String.utf8Len_nil, utf8Size_mark mark]
  have split : text.toList = (front ++ [c]) ++ back := by
    rw [chars, List.append_assoc]
    rfl
  have whole : text = String.ofList ((front ++ [c]) ++ back) := by
    rw [← split, String.ofList_toList]
  have head : text.toList.rdropWhile (fun d => !(d == '.' || d == '?' || d == '!')) = front ++ [c] := by
    rw [chars]
    exact rdropWhile_mark mark last
  refine ⟨⟨front, c :: back, chars, size⟩, ⟨front ++ [c], back, split, size'⟩, ?_⟩
  rw [← size']
  conv_rhs => rw [whole]
  rw [sliceTo_utf8Len, sliceFrom_utf8Len]
  unfold splitSentence
  dsimp only
  rw [head, if_neg, split, List.drop_left]
  rw [List.isEmpty_iff]
  exact List.append_ne_nil_of_right_ne_nil _ (List.cons_ne_nil _ _)

/-- No sentence ends in the text. -/
theorem splitSentence_none {text : String} (missing : rfind isSentenceMark text = none) :
    splitSentence text = none := by
  have none_ : text.toList.rdropWhile (fun d => !(d == '.' || d == '?' || d == '!')) = [] := by
    rw [List.rdropWhile_eq_nil_iff]
    intro c held
    have unmarked := rfindChars_none missing c held
    exact (congrArg (!·) unmarked : (!isSentenceMark c) = !false)
  unfold splitSentence
  dsimp only
  rw [none_]
  rfl

/-- A sentence and the rest are the text. -/
theorem splitSentence_whole {text : String} {pos : ℕ} (found : rfind isSentenceMark text = some pos) :
    ∃ sentence rest, splitSentence text = some (sentence, rest) ∧ sentence ++ rest = text := by
  obtain ⟨-, ⟨front, back, split, size⟩, slices⟩ := splitSentence_slices found
  refine ⟨_, _, slices, ?_⟩
  have whole : text = String.ofList (front ++ back) := by
    rw [← split, String.ofList_toList]
  rw [whole, ← size, sliceTo_utf8Len, sliceFrom_utf8Len, ← String.ofList_append]

/-! ## Conservation -/

/-- **What is transcribed is what was said**: the finals and what is left in the buffer have the characters of
the buffer before and of what came, white space aside, and no final is blank. -/
structure Transcribed (before : String) (finals : List String) (after came : String) : Prop where
  whole : solid (String.join finals) ++ solid after = solid before ++ solid came
  nonblank : ∀ text ∈ finals, isBlank text = false

/-- Nothing came, and nothing is transcribed. -/
theorem Transcribed.nothing (buf : String) : Transcribed buf [] buf "" := by
  refine ⟨?_, nofun⟩
  exact (List.append_nil _).symm

/-- What came, one part after the other, is transcribed. -/
theorem Transcribed.append {before middle after came came' : String} {finals finals' : List String}
    (first : Transcribed before finals middle came) (second : Transcribed middle finals' after came') :
    Transcribed before (finals ++ finals') after (came ++ came') := by
  refine ⟨?_, ?_⟩
  · rw [String.join_append, solid_append, solid_append, List.append_assoc, second.whole,
      ← List.append_assoc, first.whole, List.append_assoc]
  · intro text held
    rcases List.mem_append.1 held with held | held
    · exact first.nonblank text held
    · exact second.nonblank text held

/-- A text that is handed out, trimmed, unless it is blank. -/
theorem transcribed_handedOut (text : String) :
    let finals := if (trim text).isEmpty then [] else [trim text]
    solid (String.join finals) = solid text ∧ ∀ final ∈ finals, isBlank final = false := by
  dsimp only
  split
  · rename_i blank
    refine ⟨(solid_eq_nil blank).symm, nofun⟩
  · rename_i spoken
    refine ⟨?_, ?_⟩
    · rw [String.join_cons, String.join_nil, String.append_empty, solid_trim]
    · intro final held
      rw [List.mem_singleton.1 held, TtsBatching.isBlank_trim]
      exact Bool.eq_false_iff.2 spoken

/-- White space at the front is not solid. -/
theorem solid_trimStart (text : String) : solid (trimStart text) = solid text := by
  rw [solid, trimStart, String.toList_ofList, solid_ofList_dropWhile]
  rfl

/-- **A chunk** is gathered, and its sentences are handed out. -/
theorem transcribed_pushInput (text : String) (p : GeminiLiveProvider) :
    Transcribed p.inputTranscriptBuf (finalInputsOf (p.pushInput text).1)
      (p.pushInput text).2.inputTranscriptBuf text := by
  have same : solid (if p.inputTranscriptBuf.isEmpty then trimStart text else text) = solid text := by
    split
    · exact solid_trimStart text
    · rfl
  have interim (chunk : String) : finalInputsOf
      (if chunk.isEmpty then [] else [.inputTranscription chunk false] : List RealtimeEvent) = [] := by
    split <;> rfl
  unfold pushInput
  dsimp only
  generalize (if p.inputTranscriptBuf.isEmpty then trimStart text else text) = chunk at same ⊢
  rcases found : rfind isSentenceMark (p.inputTranscriptBuf ++ chunk) with _ | pos
  · rw [splitSentence_none found]
    dsimp only
    rw [interim]
    refine ⟨?_, nofun⟩
    rw [solid_append, same]
    rfl
  · obtain ⟨sentence, rest, split, whole⟩ := splitSentence_whole found
    obtain ⟨handedOut, nonblank⟩ := transcribed_handedOut sentence
    have final : finalInputsOf
        (if (trim sentence).isEmpty then [] else [.inputTranscription (trim sentence) true]) =
          if (trim sentence).isEmpty then [] else [trim sentence] := by
      split <;> rfl
    rw [split]
    dsimp only
    rw [finalInputsOf_append, interim, final, List.nil_append]
    refine ⟨?_, nonblank⟩
    rw [handedOut, solid_trimStart, ← solid_append, whole, solid_append, same]

/-- **A flush** hands the whole buffer out. -/
theorem transcribed_flush (p : GeminiLiveProvider) :
    Transcribed p.inputTranscriptBuf (finalInputsOf p.flushPendingInput.1) "" "" := by
  obtain ⟨handedOut, nonblank⟩ := transcribed_handedOut p.inputTranscriptBuf
  have final : finalInputsOf p.flushPendingInput.1 =
      if (trim p.inputTranscriptBuf).isEmpty then [] else [trim p.inputTranscriptBuf] := by
    unfold flushPendingInput
    dsimp only
    split <;> rfl
  rw [final]
  refine ⟨?_, nonblank⟩
  rw [handedOut]

/-- Nothing is flushed from an empty buffer. -/
theorem flushPendingInput_empty {p : GeminiLiveProvider} (empty : p.inputTranscriptBuf = "") :
    p.flushPendingInput.1 = [] := by
  unfold flushPendingInput
  rw [empty]
  rfl

/-! ## The parts of a message -/

/-- **A part of the content flushes first**, if it is there: then come events that are not about the user, and
nothing is left in the buffer. -/
def Flushing (there : Prop) (p : GeminiLiveProvider) (events : List RealtimeEvent)
    (q : GeminiLiveProvider) : Prop :=
  (¬ there ∧ events = [] ∧ q.inputTranscriptBuf = p.inputTranscriptBuf) ∨
    (there ∧ q.inputTranscriptBuf = "" ∧ ∃ others, events = p.flushPendingInput.1 ++ others ∧
      ∀ event ∈ others, event.isInput = false)

/-- **One part after another** flushes if one of them does. -/
theorem Flushing.append {first second : Prop} {p q r : GeminiLiveProvider} {events events' : List RealtimeEvent}
    (one : Flushing first p events q) (two : Flushing second q events' r) :
    Flushing (first ∨ second) p (events ++ events') r := by
  rcases one with ⟨absent, nothing, kept⟩ | ⟨there, empty, others, flushed, notInput⟩
  · rcases two with ⟨absent', nothing', kept'⟩ | ⟨there', empty', others', flushed', notInput'⟩
    · rw [nothing, nothing']
      exact .inl ⟨fun either => either.elim absent absent', rfl, kept'.trans kept⟩
    · have same : q.flushPendingInput.1 = p.flushPendingInput.1 := by
        unfold flushPendingInput
        rw [kept]
      rw [nothing, flushed', List.nil_append, same]
      exact .inr ⟨.inr there', empty', others', rfl, notInput'⟩
  · rcases two with ⟨absent', nothing', kept'⟩ | ⟨there', empty', others', flushed', notInput'⟩
    · rw [flushed, nothing', List.append_nil]
      exact .inr ⟨.inl there, kept'.trans empty, others, rfl, notInput⟩
    · rw [flushed, flushed', flushPendingInput_empty empty, List.nil_append, List.append_assoc]
      refine .inr ⟨.inl there, empty', others ++ others', rfl, ?_⟩
      intro event held
      rcases List.mem_append.1 held with held | held
      · exact notInput event held
      · exact notInput' event held

/-- Audio is not the user's. -/
theorem isInput_audioOf {decode : String → Except String (List UInt8)} {part : ModelPart}
    {event : RealtimeEvent} (audio : audioOf decode part = some event) : event.isInput = false := by
  unfold audioOf at audio
  split at audio
  · split at audio
    · split at audio
      · cases audio
      · cases audio
      · rw [← Option.some.inj audio]
        rfl
    · cases audio
  · cases audio

/-- What the bot says has nothing to do with the buffer of the user. -/
theorem pushOutput_apart (text : String) (p : GeminiLiveProvider) :
    (∀ event ∈ (p.pushOutput text).1, event.isInput = false) ∧
      (p.pushOutput text).2.inputTranscriptBuf = p.inputTranscriptBuf := by
  have buffer : (p.pushOutputDelta text).2.inputTranscriptBuf = p.inputTranscriptBuf := by
    unfold pushOutputDelta
    dsimp only
    split
    · rfl
    · rfl
  have reported (delta : Option String) : ∀ event ∈
      delta.toList.map (RealtimeEvent.outputTranscription · false), event.isInput = false := by
    intro event held
    obtain ⟨text, -, rfl⟩ := List.mem_map.1 held
    rfl
  unfold pushOutput
  split
  · exact ⟨nofun, rfl⟩
  · exact ⟨reported _, buffer⟩

/-- A transcription of the bot flushes the user's words first. -/
theorem flushing_handleOutput (transcription : Option (Option String)) (p : GeminiLiveProvider) :
    Flushing (transcription.isSome = true) p (p.handleOutput transcription).1
      (p.handleOutput transcription).2 := by
  cases transcription with
  | none => exact .inl ⟨Bool.false_ne_true, rfl, rfl⟩
  | some text =>
      obtain ⟨notInput, kept⟩ := pushOutput_apart (text.getD "") p.flushPendingInput.2
      unfold handleOutput
      dsimp only
      exact .inr ⟨rfl, kept, _, rfl, notInput⟩

/-- An interruption flushes the user's words first. -/
theorem flushing_handleInterrupted (interrupted : Option Bool) (p : GeminiLiveProvider) :
    Flushing (interrupted = some true) p (p.handleInterrupted interrupted).1
      (p.handleInterrupted interrupted).2 := by
  by_cases there : interrupted = some true
  · unfold handleInterrupted
    rw [if_pos there]
    dsimp only
    refine .inr ⟨there, rfl, [], ?_, nofun⟩
    rw [List.append_nil]
  · rw [handleInterrupted_skip there]
    exact .inl ⟨there, rfl, rfl⟩

/-- Audio of the model flushes the user's words first. -/
theorem flushing_handleModelTurn (decode : String → Except String (List UInt8))
    (modelTurn : Option (List ModelPart)) (p : GeminiLiveProvider) :
    Flushing (modelTurn.isSome = true) p (p.handleModelTurn decode modelTurn).1
      (p.handleModelTurn decode modelTurn).2 := by
  cases modelTurn with
  | none => exact .inl ⟨Bool.false_ne_true, rfl, rfl⟩
  | some parts =>
      obtain ⟨notInput, kept⟩ := pushOutput_apart
        (String.join ((parts.filter (·.thought != some true)).filterMap (·.text))) p.flushPendingInput.2
      unfold handleModelTurn
      dsimp only
      refine .inr ⟨rfl, kept, _, List.append_assoc _ _ _, ?_⟩
      intro event held
      rcases List.mem_append.1 held with held | held
      · exact notInput event held
      · obtain ⟨part, -, audio⟩ := List.mem_filterMap.1 held
        exact isInput_audioOf audio

/-- The end of a turn flushes the user's words first. -/
theorem flushing_handleTurnComplete (turnComplete : Option Bool) (p : GeminiLiveProvider) :
    Flushing (turnComplete = some true) p (p.handleTurnComplete turnComplete).1
      (p.handleTurnComplete turnComplete).2 := by
  by_cases there : turnComplete = some true
  · unfold handleTurnComplete
    rw [if_pos there]
    dsimp only
    refine .inr ⟨there, rfl, _, List.append_assoc _ _ _, ?_⟩
    intro event held
    rcases List.mem_append.1 held with held | held
    · obtain ⟨text, -, rfl⟩ := List.mem_map.1 held
      rfl
    · rw [List.mem_singleton.1 held]
      rfl
  · rw [handleTurnComplete_skip there]
    exact .inl ⟨there, rfl, rfl⟩

/-- **The content of a message**: first what the user says, then the parts that flush. -/
theorem handleContent_flushing (decode : String → Except String (List UInt8)) (content : ServerContent)
    (p : GeminiLiveProvider) : ∃ rest,
      (p.handleContent decode content).1 = (p.handleInput content.inputTranscription).1 ++ rest ∧
      Flushing content.Flushes (p.handleInput content.inputTranscription).2 rest
        (p.handleContent decode content).2 := by
  have output := flushing_handleOutput content.outputTranscription
    (p.handleInput content.inputTranscription).2
  have interrupted := output.append (flushing_handleInterrupted content.interrupted _)
  have turn := interrupted.append (flushing_handleModelTurn decode content.modelTurn _)
  have complete := turn.append (flushing_handleTurnComplete content.turnComplete _)
  rw [or_assoc, or_assoc] at complete
  refine ⟨_, ?_, complete⟩
  unfold handleContent
  simp only [List.append_assoc]

/-! ## A message -/

section Message

variable (library : ToolLibrary) (decode : String → Except String (List UInt8))

/-- **A transcription of the user is transcribed**, or waits for the rest. -/
theorem transcribed_handleInput (transcription : Option (Option String)) (p : GeminiLiveProvider) :
    Transcribed p.inputTranscriptBuf (finalInputsOf (p.handleInput transcription).1)
      (p.handleInput transcription).2.inputTranscriptBuf ((transcription.getD none).getD "") := by
  unfold handleInput
  split
  · rename_i text
    split
    · rename_i empty
      have nothing : text = "" := String.isEmpty_iff.1 empty
      rw [nothing]
      exact .nothing _
    · exact transcribed_pushInput text p
  · rename_i absent
    rcases transcription with _ | _ | text
    · exact .nothing _
    · exact .nothing _
    · exact absurd rfl (absent text)

/-- The parts after the user hand the buffer out, or leave it alone. -/
theorem Flushing.transcribed {there : Prop} {p q : GeminiLiveProvider} {events : List RealtimeEvent}
    (flushing : Flushing there p events q) :
    Transcribed p.inputTranscriptBuf (finalInputsOf events) q.inputTranscriptBuf "" := by
  rcases flushing with ⟨-, nothing, kept⟩ | ⟨-, empty, others, flushed, notInput⟩
  · rw [nothing, kept]
    exact .nothing _
  · rw [flushed, empty, finalInputsOf_append, finalInputsOf_others notInput, List.append_nil]
    exact transcribed_flush p

/-- What is flushed comes before the other events. -/
theorem Flushing.userFirst {there : Prop} {p q : GeminiLiveProvider} {events : List RealtimeEvent}
    (flushing : Flushing there p events q) : ∃ user others, events = user ++ others ∧
      (∀ event ∈ user, event.isInput = true) ∧ ∀ event ∈ others, event.isInput = false := by
  rcases flushing with ⟨-, nothing, -⟩ | ⟨-, -, others, flushed, notInput⟩
  · exact ⟨[], [], nothing, nofun, nofun⟩
  · exact ⟨p.flushPendingInput.1, others, flushed, isInput_flushPendingInput p, notInput⟩

/-- **What a message does**: the user is transcribed, before anything else happens, and a part that needs it
leaves nothing in the buffer. -/
structure Reads (p : GeminiLiveProvider) (arrival : Arrival) : Prop where
  transcribed : Transcribed p.inputTranscriptBuf (finalInputsOf (p.emits library decode arrival))
    (p.reads library decode arrival).inputTranscriptBuf arrival.inputChunk
  userFirst : ∃ user others, p.emits library decode arrival = user ++ others ∧
    (∀ event ∈ user, event.isInput = true) ∧ ∀ event ∈ others, event.isInput = false
  flushed : arrival.Flushes → (p.reads library decode arrival).inputTranscriptBuf = ""

/-- Calls of tools are not the user's. -/
theorem notInput_toolCallEvents (uuid : ℕ → String) (calls : List FunctionCall) :
    ∀ event ∈ toolCallEvents library uuid calls, event.isInput = false := by
  intro event held
  obtain ⟨call, -, rfl⟩ := List.mem_map.1 held
  rfl

/-- **Every message is read** with the user's words first. -/
theorem reads_arrival (p : GeminiLiveProvider) (arrival : Arrival) : p.Reads library decode arrival := by
  have tools := notInput_toolCallEvents library arrival.uuid (arrival.msg.toolCall.getD [])
  cases isContent : arrival.msg.serverContent with
  | none =>
      -- A message without content holds no text of the user.
      obtain ⟨emitted, buffer⟩ := reads_noContent library decode p arrival isContent
      have chunk : arrival.inputChunk = "" := by
        unfold Arrival.inputChunk
        rw [isContent]
        rfl
      refine ⟨?_, ?_, ?_⟩
      · rw [emitted, buffer, finalInputsOf_others tools, chunk]
        exact .nothing _
      · exact ⟨[], _, emitted, nofun, tools⟩
      · rintro ⟨content, isContent', -⟩
        rw [isContent] at isContent'
        cases isContent'
  | some content =>
      obtain ⟨q, -, buffer, emitted, read⟩ := reads_content library decode p arrival isContent
      obtain ⟨rest, events, flushing⟩ := handleContent_flushing decode content q
      have chunk : arrival.inputChunk = (content.inputTranscription.getD none).getD "" := by
        unfold Arrival.inputChunk
        rw [isContent]
        rfl
      refine ⟨?_, ?_, ?_⟩
      -- What was flushed and what is buffered is what was buffered and what arrived.
      · have input := transcribed_handleInput content.inputTranscription q
        have both := input.append flushing.transcribed
        rw [emitted, read, events, finalInputsOf_append, finalInputsOf_append, finalInputsOf_others tools,
          List.append_nil, chunk, ← buffer]
        rw [String.append_empty] at both
        exact both
      -- The user's events come before the others.
      · obtain ⟨user, others, split, isUser, notUser⟩ := flushing.userFirst
        refine ⟨(q.handleInput content.inputTranscription).1 ++ user,
          others ++ toolCallEvents library arrival.uuid (arrival.msg.toolCall.getD []), ?_, ?_, ?_⟩
        · rw [emitted, events, split]
          simp only [List.append_assoc]
        · intro event held
          rcases List.mem_append.1 held with held | held
          · exact isInput_handleInput _ q event held
          · exact isUser event held
        · intro event held
          rcases List.mem_append.1 held with held | held
          · exact notUser event held
          · exact tools event held
      · rintro ⟨content', isContent', flushes⟩
        have same : content' = content := Option.some.inj (isContent'.symm.trans isContent)
        rw [same] at flushes
        rw [read]
        -- A message that flushes leaves an empty buffer.
        rcases flushing with ⟨absent, -, -⟩ | ⟨-, empty, -⟩
        · exact absurd flushes absent
        · exact empty

/-- **A run of messages** transcribes what came in them. -/
theorem transcribed_run (p : GeminiLiveProvider) (arrivals : List Arrival) :
    Transcribed p.inputTranscriptBuf (p.finalInputs library decode arrivals)
      (run (reads library decode) p arrivals).inputTranscriptBuf
      (String.join (arrivals.map Arrival.inputChunk)) := by
  induction arrivals generalizing p with
  | nil => exact .nothing _
  | cons arrival arrivals ih =>
      have first := (reads_arrival library decode p arrival).transcribed
      have rest := ih (p.reads library decode arrival)
      rw [List.map_cons, String.join_cons]
      exact first.append rest

/-- Behind a message that flushes everything is handed out. -/
theorem transcribed_flushed {p : GeminiLiveProvider} (start : p.inputTranscriptBuf = "") {arrivals : List Arrival}
    {last : Arrival} (isLast : last ∈ arrivals.getLast?) (flushes : last.Flushes) :
    solid (String.join (p.finalInputs library decode arrivals)) =
      solid (String.join (arrivals.map Arrival.inputChunk)) := by
  have whole := (transcribed_run library decode p arrivals).whole
  have empty : (run (reads library decode) p arrivals).inputTranscriptBuf = "" := by
    obtain ⟨front, rfl⟩ := List.getLast?_eq_some_iff.1 isLast
    rw [run_append]
    exact (reads_arrival library decode _ last).flushed flushes
  rw [start, empty] at whole
  exact (List.append_nil _).symm.trans whole

end Message

/-- **What the user says is transcribed once.**  Whatever messages arrive, the final texts and what is left in
the buffer are the chunks, white space aside; behind a message that flushes the final texts are all of them,
however they were split; no final is blank, and each comes before what else its message has; and a sentence is
cut off between two characters. -/
theorem user_transcribed {p : GeminiLiveProvider} (start : p.inputTranscriptBuf = "")
    (library : ToolLibrary) (decode : String → Except String (List UInt8)) (arrivals : List Arrival) :
    let said := String.join (arrivals.map Arrival.inputChunk)
    let finals := p.finalInputs library decode arrivals
    let q := run (reads library decode) p arrivals
    solid (String.join finals) ++ solid q.inputTranscriptBuf = solid said ∧
    (∀ last ∈ arrivals.getLast?, last.Flushes → solid (String.join finals) = solid said) ∧
    (∀ text ∈ finals, isBlank text = false) ∧
    (∀ arrival, ∃ user others, q.emits library decode arrival = user ++ others ∧
      (∀ event ∈ user, event.isInput = true) ∧ ∀ event ∈ others, event.isInput = false) ∧
    (∀ text pos, rfind isSentenceMark text = some pos → IsCharBoundary text pos ∧
      IsCharBoundary text (pos + 1) ∧
      splitSentence text = some (sliceTo text (pos + 1), sliceFrom text (pos + 1))) ∧
    ∀ (p' : GeminiLiveProvider) (arrivals' : List Arrival), p'.inputTranscriptBuf = "" →
      String.join (arrivals'.map Arrival.inputChunk) = said →
      (∃ last ∈ arrivals.getLast?, last.Flushes) → (∃ last ∈ arrivals'.getLast?, last.Flushes) →
      solid (String.join (p'.finalInputs library decode arrivals')) = solid (String.join finals) := by
  intro said finals q
  have transcribed := transcribed_run library decode p arrivals
  refine ⟨?_, ?_, transcribed.nonblank, ?_, ?_, ?_⟩
  · have whole := transcribed.whole
    rw [start] at whole
    exact whole
  · intro last isLast flushes
    exact transcribed_flushed library decode start isLast flushes
  · intro arrival
    exact (reads_arrival library decode q arrival).userFirst
  · intro text pos found
    exact splitSentence_slices found
  · rintro p' arrivals' start' same ⟨last, isLast, flushes⟩ ⟨last', isLast', flushes'⟩
    rw [transcribed_flushed library decode start isLast flushes,
      transcribed_flushed library decode start' isLast' flushes', same]

/-- The user says something. -/
def heardChunk (text : String) : Arrival where
  msg := { serverContent := some { inputTranscription := some (some text) } }
  uuid := fun _ => ""

/-- The bot begins to say something. -/
def answered : Arrival where
  msg := { serverContent := some { outputTranscription := some (some "Fine, thanks.") } }
  uuid := fun _ => ""

/-- A sentence and a half, split in two ways. -/
theorem user_transcribed_split :
    let library : ToolLibrary := ⟨fun _ => .error "no JSON", fun _ => "", fun _ _ => .ok ""⟩
    let finals := finalInputs library (fun _ => .ok []) {}
    finals [heardChunk " How are", heardChunk " you? And", answered] = ["How are you?", "And"] ∧
    solid (String.join (finals [heardChunk " How are yo", heardChunk "u? And", answered])) =
      solid (String.join (finals [heardChunk " How are", heardChunk " you? And", answered])) := by
  intro library finals
  have flushes : answered.Flushes := ⟨_, rfl, by decide⟩
  have transcribed := user_transcribed (p := {}) rfl library (fun _ => .ok [])
    [heardChunk " How are", heardChunk " you? And", answered]
  refine ⟨by decide +kernel, ?_⟩
  exact transcribed.2.2.2.2.2 {} [heardChunk " How are yo", heardChunk "u? And", answered] rfl (by decide)
    ⟨answered, rfl, flushes⟩ ⟨answered, rfl, flushes⟩

end GeminiLiveProvider

end Feros
