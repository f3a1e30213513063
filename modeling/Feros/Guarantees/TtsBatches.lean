import Feros.TtsBatching
/-! # Batches for TTS

Both batch tasks do the same with the tokens of a stream, **`Batches`**: they hand out the trimmed
batches that are not blank.  Trimming and cutting move nothing but white space, so that the text
without white space, `solid`, is the one of the tokens. -/

namespace Feros

open String (utf8Len)

namespace TtsBatching

/-! ## Splits -/

/-- **A byte offset between two characters** of a text. -/
def IsCharBoundary (text : String) (offset : ℕ) : Prop :=
  ∃ front back, text.toList = front ++ back ∧ utf8Len front = offset

/-- The character found, and where it is. -/
theorem rfindChars_eq_some {test : Char → Bool} {chars : List Char} {pos : ℕ}
    (found : rfindChars test chars = some pos) :
    ∃ front c back, chars = front ++ c :: back ∧ utf8Len front = pos ∧ test c = true := by
  induction chars generalizing pos with
  | nil => cases found
  | cons c chars ih =>
      rw [rfindChars] at found
      rcases later : rfindChars test chars with _ | next
      · rw [later] at found
        by_cases passes : test c = true
        · rw [if_pos passes] at found
          cases found
          exact ⟨[], c, chars, rfl, String.utf8Len_nil, passes⟩
        · rw [if_neg passes] at found
          cases found
      · rw [later] at found
        cases found
        obtain ⟨front, d, back, rfl, rfl, passes⟩ := ih later
        refine ⟨c :: front, d, back, rfl, ?_, passes⟩
        rw [String.utf8Len_cons, Nat.add_comm]

/-- The length of a character is found where it begins. -/
theorem cLenAt_utf8Len (front : List Char) (c : Char) (back : List Char) :
    cLenAt (String.ofList (front ++ c :: back)) (utf8Len front) = c.utf8Size := by
  rw [cLenAt, String.toList_ofList, dropBytes_utf8Len]
  rfl

/-- **Text is cut behind a character** that passes the test. -/
theorem breakBehind_eq_some {test : Char → Bool} {buffer : String} {split : ℕ}
    (found : breakBehind test buffer = some split) :
    ∃ front c back, buffer.toList = (front ++ [c]) ++ back ∧ utf8Len (front ++ [c]) = split ∧
      test c = true := by
  obtain ⟨pos, here, rfl⟩ := Option.map_eq_some_iff.1 found
  obtain ⟨front, c, back, chars, rfl, passes⟩ := rfindChars_eq_some here
  refine ⟨front, c, back, ?_, ?_, passes⟩
  · rw [chars, List.append_assoc]
    rfl
  · have whole : buffer = String.ofList (front ++ c :: back) := by
      rw [← chars, String.ofList_toList]
    rw [whole, cLenAt_utf8Len, String.utf8Len_append, String.utf8Len_cons, String.utf8Len_nil,
      Nat.zero_add]

/-- **The best break is behind a character** that breaks a sentence or a clause, or is white space. -/
theorem bestBreak_eq_some {buffer : String} {split : ℕ} (found : bestBreak buffer = some split) :
    ∃ front c back, buffer.toList = (front ++ [c]) ++ back ∧ utf8Len (front ++ [c]) = split ∧
      (sentenceBreaks.contains c = true ∨ clauseBreaks.contains c = true ∨ isWhitespace c = true) := by
  unfold bestBreak at found
  split at found
  · rename_i sentence
    cases found
    obtain ⟨front, c, back, chars, length, passes⟩ := breakBehind_eq_some sentence
    exact ⟨front, c, back, chars, length, .inl passes⟩
  · split at found
    · rename_i clause
      cases found
      obtain ⟨front, c, back, chars, length, passes⟩ := breakBehind_eq_some clause
      exact ⟨front, c, back, chars, length, .inr (.inl passes)⟩
    · obtain ⟨front, c, back, chars, length, passes⟩ := breakBehind_eq_some found
      exact ⟨front, c, back, chars, length, .inr (.inr passes)⟩

/-- A break is a boundary of a character. -/
theorem isCharBoundary_bestBreak {buffer : String} {split : ℕ} (found : bestBreak buffer = some split) :
    IsCharBoundary buffer split := by
  obtain ⟨front, c, back, chars, length, -⟩ := bestBreak_eq_some found
  exact ⟨front ++ [c], back, chars, length⟩

/-- A split at a boundary loses nothing. -/
theorem slice_append {text : String} {offset : ℕ} (boundary : IsCharBoundary text offset) :
    sliceTo text offset ++ sliceFrom text offset = text := by
  obtain ⟨front, back, chars, rfl⟩ := boundary
  have whole : text = String.ofList (front ++ back) := by
    rw [← chars, String.ofList_toList]
  rw [whole, sliceTo_utf8Len, sliceFrom_utf8Len, String.ofList_append]

/-- The two parts are the buffer. -/
theorem splitAtBestBreak_append (buffer : String) :
    (splitAtBestBreak buffer).1 ++ (splitAtBestBreak buffer).2 = buffer := by
  unfold splitAtBestBreak
  split
  · rename_i found
    exact slice_append (isCharBoundary_bestBreak found)
  · exact String.append_empty

/-- **What is flushed and what remains** are the buffer. -/
theorem cut_append (buffer : String) : (cut buffer).1 ++ (cut buffer).2 = buffer := by
  unfold cut
  split
  · exact splitAtBestBreak_append buffer
  · exact String.append_empty

/-! ## Text without white space -/

/-- The characters of a text that are not white space. -/
def solid (text : String) : List Char := text.toList.filter (!isWhitespace ·)

/-- The characters of two texts. -/
theorem solid_append (first second : String) : solid (first ++ second) = solid first ++ solid second := by
  rw [solid, String.toList_append, List.filter_append]
  rfl

/-- White space that is dropped is no character of the text. -/
theorem solid_ofList_dropWhile (chars : List Char) :
    (chars.dropWhile isWhitespace).filter (!isWhitespace ·) = chars.filter (!isWhitespace ·) := by
  induction chars with
  | nil => rfl
  | cons c chars ih =>
      by_cases blank : isWhitespace c = true
      · rw [List.dropWhile_cons_of_pos blank, ih, List.filter_cons_of_neg]
        rw [blank]
        exact Bool.false_ne_true
      · rw [List.dropWhile_cons_of_neg blank]

/-- **Trimming takes white space** only. -/
theorem solid_trim (text : String) : solid (trim text) = solid text := by
  rw [solid, trim, String.toList_ofList, List.rdropWhile, List.filter_reverse, solid_ofList_dropWhile,
    List.filter_reverse, List.reverse_reverse, solid_ofList_dropWhile]
  rfl

/-- A blank text has no characters. -/
theorem solid_eq_nil {text : String} (blank : isBlank text = true) : solid text = [] := by
  rw [solid, List.filter_eq_nil_iff]
  intro c held
  rw [isBlank_iff.1 blank c held]
  exact Bool.false_ne_true

/-- A text without characters is blank. -/
theorem isBlank_of_solid {text : String} (nothing : solid text = []) : isBlank text = true := by
  rw [isBlank_iff]
  intro c held
  have white := List.filter_eq_nil_iff.1 nothing c held
  rw [Bool.not_eq_true', Bool.not_eq_false] at white
  exact white

/-! ## What both tasks do -/

/-- **The batches of a stream**: what has been handed out, and the text that is gathered. -/
structure Batches where
  buffer : String
  chunkCount : UInt32
  texts : List String
  deriving DecidableEq, Repr

namespace Batches

/-- No batches. -/
def new : Batches := ⟨"", 0, []⟩

/-- Hand out some text, and go on with what remains. -/
def send (flushText remainder : String) (b : Batches) : Batches :=
  if isBlank flushText then { b with buffer := remainder }
  else ⟨remainder, b.chunkCount + 1, b.texts ++ [trim flushText]⟩

/-- The buffer with a token is flushed. -/
def Flushes (b : Batches) (token : String) : Prop :=
  shouldFlush (b.buffer ++ token) b.chunkCount = true ∧ isBlank (b.buffer ++ token) = false

instance (b : Batches) (token : String) : Decidable (b.Flushes token) :=
  inferInstanceAs (Decidable (_ ∧ _))

/-- A token flushes exactly if the buffer is long enough and not blank. -/
theorem flushes_iff (b : Batches) (token : String) :
    (shouldFlush (b.buffer ++ token) b.chunkCount && !isBlank (b.buffer ++ token)) = true ↔
      b.Flushes token := by
  rw [Bool.and_eq_true, Bool.not_eq_true', Flushes]

/-- A token. -/
def token (b : Batches) (token : String) : Batches :=
  if b.Flushes token then b.send (cut (b.buffer ++ token)).1 (cut (b.buffer ++ token)).2
  else { b with buffer := b.buffer ++ token }

/-- The end of the stream: all texts. -/
def finish (b : Batches) : List String :=
  if isBlank b.buffer then b.texts else b.texts ++ [trim b.buffer]

/-- The batches after some tokens. -/
def gather (tokens : List String) : Batches := tokens.foldl token new

/-- The last token comes behind the others. -/
theorem gather_concat (tokens : List String) (last : String) :
    gather (tokens ++ [last]) = (gather tokens).token last := by
  rw [gather, List.foldl_append]
  rfl

end Batches

/-- **All texts of a stream**. -/
def batchTexts (tokens : List String) : List String := (Batches.gather tokens).finish

namespace HttpTask

variable {synthesizeChunk : Synthesizer}

/-- The batches of the task. -/
def batches (t : HttpTask) : Batches := ⟨t.buffer, t.chunkCount, t.synthesized⟩

section Succeeds

variable (succeeds : ∀ before text, (synthesizeChunk before text).isSome = true)
include succeeds

/-- **A token in HTTP mode** is a token of the batches. -/
theorem batches_token (token : String) (t : HttpTask) :
    (t.token synthesizeChunk token).batches = t.batches.token token ∧
      (t.token synthesizeChunk token).ended = t.ended := by
  unfold HttpTask.token Batches.token
  by_cases flushed : (shouldFlush (t.buffer ++ token) t.chunkCount && !isBlank (t.buffer ++ token)) = true
  · rw [if_pos ((Batches.flushes_iff t.batches token).1 flushed)]
    dsimp only
    rw [if_pos flushed]
    by_cases blank : isBlank (cut (t.buffer ++ token)).1 = true
    · have empty : (!(trim (cut (t.buffer ++ token)).1).isEmpty) = false := by
        rw [Bool.not_eq_false']
        exact blank
      rw [empty, if_neg Bool.false_ne_true, Batches.send, show t.batches.buffer = t.buffer from rfl,
        if_pos blank]
      exact ⟨rfl, rfl⟩
    · have something : (!(trim (cut (t.buffer ++ token)).1).isEmpty) = true := by
        rw [Bool.not_eq_true']
        exact Bool.eq_false_of_not_eq_true blank
      obtain ⟨pcm, result⟩ := Option.isSome_iff_exists.1
        (succeeds t.synthesized (trim (cut (t.buffer ++ token)).1))
      rw [if_pos something, result, Batches.send, show t.batches.buffer = t.buffer from rfl,
        if_neg blank]
      exact ⟨rfl, rfl⟩
  · rw [if_neg ((Batches.flushes_iff t.batches token).not.1 flushed)]
    dsimp only
    rw [if_neg flushed]
    exact ⟨rfl, rfl⟩

omit succeeds in
/-- The end of the stream in HTTP mode. -/
theorem synthesized_finish (t : HttpTask) :
    (t.finish synthesizeChunk).synthesized = t.batches.finish := by
  unfold HttpTask.finish Batches.finish
  by_cases blank : isBlank t.buffer = true
  · rw [show t.batches.buffer = t.buffer from rfl, if_pos blank, blank]
    rfl
  · rw [show t.batches.buffer = t.buffer from rfl, if_neg blank,
      Bool.eq_false_of_not_eq_true blank]
    rcases synthesizeChunk t.synthesized (trim t.buffer) with _ | pcm <;> rfl

/-- The tokens are batched one after the other. -/
theorem batches_foldl (tokens : List String) (t : HttpTask) (running : t.ended = false) :
    ((tokens.map some).foldl (receive synthesizeChunk) t).batches = tokens.foldl Batches.token t.batches ∧
      ((tokens.map some).foldl (receive synthesizeChunk) t).ended = false := by
  induction tokens generalizing t with
  | nil => exact ⟨rfl, running⟩
  | cons token tokens ih =>
      have received : receive synthesizeChunk t (some token) = t.token synthesizeChunk token := by
        unfold receive
        rw [running]
        rfl
      obtain ⟨same, ended⟩ := batches_token succeeds token t
      rw [List.map_cons, List.foldl_cons, List.foldl_cons, received, ← same]
      exact ih _ (ended.trans running)

end Succeeds

end HttpTask

/-- **The HTTP task hands out the batches** if every synthesis succeeds. -/
theorem httpTexts_eq {synthesizeChunk : HttpTask.Synthesizer}
    (succeeds : ∀ before text, (synthesizeChunk before text).isSome = true) (tokens : List String) :
    httpTexts synthesizeChunk tokens = batchTexts tokens := by
  obtain ⟨same, running⟩ := HttpTask.batches_foldl succeeds tokens .new rfl
  rw [httpTexts, stream, List.foldl_append, List.foldl_cons, List.foldl_nil, HttpTask.receive, running,
    if_neg Bool.false_ne_true, HttpTask.synthesized_finish, same]
  rfl

namespace WsTask

/-- The batches of the task. -/
def batches (t : WsTask) : Batches := ⟨t.buffer, t.chunkCount, t.commands.filterMap WsCmd.text⟩

/-- A command that sends text adds it to the texts. -/
theorem filterMap_sendText (commands : List WsCmd) (text contextId : String) :
    (commands ++ [WsCmd.sendText text contextId]).filterMap WsCmd.text = commands.filterMap WsCmd.text ++ [text] := by
  rw [List.filterMap_append]
  rfl

/-- **A token in WS mode** is a token of the batches. -/
theorem batches_token (token : String) (t : WsTask) :
    (t.token token).batches = t.batches.token token ∧ (t.token token).ended = t.ended := by
  unfold WsTask.token Batches.token
  by_cases flushed : (shouldFlush (t.buffer ++ token) t.chunkCount && !isBlank (t.buffer ++ token)) = true
  · rw [if_pos ((Batches.flushes_iff t.batches token).1 flushed)]
    dsimp only
    rw [if_pos flushed]
    by_cases blank : isBlank (cut (t.buffer ++ token)).1 = true
    · have empty : (!(trim (cut (t.buffer ++ token)).1).isEmpty) = false := by
        rw [Bool.not_eq_false']
        exact blank
      rw [empty, if_neg Bool.false_ne_true, Batches.send, show t.batches.buffer = t.buffer from rfl,
        if_pos blank]
      exact ⟨rfl, rfl⟩
    · have something : (!(trim (cut (t.buffer ++ token)).1).isEmpty) = true := by
        rw [Bool.not_eq_true']
        exact Bool.eq_false_of_not_eq_true blank
      rw [if_pos something, Batches.send, show t.batches.buffer = t.buffer from rfl, if_neg blank]
      refine ⟨?_, rfl⟩
      rw [batches, filterMap_sendText]
      rfl
  · rw [if_neg ((Batches.flushes_iff t.batches token).not.1 flushed)]
    dsimp only
    rw [if_neg flushed]
    exact ⟨rfl, rfl⟩

/-- The end of the stream in WS mode. -/
theorem texts_finish (t : WsTask) : t.finish.commands.filterMap WsCmd.text = t.batches.finish := by
  have ends (t : WsTask) : (if t.chunkCount > 0 then
      { t with commands := t.commands ++ [.flush t.contextId] }
      else { t with events := t.events ++ [.finished] } : WsTask).commands.filterMap WsCmd.text =
        t.commands.filterMap WsCmd.text := by
    by_cases sent : t.chunkCount > 0
    · rw [if_pos sent, List.filterMap_append]
      exact List.append_nil _
    · rw [if_neg sent]
  unfold WsTask.finish Batches.finish
  dsimp only
  rw [ends]
  by_cases blank : isBlank t.buffer = true
  · rw [show t.batches.buffer = t.buffer from rfl, if_pos blank, blank]
    rfl
  · rw [show t.batches.buffer = t.buffer from rfl, if_neg blank,
      Bool.eq_false_of_not_eq_true blank]
    exact filterMap_sendText _ _ _

/-- The tokens are batched one after the other. -/
theorem batches_foldl (tokens : List String) (t : WsTask) (running : t.ended = false) :
    ((tokens.map some).foldl receive t).batches = tokens.foldl Batches.token t.batches ∧
      ((tokens.map some).foldl receive t).ended = false := by
  induction tokens generalizing t with
  | nil => exact ⟨rfl, running⟩
  | cons token tokens ih =>
      have received : receive t (some token) = t.token token := by
        unfold receive
        rw [running]
        rfl
      obtain ⟨same, ended⟩ := batches_token token t
      rw [List.map_cons, List.foldl_cons, List.foldl_cons, received, ← same]
      exact ih _ (ended.trans running)

end WsTask

/-- **The WS task sends the batches.** -/
theorem wsTexts_eq (contextId : String) (tokens : List String) :
    wsTexts contextId tokens = batchTexts tokens := by
  obtain ⟨same, running⟩ := WsTask.batches_foldl tokens (.new contextId) rfl
  rw [wsTexts, stream, List.foldl_append, List.foldl_cons, List.foldl_nil, WsTask.receive, running,
    if_neg Bool.false_ne_true, WsTask.texts_finish, same]
  rfl

/-! ## Nothing is lost -/

/-- **The texts have what the tokens have**, apart from white space; none is blank. -/
structure Carried (tokens texts : List String) : Prop where
  nonblank : ∀ text ∈ texts, isBlank text = false
  whole : solid (String.join texts) = solid (String.join tokens)

/-- The last text comes behind the others. -/
theorem join_concat (texts : List String) (last : String) :
    String.join (texts ++ [last]) = String.join texts ++ last := by
  rw [String.join_append, String.join_cons, String.join_nil, String.append_empty]

/-- A text is blank exactly if it is so when trimmed. -/
theorem isBlank_trim (text : String) : isBlank (trim text) = isBlank text := by
  rw [isBlank, trim_trim, isBlank]

/-- Another text. -/
theorem nonblank_concat {texts : List String} (nonblank : ∀ text ∈ texts, isBlank text = false)
    {last : String} (lastNonblank : ¬ isBlank last = true) :
    ∀ text ∈ texts ++ [trim last], isBlank text = false := by
  intro text held
  rcases List.mem_append.1 held with held | held
  · exact nonblank text held
  · rw [List.mem_singleton.1 held, isBlank_trim]
    exact Bool.eq_false_of_not_eq_true lastNonblank

namespace Batches

/-- The texts and the buffer have what the tokens have. -/
structure Holds (tokens : List String) (b : Batches) : Prop where
  nonblank : ∀ text ∈ b.texts, isBlank text = false
  whole : solid (String.join b.texts) ++ solid b.buffer = solid (String.join tokens)

variable {tokens : List String} {b : Batches}

/-- Handing out a part of the text keeps it. -/
theorem Holds.send {flushText remainder : String} (nonblank : ∀ text ∈ b.texts, isBlank text = false)
    (whole : solid (String.join b.texts) ++ solid (flushText ++ remainder) = solid (String.join tokens)) :
    (b.send flushText remainder).Holds tokens := by
  rw [solid_append] at whole
  unfold Batches.send
  by_cases blank : isBlank flushText = true
  · rw [solid_eq_nil blank, List.nil_append] at whole
    rw [if_pos blank]
    exact ⟨nonblank, whole⟩
  · rw [if_neg blank]
    refine ⟨nonblank_concat nonblank blank, ?_⟩
    rw [join_concat, solid_append, solid_trim, List.append_assoc]
    exact whole

/-- **A token keeps all text.** -/
theorem Holds.token (holds : b.Holds tokens) (token : String) :
    (b.token token).Holds (tokens ++ [token]) := by
  have whole : solid (String.join b.texts) ++ solid (b.buffer ++ token) =
      solid (String.join (tokens ++ [token])) := by
    rw [join_concat, solid_append, solid_append, ← holds.whole, List.append_assoc]
  unfold Batches.token
  by_cases flushes : b.Flushes token
  · rw [if_pos flushes]
    apply Holds.send holds.nonblank
    rw [cut_append]
    exact whole
  · rw [if_neg flushes]
    exact ⟨holds.nonblank, whole⟩

/-- What was gathered are the tokens. -/
theorem holds_gather (tokens : List String) : (gather tokens).Holds tokens := by
  induction tokens using List.reverseRecOn with
  | nil => exact ⟨nofun, rfl⟩
  | append_singleton tokens last ih =>
      rw [gather_concat]
      exact ih.token last

/-- At the end the buffer is handed out too. -/
theorem Holds.finish (holds : b.Holds tokens) : Carried tokens b.finish := by
  unfold Batches.finish
  have whole := holds.whole
  by_cases blank : isBlank b.buffer = true
  · rw [solid_eq_nil blank, List.append_nil] at whole
    rw [if_pos blank]
    exact ⟨holds.nonblank, whole⟩
  · rw [if_neg blank]
    refine ⟨nonblank_concat holds.nonblank blank, ?_⟩
    rw [join_concat, solid_append, solid_trim]
    exact whole

end Batches

/-- **Batching loses and invents nothing, and both modes agree**: text is only split between characters,
the texts handed to the synthesiser carry the tokens, and the WS task sends the same texts. -/
theorem batches_faithful {synthesizeChunk : HttpTask.Synthesizer}
    (succeeds : ∀ before text, (synthesizeChunk before text).isSome = true) (contextId : String)
    (tokens : List String) :
    (∀ buffer split, bestBreak buffer = some split → IsCharBoundary buffer split) ∧
      Carried tokens (httpTexts synthesizeChunk tokens) ∧
      httpTexts synthesizeChunk tokens = wsTexts contextId tokens := by
  refine ⟨fun _ _ found => isCharBoundary_bestBreak found, ?_, ?_⟩
  · rw [httpTexts_eq succeeds]
    exact (Batches.holds_gather tokens).finish
  · rw [httpTexts_eq succeeds, wsTexts_eq]

/-- A sentence in three tokens, with a synthesiser that answers each text with silence. -/
theorem batches_faithful_sentence :
    Carried ["One, ", "two", " three."] (httpTexts (fun _ _ => some [0, 0]) ["One, ", "two", " three."]) ∧
      httpTexts (fun _ _ => some [0, 0]) ["One, ", "two", " three."] =
        wsTexts "turn" ["One, ", "two", " three."] :=
  (batches_faithful (fun _ _ => rfl) "turn" ["One, ", "two", " three."]).2

end TtsBatching

end Feros
