import Feros.Types
import Feros.Utf8
/-! # Batching tokens for TTS

The TTS stage gathers the tokens it is fed in a buffer and hands it to the synthesiser in batches.
Each turn has a task of its own, which is one of two:

* **`HttpTask`** makes a request for each batch, whose audio goes back to the reactor;
* **`WsTask`** sends commands to the connection of the session.

Both take messages from the token channel: a token, or `none` at the end of the stream. -/

namespace Feros

namespace TtsBatching

/-! ## Where text may be cut -/

/-- Sentence-ending punctuation: flush the buffer to TTS. -/
def sentenceBreaks : List Char := ['.', '!', '?', '\n', '\u3002', '\uFF01', '\uFF1F']

/-- Clause-ending punctuation: flush if the buffer is long enough. -/
def clauseBreaks : List Char := [',', ':', ';', '\u2014', '\u2013', '\uFF0C', '\uFF1A', '\uFF1B']

/-- Character count. -/
def charLen (s : String) : ℕ := s.toList.length

/-- `str::trim_end`. -/
def trimEnd (text : String) : String := String.ofList (text.toList.rdropWhile isWhitespace)

/-- `str::ends_with` for a choice of characters. -/
def endsWith (text : String) (breaks : List Char) : Bool :=
  match text.toList.getLast? with
  | some c => breaks.contains c
  | none => false

/-- Decide whether the accumulated buffer should be flushed to TTS. -/
def shouldFlush (buffer : String) (chunkCount : UInt32) : Bool :=
  let trimmed := trimEnd buffer
  let clen := charLen buffer
  if chunkCount = 0 then
    endsWith trimmed sentenceBreaks || endsWith trimmed clauseBreaks || clen > 30
  else
    endsWith trimmed sentenceBreaks || (clen > 15 && endsWith trimmed clauseBreaks) || clen > 200

/-- The byte offset of the last character that passes the test. -/
def rfindChars (test : Char → Bool) : List Char → Option ℕ
  | [] => none
  | c :: chars =>
    match rfindChars test chars with
    | some pos => some (c.utf8Size + pos)
    | none => if test c then some 0 else none

/-- `str::rfind`. -/
def rfind (test : Char → Bool) (text : String) : Option ℕ := rfindChars test text.toList

/-- UTF-8 byte length of the character at byte offset `pos`. -/
def cLenAt (s : String) (pos : ℕ) : ℕ :=
  match (dropBytes pos s.toList).head? with
  | some c => c.utf8Size
  | none => 1

/-- The byte offset behind the last character that passes the test. -/
def breakBehind (test : Char → Bool) (buffer : String) : Option ℕ :=
  (rfind test buffer).map fun pos => pos + cLenAt buffer pos

/-- The byte offset at which long text is split. -/
def bestBreak (buffer : String) : Option ℕ :=
  match breakBehind sentenceBreaks.contains buffer with
  | some split => some split
  | none =>
    match breakBehind clauseBreaks.contains buffer with
    | some split => some split
    | none => breakBehind isWhitespace buffer

/-- Find the best split point within `buffer` for force-flushing long text. -/
def splitAtBestBreak (buffer : String) : String × String :=
  match bestBreak buffer with
  | some split => (sliceTo buffer split, sliceFrom buffer split)
  | none => (buffer, "")

/-- What is flushed of a buffer, and what remains. -/
def cut (buffer : String) : String × String :=
  if charLen buffer > 200 && !endsWith (trimEnd buffer) sentenceBreaks then splitAtBestBreak buffer
  else (buffer, "")

/-! ## One request for each batch -/

/-- **The batch task of HTTP mode**, with what it has handed out. -/
structure HttpTask where
  buffer : String
  chunkCount : UInt32
  /-- The texts handed to the synthesiser. -/
  synthesized : List String
  /-- What was sent to the reactor. -/
  events : List TtsEvent
  /-- The loop was left. -/
  ended : Bool
  deriving DecidableEq, Repr

namespace HttpTask

/-- The task before the first message. -/
def new : HttpTask := ⟨"", 0, [], [], false⟩

/-- A synthesiser: what comes of a text, after the texts before it. -/
abbrev Synthesizer := List String → String → Option Bytes

variable (synthesizeChunk : Synthesizer)

/-- A token. -/
def token (token : String) (t : HttpTask) : HttpTask :=
  let buffer := t.buffer ++ token
  if shouldFlush buffer t.chunkCount && !isBlank buffer then
    let (flushText, remainder) := cut buffer
    let toSend := trim flushText
    let t := { t with buffer := remainder }
    if !toSend.isEmpty then
      let t' := { t with synthesized := t.synthesized ++ [toSend] }
      match synthesizeChunk t.synthesized toSend with
      | some pcm =>
        { t' with chunkCount := t.chunkCount + 1, events := t.events ++ [.audio pcm] }
      | none => t'
    else t
  else { t with buffer := buffer }

/-- The end of the stream. -/
def finish (t : HttpTask) : HttpTask :=
  let t : HttpTask :=
    if !isBlank t.buffer then
      let t' := { t with synthesized := t.synthesized ++ [trim t.buffer] }
      match synthesizeChunk t.synthesized (trim t.buffer) with
      | some pcm => { t' with events := t.events ++ [.audio pcm] }
      | none => t'
    else t
  { t with events := t.events ++ [.finished], ended := true }

/-- A message of the token channel. -/
def receive (t : HttpTask) (message : Option String) : HttpTask :=
  if t.ended then t
  else
    match message with
    | some token => t.token synthesizeChunk token
    | none => t.finish synthesizeChunk

end HttpTask

/-! ## Commands to the connection -/

/-- Commands sent from the stage to the connection of the session. -/
inductive WsCmd where
  /-- Send text for a context. -/
  | sendText (text contextId : String)
  /-- End of turn. -/
  | flush (contextId : String)
  /-- Barge-in. -/
  | cancel (contextId : String)
  deriving DecidableEq, Repr

/-- The text that a command sends. -/
def WsCmd.text : WsCmd → Option String
  | .sendText text _ => some text
  | _ => none

/-- **The send task of WS mode**, with what it has sent. -/
structure WsTask where
  contextId : String
  buffer : String
  chunkCount : UInt32
  commands : List WsCmd
  /-- What was sent to the reactor. -/
  events : List TtsEvent
  /-- The loop was left. -/
  ended : Bool
  deriving DecidableEq, Repr

namespace WsTask

/-- The task before the first message. -/
def new (contextId : String) : WsTask := ⟨contextId, "", 0, [], [], false⟩

/-- A token. -/
def token (token : String) (t : WsTask) : WsTask :=
  let buffer := t.buffer ++ token
  if shouldFlush buffer t.chunkCount && !isBlank buffer then
    let (flushText, remainder) := cut buffer
    let toSend := trim flushText
    let t := { t with buffer := remainder }
    if !toSend.isEmpty then
      { t with
        commands := t.commands ++ [.sendText toSend t.contextId]
        chunkCount := t.chunkCount + 1 }
    else t
  else { t with buffer := buffer }

/-- The end of the stream. -/
def finish (t : WsTask) : WsTask :=
  let t : WsTask :=
    if !isBlank t.buffer then
      { t with
        commands := t.commands ++ [.sendText (trim t.buffer) t.contextId]
        chunkCount := t.chunkCount + 1 }
    else t
  let t : WsTask :=
    if t.chunkCount > 0 then { t with commands := t.commands ++ [.flush t.contextId] }
    else { t with events := t.events ++ [.finished] }
  { t with ended := true }

/-- A message of the token channel. -/
def receive (t : WsTask) (message : Option String) : WsTask :=
  if t.ended then t
  else
    match message with
    | some token => t.token token
    | none => t.finish

end WsTask

/-! ## A stream of tokens -/

/-- The messages of a stage that is fed some tokens and flushed. -/
def stream (tokens : List String) : List (Option String) := tokens.map some ++ [none]

/-- The texts that the HTTP task hands to the synthesiser. -/
def httpTexts (synthesizeChunk : HttpTask.Synthesizer) (tokens : List String) : List String :=
  ((stream tokens).foldl (HttpTask.receive synthesizeChunk) .new).synthesized

/-- The texts that the WS task sends. -/
def wsTexts (contextId : String) (tokens : List String) : List String :=
  ((stream tokens).foldl WsTask.receive (.new contextId)).commands.filterMap WsCmd.text

end TtsBatching

end Feros
