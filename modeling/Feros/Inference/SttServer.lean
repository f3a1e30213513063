import Feros.Inference.SileroVadFilter
import Feros.Providers.Stt
/-! # The STT server and its client

The server buffers the audio of a WebSocket connection; a `finalize` message has all of it transcribed and
answered at once.  `BuiltinLink` puts the server behind the builtin provider: two pipes in which nothing
overtakes anything, one for each direction.

The engine is a parameter.  The confidence and the times of an answer, which the client does not read, are
left out. -/

namespace Feros

/-- What the session uses: the engine, how it sees a sample, and the silence filter if there is one. -/
structure SttService (α : Type) where
  /-- Transcribe audio; an engine may raise. -/
  transcribe : List α → Except String String
  /-- The number between -1 and 1 of two little-endian bytes. -/
  toFloat32 : UInt8 → UInt8 → α
  vadFilter : Option (SileroVadFilter α)

namespace SttService

variable {α : Type} [Zero α]

/-- `pcm16_to_float32`: `np.frombuffer` raises if half a sample is left. -/
def pcm16ToFloat32 (service : SttService α) : Bytes → Except String (List α)
  | [] => .ok []
  | [_] => .error "buffer size must be a multiple of element size"
  | low :: high :: rest => (service.pcm16ToFloat32 rest).map (service.toFloat32 low high :: ·)

/-- The text of all the audio. -/
def textOf (service : SttService α) (allPcm : Bytes) : Except String String :=
  if allPcm.length < 2 * 100 then .ok ""
  else do
    let audio ← service.pcm16ToFloat32 allPcm
    -- Strip silence to prevent hallucinations.
    let audio := (service.vadFilter.map (·.collectSpeech audio)).getD audio
    if audio.length < 100 then .ok "" else service.transcribe audio

end SttService

/-- Per-connection streaming state. -/
structure StreamingSession where
  audioBuffer : Bytes
  deriving DecidableEq, Repr

namespace StreamingSession

variable {α : Type} [Zero α]

/-- Append raw PCM-16 audio bytes to the buffer. -/
def appendAudio (data : Bytes) (s : StreamingSession) : StreamingSession := ⟨s.audioBuffer ++ data⟩

/-- **Run final inference on all audio.** -/
def finalize (service : SttService α) (s : StreamingSession) :
    Except String (TranscriptResult × StreamingSession) := do
  let text ← service.textOf s.audioBuffer
  return (⟨true, text⟩, ⟨[]⟩)

end StreamingSession

/-- What a control message asks for. -/
inductive SttRequest where
  | audio
  | finalize
  | close
  deriving DecidableEq, Repr

/-- A frame the server receives; a text frame may be no control message, or one that asks for nothing. -/
inductive SttFrame where
  | binary (data : Bytes)
  | text (request : Except String (Option SttRequest))

/-- **A connection of the server.** -/
structure SttConnection where
  session : StreamingSession
  /-- The loop of the handler goes on. -/
  running : Bool
  sent : List TranscriptResult
  deriving DecidableEq, Repr

namespace SttConnection

variable {α : Type} [Zero α]

/-- One pass of the loop of `streaming_transcribe`. -/
def receive (service : SttService α) (frame : SttFrame) (c : SttConnection) : SttConnection :=
  if !c.running then c
  else
    match frame with
    | .binary data => if data.isEmpty then c else { c with session := c.session.appendAudio data }
    | .text (.error _) => c
    | .text (.ok (some .finalize)) =>
      match c.session.finalize service with
      | .ok (result, session) => { c with session := session, sent := c.sent ++ [result] }
      -- The exception ends the handler, which closes the connection.
      | .error _ => { c with running := false }
    | .text (.ok (some .close)) => { c with running := false }
    | .text (.ok _) => c

end SttConnection

/-! ## Client and server -/

/-- A message of the client as the server gets it. -/
def SttMessage.frame : SttMessage → SttFrame
  | .audio pcm => .binary pcm
  | .finalize => .text (.ok (some .finalize))
  | .close => .text (.ok (some .close))
  | .keepAlive | .ping | .sessionUpdate _ _ => .text (.error "unknown message")

/-- **A client, a server and the two pipes between them.** -/
structure BuiltinLink where
  client : BuiltinSttProvider
  server : SttConnection
  /-- How many messages of the client have reached the server. -/
  received : ℕ
  /-- How many answers of the server have reached the client. -/
  read : ℕ
  deriving DecidableEq, Repr

/-- What can happen. -/
inductive LinkAction where
  /-- The reactor feeds audio. -/
  | feedAudio (audio : Bytes)
  /-- The reactor asks for a transcript. -/
  | finalize
  /-- The session is over. -/
  | close
  /-- The writer task of the client takes audio. -/
  | writeAudio
  /-- The writer task of the client takes a control message. -/
  | writeControl
  /-- The server takes a message from the pipe. -/
  | serve
  /-- The reader task of the client takes an answer from the pipe. -/
  | readResult
  deriving DecidableEq, Repr

namespace BuiltinLink

variable {α : Type} [Zero α]

/-- A connection that was just opened. -/
def opened : BuiltinLink := ⟨{}, ⟨⟨[]⟩, true, []⟩, 0, 0⟩

/-- **One step of a party.** -/
def step (service : SttService α) (l : BuiltinLink) : LinkAction → BuiltinLink
  | .feedAudio audio => { l with client := l.client.feedAudio audio }
  | .finalize => { l with client := l.client.finalize }
  | .close => { l with client := l.client.close }
  | .writeAudio => { l with client := l.client.writeAudio }
  | .writeControl => { l with client := l.client.writeControl }
  | .serve =>
    -- A handler that has ended receives nothing more.
    if l.server.running then
      match l.client.wire[l.received]? with
      | some message =>
        { l with server := l.server.receive service message.frame, received := l.received + 1 }
      | none => l
    else l
  | .readResult =>
    match l.server.sent[l.read]? with
    | some result => { l with client := l.client.read (.ok (some result)), read := l.read + 1 }
    | none => l

end BuiltinLink

end Feros
