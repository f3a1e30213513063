import Feros.Types
import Feros.Providers.Ws
/-! # The Deepgram TTS provider

Text is sent over a managed connection, and a reader task gets audio.  The server does not say for
which turn an answer is: the reader takes the context that was sent last, and drops audio from a
`Clear` to its `Cleared`.  Calls and reader run in parallel, so the reader checks the flag when it gets
a message and looks up the context later. -/

namespace Feros

/-- A piece of audio for the reactor. -/
structure TtsAudioChunk where
  pcm : Bytes
  isFinal : Bool
  contextId : String
  deriving DecidableEq, Repr

/-- A message to Deepgram. -/
inductive DeepgramTtsMessage where
  | speak (text : String)
  | flush
  | clear
  | ping
  deriving DecidableEq, Repr

/-- What Deepgram says. -/
inductive DeepgramTtsReply where
  | audio (pcm : Bytes)
  | flushed
  | cleared
  /-- Metadata, a warning, or what cannot be read. -/
  | other
  deriving DecidableEq, Repr

/-- **The Deepgram TTS provider**, with its reader task.  A message and a reply come with the context
they are for, which neither of them carries: nothing the provider does depends on it. -/
structure DeepgramWsTtsProvider where
  conn : ManagedWs (DeepgramTtsMessage × String) := { keepalive := some (.ping, "") }
  /-- The watch channel of the active context. -/
  contextId : String := ""
  /-- The watch channel of the context that was cancelled last. -/
  cancelCtx : String := ""
  /-- The watch channel of the clear flag, and whether the reader has not seen its value yet. -/
  clear : Bool := false
  clearChanged : Bool := false
  /-- What the connection loop has read. -/
  incoming : List (DeepgramTtsReply × String) := []
  isClearing : Bool := false
  /-- What the reader has got, and not dealt with yet. -/
  held : Option (DeepgramTtsReply × String) := none
  /-- What the reader has sent to the reactor. -/
  chunks : List TtsAudioChunk := []
  deriving DecidableEq, Repr

namespace DeepgramWsTtsProvider

def sendText (text contextId : String) (p : DeepgramWsTtsProvider) : DeepgramWsTtsProvider :=
  { p with contextId := contextId, conn := p.conn.send (.speak text, contextId) }

def flush (contextId : String) (p : DeepgramWsTtsProvider) : DeepgramWsTtsProvider :=
  { p with conn := p.conn.send (.flush, contextId) }

def cancel (contextId : String) (p : DeepgramWsTtsProvider) : DeepgramWsTtsProvider :=
  { p with
    cancelCtx := contextId
    clear := true
    clearChanged := true
    conn := p.conn.send (.clear, contextId) }

/-- The reader gets a reply, and looks at the clear flag if it has changed. -/
def receive (p : DeepgramWsTtsProvider) : DeepgramWsTtsProvider :=
  match p.held, p.incoming with
  | none, reply :: rest =>
    { p with
      incoming := rest
      held := some reply
      isClearing := if p.clearChanged then p.clear else p.isClearing
      clearChanged := false }
  | _, _ => p

/-- What the reader makes of a reply. -/
def chunk (p : DeepgramWsTtsProvider) : DeepgramTtsReply → Option TtsAudioChunk
  | .audio pcm => if p.isClearing then none else some ⟨pcm, false, p.contextId⟩
  | .flushed => some ⟨[], true, p.contextId⟩
  | .cleared => some ⟨[], true, p.cancelCtx⟩
  | .other => none

/-- The reader deals with the reply. -/
def handle (p : DeepgramWsTtsProvider) : DeepgramWsTtsProvider :=
  match p.held with
  | some (reply, _) =>
    { p with
      held := none
      isClearing := if reply = .cleared then false else p.isClearing
      chunks := p.chunks ++ (p.chunk reply).toList }
  | none => p

end DeepgramWsTtsProvider

end Feros
