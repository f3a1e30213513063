import Feros.Providers.LoopSteps
/-! # The ElevenLabs TTS provider

A context is opened by a message with a single space before its text.  The provider keeps the set of the
contexts it has opened; it looks at the status of the connection when it sends text, and the loop of the
connection goes on between any two of its actions. -/

namespace Feros

/-- A message to ElevenLabs. -/
inductive ElevenLabsMessage where
  /-- The single space that opens a context. -/
  | init (contextId : String)
  | text (text contextId : String)
  /-- `flush: true`. -/
  | flush (contextId : String)
  /-- `close_context: true`, after a barge-in. -/
  | cancel (contextId : String)
  /-- `close_context: true`, from the reader, after the audio of a context. -/
  | closeContext (contextId : String)
  /-- The empty text. -/
  | keepAlive
  deriving DecidableEq, Repr

namespace ElevenLabsMessage

/-- The message is text, or opens a context. -/
def isText : ElevenLabsMessage → Bool
  | init _ | text _ _ => true
  | flush _ | cancel _ | closeContext _ | keepAlive => false

/-- The message is the flush or the cancel of a context. -/
def closes (contextId : String) : ElevenLabsMessage → Bool
  | flush other | cancel other => other == contextId
  | init _ | text _ _ | closeContext _ | keepAlive => false

end ElevenLabsMessage

/-- How far a call of `send_text` is. -/
inductive SendTextCall where
  | idle
  /-- The status was looked at. -/
  | checked (text contextId : String)
  /-- The context is opened. -/
  | opened (text contextId : String)
  deriving DecidableEq, Repr

/-- **The ElevenLabs provider**, connected. -/
structure ElevenLabsWsTtsProvider where
  conn : ManagedLoop ElevenLabsMessage := {}
  /-- The contexts that were opened, without repetition. -/
  initializedContexts : List String := []
  /-- The version of the status that was looked at last. -/
  seen : ℕ := 0
  call : SendTextCall := .idle
  deriving DecidableEq, Repr

/-- What happens to the provider and its connection. -/
inductive ElevenLabsInput where
  /-- A call of `send_text` begins. -/
  | sendText (text contextId : String)
  /-- The call goes on. -/
  | proceed
  | flush (contextId : String)
  | cancel (contextId : String)
  /-- The reader task closes a context. -/
  | isFinal (contextId : String)
  /-- A step of the loop. -/
  | loop (input : LoopInput ElevenLabsMessage)
  deriving DecidableEq, Repr

namespace ElevenLabsWsTtsProvider

/-- The connection is pinged every ten seconds. -/
def config : WsConfig ElevenLabsMessage := ⟨some .keepAlive, 3, 5⟩

/-- A message goes into the channel. -/
def send (message : ElevenLabsMessage) (p : ElevenLabsWsTtsProvider) : ElevenLabsWsTtsProvider :=
  { p with conn := p.conn.step config (.send message) }

/-- `status_rx.has_changed`. -/
def hasChanged (p : ElevenLabsWsTtsProvider) : Bool := !p.conn.place.isEnded && p.conn.version != p.seen

/-- If the connection just reconnected, clear stale context state. -/
def checkStatus (p : ElevenLabsWsTtsProvider) : ElevenLabsWsTtsProvider :=
  if p.hasChanged then
    { p with
      seen := p.conn.version
      initializedContexts := if p.conn.status = .connected then [] else p.initializedContexts }
  else p

/-- Open a context that is not open; the set is cleared when it has a hundred entries. -/
def openContext (contextId : String) (p : ElevenLabsWsTtsProvider) : ElevenLabsWsTtsProvider :=
  if p.initializedContexts.contains contextId then p
  else
    let contexts := if 100 ≤ p.initializedContexts.length then [] else p.initializedContexts
    { p with initializedContexts := contextId :: contexts }.send (.init contextId)

/-- The context is taken out of the set. -/
def forget (contextId : String) (p : ElevenLabsWsTtsProvider) : ElevenLabsWsTtsProvider :=
  { p with initializedContexts := p.initializedContexts.filter (· != contextId) }

/-- **A step**: a call begins when the call before it has returned. -/
def step (p : ElevenLabsWsTtsProvider) : ElevenLabsInput → ElevenLabsWsTtsProvider
  | .sendText text contextId =>
    match p.call with
    | .idle => { p.checkStatus with call := .checked text contextId }
    | _ => p
  | .proceed =>
    match p.call with
    | .idle => p
    | .checked text contextId => { p.openContext contextId with call := .opened text contextId }
    | .opened text contextId => { p.send (.text text contextId) with call := .idle }
  | .flush contextId =>
    match p.call with
    | .idle => (p.forget contextId).send (.flush contextId)
    | _ => p
  | .cancel contextId =>
    match p.call with
    | .idle => (p.forget contextId).send (.cancel contextId)
    | _ => p
  | .isFinal contextId => p.send (.closeContext contextId)
  -- Only the provider and its reader send, and they keep the channel open.
  | .loop (.send _) | .loop .dropSender => p
  | .loop input => { p with conn := p.conn.step config input }

end ElevenLabsWsTtsProvider

end Feros
