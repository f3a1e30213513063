import Feros.Agent.Calls
/-! # Model streams that come through rig

`stream_rig_completion` opens a stream at a vendor and spawns an adapter task, which forwards what
arrives into a bounded channel; the agent backend reads from the other end.  The channel closes when
the adapter task ends, which it does at the end of the stream as well as at an error.

A turn is driven by polls of the caller, steps of the adapter, and the wakes of everything else. -/

namespace Feros

/-! ## The adapter -/

/-- Token usage of a response, in 64 bits. -/
structure RigUsage where
  inputTokens : ℕ
  outputTokens : ℕ
  cachedInputTokens : ℕ
  deriving DecidableEq, Repr

/-- `StreamedAssistantContent`. -/
inductive RigContent where
  | text (text : String)
  /-- The arguments are serialized JSON. -/
  | toolCall (name arguments id : String) (signature : Option String)
  | final (usage : Option RigUsage)
  /-- Reasoning and deltas of tool calls. -/
  | other
  deriving DecidableEq, Repr

/-- **A stream of the vendor**: its items, and the error it ends with, if it does. -/
structure RigStream where
  items : List RigContent
  failure : Option String
  deriving DecidableEq, Repr

/-- What the adapter sends for an item; counts are cut to 32 bits. -/
def RigContent.forward : RigContent → Option InnerLlmEvent
  | .text chunk => if chunk.isEmpty then none else some (.token chunk)
  | .toolCall name arguments id signature => some (.toolCall ⟨name, arguments, some id, signature⟩)
  | .final (some usage) => some (.usage (usage.inputTokens % 2 ^ 32) (usage.outputTokens % 2 ^ 32)
      (usage.cachedInputTokens % 2 ^ 32))
  | .final none => none
  | .other => none

/-- What is sent of a whole stream. -/
def RigStream.forwarded (stream : RigStream) : List InnerLlmEvent :=
  stream.items.filterMap RigContent.forward

/-- The capacity of the channel. -/
def rigChannelCapacity : ℕ := 64

/-! ## Turns -/

/-- **A turn of the backend**, with the adapter task of its stream as long as that runs. -/
structure RigTurn where
  backend : DefaultAgentBackend
  /-- Where a call of `recv` waits, if there is one. -/
  waiting : Option RecvPoint
  channel : List InnerLlmEvent
  adapter : Option RigStream
  delivered : List AgentEvent
  /-- `recv` has returned `None`. -/
  ended : Bool

/-- **What happens next** in a turn. -/
inductive RigAction where
  /-- The caller calls `recv`. -/
  | poll
  /-- The adapter task takes one item, or ends. -/
  | adapt
  /-- `recv` takes an event from the channel, or finds it closed. -/
  | receive (uuid : String)
  /-- The next stream is opened, or refused. -/
  | streamStarted (reply : Except String RigStream)
  /-- Everything else that `recv` may wait for. -/
  | wake (wake : Wake)

namespace RigTurn

/-- A turn whose first stream has just been opened. -/
def start (b : DefaultAgentBackend) (stream : RigStream) : RigTurn where
  backend := b
  waiting := none
  channel := []
  adapter := some stream
  delivered := []
  ended := false

/-- The turn after a call of `recv` went on. -/
def proceed (s : RigTurn) : DefaultAgentBackend × RecvStatus → RigTurn
  | (b, .pending point) => { s with backend := b, waiting := some point }
  | (b, .ready (some event)) =>
    { s with backend := b, waiting := none, delivered := s.delivered ++ [event] }
  | (b, .ready none) => { s with backend := b, waiting := none, ended := true }

/-- The adapter task reads from the vendor; a full channel makes it wait. -/
def adapt (s : RigTurn) : RigTurn :=
  match s.adapter with
  | some ⟨item :: items, failure⟩ =>
    if s.channel.length < rigChannelCapacity then
      { s with
        channel := s.channel ++ item.forward.toList
        adapter := some ⟨items, failure⟩ }
    else s
  -- An error breaks the loop; it is only logged.
  | some ⟨[], _⟩ => { s with adapter := none }
  | none => s

/-- One step. -/
def step (s : RigTurn) : RigAction → RigTurn
  | .poll => if s.ended || s.waiting.isSome then s else s.proceed s.backend.enter
  | .adapt => s.adapt
  | .receive uuid =>
    match s.waiting with
    | some .stream =>
      match s.channel with
      | event :: rest =>
        ({ s with channel := rest }).proceed (s.backend.resume .stream (.llm (some event) uuid))
      | [] =>
        if s.adapter.isNone then s.proceed (s.backend.resume .stream (.llm none uuid)) else s
    | _ => s
  | .streamStarted reply =>
    match s.waiting with
    | some (.startStream event) =>
      match reply with
      | .ok stream =>
        ({ s with channel := [], adapter := some stream }).proceed
          (s.backend.resume (.startStream event) (.streamStarted (.ok ())))
      | .error message =>
        s.proceed (s.backend.resume (.startStream event) (.streamStarted (.error message)))
    | _ => s
  | .wake (.llm _ _) => s
  | .wake (.streamStarted _) => s
  | .wake wake =>
    match s.waiting with
    | some point => s.proceed (s.backend.resume point wake)
    | none => s

end RigTurn

end Feros
