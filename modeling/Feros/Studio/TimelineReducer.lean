import Mathlib.Data.List.Basic
/-! # The timeline of a call

The test view shows a call as a list of bubbles and tool cards.  What is said arrives as chunks and, in the
end, as the canonical text.  The reducer only looks at the last entry. -/

namespace Feros

/-- **An entry of the timeline.** -/
inductive TimelineEntry where
  | message (role text : String) (final : Bool)
  | tool (toolName : String)
  deriving DecidableEq, Repr

/-- What is shown on the timeline. -/
inductive TimelineEvent where
  /-- A streaming token. -/
  | transcriptChunk (role text : String)
  /-- The canonical text. -/
  | transcript (role text : String)
  deriving DecidableEq, Repr

namespace TimelineEvent

/-- Who speaks. -/
def role : TimelineEvent → String
  | transcriptChunk role _ => role
  | transcript role _ => role

/-- What is said. -/
def text : TimelineEvent → String
  | transcriptChunk _ text => text
  | transcript _ text => text

/-- The event is a streaming token. -/
def isChunk : TimelineEvent → Bool
  | transcriptChunk _ _ => true
  | transcript _ _ => false

end TimelineEvent

/-- The entry is a message of the role that is not closed. -/
def isOpenBubble (entry : TimelineEntry) (role : String) : Bool :=
  match entry with
  | .message entryRole _ final => entryRole == role && !final
  | .tool _ => false

/-- Apply a `transcript_chunk` event. -/
def applyChunk (prev : List TimelineEntry) (role text : String) : List TimelineEntry :=
  -- An empty chunk is a no-op.
  if text.isEmpty then prev
  else
    match prev.getLast? with
    | some (.message lastRole lastText final) =>
      if isOpenBubble (.message lastRole lastText final) role then
        prev.dropLast ++ [.message lastRole (lastText ++ text) final]
      else prev ++ [.message role text false]
    | _ => prev ++ [.message role text false]

/-- Apply a `transcript` event. -/
def applyTranscript (prev : List TimelineEntry) (role text : String) : List TimelineEntry :=
  match prev.getLast? with
  | some (.message lastRole lastText final) =>
    if isOpenBubble (.message lastRole lastText final) role then
      prev.dropLast ++ [.message lastRole text true]
    else prev ++ [.message role text true]
  | _ => prev ++ [.message role text true]

/-- Route an event to its reducer. -/
def applyTimelineEvent (prev : List TimelineEntry) : TimelineEvent → List TimelineEntry
  | .transcriptChunk role text => applyChunk prev role text
  | .transcript role text => applyTranscript prev role text

end Feros
