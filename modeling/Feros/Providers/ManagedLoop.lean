import Feros.Types
/-! # The loop of a managed connection

The task behind a managed connection: it writes the messages of its channel to a connection and forwards
what it reads, and when the connection is lost it connects anew, a number of times.  The states are the
places where the task waits; what it does from one to the next is a step.  The channel of the incoming
messages is bounded, which delays the task and changes nothing else; the intervals are left out. -/

namespace Feros

/-- `str::contains`. -/
def containsText (text pattern : String) : Bool := text.toList.tails.any pattern.toList.isPrefixOf

/-- Configuration for a managed connection. -/
structure WsConfig (μ : Type*) where
  /-- The message that keeps the connection alive. -/
  keepalive : Option μ
  /-- Reconnection attempts per round. -/
  maxReconnectAttempts : ℕ
  /-- Rounds before giving up. -/
  maxTotalReconnectRounds : UInt32
  deriving DecidableEq, Repr

/-- Connection lifecycle status. -/
inductive WsStatus where
  | connected
  | reconnecting (attempt : ℕ)
  | disconnected (reason : String)
  deriving DecidableEq, Repr

/-- What is written to a connection. -/
inductive LoopFrame (μ : Type*) where
  | sent (message : μ)
  | keepalive (message : μ)
  deriving DecidableEq, Repr

/-- The message of the application. -/
def LoopFrame.sentMessage {μ : Type*} : LoopFrame μ → Option μ
  | .sent message => some message
  | .keepalive _ => none

/-- What comes from a connection. -/
inductive WsRead (μ : Type*) where
  | message (message : μ)
  | pong
  | error (reason : String)
  | closed
  deriving DecidableEq, Repr

/-- **Where the task waits.** -/
inductive LoopPlace (μ : Type*) where
  /-- In the `select!` of a connection. -/
  | select
  | writing (frame : LoopFrame μ)
  /-- The incoming channel takes a message. -/
  | delivering (message : μ)
  /-- The delay before an attempt. -/
  | sleeping (attempt : ℕ)
  | connecting (attempt : ℕ)
  /-- The task has returned, and its ends of the channels are dropped. -/
  | ended
  deriving DecidableEq, Repr

namespace LoopPlace

variable {μ : Type*}

/-- There is a connection. -/
def hasConnection : LoopPlace μ → Bool
  | select | writing _ | delivering _ => true
  | sleeping _ | connecting _ | ended => false

/-- The task has returned. -/
def isEnded : LoopPlace μ → Bool
  | ended => true
  | select | writing _ | delivering _ | sleeping _ | connecting _ => false

/-- The task tries to reconnect. -/
def isReconnecting : LoopPlace μ → Bool
  | sleeping _ | connecting _ => true
  | select | writing _ | delivering _ | ended => false

end LoopPlace

/-- **The state of the loop**, with its channels. -/
structure ManagedLoop (μ : Type*) where
  place : LoopPlace μ := .select
  /-- The messages in the channel. -/
  msgRx : List μ := []
  senderDropped : Bool := false
  receiverDropped : Bool := false
  /-- The value that was sent last to the watch channel, and how often one was sent. -/
  status : WsStatus := .connected
  version : ℕ := 0
  connected : Bool := true
  totalRounds : UInt32 := 0
  errorReason : String := ""
  /-- What was written to the connection. -/
  wire : List (LoopFrame μ) := []
  /-- What was written to the connections before it. -/
  past : List (List (LoopFrame μ)) := []
  /-- What was put into the incoming channel. -/
  incoming : List μ := []
  deriving DecidableEq, Repr

/-- **What the task and its environment do.** -/
inductive LoopInput (μ : Type*) where
  /-- The application sends a message. -/
  | send (message : μ)
  /-- The application drops `msg_tx`. -/
  | dropSender
  /-- The application drops `incoming_rx`. -/
  | dropReceiver
  /-- The `select!` takes a message, or finds the channel closed. -/
  | take
  /-- The `select!` takes the tick of the interval. -/
  | tick
  /-- The `select!` takes what comes from the connection. -/
  | read (read : WsRead μ)
  | written (ok : Bool)
  | delivered
  /-- The delay is at an end, and the request is built. -/
  | slept (built : Bool)
  | connect (ok : Bool)
  deriving DecidableEq, Repr

namespace ManagedLoop

variable {μ : Type*}

/-- Intentional shutdown, as the loop tells it. -/
def intentional (reason : String) : Bool :=
  containsText reason "sender dropped" || containsText reason "receiver dropped"

/-- The channel takes messages. -/
def accepts (s : ManagedLoop μ) : Bool := !(s.senderDropped || s.place.isEnded)

/-- `status_tx.send`. -/
def sendStatus (status : WsStatus) (s : ManagedLoop μ) : ManagedLoop μ :=
  { s with status := status, version := s.version + 1 }

/-- The task returns. -/
def finish (reason : String) (s : ManagedLoop μ) : ManagedLoop μ :=
  { s.sendStatus (.disconnected reason) with place := .ended }

variable (config : WsConfig μ)

/-- The head of the retry loop. -/
def attempt (number : ℕ) (s : ManagedLoop μ) : ManagedLoop μ :=
  if number ≤ config.maxReconnectAttempts then
    { s.sendStatus (.reconnecting number) with place := .sleeping number }
  else
    s.finish ("exhausted " ++ toString config.maxReconnectAttempts ++ " reconnect attempts after: " ++
      s.errorReason)

/-- The head of the reconnect loop; the count of the rounds wraps. -/
def reconnect (s : ManagedLoop μ) : ManagedLoop μ :=
  let s := { s with connected := false, totalRounds := s.totalRounds + 1 }
  if config.maxReconnectAttempts = 0 then s.finish s.errorReason
  else if config.maxTotalReconnectRounds < s.totalRounds then
    s.finish ("exhausted " ++ toString config.maxTotalReconnectRounds ++ " total reconnect rounds after: " ++
      s.errorReason)
  else s.attempt config 1

/-- A connection is at an end. -/
def lost (reason : String) (s : ManagedLoop μ) : ManagedLoop μ :=
  let s := { s with errorReason := reason }
  if intentional reason then { s with connected := false }.finish reason
  else s.reconnect config

/-- A new connection. -/
def connectedAnew (s : ManagedLoop μ) : ManagedLoop μ :=
  { s.sendStatus .connected with
    connected := true
    place := .select
    past := s.past ++ [s.wire]
    wire := [] }

/-- The reason after a write that failed. -/
def writeError : LoopFrame μ → String
  | .sent _ => "write error"
  | .keepalive _ => "keepalive write error"

/-- What the `select!` does with what comes from the connection. -/
def handleRead (read : WsRead μ) (s : ManagedLoop μ) : ManagedLoop μ :=
  match read with
  | .message message => { s with place := .delivering message }
  | .pong => s
  | .error reason => s.lost config ("read error: " ++ reason)
  | .closed => s.lost config "connection closed by server"

/-- **A step of the loop**; an input that the task does not wait for does nothing. -/
def step (s : ManagedLoop μ) : LoopInput μ → ManagedLoop μ
  | .send message => if s.accepts then { s with msgRx := s.msgRx ++ [message] } else s
  | .dropSender => { s with senderDropped := true }
  | .dropReceiver => { s with receiverDropped := true }
  | .take =>
    match s.place, s.msgRx with
    | .select, message :: rest => { s with msgRx := rest, place := .writing (.sent message) }
    | .select, [] => if s.senderDropped then s.lost config "sender dropped (shutdown)" else s
    | _, _ => s
  | .tick =>
    match s.place, config.keepalive with
    | .select, some message => { s with place := .writing (.keepalive message) }
    | _, _ => s
  | .read read =>
    match s.place with
    | .select => s.handleRead config read
    | _ => s
  | .written ok =>
    match s.place with
    | .writing frame =>
      if ok then { s with place := .select, wire := s.wire ++ [frame] }
      else s.lost config (writeError frame)
    | _ => s
  | .delivered =>
    match s.place with
    | .delivering message =>
      if s.receiverDropped then s.lost config "incoming channel closed (receiver dropped)"
      else { s with place := .select, incoming := s.incoming ++ [message] }
    | _ => s
  | .slept built =>
    match s.place with
    | .sleeping number =>
      if built then { s with place := .connecting number } else s.attempt config (number + 1)
    | _ => s
  | .connect ok =>
    match s.place with
    | .connecting number => if ok then s.connectedAnew else s.attempt config (number + 1)
    | _ => s

end ManagedLoop

end Feros
