import Mathlib.Tactic.TypeStar
/-! # Managed connections

The connection loop that the streaming providers share.  Messages wait in an unbounded channel until
the loop writes them; a connection that the server has closed loses what is written to it, until the
loop connects anew. -/

namespace Feros

/-- **A managed WebSocket connection.** -/
structure ManagedWs (μ : Type*) where
  /-- What is sent to keep the connection alive. -/
  keepalive : Option μ
  /-- The messages in the channel. -/
  outgoing : List μ := []
  /-- The messages that were written, in order. -/
  wire : List μ := []
  /-- The server has closed the connection, and the loop does not know it yet. -/
  closing : Bool := false
  deriving DecidableEq, Repr

namespace ManagedWs

variable {μ : Type*}

/-- Put a message into the channel. -/
def send (message : μ) (ws : ManagedWs μ) : ManagedWs μ :=
  { ws with outgoing := ws.outgoing ++ [message] }

/-- The loop takes a message from the channel, and writes it. -/
def write (ws : ManagedWs μ) : ManagedWs μ :=
  match ws.outgoing with
  | message :: rest =>
    { ws with outgoing := rest, wire := if ws.closing then ws.wire else ws.wire ++ [message] }
  | [] => ws

/-- The interval of the keepalive elapses; it does so whether anything was written or not. -/
def tick (ws : ManagedWs μ) : ManagedWs μ :=
  match ws.keepalive with
  | some message => { ws with wire := if ws.closing then ws.wire else ws.wire ++ [message] }
  | none => ws

/-- The loop has connected anew. -/
def reconnect (ws : ManagedWs μ) : ManagedWs μ := { ws with closing := false }

end ManagedWs

end Feros
