import Feros.Providers.ManagedLoop
/-! # What a step of a managed connection does

A step stays in a connection, an attempt, or the end; ends a connection; ends an attempt; or connects,
`ManagedLoop.step_cases`.  What the messages do in it is told by `flow`: what was written to the connection,
what is being written, and what waits. -/

namespace Feros

/-- A connection, an attempt, or the end. -/
inductive LoopPhase where
  | connection
  | attempt (number : ℕ)
  | ended
  deriving DecidableEq, Repr

/-- The phase of a place. -/
def LoopPlace.phase {μ : Type*} : LoopPlace μ → LoopPhase
  | select | writing _ | delivering _ => .connection
  | sleeping number | connecting number => .attempt number
  | ended => .ended

/-- The application drops `msg_tx`. -/
def LoopInput.isDropSender {μ : Type*} : LoopInput μ → Bool
  | dropSender => true
  | _ => false

/-- The application drops `incoming_rx`. -/
def LoopInput.isDropReceiver {μ : Type*} : LoopInput μ → Bool
  | dropReceiver => true
  | _ => false

namespace ManagedLoop

variable {μ : Type*}

/-! ## Messages -/

/-- The message that is being written. -/
def inFlight (s : ManagedLoop μ) : List μ :=
  match s.place with
  | .writing frame => frame.sentMessage.toList
  | _ => []

/-- **The messages of a connection**: what was written, what is being written, and what waits. -/
def flow (s : ManagedLoop μ) : List μ := s.wire.filterMap LoopFrame.sentMessage ++ (s.inFlight ++ s.msgRx)

/-- What the channel takes at an input. -/
def taken (s : ManagedLoop μ) : LoopInput μ → List μ
  | .send message => if s.accepts then [message] else []
  | _ => []

/-- A frame is in flight only while it is written. -/
theorem inFlight_of_place {s : ManagedLoop μ} {place : LoopPlace μ} (here : s.place = place)
    (other : ∀ frame, place ≠ .writing frame) : s.inFlight = [] := by
  unfold inFlight
  split
  · rename_i frame writing
    exact absurd (here.symm.trans writing) (other frame)
  · rfl

/-- Nothing is in flight without a connection. -/
theorem inFlight_of_phase {s : ManagedLoop μ} (phase : s.place.phase ≠ .connection) : s.inFlight = [] := by
  apply inFlight_of_place rfl
  intro frame writing
  rw [writing] at phase
  exact phase rfl

/-! ## Losing a connection -/

/-- The loop is at another place, with the same messages and channels. -/
structure SameMessages (s t : ManagedLoop μ) : Prop where
  msgRx : t.msgRx = s.msgRx
  senderDropped : t.senderDropped = s.senderDropped
  receiverDropped : t.receiverDropped = s.receiverDropped
  wire : t.wire = s.wire
  past : t.past = s.past
  version : s.version ≤ t.version

variable (config : WsConfig μ)

/-- **What the head of the retry loop does.** -/
theorem attempt_spec (number : ℕ) (s : ManagedLoop μ) :
    SameMessages s (s.attempt config number) ∧
    (s.attempt config number).connected = s.connected ∧
    (s.attempt config number).totalRounds = s.totalRounds ∧
    (s.attempt config number).errorReason = s.errorReason ∧
    (number ≤ config.maxReconnectAttempts ∧ (s.attempt config number).place = .sleeping number ∧
        (s.attempt config number).status = .reconnecting number ∨
      (s.attempt config number).place = .ended ∧
        ∃ reason, (s.attempt config number).status = .disconnected reason) := by
  unfold attempt
  split
  · rename_i within
    exact ⟨⟨rfl, rfl, rfl, rfl, rfl, Nat.le_succ _⟩, rfl, rfl, rfl, .inl ⟨within, rfl, rfl⟩⟩
  · exact ⟨⟨rfl, rfl, rfl, rfl, rfl, Nat.le_succ _⟩, rfl, rfl, rfl, .inr ⟨rfl, _, rfl⟩⟩

/-- **What the end of a connection does.** -/
theorem lost_spec (reason : String) (s : ManagedLoop μ) :
    SameMessages s (s.lost config reason) ∧
    (s.lost config reason).connected = false ∧
    (s.lost config reason).errorReason = reason ∧
    ((s.lost config reason).place = .ended ∧ (∃ reason', (s.lost config reason).status = .disconnected reason') ∨
      intentional reason = false ∧ config.maxReconnectAttempts ≠ 0 ∧
        (s.lost config reason).totalRounds = s.totalRounds + 1 ∧
        ¬ config.maxTotalReconnectRounds < s.totalRounds + 1 ∧ (s.lost config reason).place = .sleeping 1 ∧
        (s.lost config reason).status = .reconnecting 1) := by
  have ended (t : ManagedLoop μ) (reason' : String) (same : SameMessages s t) :
      SameMessages s (t.finish reason') :=
    ⟨same.msgRx, same.senderDropped, same.receiverDropped, same.wire, same.past, same.version.trans (Nat.le_succ _)⟩
  unfold lost
  dsimp only
  split
  · exact ⟨ended _ _ ⟨rfl, rfl, rfl, rfl, rfl, le_rfl⟩, rfl, rfl, .inl ⟨rfl, _, rfl⟩⟩
  · rename_i other
    unfold reconnect
    dsimp only
    split
    · exact ⟨ended _ _ ⟨rfl, rfl, rfl, rfl, rfl, le_rfl⟩, rfl, rfl, .inl ⟨rfl, _, rfl⟩⟩
    · rename_i some
      split
      · exact ⟨ended _ _ ⟨rfl, rfl, rfl, rfl, rfl, le_rfl⟩, rfl, rfl, .inl ⟨rfl, _, rfl⟩⟩
      · rename_i left
        obtain ⟨same, connected, rounds, errorReason, there | ended⟩ := attempt_spec config 1 { s with
          errorReason := reason, connected := false, totalRounds := s.totalRounds + 1 }
        · exact ⟨⟨same.msgRx, same.senderDropped, same.receiverDropped, same.wire, same.past, same.version⟩,
            connected, errorReason, .inr ⟨Bool.eq_false_iff.2 other, some, rounds, left, there.2.1, there.2.2⟩⟩
        · exact ⟨⟨same.msgRx, same.senderDropped, same.receiverDropped, same.wire, same.past, same.version⟩,
            connected, errorReason, .inl ended⟩

/-- A loss that is intended ends the loop. -/
theorem ended_of_intentional {s : ManagedLoop μ} {reason : String} (intended : intentional reason = true) :
    (s.lost config reason).place = .ended := by
  obtain ⟨-, -, -, ⟨place, -⟩ | ⟨unintended, -⟩⟩ := lost_spec config reason s
  · exact place
  · rw [intended] at unintended
    cases unintended

/-- Without a connection nothing is in flight. -/
theorem phase_lost (reason : String) (s : ManagedLoop μ) : (s.lost config reason).place.phase ≠ .connection := by
  obtain ⟨-, -, -, ⟨place, -⟩ | ⟨-, -, -, -, place, -⟩⟩ := lost_spec config reason s
  · rw [place]
    exact LoopPhase.noConfusion
  · rw [place]
    exact LoopPhase.noConfusion

/-- An attempt is no connection. -/
theorem phase_attempt (number : ℕ) (s : ManagedLoop μ) :
    (s.attempt config number).place.phase ≠ .connection := by
  obtain ⟨-, -, -, -, ⟨-, place, -⟩ | ⟨place, -⟩⟩ := attempt_spec config number s
  · rw [place]
    exact LoopPhase.noConfusion
  · rw [place]
    exact LoopPhase.noConfusion

/-! ## Steps -/

/-- **How a connection ends**: the input, and the reason. -/
inductive Ends (s : ManagedLoop μ) : LoopInput μ → String → Prop where
  | shutdown (place : s.place = .select) (empty : s.msgRx = []) (dropped : s.senderDropped = true) :
      Ends s .take "sender dropped (shutdown)"
  | write (frame : LoopFrame μ) (place : s.place = .writing frame) : Ends s (.written false) (writeError frame)
  | error (reason : String) (place : s.place = .select) : Ends s (.read (.error reason)) ("read error: " ++ reason)
  | closed (place : s.place = .select) : Ends s (.read .closed) "connection closed by server"
  | receiver (message : μ) (place : s.place = .delivering message) (dropped : s.receiverDropped = true) :
      Ends s .delivered "incoming channel closed (receiver dropped)"

/-- Only a connection ends. -/
theorem Ends.phase {s : ManagedLoop μ} {input : LoopInput μ} {reason : String} (ends : Ends s input reason) :
    s.place.phase = .connection := by
  cases ends with
  | shutdown place | write _ place | error _ place | closed place | receiver _ place =>
      rw [place]
      rfl

/-- A connection ends for one reason. -/
theorem Ends.unique {s : ManagedLoop μ} {input : LoopInput μ} {reason other : String} (ends : Ends s input reason)
    (too : Ends s input other) : reason = other := by
  cases ends with
  | shutdown | error | closed | receiver =>
      cases too
      rfl
  | write frame place =>
      cases too with
      | write other place' =>
          have same := place.symm.trans place'
          injection same with same
          rw [same]

/-- Where a connection ends, no message is taken. -/
theorem Ends.taken {s : ManagedLoop μ} {input : LoopInput μ} {reason : String} (ends : Ends s input reason) :
    s.taken input = [] := by
  cases ends <;> rfl

/-- What is done then. -/
theorem Ends.step {s : ManagedLoop μ} {input : LoopInput μ} {reason : String} (ends : Ends s input reason)
    (config : WsConfig μ) : s.step config input = s.lost config reason := by
  cases ends with
  | shutdown place empty dropped => simp only [ManagedLoop.step, place, empty, dropped, if_true]
  | write frame place => simp only [ManagedLoop.step, place, if_neg Bool.false_ne_true]
  | error reason place | closed place => simp only [ManagedLoop.step, place, handleRead]
  | receiver message place dropped => simp only [ManagedLoop.step, place, dropped, if_true]

/-- The loop is at a place of the same kind. -/
structure SameStatus (s t : ManagedLoop μ) : Prop where
  phase : t.place.phase = s.place.phase
  status : t.status = s.status
  version : t.version = s.version
  connected : t.connected = s.connected
  totalRounds : t.totalRounds = s.totalRounds
  errorReason : t.errorReason = s.errorReason
  past : t.past = s.past

/-- What stays in a connection, an attempt, or the end. -/
structure Quiet (s : ManagedLoop μ) (input : LoopInput μ) (t : ManagedLoop μ) : Prop extends SameStatus s t where
  senderDropped : t.senderDropped = (input.isDropSender || s.senderDropped)
  receiverDropped : t.receiverDropped = (input.isDropReceiver || s.receiverDropped)
  queue : s.senderDropped = true → t.msgRx.length ≤ s.msgRx.length
  wire : s.place.phase ≠ .connection → t.wire = s.wire
  flow : t.flow = s.flow ++ s.taken input

/-- **What a step does.** -/
inductive StepCase (config : WsConfig μ) (s : ManagedLoop μ) (input : LoopInput μ) (t : ManagedLoop μ) : Prop where
  | quiet (same : Quiet s input t)
  | lost (reason : String) (ends : Ends s input reason) (result : t = s.lost config reason)
  | retry (number : ℕ) (here : s.place.phase = .attempt number) (nothing : s.taken input = [])
      (result : t = s.attempt config (number + 1))
  | anew (number : ℕ) (place : s.place = .connecting number) (connects : input = .connect true)
      (result : t = s.connectedAnew)

/-- An input that the task does not wait for. -/
theorem Quiet.refl (s : ManagedLoop μ) {input : LoopInput μ} (sender : input.isDropSender = false)
    (receiver : input.isDropReceiver = false) (nothing : s.taken input = []) : Quiet s input s where
  phase := rfl
  status := rfl
  version := rfl
  connected := rfl
  totalRounds := rfl
  errorReason := rfl
  past := rfl
  senderDropped := by rw [sender, Bool.false_or]
  receiverDropped := by rw [receiver, Bool.false_or]
  queue := fun _ => le_rfl
  wire := fun _ => rfl
  flow := by rw [nothing, List.append_nil]

/-- A step within a connection. -/
theorem Quiet.of_connection {s t : ManagedLoop μ} {input : LoopInput μ} (same : SameStatus s t)
    (here : s.place.phase = .connection) (sender : t.senderDropped = (input.isDropSender || s.senderDropped))
    (receiver : t.receiverDropped = (input.isDropReceiver || s.receiverDropped))
    (queue : t.msgRx.length ≤ s.msgRx.length) (flow : t.flow = s.flow ++ s.taken input) : Quiet s input t :=
  ⟨same, sender, receiver, fun _ => queue, fun other => absurd here other, flow⟩

/-- A message that is sent goes into the channel. -/
theorem step_send (s : ManagedLoop μ) (message : μ) : Quiet s (.send message) (s.step config (.send message)) := by
  cases accepted : s.accepts with
  | true =>
      have undropped : s.senderDropped = false := by
        rw [accepts, Bool.not_eq_true', Bool.or_eq_false_iff] at accepted
        exact accepted.1
      simp only [step, accepted, if_true]
      refine ⟨⟨rfl, rfl, rfl, rfl, rfl, rfl, rfl⟩, rfl, rfl, fun dropped => ?_, fun _ => rfl, ?_⟩
      · rw [undropped] at dropped
        cases dropped
      · simp only [ManagedLoop.flow, inFlight, taken, accepted, if_true, List.append_assoc]
  | false =>
      simp only [step, accepted, if_neg Bool.false_ne_true]
      exact .refl s rfl rfl (by simp only [taken, accepted, if_neg Bool.false_ne_true])

/-- The loop takes a message, or finds the channel closed. -/
theorem step_take (s : ManagedLoop μ) : StepCase config s .take (s.step config .take) := by
  cases place : s.place with
  | select =>
      cases queue : s.msgRx with
      | cons message rest =>
          refine .quiet ?_
          simp only [step, place, queue]
          refine .of_connection ⟨by rw [place]; rfl, rfl, rfl, rfl, rfl, rfl, rfl⟩
            (by rw [place]; rfl) rfl rfl (by rw [queue]; exact Nat.le_succ _) ?_
          simp only [ManagedLoop.flow, inFlight, place, queue, taken, LoopFrame.sentMessage, Option.toList_some,
            List.nil_append, List.append_nil, List.singleton_append]
      | nil =>
          cases dropped : s.senderDropped with
          | true =>
              refine .lost _ (.shutdown place queue dropped) ?_
              simp only [step, place, queue, dropped, if_true]
          | false =>
              refine .quiet ?_
              simp only [step, place, queue, dropped, if_neg Bool.false_ne_true]
              exact .refl s rfl rfl rfl
  | writing frame | delivering message | sleeping number | connecting number | ended =>
      refine .quiet ?_
      simp only [step, place]
      exact .refl s rfl rfl rfl

/-- The loop takes a tick. -/
theorem step_tick (s : ManagedLoop μ) : StepCase config s .tick (s.step config .tick) := by
  cases place : s.place with
  | select =>
      cases keepalive : config.keepalive with
      | some message =>
          refine .quiet ?_
          simp only [step, place, keepalive]
          refine .of_connection ⟨by rw [place]; rfl, rfl, rfl, rfl, rfl, rfl, rfl⟩
            (by rw [place]; rfl) rfl rfl le_rfl ?_
          simp only [ManagedLoop.flow, inFlight, place, taken, LoopFrame.sentMessage, Option.toList_none,
            List.nil_append, List.append_nil]
      | none =>
          refine .quiet ?_
          simp only [step, place, keepalive]
          exact .refl s rfl rfl rfl
  | writing frame | delivering message | sleeping number | connecting number | ended =>
      refine .quiet ?_
      simp only [step, place]
      exact .refl s rfl rfl rfl

/-- The loop takes what comes from the connection. -/
theorem step_read (s : ManagedLoop μ) (read : WsRead μ) :
    StepCase config s (.read read) (s.step config (.read read)) := by
  cases place : s.place with
  | select =>
      cases read with
      | message message =>
          refine .quiet ?_
          simp only [step, place, handleRead]
          refine .of_connection ⟨by rw [place]; rfl, rfl, rfl, rfl, rfl, rfl, rfl⟩
            (by rw [place]; rfl) rfl rfl le_rfl ?_
          simp only [ManagedLoop.flow, inFlight, place, taken, List.nil_append, List.append_nil]
      | pong =>
          refine .quiet ?_
          simp only [step, place, handleRead]
          exact .refl s rfl rfl rfl
      | error reason =>
          refine .lost _ (.error reason place) ?_
          simp only [step, place, handleRead]
      | closed =>
          refine .lost _ (.closed place) ?_
          simp only [step, place, handleRead]
  | writing frame | delivering message | sleeping number | connecting number | ended =>
      refine .quiet ?_
      simp only [step, place]
      exact .refl s rfl rfl rfl

/-- A frame was written, or not. -/
theorem step_written (s : ManagedLoop μ) (ok : Bool) :
    StepCase config s (.written ok) (s.step config (.written ok)) := by
  cases place : s.place with
  | writing frame =>
      cases ok with
      | true =>
          refine .quiet ?_
          simp only [step, place, if_true]
          refine .of_connection ⟨by rw [place]; rfl, rfl, rfl, rfl, rfl, rfl, rfl⟩
            (by rw [place]; rfl) rfl rfl le_rfl ?_
          have last : [frame].filterMap LoopFrame.sentMessage = frame.sentMessage.toList := by
            cases frame with
            | sent message | keepalive message => rfl
          simp only [ManagedLoop.flow, inFlight, place, taken, List.filterMap_append, last, List.append_assoc,
            List.nil_append, List.append_nil]
      | false =>
          refine .lost _ (.write frame place) ?_
          simp only [step, place, if_neg Bool.false_ne_true]
  | select | delivering message | sleeping number | connecting number | ended =>
      refine .quiet ?_
      simp only [step, place]
      exact .refl s rfl rfl rfl

/-- A message was delivered. -/
theorem step_delivered (s : ManagedLoop μ) : StepCase config s .delivered (s.step config .delivered) := by
  cases place : s.place with
  | delivering message =>
      cases dropped : s.receiverDropped with
      | true =>
          refine .lost _ (.receiver message place dropped) ?_
          simp only [step, place, dropped, if_true]
      | false =>
          refine .quiet ?_
          simp only [step, place, dropped, if_neg Bool.false_ne_true]
          refine .of_connection ⟨by rw [place]; rfl, rfl, rfl, rfl, rfl, rfl, rfl⟩
            (by rw [place]; rfl) rfl (by rw [dropped]; rfl) le_rfl ?_
          simp only [ManagedLoop.flow, inFlight, place, taken, List.nil_append, List.append_nil]
  | select | writing frame | sleeping number | connecting number | ended =>
      refine .quiet ?_
      simp only [step, place]
      exact .refl s rfl rfl rfl

/-- The delay of an attempt is over. -/
theorem step_slept (s : ManagedLoop μ) (built : Bool) :
    StepCase config s (.slept built) (s.step config (.slept built)) := by
  cases place : s.place with
  | sleeping number =>
      cases built with
      | true =>
          refine .quiet ?_
          simp only [step, place, if_true]
          refine ⟨⟨by rw [place]; rfl, rfl, rfl, rfl, rfl, rfl, rfl⟩, rfl, rfl, fun _ => le_rfl, fun _ => rfl, ?_⟩
          simp only [ManagedLoop.flow, inFlight, place, taken, List.nil_append, List.append_nil]
      | false =>
          refine .retry number (by rw [place]; rfl) rfl ?_
          simp only [step, place, if_neg Bool.false_ne_true]
  | select | writing frame | delivering message | connecting number | ended =>
      refine .quiet ?_
      simp only [step, place]
      exact .refl s rfl rfl rfl

/-- **The connection of an attempt is there**, or not. -/
theorem step_connect (s : ManagedLoop μ) (ok : Bool) :
    StepCase config s (.connect ok) (s.step config (.connect ok)) := by
  cases place : s.place with
  | connecting number =>
      cases ok with
      | true =>
          refine .anew number place rfl ?_
          simp only [step, place, if_true]
      | false =>
          refine .retry number (by rw [place]; rfl) rfl ?_
          simp only [step, place, if_neg Bool.false_ne_true]
  | select | writing frame | delivering message | sleeping number | ended =>
      refine .quiet ?_
      simp only [step, place]
      exact .refl s rfl rfl rfl

/-- **A step is one of four.** -/
theorem step_cases (s : ManagedLoop μ) (input : LoopInput μ) : StepCase config s input (s.step config input) := by
  cases input with
  | send message => exact .quiet (step_send config s message)
  | dropSender | dropReceiver =>
      exact .quiet ⟨⟨rfl, rfl, rfl, rfl, rfl, rfl, rfl⟩, rfl, rfl, fun _ => le_rfl, fun _ => rfl,
        (List.append_nil _).symm⟩
  | take => exact step_take config s
  | tick => exact step_tick config s
  | read read => exact step_read config s read
  | written ok => exact step_written config s ok
  | delivered => exact step_delivered config s
  | slept built => exact step_slept config s built
  | connect ok => exact step_connect config s ok

end ManagedLoop

end Feros
