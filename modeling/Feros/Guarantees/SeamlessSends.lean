import Feros.Providers.LoopSteps
import Feros.Library.Run
/-! # What is sent over a managed connection

The messages of the application are what was written to the connections, one after another, and then what
waits, as long as no connection ends while a message is being written, or as a shutdown with messages in the
channel. -/

namespace Feros

/-- **A connection, with what the application has sent.** -/
structure SentMessages (μ : Type*) where
  loop : ManagedLoop μ := {}
  /-- The messages that the channel took. -/
  sent : List μ := []

namespace SentMessages

open ManagedLoop

variable {μ : Type*}

/-- The messages that were written to the connections, one connection after another. -/
def written (v : SentMessages μ) : List μ :=
  v.loop.past.flatten.filterMap LoopFrame.sentMessage ++ v.loop.wire.filterMap LoopFrame.sentMessage

/-- **The messages are written in order, none is lost and none is written twice**: what was sent is what was
written, and then what still waits; and a loop that does not end for want of attempts leaves nothing. -/
structure Seamless (v : SentMessages μ) : Prop where
  inOrder : v.sent = v.written ++ (v.loop.inFlight ++ v.loop.msgRx)
  all : v.loop.place = .ended → intentional v.loop.errorReason = true → v.loop.msgRx = []

variable (config : WsConfig μ)

/-- A step of the connection, seen with what is sent. -/
def step (v : SentMessages μ) (input : LoopInput μ) : SentMessages μ where
  loop := v.loop.step config input
  sent := v.sent ++ v.loop.taken input

/-- **The condition**: when a connection ends, no message is being written, and if the reason reads like a
shutdown, none waits. -/
def Kept (v : SentMessages μ) (input : LoopInput μ) : Prop :=
  ∀ reason, Ends v.loop input reason →
    v.loop.inFlight = [] ∧ (intentional reason = true → v.loop.msgRx = [])

/-- The task reconnects only after a loss that was not intended. -/
def Unintended (v : SentMessages μ) : Prop :=
  v.loop.place.isReconnecting = true → intentional v.loop.errorReason = false

/-- What a run keeps. -/
structure Sound (v : SentMessages μ) : Prop where
  seamless : Seamless v
  unintended : Unintended v

/-- What was sent, by the messages of the connection. -/
theorem inOrder_iff (v : SentMessages μ) : v.sent = v.written ++ (v.loop.inFlight ++ v.loop.msgRx) ↔
    v.sent = v.loop.past.flatten.filterMap LoopFrame.sentMessage ++ v.loop.flow := by
  rw [written, flow, List.append_assoc]

variable {config} {v : SentMessages μ} {input : LoopInput μ}

/-- In the same phase, messages only move on. -/
theorem keeps_quiet (seamless : Seamless v) (unintended : Unintended v)
    (same : Quiet v.loop input (v.loop.step config input)) :
    (Seamless (v.step config input) ↔ Kept v input) ∧ Unintended (v.step config input) := by
  refine ⟨iff_of_true ⟨?_, ?_⟩ ?_, ?_⟩
  -- The order of what was taken does not change.
  · have before := (inOrder_iff v).1 seamless.inOrder
    rw [inOrder_iff]
    simp only [step]
    rw [before, same.past, same.flow, List.append_assoc]
  · intro ended intended
    simp only [step, same.errorReason] at ended intended ⊢
    -- A channel whose receiver is gone takes nothing.
    have there : v.loop.place = .ended := by
      have phase := same.phase
      rw [ended] at phase
      cases place : v.loop.place with
      | ended => rfl
      | select | writing frame | delivering message | sleeping number | connecting number =>
          rw [place] at phase
          cases phase
    have nothing : v.loop.taken input = [] := by
      cases input with
      | send message => simp only [taken, accepts, there, LoopPlace.isEnded, Bool.or_true, Bool.not_true,
          if_neg Bool.false_ne_true]
      | _ => rfl
    have flow := same.flow
    have away (place : LoopPlace μ) (ended : place = .ended) : place.phase ≠ .connection := by
      rw [ended]
      exact LoopPhase.noConfusion
    rw [nothing, List.append_nil, ManagedLoop.flow, ManagedLoop.flow, same.wire (away _ there),
      inFlight_of_phase (away _ there), inFlight_of_phase (away _ ended), seamless.all there intended] at flow
    exact List.append_cancel_left flow
  -- A quiet step loses no connection.
  · intro reason ends
    have phase := same.phase
    rw [ends.step config, ends.phase] at phase
    exact absurd phase (phase_lost config reason v.loop)
  -- It begins no reconnect either.
  · intro reconnecting
    simp only [step, same.errorReason]
    apply unintended
    cases place : v.loop.place with
    | sleeping number | connecting number => rfl
    | select | writing frame | delivering message | ended =>
        have phase := same.phase
        rw [place] at phase
        simp only [step] at reconnecting
        cases there : (v.loop.step config input).place with
        | sleeping number | connecting number =>
            rw [there] at phase
            cases phase
        | select | writing frame | delivering message | ended =>
            rw [there] at reconnecting
            cases reconnecting

/-- A connection ends. -/
theorem keeps_lost {reason : String} (seamless : Seamless v) (ends : Ends v.loop input reason) :
    (Seamless (v.step config input) ↔ Kept v input) ∧ Unintended (v.step config input) := by
  obtain ⟨same, -, errorReason, place⟩ := lost_spec config reason v.loop
  have still := inFlight_of_phase (phase_lost config reason v.loop)
  have only : Kept v input ↔ v.loop.inFlight = [] ∧ (intentional reason = true → v.loop.msgRx = []) := by
    constructor
    · intro kept
      exact kept reason ends
    · intro kept other too
      rw [← ends.unique too]
      exact kept
  have before := (inOrder_iff v).1 seamless.inOrder
  have inOrder : (v.step config input).sent =
      (v.step config input).written ++ ((v.step config input).loop.inFlight ++ (v.step config input).loop.msgRx) ↔
      v.loop.inFlight = [] := by
    rw [inOrder_iff]
    simp only [step, ends.step config, ends.taken, flow, same.past, same.wire, same.msgRx, still]
    rw [before, flow, List.append_nil, List.nil_append]
    simp only [List.append_cancel_left_eq, List.append_left_eq_self]
  rw [only]
  constructor
  · constructor
    · intro after
      refine ⟨inOrder.1 after.inOrder, fun intended => ?_⟩
      have all := after.all
      simp only [step, ends.step config, errorReason, same.msgRx] at all
      exact all (ended_of_intentional config intended) intended
    · rintro ⟨nothing, empty⟩
      refine ⟨inOrder.2 nothing, fun _ intended => ?_⟩
      simp only [step, ends.step config, errorReason, same.msgRx] at intended ⊢
      exact empty intended
  · intro reconnecting
    simp only [step, ends.step config, errorReason] at reconnecting ⊢
    rcases place with ⟨ended, -⟩ | ⟨unintended, -⟩
    · rw [ended] at reconnecting
      cases reconnecting
    · exact unintended

/-- An attempt ends. -/
theorem keeps_attempt {number : ℕ} (seamless : Seamless v) (unintended : Unintended v)
    (here : v.loop.place.phase = .attempt number) (nothing : v.loop.taken input = [])
    (past : (v.loop.step config input).past.flatten ++ (v.loop.step config input).wire =
      v.loop.past.flatten ++ v.loop.wire)
    (still : (v.loop.step config input).inFlight = []) (msgRx : (v.loop.step config input).msgRx = v.loop.msgRx)
    (errorReason : (v.loop.step config input).errorReason = v.loop.errorReason) :
    (Seamless (v.step config input) ↔ Kept v input) ∧ Unintended (v.step config input) := by
  have reconnecting : v.loop.place.isReconnecting = true := by
    cases place : v.loop.place with
    | sleeping number | connecting number => rfl
    | select | writing frame | delivering message | ended =>
        rw [place] at here
        cases here
  have reason := unintended reconnecting
  refine ⟨iff_of_true ⟨?_, ?_⟩ ?_, ?_⟩
  · have before := seamless.inOrder
    have quiet := inFlight_of_phase (s := v.loop) (by rw [here]; exact LoopPhase.noConfusion)
    rw [written, ← List.filterMap_append] at before ⊢
    simp only [step, past, still, msgRx, nothing, List.append_nil]
    rw [before, quiet]
  · intro _ intended
    simp only [step, errorReason, reason] at intended
    cases intended
  · intro reason ends
    rw [ends.phase] at here
    cases here
  · intro _
    simp only [step, errorReason]
    exact reason

/-- **What a step keeps.** -/
theorem keeps_step (config : WsConfig μ) (input : LoopInput μ) (seamless : Seamless v) (unintended : Unintended v) :
    (Seamless (v.step config input) ↔ Kept v input) ∧ Unintended (v.step config input) := by
  cases step_cases config v.loop input with
  | quiet same => exact keeps_quiet seamless unintended same
  | lost reason ends result => exact keeps_lost seamless ends
  | retry number here nothing result =>
      obtain ⟨same, -, -, errorReason, -⟩ := attempt_spec config (number + 1) v.loop
      have still := inFlight_of_phase (phase_attempt config (number + 1) v.loop)
      rw [← result] at same errorReason still
      apply keeps_attempt seamless unintended here nothing _ still same.msgRx errorReason
      rw [same.past, same.wire]
  | anew number place connects result =>
      have here : v.loop.place.phase = .attempt number := by
        rw [place]
        rfl
      have nothing : v.loop.taken input = [] := by
        rw [connects]
        rfl
      apply keeps_attempt seamless unintended here nothing
      · -- The connection before becomes one of the past.
        rw [result]
        simp only [connectedAnew, sendStatus, List.flatten_append, List.flatten_singleton, List.append_nil]
      · rw [result]
        rfl
      · rw [result]
        rfl
      · rw [result]
        rfl

/-- **Messages over reconnects.**  In every run the connection is seamless for the sender in every state
reached if and only if every step meets the condition. -/
theorem seamless_sends (config : WsConfig μ) (inputs : List (LoopInput μ)) :
    (∀ front, front <+: inputs → Seamless (Run.run (step config) {} front)) ↔
      Run.Along (step config) Kept {} inputs := by
  have start : Sound ({} : SentMessages μ) := by
    refine ⟨⟨rfl, ?_⟩, ?_⟩
    · intro ended
      cases ended
    · intro reconnecting
      cases reconnecting
  refine Run.good_iff_along (fun v (inv : Sound v) => inv.seamless) ?_ ?_ start inputs
  · rintro v input ⟨seamless, unintended⟩ kept
    have keeps := keeps_step config input seamless unintended
    exact ⟨keeps.1.2 kept, keeps.2⟩
  · rintro v input ⟨seamless, unintended⟩ missed after
    exact missed ((keeps_step config input seamless unintended).1.1 after)

/-- The first message is lost with the connection, and the second is written to the next one. -/
theorem not_seamless_of_writeError :
    ¬ ∀ inputs : List (LoopInput String), Seamless (Run.run (step ⟨none, 3, 5⟩) {} inputs) := by
  intro all
  have seamless := all [.send "first", .send "second", .take, .written false, .slept true, .connect true, .take,
    .written true]
  exact absurd seamless.inOrder (by decide)

end SentMessages

end Feros
