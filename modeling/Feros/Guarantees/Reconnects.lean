import Feros.Providers.LoopSteps
import Feros.Library.Progress
import Mathlib.Tactic.Ring
/-! # Reconnecting

How often the loop of a managed connection reconnects, when it ends, and what its flag and its status say.
Everything comes from `ManagedLoop.step_cases`. -/

namespace Feros

namespace ManagedLoop

variable {μ : Type*} (config : WsConfig μ)

/-! ## Flag and status -/

/-- **The flag and the status agree**, and say in what phase the loop is. -/
def Truthful (s : ManagedLoop μ) : Prop :=
  match s.place.phase with
  | .connection => s.status = .connected ∧ s.connected = true
  | .attempt _ => (∃ number, s.status = .reconnecting number) ∧ s.connected = false
  | .ended => (∃ reason, s.status = .disconnected reason) ∧ s.connected = false

/-- An attempt of a loop that is not connected tells the truth. -/
theorem truthful_attempt {number : ℕ} {s : ManagedLoop μ} (off : s.connected = false) :
    Truthful (s.attempt config number) := by
  obtain ⟨-, connected, -, -, ⟨-, place, status⟩ | ⟨place, status⟩⟩ := attempt_spec config number s
  · rw [Truthful, place]
    exact ⟨⟨number, status⟩, connected.trans off⟩
  · rw [Truthful, place]
    exact ⟨status, connected.trans off⟩

/-- **A step tells the truth**: the flag and the status agree behind it. -/
theorem truthful_step (s : ManagedLoop μ) (input : LoopInput μ) (truthful : Truthful s) :
    Truthful (s.step config input) := by
  cases step_cases config s input with
  | quiet same =>
      rw [Truthful, same.phase, same.status, same.connected]
      exact truthful
  | lost reason ends result =>
      obtain ⟨-, connected, -, ⟨place, status⟩ | ⟨-, -, -, -, place, status⟩⟩ := lost_spec config reason s
      · rw [result, Truthful, place]
        exact ⟨status, connected⟩
      · rw [result, Truthful, place]
        exact ⟨⟨1, status⟩, connected⟩
  | retry number here nothing result =>
      rw [Truthful, here] at truthful
      rw [result]
      exact truthful_attempt config truthful.2
  | anew number place connects result =>
      rw [result]
      exact ⟨rfl, rfl⟩

/-- What the flag and the status say. -/
theorem Truthful.agree {s : ManagedLoop μ} (truthful : Truthful s) :
    (s.connected = true ↔ s.status = .connected) ∧
      (s.place = .ended → s.connected = false ∧ ∃ reason, s.status = .disconnected reason) := by
  unfold Truthful at truthful
  constructor
  · cases phase : s.place.phase with
    | connection =>
        rw [phase] at truthful
        exact iff_of_true truthful.2 truthful.1
    | attempt number =>
        rw [phase] at truthful
        obtain ⟨⟨attempt, status⟩, off⟩ := truthful
        rw [off, status]
        exact iff_of_false Bool.false_ne_true (by rintro ⟨⟩)
    | ended =>
        rw [phase] at truthful
        obtain ⟨⟨reason, status⟩, off⟩ := truthful
        rw [off, status]
        exact iff_of_false Bool.false_ne_true (by rintro ⟨⟩)
  · intro ended
    rw [ended] at truthful
    exact truthful.symm

/-! ## The potential -/

/-- The number of rounds is limited: the count of the rounds does not wrap before the limit. -/
def Limited : Prop := config.maxTotalReconnectRounds.toNat < 2 ^ 32 - 1 ∨ config.maxReconnectAttempts = 0

/-- How many connections and attempts are left. -/
def left (s : ManagedLoop μ) : ℕ :=
  let rounds := (config.maxTotalReconnectRounds.toNat - s.totalRounds.toNat) * (config.maxReconnectAttempts + 1)
  match s.place.phase with
  | .connection => rounds + 1
  | .attempt number => rounds + 1 + (config.maxReconnectAttempts + 1 - number)
  | .ended => 0

/-- The rounds and the attempts are within their limits. -/
def Within (s : ManagedLoop μ) : Prop :=
  match s.place.phase with
  | .connection => s.totalRounds.toNat ≤ config.maxTotalReconnectRounds.toNat
  | .attempt number => s.totalRounds.toNat ≤ config.maxTotalReconnectRounds.toNat ∧
      number ≤ config.maxReconnectAttempts
  | .ended => True

variable {config}

/-- A new round is counted. -/
theorem toNat_totalRounds {s : ManagedLoop μ} (limited : Limited config) (some : config.maxReconnectAttempts ≠ 0)
    (within : s.totalRounds.toNat ≤ config.maxTotalReconnectRounds.toNat) :
    (s.totalRounds + 1).toNat = s.totalRounds.toNat + 1 := by
  have few := limited.resolve_right some
  rw [UInt32.toNat_add]
  apply Nat.mod_eq_of_lt
  have one : (1 : UInt32).toNat = 1 := rfl
  omega

/-- **A step uses up what is left**, and stays within the limits. -/
theorem left_step (limited : Limited config) (s : ManagedLoop μ) (input : LoopInput μ) (within : Within config s) :
    Within config (s.step config input) ∧
      ((s.step config input).place.phase = s.place.phase ∧ left config (s.step config input) = left config s ∨
        left config (s.step config input) < left config s) := by
  cases step_cases config s input with
  | quiet same =>
      unfold Within left at *
      rw [same.phase, same.totalRounds]
      exact ⟨within, .inl ⟨rfl, rfl⟩⟩
  | lost reason ends result =>
      rw [result]
      unfold Within left at *
      rw [ends.phase] at within ⊢
      dsimp only at within ⊢
      obtain ⟨-, -, -, ⟨place, -⟩ | ⟨-, some, rounds, more, place, -⟩⟩ := lost_spec config reason s
      · rw [place]
        exact ⟨trivial, .inr (Nat.succ_pos _)⟩
      · rw [place, rounds]
        have count := toNat_totalRounds limited some within
        -- One round more is used, and a round is worth all its attempts.
        have bound : s.totalRounds.toNat + 1 ≤ config.maxTotalReconnectRounds.toNat := by
          rw [UInt32.lt_iff_toNat_lt, count] at more
          omega
        have fewer : config.maxTotalReconnectRounds.toNat - s.totalRounds.toNat =
            (config.maxTotalReconnectRounds.toNat - (s.totalRounds + 1).toNat) + 1 := by
          rw [count]
          omega
        refine ⟨⟨by rw [count]; exact bound, by omega⟩, .inr ?_⟩
        dsimp only [LoopPlace.phase]
        rw [fewer, Nat.succ_mul]
        omega
  | retry number here nothing result =>
      rw [result]
      unfold Within left at *
      rw [here] at within ⊢
      dsimp only at within ⊢
      obtain ⟨-, -, rounds, -, ⟨more, place, -⟩ | ⟨place, -⟩⟩ := attempt_spec config (number + 1) s
      -- The next attempt of the round, or the end.
      · rw [place, rounds]
        exact ⟨⟨within.1, more⟩, .inr (by dsimp only [LoopPlace.phase]; omega)⟩
      · rw [place]
        exact ⟨trivial, .inr (by dsimp only [LoopPlace.phase]; omega)⟩
  | anew number place connects result =>
      have here : s.place.phase = .attempt number := by
        rw [place]
        rfl
      rw [result]
      unfold Within left at *
      rw [here] at within ⊢
      dsimp only at within ⊢
      exact ⟨within.1, .inr (by dsimp only [connectedAnew, sendStatus, LoopPlace.phase]; omega)⟩

/-! ## When the loop ends -/

/-- **Every connection drops and every attempt comes to an end.** -/
def EveryPhaseEnds (s : ℕ → ManagedLoop μ) : Prop :=
  ∀ n, (s n).place.phase ≠ .ended → ∃ m, n ≤ m ∧ (s m).place.phase ≠ (s n).place.phase

/-- Every attempt comes to an end, and the `select!` comes to the channel of the messages again and again. -/
def Served (s : ℕ → ManagedLoop μ) (inputs : ℕ → LoopInput μ) : Prop :=
  ∀ n, (s n).place.phase ≠ .ended →
    ∃ m, n ≤ m ∧ ((s m).place.phase ≠ (s n).place.phase ∨ (s m).place = .select ∧ inputs m = .take)

variable (inputs : ℕ → LoopInput μ)

/-- A limited loop stays within its limits. -/
theorem within_states (limited : Limited config) (n : ℕ) :
    Within config (Run.states (step config) {} inputs n) :=
  Run.states_invariant (fun s input within => (left_step limited s input within).1) (Nat.zero_le _) inputs n

/-- **What is left never grows.** -/
theorem left_states (limited : Limited config) (n : ℕ) :
    left config (Run.states (step config) {} inputs (n + 1)) ≤ left config (Run.states (step config) {} inputs n) := by
  rcases (left_step limited _ (inputs n) (within_states inputs limited n)).2 with ⟨-, same⟩ | less
  · exact same.le
  · exact less.le

/-- Another phase is there only when less is left. -/
theorem left_of_phase (limited : Limited config) {n m : ℕ} (later : n ≤ m)
    (other : (Run.states (step config) {} inputs m).place.phase ≠ (Run.states (step config) {} inputs n).place.phase) :
    left config (Run.states (step config) {} inputs m) < left config (Run.states (step config) {} inputs n) := by
  induction m, later using Nat.le_induction with
  | base => exact absurd rfl other
  | succ m there ih =>
      have within := within_states inputs limited m
      rcases (left_step limited _ (inputs m) within).2 with ⟨phase, same⟩ | less
      · rw [Run.states_succ, phase] at other
        rw [Run.states_succ, same]
        exact ih other
      · have before := Run.potential_le (left config) (fun k _ => left_states inputs limited k) (Nat.zero_le n) there
        exact less.trans_le before

/-- **A loop whose connections drop ends.** -/
theorem ends_of_phases (limited : Limited config) (drops : EveryPhaseEnds (Run.states (step config) {} inputs)) :
    ∃ n, (Run.states (step config) {} inputs n).place.phase = .ended := by
  obtain ⟨n, -, ended⟩ := Run.reaches (Run.states (step config) {} inputs) (fun s => s.place.phase = .ended)
    (left config) 0 (fun n _ running => by
      obtain ⟨m, later, other⟩ := drops n running
      exact ⟨m, later, .inr (left_of_phase inputs limited later other)⟩)
  exact ⟨n, ended⟩

/-- What a step does to the channel after `msg_tx` was dropped. -/
theorem queue_step {s : ManagedLoop μ} (input : LoopInput μ) (dropped : s.senderDropped = true) :
    (s.step config input).senderDropped = true ∧ (s.step config input).msgRx.length ≤ s.msgRx.length := by
  cases step_cases config s input with
  | quiet same =>
      rw [same.senderDropped, dropped, Bool.or_true]
      exact ⟨rfl, same.queue dropped⟩
  | lost reason ends result =>
      obtain ⟨same, -⟩ := lost_spec config reason s
      rw [result, same.senderDropped, same.msgRx]
      exact ⟨dropped, le_rfl⟩
  | retry number here nothing result =>
      obtain ⟨same, -⟩ := attempt_spec config (number + 1) s
      rw [result, same.senderDropped, same.msgRx]
      exact ⟨dropped, le_rfl⟩
  | anew number place connects result =>
      rw [result]
      exact ⟨dropped, le_rfl⟩

/-- **A loop whose `msg_tx` was dropped ends.** -/
theorem ends_of_sender (limited : Limited config) {n : ℕ}
    (dropped : (Run.states (step config) {} inputs n).senderDropped = true)
    (served : Served (Run.states (step config) {} inputs) inputs) :
    ∃ n, (Run.states (step config) {} inputs n).place.phase = .ended := by
  have stays {m : ℕ} (later : n ≤ m) : (Run.states (step config) {} inputs m).senderDropped = true :=
    Run.states_stable (fun s : ManagedLoop μ => s.senderDropped = true)
      (fun s input here => (queue_step input here).1) dropped later
  have falls (m : ℕ) (later : n ≤ m) : (Run.states (step config) {} inputs (m + 1)).msgRx.length ≤
      (Run.states (step config) {} inputs m).msgRx.length := (queue_step (inputs m) (stays later)).2
  obtain ⟨m, -, ended⟩ := Run.reaches (Run.states (step config) {} inputs) (fun s => s.place.phase = .ended)
    (fun s => left config s + s.msgRx.length) n (fun m late running => by
      obtain ⟨k, later, other | ⟨place, take⟩⟩ := served m running
      · have less := left_of_phase inputs limited later other
        have queue := Run.potential_le (fun s : ManagedLoop μ => s.msgRx.length) falls late later
        exact ⟨k, later, .inr (Nat.add_lt_add_of_lt_of_le less queue)⟩
      · have within := Run.potential_le (left config) (fun k _ => left_states inputs limited k) (Nat.zero_le m) later
        have shorter := Run.potential_le (fun s : ManagedLoop μ => s.msgRx.length) falls late later
        refine ⟨k + 1, later.trans k.le_succ, ?_⟩
        rw [Run.states_succ, take]
        cases queue : (Run.states (step config) {} inputs k).msgRx with
        | nil =>
            -- The channel is closed.
            refine .inl ?_
            simp only [step, place, queue, stays (late.trans later), if_true]
            rw [ended_of_intentional config (by decide)]
            rfl
        | cons message rest =>
            refine .inr ?_
            have after : left config ((Run.states (step config) {} inputs k).step config .take) ≤
                left config (Run.states (step config) {} inputs k) := by
              have same := left_states inputs limited k
              rw [Run.states_succ, take] at same
              exact same
            have rest : ((Run.states (step config) {} inputs k).step config .take).msgRx.length <
                (Run.states (step config) {} inputs k).msgRx.length := by
              simp only [step, place, queue]
              exact Nat.lt_succ_self _
            omega)
  exact ⟨m, ended⟩

/-- A loop whose `incoming_rx` was dropped ends at the next message. -/
theorem ends_of_receiver {n : ℕ} {message : μ}
    (place : (Run.states (step config) {} inputs n).place = .delivering message) (delivered : inputs n = .delivered)
    (dropped : (Run.states (step config) {} inputs n).receiverDropped = true) :
    (Run.states (step config) {} inputs (n + 1)).place.phase = .ended := by
  rw [Run.states_succ, delivered]
  simp only [step, place, dropped, if_true]
  rw [ended_of_intentional config (by decide)]
  rfl

end ManagedLoop

/-! ## Attempts -/

/-- **A connection, with its attempts to reconnect.** -/
structure ReconnectLog (μ : Type*) where
  loop : ManagedLoop μ := {}
  attempts : ℕ := 0
  /-- The loop went on with an attempt, or connected, after the application had dropped a channel. -/
  late : Bool := false

/-- A place of an attempt, and whether the connection was asked for. -/
def LoopPlace.stage {μ : Type*} : LoopPlace μ → Option (ℕ × Bool)
  | sleeping number => some (number, false)
  | connecting number => some (number, true)
  | select | writing _ | delivering _ | ended => none

namespace ReconnectLog

open ManagedLoop

variable {μ : Type*} (config : WsConfig μ)

/-- The application has dropped a channel. -/
def dropped (s : ManagedLoop μ) : Bool := s.senderDropped || s.receiverDropped

/-- An attempt begins. -/
def begins (before after : LoopPlace μ) : Bool :=
  match after.phase with
  | .attempt _ => decide (after.phase ≠ before.phase)
  | .connection | .ended => false

/-- An attempt begins, asks for a connection, or gets one. -/
def reconnects (before after : LoopPlace μ) : Bool :=
  decide (after.stage ≠ before.stage) && (after.isReconnecting || after.hasConnection)

/-- A step of the connection, seen with its attempts. -/
def step (v : ReconnectLog μ) (input : LoopInput μ) : ReconnectLog μ where
  loop := v.loop.step config input
  attempts := if begins v.loop.place (v.loop.step config input).place then v.attempts + 1 else v.attempts
  late := v.late || (reconnects v.loop.place (v.loop.step config input).place && dropped v.loop)

/-- The attempts are counted by the rounds. -/
def Counted (v : ReconnectLog μ) : Prop :=
  match v.loop.place.phase with
  | .connection => v.attempts ≤ v.loop.totalRounds.toNat * config.maxReconnectAttempts
  | .attempt number =>
    v.attempts + config.maxReconnectAttempts ≤ v.loop.totalRounds.toNat * config.maxReconnectAttempts + number
  | .ended => v.attempts ≤ config.maxTotalReconnectRounds.toNat * config.maxReconnectAttempts

variable {config}

/-- In every phase there is room. -/
theorem Counted.bound {v : ReconnectLog μ} (counted : Counted config v) (within : Within config v.loop) :
    v.attempts ≤ config.maxTotalReconnectRounds.toNat * config.maxReconnectAttempts := by
  unfold Counted at counted
  unfold Within at within
  cases phase : v.loop.place.phase with
  | connection =>
      rw [phase] at counted within
      exact counted.trans (Nat.mul_le_mul_right _ within)
  | attempt number =>
      rw [phase] at counted within
      dsimp only at counted within
      have room := Nat.mul_le_mul_right config.maxReconnectAttempts within.1
      omega
  | ended =>
      rw [phase] at counted
      exact counted

/-- **A step counts the attempts** by the rounds. -/
theorem counted_step (limited : Limited config) (v : ReconnectLog μ) (input : LoopInput μ)
    (counted : Counted config v) (within : Within config v.loop) : Counted config (v.step config input) := by
  have bound := counted.bound within
  cases step_cases config v.loop input with
  | quiet same =>
      -- No attempt begins.
      have none : begins v.loop.place (v.loop.step config input).place = false := by
        unfold begins
        rw [same.phase]
        split <;> simp
      unfold Counted step at *
      dsimp only at *
      rw [none, same.phase, same.totalRounds, if_neg Bool.false_ne_true]
      exact counted
  | lost reason ends result =>
      have phase := ends.phase
      unfold Counted step at *
      unfold Within at within
      rw [phase] at counted within
      dsimp only at *
      rw [result]
      -- The connection was lost for good, or the first attempt of a new round begins.
      obtain ⟨-, -, -, ⟨place, -⟩ | ⟨-, some, rounds, more, place, -⟩⟩ := lost_spec config reason v.loop
      · rw [place]
        exact bound
      · have count := toNat_totalRounds limited some within
        rw [place, rounds, count]
        have one : begins v.loop.place (.sleeping 1) = true := by
          unfold begins
          rw [phase]
          rfl
        dsimp only [LoopPlace.phase]
        rw [one, if_pos rfl, Nat.succ_mul]
        omega
  | retry number here nothing result =>
      unfold Counted step at *
      rw [here] at counted
      unfold Within at within
      rw [here] at within
      dsimp only at *
      rw [result]
      -- The next attempt of the round begins, or the loop gives up.
      obtain ⟨-, -, rounds, -, ⟨more, place, -⟩ | ⟨place, -⟩⟩ := attempt_spec config (number + 1) v.loop
      · have one : begins v.loop.place (.sleeping (number + 1)) = true := by
          unfold begins
          rw [here]
          simp [LoopPlace.phase]
        rw [place, rounds]
        dsimp only [LoopPlace.phase]
        rw [one, if_pos rfl]
        omega
      · rw [place]
        exact bound
  | anew number place connects result =>
      -- The attempt succeeded, it was counted when it began.
      have here : v.loop.place.phase = .attempt number := by
        rw [place]
        rfl
      unfold Counted step at *
      rw [here] at counted
      unfold Within at within
      rw [here] at within
      dsimp only at *
      rw [result]
      show v.attempts ≤ v.loop.totalRounds.toNat * config.maxReconnectAttempts
      omega

/-- **The attempts are bounded.** -/
theorem attempts_le (limited : Limited config) (inputs : List (LoopInput μ)) :
    (Run.run (step config) {} inputs).attempts ≤
      config.maxTotalReconnectRounds.toNat * config.maxReconnectAttempts := by
  have preserved : ∀ v input, Counted config v ∧ Within config v.loop →
      Counted config (step config v input) ∧ Within config (step config v input).loop :=
    fun v input inv => ⟨counted_step limited v input inv.1 inv.2, (left_step limited v.loop input inv.2).1⟩
  have start : Counted config ({} : ReconnectLog μ) ∧ Within config ({} : ReconnectLog μ).loop :=
    ⟨Nat.zero_le _, Nat.zero_le _⟩
  have inv := Run.invariant_of_step preserved start inputs
  exact inv.1.bound inv.2

/-- One round: the connection is closed, and the first attempt succeeds. -/
def round : List (LoopInput μ) := [.read .closed, .slept true, .connect true]

/-- Without a limit every round is followed by another. -/
theorem attempts_rounds (unlimited : ¬ Limited config) (rounds : ℕ) :
    (Run.run (step config) {} (List.replicate rounds round).flatten).attempts = rounds ∧
      (Run.run (step config) {} (List.replicate rounds round).flatten).loop.place = .select := by
  unfold Limited at unlimited
  push Not at unlimited
  induction rounds with
  | zero => exact ⟨rfl, rfl⟩
  | succ rounds ih =>
      rw [List.replicate_succ', List.flatten_append, List.flatten_singleton, Run.run_append]
      generalize Run.run (step config) {} (List.replicate rounds round).flatten = v at ih
      obtain ⟨attempts, place⟩ := ih
      -- The limit is the greatest number there is.
      have never : ¬ config.maxTotalReconnectRounds < v.loop.totalRounds + 1 := by
        rw [UInt32.lt_iff_toNat_lt]
        have bound := (v.loop.totalRounds + 1).toNat_lt
        omega
      have some : 1 ≤ config.maxReconnectAttempts := Nat.pos_of_ne_zero unlimited.2
      have closed : v.loop.step config (.read .closed) = v.loop.lost config "connection closed by server" := by
        simp only [ManagedLoop.step, place, handleRead]
      have there : (v.loop.lost config "connection closed by server").place = .sleeping 1 := by
        unfold lost
        dsimp only
        rw [if_neg (by decide)]
        unfold reconnect
        dsimp only
        rw [if_neg unlimited.2, if_neg never]
        unfold attempt
        rw [if_pos some]
      unfold round
      simp only [Run.run_cons, Run.run_nil, step, closed, there, place]
      generalize v.loop.lost config "connection closed by server" = s at there
      simp [ManagedLoop.step, there, begins, LoopPlace.phase, connectedAnew, attempts]

/-! ## After the application has dropped a channel -/

/-- **The condition**: the application drops no channel while the loop tries to reconnect, and no connection
ends for another reason than a shutdown when a channel is dropped. -/
def Undisturbed (v : ReconnectLog μ) (input : LoopInput μ) : Prop :=
  ((input.isDropSender || input.isDropReceiver) = true → v.loop.place.isReconnecting = false) ∧
    ∀ reason, Ends v.loop input reason → intentional reason = false → dropped v.loop = false

/-- The loop reconnects only for an application that uses it. -/
structure InTime (v : ReconnectLog μ) : Prop where
  late : v.late = false
  inUse : v.loop.place.isReconnecting = true → dropped v.loop = false

/-- A place that reconnects is one in an attempt. -/
theorem isReconnecting_iff {place : LoopPlace μ} :
    place.isReconnecting = true ↔ ∃ number, place.phase = .attempt number := by
  cases place with
  | sleeping number | connecting number => exact iff_of_true rfl ⟨number, rfl⟩
  | select | writing frame | delivering message | ended =>
      exact iff_of_false Bool.false_ne_true (by rintro ⟨_, ⟨⟩⟩)

/-- Only what happens around an attempt is a reconnect. -/
theorem reconnects_phase {before after : LoopPlace μ} (happens : reconnects before after = true) :
    before.isReconnecting = true ∨ after.isReconnecting = true := by
  cases before with
  | sleeping number | connecting number => exact .inl rfl
  | select | writing frame | delivering message | ended =>
      cases after with
      | sleeping number | connecting number => exact .inr rfl
      | select | writing frame | delivering message | ended =>
          exact absurd happens (by simp [reconnects, LoopPlace.stage])

/-- **Under the condition, no attempt is made for an application that has dropped a channel.** -/
theorem inTime_step (v : ReconnectLog μ) (input : LoopInput μ) (inTime : InTime v) (undisturbed : Undisturbed v input) :
    InTime (v.step config input) := by
  have before (number : ℕ) (here : v.loop.place.phase = .attempt number) : dropped v.loop = false :=
    inTime.inUse (isReconnecting_iff.2 ⟨number, here⟩)
  -- Both channels are there before the step and behind it.
  have inUse : (v.step config input).loop.place.isReconnecting = true →
      dropped v.loop = false ∧ dropped (v.step config input).loop = false := by
    intro reconnecting
    change (v.loop.step config input).place.isReconnecting = true at reconnecting
    change dropped v.loop = false ∧ dropped (v.loop.step config input) = false
    cases step_cases config v.loop input with
    | quiet same =>
        -- A channel that is dropped here would be dropped in time.
        obtain ⟨number, phase⟩ := isReconnecting_iff.1 reconnecting
        rw [same.phase] at phase
        have here := before number phase
        refine ⟨here, ?_⟩
        have noDrop : (input.isDropSender || input.isDropReceiver) = false := by
          by_contra drops
          have there := undisturbed.1 (Bool.eq_true_of_not_eq_false drops)
          rw [isReconnecting_iff.2 ⟨number, phase⟩] at there
          cases there
        obtain ⟨noSender, noReceiver⟩ := Bool.or_eq_false_iff.1 noDrop
        rw [dropped, same.senderDropped, same.receiverDropped, noSender, noReceiver]
        exact here
    | lost reason ends result =>
        rw [result] at reconnecting ⊢
        obtain ⟨same, -, -, ⟨place, -⟩ | ⟨unintended, -⟩⟩ := lost_spec config reason v.loop
        · rw [place] at reconnecting
          cases reconnecting
        -- The connection was lost with both channels in use.
        · have here := undisturbed.2 reason ends unintended
          refine ⟨here, ?_⟩
          rw [dropped, same.senderDropped, same.receiverDropped]
          exact here
    | retry number here nothing result =>
        rw [result]
        obtain ⟨same, -⟩ := attempt_spec config (number + 1) v.loop
        refine ⟨before number here, ?_⟩
        rw [dropped, same.senderDropped, same.receiverDropped]
        exact before number here
    | anew number place connects result =>
        rw [result] at reconnecting
        cases reconnecting
  refine ⟨?_, fun reconnecting => (inUse reconnecting).2⟩
  unfold step
  rw [inTime.late, Bool.false_or, Bool.and_eq_false_iff]
  by_cases happens : reconnects v.loop.place (v.loop.step config input).place = true
  · rcases reconnects_phase happens with here | there
    · exact .inr (inTime.inUse here)
    · exact .inr (inUse there).1
  · exact .inl (Bool.eq_false_iff.2 happens)

/-- **Reconnecting.**  The attempts are bounded by the limits if and only if the count of the rounds cannot
wrap before its limit; an application that meets the condition is never reconnected after it has dropped a
channel; the flag and the status agree wherever the loop waits; and the loop ends if every connection drops
and every attempt comes to an end, if `msg_tx` is dropped and the loop serves its channel, or if a message
is delivered after `incoming_rx` was dropped. -/
theorem managed_reconnects (config : WsConfig μ) :
    ((∀ inputs, (Run.run (step config) {} inputs).attempts ≤
      config.maxTotalReconnectRounds.toNat * config.maxReconnectAttempts) ↔ Limited config) ∧
    (∀ inputs, Run.Along (step config) Undisturbed {} inputs → (Run.run (step config) {} inputs).late = false) ∧
    (∀ inputs, let loop := (Run.run (step config) {} inputs).loop
      (loop.connected = true ↔ loop.status = .connected) ∧
        (loop.place = .ended → loop.connected = false ∧ ∃ reason, loop.status = .disconnected reason)) ∧
    (∀ inputs : ℕ → LoopInput μ, let loops := Run.states (ManagedLoop.step config) {} inputs
      Limited config ∧ EveryPhaseEnds loops ∨
        Limited config ∧ (∃ n, (loops n).senderDropped = true) ∧ Served loops inputs ∨
        (∃ n message, (loops n).receiverDropped = true ∧ (loops n).place = .delivering message ∧
          inputs n = .delivered) →
      ∃ n, (loops n).place.phase = .ended) := by
  refine ⟨⟨?_, fun limited inputs => attempts_le limited inputs⟩, ?_, ?_, ?_⟩
  · intro bounded
    by_contra unlimited
    -- One round more than there may be attempts.
    have more := bounded (List.replicate
      (config.maxTotalReconnectRounds.toNat * config.maxReconnectAttempts + 1) round).flatten
    rw [(attempts_rounds unlimited _).1] at more
    omega
  · intro inputs undisturbed
    have start : InTime ({} : ReconnectLog μ) := ⟨rfl, fun _ => rfl⟩
    exact (Run.invariant inTime_step start undisturbed).late
  · intro inputs
    have preserved (v : ReconnectLog μ) (input : LoopInput μ) (truthful : Truthful v.loop) :
        Truthful (v.step config input).loop := truthful_step config v.loop input truthful
    have start : Truthful ({} : ReconnectLog μ).loop := ⟨rfl, rfl⟩
    have truthful := Run.invariant_of_step preserved start inputs
    exact truthful.agree
  · rintro inputs loops
      (⟨limited, drops⟩ | ⟨limited, ⟨n, sender⟩, served⟩ | ⟨n, message, receiver, place, delivered⟩)
    · exact ends_of_phases inputs limited drops
    · exact ends_of_sender inputs limited sender served
    · exact ⟨n + 1, ends_of_receiver inputs place delivered receiver⟩

/-- As long as the application drops no channel, a step meets the condition. -/
theorem undisturbed_of_inUse {μ : Type*} {v : ReconnectLog μ} {input : LoopInput μ} (use : dropped v.loop = false)
    (keeps : (input.isDropSender || input.isDropReceiver) = false) : Undisturbed v input := by
  refine ⟨fun drops => ?_, fun _ _ _ => use⟩
  rw [keeps] at drops
  cases drops

/-- One message is kept for one reconnection: an attempt fails, the next one connects, and the application drops
`msg_tx` when the message is written. -/
def served : List (LoopInput String) :=
  [.send "a", .read .closed, .slept true, .connect false, .slept true, .connect true, .take, .written true,
    .dropSender, .take]

/-- Nothing is dropped while the loop reconnects, and it ends because of the drop. -/
theorem served_undisturbed : Run.Along (step ⟨none, 3, 5⟩) Undisturbed {} served := by
  refine ⟨undisturbed_of_inUse rfl rfl, undisturbed_of_inUse rfl rfl, undisturbed_of_inUse rfl rfl,
    undisturbed_of_inUse rfl rfl, undisturbed_of_inUse rfl rfl, undisturbed_of_inUse rfl rfl,
    undisturbed_of_inUse rfl rfl, undisturbed_of_inUse rfl rfl, ⟨fun _ => rfl, ?_⟩, ⟨?_, ?_⟩, trivial⟩
  · rintro reason ⟨⟩
  · rintro ⟨⟩
  · intro reason ends unintended
    cases ends
    exact absurd unintended (by decide)

/-- A finite run, and ticks afterwards. -/
def thenTicks (inputs : List (LoopInput String)) (n : ℕ) : LoopInput String := inputs.getD n .tick

/-- A loop that has ended stays so. -/
theorem ended_later {config : WsConfig String} {inputs : ℕ → LoopInput String} {n m : ℕ}
    (ended : (Run.states (ManagedLoop.step config) {} inputs n).place.phase = .ended) (later : n ≤ m) :
    (Run.states (ManagedLoop.step config) {} inputs m).place.phase = .ended := by
  refine Run.states_stable (fun s : ManagedLoop String => s.place.phase = .ended) (fun s input here => ?_) ended later
  cases step_cases config s input with
  | quiet same => exact same.phase.trans here
  | lost reason ends =>
      rw [ends.phase] at here
      cases here
  | retry number there =>
      rw [there] at here
      cases here
  | anew number place =>
      rw [place] at here
      cases here

/-- Two connections are closed by the server, and no round is left for a third. -/
def closings : List (LoopInput String) := [.read .closed, .slept true, .connect true, .read .closed]

/-- Every phase of the loop ends. -/
theorem closings_end : EveryPhaseEnds (Run.states (ManagedLoop.step ⟨none, 1, 1⟩) {} (thenTicks closings)) := by
  intro n running
  have ended : (Run.states (ManagedLoop.step ⟨none, 1, 1⟩) {} (thenTicks closings) 4).place.phase = .ended := by decide
  refine ⟨max n 4, Nat.le_max_left n 4, fun same => running ?_⟩
  rw [← same, ended_later ended (Nat.le_max_right n 4)]

/-- The application sends a message and drops `msg_tx`, and the loop writes the message before it sees that. -/
def farewell : List (LoopInput String) := [.send "a", .dropSender, .take, .written true, .take]

/-- The loop serves its channel, and every phase ends. -/
theorem farewell_served :
    Served (Run.states (ManagedLoop.step ⟨none, 3, 5⟩) {} (thenTicks farewell)) (thenTicks farewell) := by
  intro n running
  have ended : (Run.states (ManagedLoop.step ⟨none, 3, 5⟩) {} (thenTicks farewell) 5).place.phase = .ended := by decide
  refine ⟨max n 5, Nat.le_max_left n 5, .inl fun same => running ?_⟩
  rw [← same, ended_later ended (Nat.le_max_right n 5)]

/-- The application drops `incoming_rx`, and a message arrives. -/
def unheard : List (LoopInput String) := [.dropReceiver, .read (.message "a"), .delivered]

/-- Each of the runs meets one of the conditions: the first makes no late attempt, and the others end. -/
theorem managed_reconnects_runs :
    (Run.run (step ⟨none, 3, 5⟩) {} served).late = false ∧
    (∃ n, (Run.states (ManagedLoop.step ⟨none, 1, 1⟩) {} (thenTicks closings) n).place.phase = .ended) ∧
    (∃ n, (Run.states (ManagedLoop.step ⟨none, 3, 5⟩) {} (thenTicks farewell) n).place.phase = .ended) ∧
    ∃ n, (Run.states (ManagedLoop.step ⟨none, 3, 5⟩) {} (thenTicks unheard) n).place.phase = .ended := by
  refine ⟨?_, ?_, ?_, ?_⟩
  · exact (managed_reconnects ⟨none, 3, 5⟩).2.1 served served_undisturbed
  · exact (managed_reconnects ⟨none, 1, 1⟩).2.2.2 (thenTicks closings) (.inl ⟨.inl (by decide), closings_end⟩)
  · exact (managed_reconnects ⟨none, 3, 5⟩).2.2.2 (thenTicks farewell)
      (.inr (.inl ⟨.inl (by decide), ⟨2, by decide⟩, farewell_served⟩))
  · exact (managed_reconnects ⟨none, 3, 5⟩).2.2.2 (thenTicks unheard) (.inr (.inr ⟨2, "a", by decide, by decide, rfl⟩))

/-- The application drops `msg_tx`, the server closes the connection before the loop sees that, and the loop
connects anew. -/
theorem late_of_drop :
    ¬ ∀ inputs : List (LoopInput String), (Run.run (step ⟨none, 3, 5⟩) {} inputs).late = false := by
  intro all
  have never := all [.dropSender, .read .closed, .slept true, .connect true]
  revert never
  decide

end ReconnectLog

end Feros
