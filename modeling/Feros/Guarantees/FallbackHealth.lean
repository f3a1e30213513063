import Mathlib.Data.List.Induction
import Mathlib.Tactic.Common
import Feros.Agent.FallbackProvider
import Feros.Library.Run
/-! # Health of the fallback slots

A slot is marked unhealthy by a task that then spawns a probe for it, and a probe ends when it finds its slot
healthy or makes it so.  Hence an unhealthy slot has a probe that runs, in whatever order the tasks go on.  A
call looks at the slots one after the other: what it has left behind it was unhealthy or has failed. -/

namespace Feros

open Run

namespace FallbackProvider

/-! ## What is promised -/

/-- A probe of the slot is running. -/
def HasProbe (s : FallbackProvider) (i : ℕ) : Prop :=
  ∃ (probe : ℕ) (point : ProbePoint), s.probes[probe]? = some ⟨i, point⟩ ∧ point ≠ .ended

/-- **An unhealthy slot has a running probe.** -/
def Probed (s : FallbackProvider) : Prop := ∀ i, s.healthy[i]? = some false → s.HasProbe i

/-- The call finds the slot unhealthy at one of these steps. -/
def FindsUnhealthy (start : FallbackProvider) (actions : List Action) (call i : ℕ) : Prop :=
  ∃ front attempt back slotCount, actions = front ++ .resumeCall call attempt :: back ∧
    (run step start front).calls[call]? = some (.checking i slotCount) ∧
    (run step start front).healthy[i]? = some false

/-- The attempt of the call at the slot fails at one of these steps. -/
def FailsAt (start : FallbackProvider) (actions : List Action) (call i : ℕ) : Prop :=
  ∃ front attempt back slotCount, actions = front ++ .resumeCall call attempt :: back ∧
    (run step start front).calls[call]? = some (.attempting i slotCount) ∧ attempt ≠ .succeeds

/-- The call has a reason to leave the slot behind. -/
def Excused (start : FallbackProvider) (actions : List Action) (call i : ℕ) : Prop :=
  FindsUnhealthy start actions call i ∨ FailsAt start actions call i

/-! ## Probes -/

section Probes

variable {s : FallbackProvider}

/-- What does not touch the health of the slots or the probes. -/
theorem Probed.setCall (probed : s.Probed) (call : ℕ) (point : CallPoint) : (s.setCall call point).Probed := probed

/-- A probe that is spawned leaves the others. -/
theorem HasProbe.spawn {i : ℕ} (has : s.HasProbe i) (j : ℕ) : (s.spawnRecoveryProbe j).HasProbe i := by
  obtain ⟨probe, point, here, runs⟩ := has
  refine ⟨probe, point, ?_, runs⟩
  exact (List.getElem?_append_left (List.getElem?_eq_some_iff.1 here).1).trans here

/-- A slot for which a probe was spawned has one. -/
theorem hasProbe_spawned (i : ℕ) : (s.spawnRecoveryProbe i).HasProbe i := by
  refine ⟨s.probes.length, .sleeping, ?_, nofun⟩
  exact List.getElem?_concat_length

/-- A slot is marked, and gets a probe. -/
theorem Probed.mark (probed : s.Probed) (i : ℕ) : ((s.setHealthy i false).spawnRecoveryProbe i).Probed := by
  intro j unhealthy
  by_cases here : i = j
  · rw [here]
    exact hasProbe_spawned j
  · have before : s.healthy[j]? = some false := (List.getElem?_set_ne here).symm.trans unhealthy
    exact HasProbe.spawn (s := s.setHealthy i false) (probed j before) i

/-- A probe goes on, but does not end. -/
theorem Probed.move (probed : s.Probed) {probe i : ℕ} {point next : ProbePoint}
    (here : s.probes[probe]? = some ⟨i, point⟩) (runs : next ≠ .ended) : (s.setProbe probe ⟨i, next⟩).Probed := by
  intro j unhealthy
  obtain ⟨other, otherPoint, there, otherRuns⟩ := probed j unhealthy
  by_cases same : probe = other
  · subst same
    obtain ⟨rfl, rfl⟩ := RecoveryProbe.mk.inj (Option.some.inj (here.symm.trans there))
    exact ⟨probe, next, List.getElem?_set_self (List.getElem?_eq_some_iff.1 here).1, runs⟩
  · exact ⟨other, otherPoint, (List.getElem?_set_ne same).trans there, otherRuns⟩

/-- A probe whose slot is not unhealthy ends. -/
theorem Probed.close (probed : s.Probed) {probe i : ℕ} {point : ProbePoint}
    (here : s.probes[probe]? = some ⟨i, point⟩) (healthy : s.healthy[i]? ≠ some false) (next : ProbePoint) :
    (s.setProbe probe ⟨i, next⟩).Probed := by
  intro j unhealthy
  obtain ⟨other, otherPoint, there, otherRuns⟩ := probed j unhealthy
  by_cases same : probe = other
  · subst same
    obtain ⟨rfl, -⟩ := RecoveryProbe.mk.inj (Option.some.inj (here.symm.trans there))
    exact absurd unhealthy healthy
  · exact ⟨other, otherPoint, (List.getElem?_set_ne same).trans there, otherRuns⟩

/-- A slot that was set healthy is not unhealthy. -/
theorem healthy_setHealthy_true (i : ℕ) : (s.setHealthy i true).healthy[i]? ≠ some false := by
  unfold setHealthy
  rw [List.getElem?_set_self']
  cases s.healthy[i]? with
  | none => nofun
  | some healthy => nofun

/-- A slot becomes healthy. -/
theorem Probed.restore (probed : s.Probed) (i : ℕ) : (s.setHealthy i true).Probed := by
  intro j unhealthy
  refine probed j ?_
  by_cases here : i = j
  · subst here
    exact absurd unhealthy (healthy_setHealthy_true i)
  · exact (List.getElem?_set_ne here).symm.trans unhealthy

/-- **A call that goes on leaves a probe for every unhealthy slot.** -/
theorem probed_resumeCall (probed : s.Probed) (call : ℕ) (attempt : Attempt) : (s.resumeCall call attempt).Probed := by
  unfold resumeCall
  cases s.calls[call]? with
  | none => exact probed
  | some point =>
      cases point with
      | counting | starting => exact probed.setCall _ _
      | checking i slotCount =>
          dsimp only
          split
          · exact probed.setCall _ _
          · exact probed.setCall _ _
      | attempting i slotCount => cases attempt <;> exact probed.setCall _ _
      | marking i slotCount =>
          dsimp only
          split
          · exact (probed.mark i).setCall _ _
          · exact probed
      | returned | dropped => exact probed

/-- A probe that goes on leaves a probe for every unhealthy slot. -/
theorem probed_resumeProbe (probed : s.Probed) (probe : ℕ) (attempt : Attempt) :
    (s.resumeProbe probe attempt).Probed := by
  unfold resumeProbe
  cases here : s.probes[probe]? with
  | none => exact probed
  | some p =>
      obtain ⟨i, point⟩ := p
      cases point with
      | sleeping | starting | reporting => exact probed.move here nofun
      | looking =>
          dsimp only
          split
          · exact probed.move here nofun
          · rename_i healthy
            exact probed.close here healthy .ended
      | probing => cases attempt <;> exact probed.move here nofun
      | restoring =>
          dsimp only
          split
          · exact (probed.restore i).close here (healthy_setHealthy_true i) .ended
          · exact probed
      | ended => exact probed

/-- **Every step leaves an unhealthy slot its probe.** -/
theorem probed_step (s : FallbackProvider) (action : Action) (probed : s.Probed) : (s.step action).Probed := by
  cases action with
  | streamCompletion => exact probed
  | dropCall call =>
      show (s.dropCall call).Probed
      unfold dropCall
      split <;> exact probed
  | resumeCall call attempt => exact probed_resumeCall probed call attempt
  | resumeProbe probe attempt => exact probed_resumeProbe probed probe attempt

/-- A new provider has no unhealthy slot. -/
theorem probed_new (slots : ℕ) : (new slots).Probed := by
  intro i unhealthy
  have healthy := List.eq_of_mem_replicate (List.mem_of_getElem? unhealthy)
  cases healthy

end Probes

/-! ## Calls -/

section Calls

variable {start : FallbackProvider} {actions : List Action} {call i slots : ℕ}

/-- A reason stays one. -/
theorem Excused.later (excused : Excused start actions call i) (action : Action) :
    Excused start (actions ++ [action]) call i := by
  rcases excused with ⟨front, attempt, back, slotCount, rfl, found⟩ | ⟨front, attempt, back, slotCount, rfl, failed⟩
  · exact .inl ⟨front, attempt, back ++ [action], slotCount, List.append_assoc _ _ _, found⟩
  · exact .inr ⟨front, attempt, back ++ [action], slotCount, List.append_assoc _ _ _, failed⟩

/-- **What a call has left behind it**, by where it waits. -/
def LeavesBehind (excused : ℕ → Prop) (slots : ℕ) : CallPoint → Prop
  | .counting => True
  | .checking i slotCount => slotCount = slots ∧ i < slots ∧ ∀ k < i, excused k
  | .starting i slotCount => slotCount = slots ∧ ∀ k < i, excused k
  | .attempting i slotCount => slotCount = slots ∧ ∀ k < i, excused k
  | .marking i slotCount => slotCount = slots ∧ ∀ k ≤ i, excused k
  | .returned (some i) => ∀ k < i, excused k
  | .returned none => ∀ k < slots, excused k
  | .dropped => True

/-- What is left behind for one reason is left behind for a weaker one. -/
theorem LeavesBehind.mono {excused later : ℕ → Prop} {point : CallPoint} (more : ∀ k, excused k → later k)
    (leaves : LeavesBehind excused slots point) : LeavesBehind later slots point := by
  cases point with
  | counting | dropped => trivial
  | checking i slotCount => exact ⟨leaves.1, leaves.2.1, fun k before => more k (leaves.2.2 k before)⟩
  | starting i slotCount | attempting i slotCount | marking i slotCount =>
      exact ⟨leaves.1, fun k before => more k (leaves.2 k before)⟩
  | returned slot => cases slot <;> exact fun k before => more k (leaves k before)

/-- The loop goes on behind slots that have a reason. -/
theorem leavesBehind_nextSlot {excused : ℕ → Prop} (before : ∀ k < i, excused k) :
    LeavesBehind excused slots (nextSlot i slots) := by
  unfold nextSlot
  split
  · rename_i more
    exact ⟨rfl, more, before⟩
  · rename_i last
    exact fun k inSlots => before k (Nat.lt_of_lt_of_le inSlots (Nat.not_lt.1 last))

/-- A call that was moved is where it was moved to. -/
theorem calls_setCall_self {s : FallbackProvider} {point : CallPoint} (here : s.calls[call]? = some point)
    (next : CallPoint) : (s.setCall call next).calls[call]? = some next :=
  List.getElem?_set_self (List.getElem?_eq_some_iff.1 here).1

/-- **A call goes on.** -/
theorem leavesBehind_resumeCall {s : FallbackProvider} (reached : run step start actions = s)
    (count : s.healthy.length = slots) {point : CallPoint} (here : s.calls[call]? = some point)
    (leaves : LeavesBehind (Excused start actions call) slots point) (attempt : Attempt) :
    ∃ next, (s.resumeCall call attempt).calls[call]? = some next ∧
      LeavesBehind (Excused start (actions ++ [.resumeCall call attempt]) call) slots next := by
  have later := leaves.mono fun k excused => excused.later (.resumeCall call attempt)
  unfold resumeCall
  rw [here]
  cases point with
  | counting =>
      refine ⟨_, calls_setCall_self here _, ?_⟩
      rw [count]
      exact leavesBehind_nextSlot fun k before => absurd before (Nat.not_lt_zero k)
  | checking i slotCount =>
      obtain ⟨rfl, inSlots, before⟩ := later
      dsimp only
      split
      -- The slot is healthy, and is attempted next.
      · exact ⟨_, calls_setCall_self here _, rfl, before⟩
      · rename_i unhealthy
        refine ⟨_, calls_setCall_self here _, leavesBehind_nextSlot fun k behind => ?_⟩
        rcases Nat.lt_succ_iff_lt_or_eq.1 behind with earlier | rfl
        · exact before k earlier
        -- It was found unhealthy, which excuses it.
        · have found : s.healthy[k]? = some false := by
            rw [← count] at inSlots
            rw [List.getElem?_eq_getElem inSlots, Option.getD_some] at unhealthy
            rw [List.getElem?_eq_getElem inSlots, eq_false_of_ne_true unhealthy]
          refine .inl ⟨actions, attempt, [], slotCount, rfl, ?_, ?_⟩
          · rw [reached]
            exact here
          · rw [reached]
            exact found
  | starting i slotCount => exact ⟨_, calls_setCall_self here _, later⟩
  | attempting i slotCount =>
      -- An attempt that fails excuses the slot.
      have failing (failed : attempt ≠ .succeeds) : LeavesBehind
          (Excused start (actions ++ [.resumeCall call attempt]) call) slots (.marking i slotCount) := by
        refine ⟨later.1, fun k behind => ?_⟩
        rcases Nat.lt_or_eq_of_le behind with earlier | rfl
        · exact later.2 k earlier
        · refine .inr ⟨actions, attempt, [], slotCount, rfl, ?_, failed⟩
          rw [reached]
          exact here
      cases attempt with
      | succeeds => exact ⟨_, calls_setCall_self here _, later.2⟩
      | fails => exact ⟨_, calls_setCall_self here _, failing nofun⟩
      | timesOut => exact ⟨_, calls_setCall_self here _, failing nofun⟩
  | marking i slotCount =>
      dsimp only
      split
      -- The slot is marked, and the next one is looked at.
      · obtain ⟨rfl, before⟩ := later
        have marked : ((s.setHealthy i false).spawnRecoveryProbe i).calls[call]? = some (.marking i slotCount) := here
        refine ⟨_, calls_setCall_self marked _, leavesBehind_nextSlot fun k behind => ?_⟩
        exact before k (Nat.lt_succ_iff.1 behind)
      · exact ⟨_, here, later⟩
  | returned slot => exact ⟨_, here, later⟩
  | dropped => exact ⟨_, here, later⟩

/-- **What is not the call itself going on** leaves it where it is, or drops it. -/
theorem calls_step_other {s : FallbackProvider} {point : CallPoint} (here : s.calls[call]? = some point)
    {action : Action} (other : ∀ attempt, action ≠ .resumeCall call attempt) :
    (s.step action).calls[call]? = some point ∨ (s.step action).calls[call]? = some .dropped := by
  have set {j : ℕ} (ne : j ≠ call) (next : CallPoint) : (s.setCall j next).calls[call]? = some point :=
    (List.getElem?_set_ne ne).trans here
  cases action with
  | streamCompletion =>
      left
      exact (List.getElem?_append_left (List.getElem?_eq_some_iff.1 here).1).trans here
  | dropCall j =>
      show (s.dropCall j).calls[call]? = some point ∨ (s.dropCall j).calls[call]? = some .dropped
      -- Dropping this call is the only step of the others that touches it.
      unfold dropCall
      by_cases same : j = call
      · subst same
        split
        · exact .inl here
        · exact .inl here
        · exact .inr (calls_setCall_self here _)
      · split
        · exact .inl here
        · exact .inl here
        · exact .inl (set same _)
  | resumeCall j attempt =>
      have ne : j ≠ call := by
        rintro rfl
        exact other attempt rfl
      left
      show (s.resumeCall j attempt).calls[call]? = some point
      unfold resumeCall
      cases s.calls[j]? with
      | none => exact here
      | some at_ =>
          cases at_ with
          | counting | starting => exact set ne _
          | checking =>
              dsimp only
              split <;> exact set ne _
          | attempting => cases attempt <;> exact set ne _
          | marking =>
              dsimp only
              split
              · exact set ne _
              · exact here
          | returned | dropped => exact here
  | resumeProbe probe attempt =>
      left
      show (s.resumeProbe probe attempt).calls[call]? = some point
      unfold resumeProbe
      cases s.probes[probe]? with
      | none => exact here
      | some p =>
          obtain ⟨i, at_⟩ := p
          cases at_ with
          | sleeping | starting | reporting | ended => exact here
          | looking | restoring =>
              dsimp only
              split <;> exact here
          | probing => cases attempt <;> exact here

/-- The number of slots never changes. -/
theorem length_healthy_step (s : FallbackProvider) (action : Action) :
    (s.step action).healthy.length = s.healthy.length := by
  -- Only two steps mark a slot, and none adds one.
  have marked (i : ℕ) (healthy : Bool) : (s.setHealthy i healthy).healthy.length = s.healthy.length :=
    List.length_set
  cases action with
  | streamCompletion => rfl
  | dropCall call =>
      show (s.dropCall call).healthy.length = _
      unfold dropCall
      split <;> rfl
  | resumeCall call attempt =>
      show (s.resumeCall call attempt).healthy.length = _
      unfold resumeCall
      cases s.calls[call]? with
      | none => rfl
      | some at_ =>
          cases at_ with
          | counting | starting | returned | dropped => rfl
          | checking =>
              dsimp only
              split <;> rfl
          | attempting => cases attempt <;> rfl
          | marking i slotCount =>
              dsimp only
              split
              · exact marked i false
              · rfl
  | resumeProbe probe attempt =>
      show (s.resumeProbe probe attempt).healthy.length = _
      unfold resumeProbe
      cases s.probes[probe]? with
      | none => rfl
      | some p =>
          obtain ⟨i, at_⟩ := p
          cases at_ with
          | sleeping | starting | reporting | ended => rfl
          | looking =>
              dsimp only
              split <;> rfl
          | restoring =>
              dsimp only
              split
              · exact marked i true
              · rfl
          | probing => cases attempt <;> rfl

/-- No step adds a slot. -/
theorem length_healthy_run (start : FallbackProvider) (actions : List Action) :
    (run step start actions).healthy.length = start.healthy.length := by
  induction actions generalizing start with
  | nil => rfl
  | cons action actions ih => exact (ih (start.step action)).trans (length_healthy_step start action)

/-- **What a call has left behind it**, wherever it is. -/
theorem leavesBehind_run (fresh : start.calls[call]? = some .counting) (actions : List Action) :
    ∃ point, (run step start actions).calls[call]? = some point ∧
      LeavesBehind (Excused start actions call) start.healthy.length point := by
  induction actions using List.reverseRecOn with
  | nil => exact ⟨.counting, fresh, trivial⟩
  | append_singleton actions action ih =>
      obtain ⟨point, here, leaves⟩ := ih
      rw [run_append]
      show ∃ point, ((run step start actions).step action).calls[call]? = some point ∧ _
      by_cases own : ∃ attempt, action = .resumeCall call attempt
      · obtain ⟨attempt, rfl⟩ := own
        exact leavesBehind_resumeCall rfl (length_healthy_run start actions) here leaves attempt
      · push Not at own
        rcases calls_step_other here own with stays | dropped
        · exact ⟨point, stays, leaves.mono fun k excused => excused.later action⟩
        · exact ⟨.dropped, dropped, trivial⟩

end Calls

/-! ## Recovery -/

section Recovery

variable {s : FallbackProvider} {probe i : ℕ}

/-- A probe that runs comes to the point where it restores its slot. -/
theorem reaches_restoring (unhealthy : s.healthy[i]? = some false) {point : ProbePoint}
    (here : s.probes[probe]? = some ⟨i, point⟩) (runs : point ≠ .ended) :
    ∃ actions, (run step s actions).healthy = s.healthy ∧
      (run step s actions).probes[probe]? = some ⟨i, .restoring⟩ := by
  -- One step, and what comes behind it.
  have go {s : FallbackProvider} {point next : ProbePoint} (here : s.probes[probe]? = some ⟨i, point⟩)
      (resumed : s.resumeProbe probe .succeeds = s.setProbe probe ⟨i, next⟩)
      (rest : (s.setProbe probe ⟨i, next⟩).probes[probe]? = some ⟨i, next⟩ →
        ∃ actions, (run step (s.setProbe probe ⟨i, next⟩) actions).healthy = s.healthy ∧
          (run step (s.setProbe probe ⟨i, next⟩) actions).probes[probe]? = some ⟨i, .restoring⟩) :
      ∃ actions, (run step s actions).healthy = s.healthy ∧
        (run step s actions).probes[probe]? = some ⟨i, .restoring⟩ := by
    obtain ⟨actions, reached⟩ := rest (List.getElem?_set_self (List.getElem?_eq_some_iff.1 here).1)
    refine ⟨.resumeProbe probe .succeeds :: actions, ?_⟩
    rw [run_cons, show s.step (.resumeProbe probe .succeeds) = _ from resumed]
    exact reached
  -- Backwards from the last step, each one with an attempt that succeeds.
  have probing {s : FallbackProvider} (here : s.probes[probe]? = some ⟨i, .probing⟩) :
      ∃ actions, (run step s actions).healthy = s.healthy ∧
        (run step s actions).probes[probe]? = some ⟨i, .restoring⟩ := by
    refine go here ?_ fun there => ⟨[], rfl, there⟩
    unfold resumeProbe
    rw [here]
  have starting {s : FallbackProvider} (here : s.probes[probe]? = some ⟨i, .starting⟩) :
      ∃ actions, (run step s actions).healthy = s.healthy ∧
        (run step s actions).probes[probe]? = some ⟨i, .restoring⟩ := by
    refine go here ?_ probing
    unfold resumeProbe
    rw [here]
  have looking {s : FallbackProvider} (unhealthy : s.healthy[i]? = some false)
      (here : s.probes[probe]? = some ⟨i, .looking⟩) :
      ∃ actions, (run step s actions).healthy = s.healthy ∧
        (run step s actions).probes[probe]? = some ⟨i, .restoring⟩ := by
    refine go here ?_ starting
    unfold resumeProbe
    rw [here]
    exact if_pos unhealthy
  have sleeping {s : FallbackProvider} (unhealthy : s.healthy[i]? = some false)
      (here : s.probes[probe]? = some ⟨i, .sleeping⟩) :
      ∃ actions, (run step s actions).healthy = s.healthy ∧
        (run step s actions).probes[probe]? = some ⟨i, .restoring⟩ := by
    refine go here ?_ (looking unhealthy)
    unfold resumeProbe
    rw [here]
  cases point with
  | sleeping => exact sleeping unhealthy here
  | looking => exact looking unhealthy here
  | starting => exact starting here
  | probing => exact probing here
  | restoring => exact ⟨[], rfl, here⟩
  | reporting =>
      -- A report that is over lets the probe sleep again.
      refine go here ?_ (sleeping unhealthy)
      unfold resumeProbe
      rw [here]
  | ended => exact absurd rfl runs

/-- The call holds a read guard. -/
def holdsGuard : CallPoint → Bool
  | .attempting _ _ => true
  | _ => false

/-- How many tasks hold a read guard. -/
def guards (s : FallbackProvider) : ℕ :=
  s.calls.countP holdsGuard + s.probes.countP fun probe => probe.point == .probing

/-- If the lock is held, a task that holds it can let it go. -/
theorem releases_guard (here : s.probes[probe]? = some ⟨i, .restoring⟩) (locked : s.unlocked ≠ true) :
    ∃ action, (s.step action).healthy = s.healthy ∧ (s.step action).probes[probe]? = some ⟨i, .restoring⟩ ∧
      (s.step action).guards < s.guards := by
  -- A call or a probe is in its attempt.
  have held : (∃ call ∈ s.calls, holdsGuard call = true) ∨ ∃ p ∈ s.probes, p.point = .probing := by
    by_contra free
    push Not at free
    obtain ⟨calls, probes⟩ := free
    refine locked (Bool.and_eq_true_iff.2 ⟨List.all_eq_true.2 fun call inCalls => ?_, List.all_eq_true.2 fun p inProbes => ?_⟩)
    · have holds := calls call inCalls
      cases call <;> first | rfl | exact absurd rfl holds
    · exact bne_iff_ne.2 (probes p inProbes)
  rcases held with ⟨point, inCalls, holds⟩ | ⟨⟨j, point⟩, inProbes, rfl⟩
  · obtain ⟨call, there⟩ := List.mem_iff_getElem?.1 inCalls
    obtain ⟨bound, isPoint⟩ := List.getElem?_eq_some_iff.1 there
    cases point with
    | attempting k slotCount =>
        -- The call succeeds and gives its guard back.
        have resumed : s.step (.resumeCall call .succeeds) = s.setCall call (.returned (some k)) := by
          show s.resumeCall call .succeeds = _
          unfold resumeCall
          rw [there]
        refine ⟨.resumeCall call .succeeds, ?_⟩
        rw [resumed]
        refine ⟨rfl, here, ?_⟩
        have one : 0 < s.calls.countP holdsGuard := List.countP_pos_iff.2 ⟨_, inCalls, rfl⟩
        unfold guards setCall
        dsimp only
        have free : ¬ holdsGuard (.returned (some k)) = true := Bool.false_ne_true
        rw [List.countP_set bound, isPoint, if_pos holds, if_neg free]
        omega
    | counting | checking | starting | marking | returned | dropped => cases holds
  · obtain ⟨other, there⟩ := List.mem_iff_getElem?.1 inProbes
    obtain ⟨bound, isProbe⟩ := List.getElem?_eq_some_iff.1 there
    have resumed : s.step (.resumeProbe other .succeeds) = s.setProbe other ⟨j, .restoring⟩ := by
      show s.resumeProbe other .succeeds = _
      unfold resumeProbe
      rw [there]
    -- The other probe is not the one that waits.
    have ne : other ≠ probe := by
      rintro rfl
      rw [here] at there
      cases there
    refine ⟨.resumeProbe other .succeeds, ?_⟩
    rw [resumed]
    refine ⟨rfl, (List.getElem?_set_ne ne).trans here, ?_⟩
    have one : 0 < s.probes.countP fun probe => probe.point == .probing := List.countP_pos_iff.2 ⟨_, inProbes, rfl⟩
    unfold guards setProbe
    have held : (ProbePoint.probing == .probing) = true := rfl
    have free : ¬ (ProbePoint.restoring == .probing) = true := Bool.false_ne_true
    rw [List.countP_set bound, isProbe, if_pos held, if_neg free]
    dsimp only
    omega

/-- Whoever holds the lock can let it go. -/
theorem unlocks (s : FallbackProvider) (here : s.probes[probe]? = some ⟨i, .restoring⟩) :
    ∃ actions, (run step s actions).probes[probe]? = some ⟨i, .restoring⟩ ∧
      (run step s actions).healthy = s.healthy ∧ (run step s actions).unlocked = true := by
  induction count : s.guards using Nat.strongRecOn generalizing s with
  | ind n ih =>
      by_cases free : s.unlocked = true
      · exact ⟨[], here, rfl, free⟩
      · obtain ⟨action, healthy, stays, fewer⟩ := releases_guard here free
        obtain ⟨actions, restoring, same, unlocked⟩ := ih _ (count ▸ fewer) (s.step action) stays rfl
        exact ⟨action :: actions, restoring, same.trans healthy, unlocked⟩

/-- **An unhealthy slot with a running probe can become healthy.** -/
theorem can_recover (unhealthy : s.healthy[i]? = some false) (has : s.HasProbe i) :
    ∃ actions, (run step s actions).healthy[i]? = some true := by
  obtain ⟨probe, point, here, runs⟩ := has
  obtain ⟨first, healthy, restoring⟩ := reaches_restoring unhealthy here runs
  obtain ⟨second, stays, same, unlocked⟩ := unlocks _ restoring
  refine ⟨first ++ (second ++ [.resumeProbe probe .succeeds]), ?_⟩
  rw [run_append, run_append]
  generalize run step (run step s first) second = t at stays same unlocked
  have bound : i < t.healthy.length := by
    rw [same, healthy]
    exact (List.getElem?_eq_some_iff.1 unhealthy).1
  show (t.resumeProbe probe .succeeds).healthy[i]? = some true
  unfold resumeProbe
  rw [stays]
  dsimp only
  rw [if_pos unlocked]
  exact List.getElem?_set_self bound

end Recovery

/-- **The health of the slots**, in every order in which calls and probes go on: an unhealthy slot has a running
probe and can become healthy; a call that returns the stream of a slot has left each slot before it for a
reason, and a call that returns the error each slot. -/
theorem health_state (slots : ℕ) :
    (∀ actions, let s := run step (new slots) actions
      ∀ i, s.healthy[i]? = some false → s.HasProbe i ∧ ∃ more, (run step s more).healthy[i]? = some true) ∧
    ∀ before during, let s := run step (new slots) before
      let started := s.step .streamCompletion
      let after := run step started during
      (∀ j, after.calls[s.calls.length]? = some (.returned (some j)) →
        ∀ i < j, Excused started during s.calls.length i) ∧
      (after.calls[s.calls.length]? = some (.returned none) →
        ∀ i < slots, Excused started during s.calls.length i) := by
  refine ⟨?_, ?_⟩
  · intro actions s i unhealthy
    have probed : s.Probed := invariant_of_step probed_step (probed_new slots) actions
    have has := probed i unhealthy
    exact ⟨has, can_recover unhealthy has⟩
  · intro before during s started after
    have fresh : started.calls[s.calls.length]? = some .counting := List.getElem?_concat_length
    have count : started.healthy.length = slots := by
      rw [length_healthy_step, length_healthy_run]
      exact List.length_replicate
    obtain ⟨point, here, leaves⟩ := leavesBehind_run fresh during
    rw [count] at leaves
    refine ⟨fun j returned => ?_, fun returned => ?_⟩
    · obtain rfl := Option.some.inj (here.symm.trans returned)
      exact leaves
    · obtain rfl := Option.some.inj (here.symm.trans returned)
      exact leaves

end FallbackProvider

end Feros
