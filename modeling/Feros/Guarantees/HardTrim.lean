import Feros.Agent.ToolBlocks
/-! # The hard trim

`trimHistory` walks over the messages once.  The source has a loop that always looks at index 1, removes
one message there or a whole block, and counts what is gone.

* **`trimLoop`** is that loop; `trimLoop_eq` relates it to `removeOldest`.
* **`removeOldest_blocks`**: what goes are the first blocks, and as few as will do. -/

namespace Feros

/-! ## The loop -/

/-- Where the tool results end that begin at index `i`. -/
def resultsEnd (conversation : Conversation) (i : ℕ) : ℕ :=
  i + ((conversation.drop i).takeWhile (·.role == .tool)).length

/-- **The loop**: `removed` messages are gone, and index 1 is next. -/
def trimLoop (targetRemove removed : ℕ) (conversation : Conversation) : Conversation :=
  if removed < targetRemove then
    match conversation with
    | system :: m :: rest =>
      if m.opensBlock then
        let i := resultsEnd (system :: m :: rest) 2
        trimLoop targetRemove (removed + (i - 1)) (system :: (m :: rest).drop (i - 1))
      else trimLoop targetRemove (removed + 1) (system :: rest)
    | conversation => conversation
  else conversation
termination_by conversation.length
decreasing_by
  · simp only [List.length_cons, List.length_drop, resultsEnd]
    omega
  · exact Nat.lt_succ_self _

/-- The trim with this loop. -/
def trimByLoop (conversation : Conversation) : Conversation :=
  let maxMessages := 1 + maxHistoryTurns * 2
  if conversation.length ≤ maxMessages then conversation
  else trimLoop (conversation.length - maxMessages) 0 conversation

/-- Inside a block the results go, however many are still to be removed. -/
theorem removeOldest_takeWhile (target : ℕ) (rest : Conversation) :
    removeOldest target true rest =
      removeOldest (target - (rest.takeWhile (·.role == .tool)).length) false
        (rest.drop (rest.takeWhile (·.role == .tool)).length) := by
  induction rest generalizing target with
  | nil => rfl
  | cons m rest ih =>
    by_cases tool : m.role = .tool
    · have results : (m :: rest).takeWhile (·.role == .tool) = m :: rest.takeWhile (·.role == .tool) := by
        simp [tool]
      rw [results, List.length_cons, List.drop_succ_cons, removeOldest, if_pos (by simp [tool]), ih,
        Nat.sub_sub, Nat.add_comm 1]
    · have none : (m :: rest).takeWhile (·.role == .tool) = [] := by simp [tool]
      rw [none, List.length_nil, Nat.sub_zero, List.drop_zero]
      simp [removeOldest, tool]

/-- **The loop removes what the walk removes.** -/
theorem trimLoop_eq (targetRemove removed : ℕ) (system : ChatMessage) (rest : Conversation) :
    trimLoop targetRemove removed (system :: rest) =
      system :: removeOldest (targetRemove - removed) false rest := by
  -- Every round leaves a shorter list behind the system message.
  induction count : rest.length using Nat.strong_induction_on generalizing removed rest with
  | _ count ih =>
    subst count
    rw [trimLoop.eq_def]
    by_cases more : removed < targetRemove
    · rw [if_pos more]
      cases rest with
      | nil => rfl
      | cons m rest =>
        have positive : targetRemove - removed ≠ 0 := by omega
        rw [removeOldest, if_neg (by simp), if_neg positive]
        by_cases opens : m.opensBlock = true
        · simp only [opens, if_true]
          have behind : resultsEnd (system :: m :: rest) 2 - 1 =
              (rest.takeWhile (·.role == .tool)).length + 1 := by
            simp only [resultsEnd, List.drop_succ_cons, List.drop_zero]
            omega
          have shorter : ((m :: rest).drop ((rest.takeWhile (·.role == .tool)).length + 1)).length <
              (m :: rest).length := by
            rw [List.length_drop, List.length_cons]
            omega
          rw [behind, ih _ shorter _ _ rfl, List.drop_succ_cons, removeOldest_takeWhile]
          congr 2
          omega
        · simp only [opens]
          rw [if_neg Bool.false_ne_true, ih _ (Nat.lt_succ_self _) _ _ rfl]
          congr 2
    · rw [if_neg more, Nat.sub_eq_zero_of_le (Nat.le_of_not_lt more)]
      cases rest with
      | nil => rfl
      | cons m rest => rw [removeOldest, if_neg (by simp), if_pos rfl]

/-- **The loop trims what the definition trims.** -/
theorem trimByLoop_eq (conversation : Conversation) :
    trimByLoop conversation = trimHistory conversation := by
  unfold trimByLoop trimHistory
  dsimp only
  split
  · rfl
  · rename_i long
    cases conversation with
    | nil => exact absurd (Nat.zero_le _) long
    | cons system rest => exact trimLoop_eq _ 0 system rest

/-! ## Blocks -/

/-- A block goes as a whole, if something is to be removed. -/
theorem removeOldest_block {target : ℕ} (some : target ≠ 0) (b : ToolBlock) (blocks : List ToolBlock) :
    removeOldest target false (messagesOf (b :: blocks)) =
      removeOldest (target - b.messages.length) false (messagesOf blocks) := by
  have flag : ∀ (left : ℕ) (inBlock : Bool), removeOldest left inBlock (messagesOf blocks) =
      removeOldest left false (messagesOf blocks) := by
    intro left inBlock
    cases blocks with
    | nil => rfl
    | cons next blocks => simp [removeOldest, next.head]
  rw [messagesOf_cons, removeOldest, if_neg (by simp), if_neg some, b.messages_length]
  by_cases none : b.results = []
  · rw [none, List.nil_append, flag]
    rfl
  · rw [b.opens none, removeOldest_tools b.tools, flag, Nat.sub_sub, Nat.add_comm 1]

/-- **The first blocks are removed, and as few as will do.** -/
theorem removeOldest_blocks (target : ℕ) (blocks : List ToolBlock)
    (inside : target ≤ (messagesOf blocks).length) :
    ∃ n, removeOldest target false (messagesOf blocks) = messagesOf (blocks.drop n) ∧
      (messagesOf (blocks.drop n)).length + target ≤ (messagesOf blocks).length ∧
      ∀ j < n, (messagesOf blocks).length < (messagesOf (blocks.drop j)).length + target := by
  induction blocks generalizing target with
  | nil => exact ⟨0, rfl, by simpa using inside, fun j before => absurd before (Nat.not_lt_zero j)⟩
  | cons b blocks ih =>
    by_cases none : target = 0
    · refine ⟨0, ?_, by rw [none]; exact le_rfl, fun j before => absurd before (Nat.not_lt_zero j)⟩
      rw [messagesOf_cons, removeOldest, if_neg (by simp), if_pos none]
      rfl
    · have length : (messagesOf (b :: blocks)).length =
          b.messages.length + (messagesOf blocks).length := by
        simp only [messagesOf_cons, List.length_cons, List.length_append, b.messages_length]
        omega
      obtain ⟨n, same, enough, few⟩ := ih (target - b.messages.length) (by omega)
      refine ⟨n + 1, ?_, ?_, ?_⟩
      · rw [removeOldest_block none, same, List.drop_succ_cons]
      · rw [List.drop_succ_cons, length]
        omega
      · intro j before
        cases j with
        | zero =>
          rw [List.drop_zero]
          omega
        | succ j =>
          have left := few j (Nat.lt_of_succ_lt_succ before)
          have below := (messagesOf_drop_suffix blocks j).length_le
          rw [List.drop_succ_cons, length]
          omega

/-! ## The guarantee -/

/-- **A conversation that was trimmed**: `n` of its blocks are gone, and those that were there for one
block less were too many. -/
structure Trimmed (system : ChatMessage) (blocks : List ToolBlock) (trimmed : Conversation) : Prop where
  /-- The loop of the source ends, with this conversation. -/
  loop : trimByLoop (system :: messagesOf blocks) = trimmed
  short : trimmed.length ≤ 1 + 2 * maxHistoryTurns
  kept : ∃ n, trimmed = system :: messagesOf (blocks.drop n) ∧
    messagesOf (blocks.drop n) <:+ messagesOf blocks ∧
    ∀ j < n, 1 + 2 * maxHistoryTurns < (system :: messagesOf (blocks.drop j)).length

/-- **The hard trim keeps the system prompt and the last blocks that fit**, whatever the blocks are. -/
theorem hard_trim_exact (system : ChatMessage) (blocks : List ToolBlock) :
    Trimmed system blocks (trimHistory (system :: messagesOf blocks)) := by
  refine ⟨trimByLoop_eq _, ?_, ?_⟩
  · by_cases short : (system :: messagesOf blocks).length ≤ 1 + maxHistoryTurns * 2
    · rw [trimHistory_short short]
      omega
    · have trimmed : trimHistory (system :: messagesOf blocks) = system :: removeOldest
          ((system :: messagesOf blocks).length - (1 + maxHistoryTurns * 2)) false
          (messagesOf blocks) := if_neg short
      rw [List.length_cons] at short
      obtain ⟨n, same, enough, -⟩ := removeOldest_blocks
        ((system :: messagesOf blocks).length - (1 + maxHistoryTurns * 2)) blocks
        (by rw [List.length_cons]; omega)
      rw [trimmed, same]
      rw [List.length_cons] at enough ⊢
      omega
  · by_cases short : (system :: messagesOf blocks).length ≤ 1 + maxHistoryTurns * 2
    · exact ⟨0, trimHistory_short short, List.suffix_rfl, fun j before => absurd before (Nat.not_lt_zero j)⟩
    · have trimmed : trimHistory (system :: messagesOf blocks) = system :: removeOldest
          ((system :: messagesOf blocks).length - (1 + maxHistoryTurns * 2)) false
          (messagesOf blocks) := if_neg short
      rw [List.length_cons] at short
      obtain ⟨n, same, -, few⟩ := removeOldest_blocks
        ((system :: messagesOf blocks).length - (1 + maxHistoryTurns * 2)) blocks
        (by rw [List.length_cons]; omega)
      refine ⟨n, by rw [trimmed, same], messagesOf_drop_suffix blocks n, fun j before => ?_⟩
      have more := few j before
      rw [List.length_cons] at more ⊢
      omega

end Feros
