import Feros.Agent.Conversation
/-! # How a history gets shorter

What `trimHistory`, `getMessagesToSummarize` and `applySummary` do, in terms of the beginning of the
conversation that they cut off or replace.  They treat the system message at index 0 on its own, so
most of it is about conversations with no other one (`OneSystem`). -/

namespace Feros

/-- The system message at index 0, if there is one. -/
def systemMessages (conversation : Conversation) : Conversation :=
  (conversation.take 1).filter (·.role == .system)

/-- There is no system message behind index 0. -/
def OneSystem (conversation : Conversation) : Prop :=
  ∀ m ∈ conversation.drop 1, m.role ≠ .system

/-- A conversation has at most one system message. -/
theorem systemMessages_length_le (conversation : Conversation) :
    (systemMessages conversation).length ≤ 1 :=
  (List.length_filter_le _ _).trans (List.length_take_le 1 _)

/-- What is added behind the system message leaves it. -/
theorem systemMessages_append {conversation : Conversation} (some : conversation ≠ [])
    (more : Conversation) : systemMessages (conversation ++ more) = systemMessages conversation := by
  cases conversation with
  | nil => exact absurd rfl some
  | cons m rest => rfl

/-- A message of another role leaves one system message. -/
theorem OneSystem.append {conversation more : Conversation} (one : OneSystem conversation)
    (others : ∀ m ∈ more, m.role ≠ .system) : OneSystem (conversation ++ more) := by
  intro m held
  cases conversation with
  | nil =>
    rw [List.nil_append] at held
    exact others m (List.mem_of_mem_drop held)
  | cons first rest =>
    rcases List.mem_append.1 held with held | held
    · exact one m held
    · exact others m held

/-! ## The hard trim -/

/-- What is left is the end. -/
theorem removeOldest_suffix (target : ℕ) (inBlock : Bool) (conversation : Conversation) :
    removeOldest target inBlock conversation <:+ conversation := by
  induction conversation generalizing target inBlock with
  | nil => exact List.suffix_rfl
  | cons m rest ih =>
    unfold removeOldest
    split
    · exact (ih (target - 1) true).trans (List.suffix_cons m rest)
    · split
      · exact List.suffix_rfl
      · exact (ih (target - 1) m.opensBlock).trans (List.suffix_cons m rest)

/-- A short history is not trimmed. -/
theorem trimHistory_short {conversation : Conversation}
    (short : conversation.length ≤ 1 + maxHistoryTurns * 2) : trimHistory conversation = conversation :=
  if_pos short

/-- Messages are removed behind index 0. -/
theorem trimHistory_eq (conversation : Conversation) :
    trimHistory conversation = conversation.take 1 ++
      conversation.drop (1 + (conversation.length - (trimHistory conversation).length)) := by
  by_cases short : conversation.length ≤ 1 + maxHistoryTurns * 2
  · rw [trimHistory_short short, Nat.sub_self, Nat.add_zero, List.take_append_drop]
  · have trimmed : trimHistory conversation = conversation.take 1 ++ removeOldest
        (conversation.length - (1 + maxHistoryTurns * 2)) false (conversation.drop 1) := if_neg short
    obtain ⟨removed, split⟩ := removeOldest_suffix
      (conversation.length - (1 + maxHistoryTurns * 2)) false (conversation.drop 1)
    rw [trimmed]
    generalize removeOldest (conversation.length - (1 + maxHistoryTurns * 2)) false
      (conversation.drop 1) = left at split
    have lengths := congrArg List.length split
    have long : (conversation.take 1).length = 1 := by
      rw [List.length_take]
      omega
    rw [List.length_append, List.length_drop] at lengths
    have count : conversation.length - (conversation.take 1 ++ left).length = removed.length := by
      rw [List.length_append, long]
      omega
    rw [count, ← List.drop_drop, ← split, List.drop_left]

/-- Nothing is added. -/
theorem trimHistory_sublist (conversation : Conversation) :
    (trimHistory conversation).Sublist conversation := by
  rw [trimHistory_eq]
  generalize conversation.length - (trimHistory conversation).length = removed
  have whole : conversation.take 1 ++ conversation.drop 1 = conversation := List.take_append_drop 1 _
  have later : (conversation.drop (1 + removed)).Sublist (conversation.drop 1) := by
    rw [← List.drop_drop]
    exact List.drop_sublist removed _
  have kept := later.append_left (conversation.take 1)
  rwa [whole] at kept

/-! ## What is to be summarized -/

/-- Where the messages behind the system prompt begin. -/
def summaryStart (conversation : Conversation) : ℕ :=
  match conversation.findIdx? (·.role == .system) with
  | some idx => idx + 1
  | none => 0

/-- The end `limit` of a range, cut to the first tool call that is not answered in it. -/
def answeredEnd (conversation : Conversation) (start limit : ℕ) : ℕ :=
  match findEarliestUnresolvedToolCall conversation start limit with
  | some earliest => if earliest < limit then earliest else limit
  | none => limit

/-- The end that was answered is not behind the limit. -/
theorem answeredEnd_le (conversation : Conversation) (start limit : ℕ) :
    answeredEnd conversation start limit ≤ limit := by
  unfold answeredEnd
  split
  · split
    · omega
    · exact le_rfl
  · exact le_rfl

/-- What is summarized, written out. -/
theorem getMessagesToSummarize_def (conversation : Conversation) (minMessagesToKeep : ℕ) :
    getMessagesToSummarize conversation minMessagesToKeep =
      let start := summaryStart conversation
      let limit := conversation.length - minMessagesToKeep
      let summaryEnd := answeredEnd conversation start limit
      if conversation.length ≤ minMessagesToKeep then none
      else if start ≥ limit then none
      else if start ≥ summaryEnd then none
      else some ⟨(conversation.take summaryEnd).drop start, summaryEnd - 1, conversation.length⟩ := rfl

/-- With one system message the summary starts behind it. -/
theorem summaryStart_eq {conversation : Conversation} (one : OneSystem conversation) :
    summaryStart conversation = (systemMessages conversation).length := by
  unfold summaryStart
  cases conversation with
  | nil => rfl
  | cons m rest =>
    by_cases system : m.role = .system
    · simp [systemMessages, system, List.findIdx?_cons]
    · have none : rest.findIdx? (·.role == .system) = none := by
        rw [List.findIdx?_eq_none_iff]
        intro other held
        have notSystem : other.role ≠ .system := one other held
        simp [notSystem]
      simp [systemMessages, system, List.findIdx?_cons, none]

/-- **What is to be summarized** lies between the system message and the last messages. -/
structure SnapshotOf (conversation : Conversation) (snapshot : MessagesToSummarize) : Prop where
  messages : snapshot.messages = (conversation.take (snapshot.lastSummarizedIndex + 1)).drop
    (systemMessages conversation).length
  inside : snapshot.lastSummarizedIndex + 1 ≤ conversation.length
  behind : (systemMessages conversation).length ≤ snapshot.lastSummarizedIndex

/-- **The messages to summarize are a snapshot of the conversation.** -/
theorem snapshotOf_getMessagesToSummarize {conversation : Conversation} (one : OneSystem conversation)
    {minMessagesToKeep : ℕ} {snapshot : MessagesToSummarize}
    (found : getMessagesToSummarize conversation minMessagesToKeep = some snapshot) :
    SnapshotOf conversation snapshot := by
  rw [getMessagesToSummarize_def, summaryStart_eq one] at found
  dsimp only at found
  have cut := answeredEnd_le conversation (systemMessages conversation).length
    (conversation.length - minMessagesToKeep)
  split at found
  · cases found
  · split at found
    · cases found
    · split at found
      · cases found
      · rename_i enough start last
        cases found
        have positive : answeredEnd conversation (systemMessages conversation).length
            (conversation.length - minMessagesToKeep) - 1 + 1 = answeredEnd conversation
            (systemMessages conversation).length (conversation.length - minMessagesToKeep) := by
          omega
        constructor
        · rw [positive]
        · rw [positive]
          omega
        · dsimp only
          omega

/-! ## Applying a summary -/

/-- **What a summary replaces**: everything up to the last message it was made of, but for the system
message. -/
theorem applySummary_eq {conversation applied : Conversation} {summary : String}
    {lastSummarizedIndex snapshotLen minMessagesAfterSummary : ℕ}
    (succeeds : applySummary conversation summary lastSummarizedIndex snapshotLen
      minMessagesAfterSummary = some applied) :
    lastSummarizedIndex < conversation.length ∧ snapshotLen ≤ conversation.length ∧
      applied = systemMessages conversation ++ [summaryUserMsg summary, summaryAckMsg] ++
        conversation.drop (lastSummarizedIndex + 1) := by
  unfold applySummary at succeeds
  split at succeeds
  · cases succeeds
  · split at succeeds
    · cases succeeds
    · split at succeeds
      · cases succeeds
      · rename_i long inside enough
        cases succeeds
        exact ⟨Nat.lt_of_not_le inside, Nat.le_of_not_lt long, rfl⟩

/-- The conversation stays as it is, unless a summary waits that can be applied. -/
theorem ContextSummarizer.tryApply_cases (s : ContextSummarizer) (conversation : Conversation) :
    (s.tryApply conversation).1 = conversation ∨
      ∃ summary task results, s.results = (summary, task) :: results ∧ summary.isEmpty = false ∧
        applySummary conversation summary task.snapshot.lastSummarizedIndex task.snapshot.snapshotLen
          task.minKeep = some (s.tryApply conversation).1 := by
  unfold tryApply
  rcases s.results with - | ⟨⟨summary, task⟩, results⟩
  · exact .inl rfl
  · by_cases failed : summary.isEmpty = true
    · exact .inl (by simp only [if_pos failed])
    · rcases succeeds : applySummary conversation summary task.snapshot.lastSummarizedIndex
        task.snapshot.snapshotLen task.minKeep with - | shorter
      · exact .inl (by simp only [if_neg failed, succeeds, Option.getD_none])
      · refine .inr ⟨summary, task, results, rfl, by simpa using failed, ?_⟩
        simp only [if_neg failed, succeeds, Option.getD_some]

end Feros
