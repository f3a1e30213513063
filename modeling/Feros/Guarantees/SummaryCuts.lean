import Feros.Agent.ToolBlocks
/-! # Where a summary ends

`getMessagesToSummarize` ends in front of the first message with a tool call that has no result in the
range.  It knows the calls by their ids, so a result answers all calls of its id, and a call without an
id waits for nothing.

* **`HiddenCut`**: the range ends inside a block, and every id of the block has been answered in it.
* **`cut_cases`**: otherwise it ends in front of a block. -/

namespace Feros

/-! ## Cuts -/

/-- **The first `k` messages end inside a block where every id has its answer.** -/
def HiddenCut : List ToolBlock → ℕ → Prop
  | [], _ => False
  | b :: blocks, k =>
    if k < b.messages.length then
      0 < k ∧ ∀ id ∈ b.message.asked, some id ∈ (b.results.take (k - 1)).map (·.toolCallId)
    else HiddenCut blocks (k - b.messages.length)

instance decidableHiddenCut : (blocks : List ToolBlock) → (k : ℕ) → Decidable (HiddenCut blocks k)
  | [], _ => inferInstanceAs (Decidable False)
  | b :: blocks, k =>
    have := decidableHiddenCut blocks (k - b.messages.length)
    inferInstanceAs (Decidable (if k < b.messages.length then
      0 < k ∧ ∀ id ∈ b.message.asked, some id ∈ (b.results.take (k - 1)).map (·.toolCallId)
      else HiddenCut blocks (k - b.messages.length)))

/-- **A cut inside a block is hidden** where every id was answered before it. -/
theorem hiddenCut_inside {b : ToolBlock} {k : ℕ} (inside : k < b.results.length)
    (blocks : List ToolBlock) : HiddenCut (b :: blocks) (k + 1) ↔
      ∀ id ∈ b.message.asked, some id ∈ (b.results.take k).map (·.toolCallId) := by
  rw [HiddenCut, if_pos (by rw [b.messages_length]; omega), Nat.add_sub_cancel]
  exact and_iff_right (Nat.succ_pos k)

/-- A cut behind a block is a cut of the blocks behind it. -/
theorem hiddenCut_behind {b : ToolBlock} {k : ℕ} (behind : b.results.length ≤ k)
    (blocks : List ToolBlock) :
    HiddenCut (b :: blocks) (k + 1) ↔ HiddenCut blocks (k - b.results.length) := by
  rw [HiddenCut, if_neg (by rw [b.messages_length]; omega), b.messages_length, Nat.add_sub_add_right]

/-- A cut in front of everything is no cut. -/
theorem not_hiddenCut_zero (blocks : List ToolBlock) : ¬ HiddenCut blocks 0 := by
  cases blocks with
  | nil => exact id
  | cons b blocks =>
    rw [HiddenCut, if_pos (by rw [b.messages_length]; omega)]
    exact fun hidden => absurd hidden.1 (Nat.lt_irrefl 0)

/-- Behind such a cut comes a tool result. -/
theorem HiddenCut.result {blocks : List ToolBlock} {k : ℕ} (hidden : HiddenCut blocks k) :
    ∃ r rest, (messagesOf blocks).drop k = r :: rest ∧ r.role = .tool := by
  induction blocks generalizing k with
  | nil => exact absurd hidden id
  | cons b blocks ih =>
    cases k with
    | zero => exact absurd hidden (not_hiddenCut_zero _)
    | succ k =>
      rw [messagesOf_cons, List.drop_succ_cons]
      rcases Nat.lt_or_ge k b.results.length with inside | behind
      · refine ⟨b.results[k], b.results.drop (k + 1) ++ messagesOf blocks, ?_,
          b.tools _ (List.getElem_mem inside)⟩
        rw [List.drop_append_of_le_length inside.le, List.drop_eq_getElem_cons inside, List.cons_append]
      · rw [List.drop_append, List.drop_of_length_le behind, List.nil_append]
        exact ih ((hiddenCut_behind behind blocks).1 hidden)

/-- **No cut is hidden where every call of a message has an id of its own.** -/
theorem not_hiddenCut {blocks : List ToolBlock} (shape : Shape blocks)
    (own : ∀ b ∈ blocks, b.message.calls.Nodup ∧ none ∉ b.message.calls) (k : ℕ) :
    ¬ HiddenCut blocks k := by
  induction blocks generalizing k with
  | nil => exact id
  | cons b blocks ih =>
    cases k with
    | zero => exact not_hiddenCut_zero _
    | succ k =>
      rcases Nat.lt_or_ge k b.results.length with inside | behind
      · intro hidden
        have answered := (hiddenCut_inside inside blocks).1 hidden
        obtain ⟨distinct, named⟩ := own b List.mem_cons_self
        -- Each of the calls would need a result among the first `k`.
        have covers : b.message.calls ⊆ (b.results.take k).map (·.toolCallId) := by
          intro call held
          cases call with
          | none => exact absurd held named
          | some id => exact answered id (mem_asked.2 held)
        have fewer := (List.subperm_of_subset distinct covers).length_le
        have begun := (shape.begun b List.mem_cons_self).length_le
        rw [List.length_map] at begun
        rw [List.length_map, List.length_take] at fewer
        omega
      · intro hidden
        exact ih shape.tail (fun b' held => own b' (List.mem_cons_of_mem b held)) _
          ((hiddenCut_behind behind blocks).1 hidden)

/-- **Where the range ends** that is cut behind the first `k` messages, if they begin at index `i`. -/
inductive Cut (blocks : List ToolBlock) (i k : ℕ) : Option ℕ → Prop
  | hidden (unseen : HiddenCut blocks k) : Cut blocks i k none
  | between (n : ℕ) (seen : ¬ HiddenCut blocks k)
      (rest : (messagesOf blocks).drop k = messagesOf (blocks.drop n)) : Cut blocks i k none
  | opened (n j : ℕ) (seen : ¬ HiddenCut blocks k) (before : j < k)
      (rest : (messagesOf blocks).drop j = messagesOf (blocks.drop n)) : Cut blocks i k (some (i + j))

/-- The beginning of a block, cut behind `k` of its results. -/
theorem cut_inside {b : ToolBlock} {k : ℕ} (inside : k < b.results.length) (blocks : List ToolBlock)
    (i : ℕ) : Cut (b :: blocks) i (k + 1)
      ((openToolCalls [] i (b.message :: b.results.take k)).map (·.2)).min? := by
  have tools : ∀ r ∈ b.results.take k, r.role = .tool :=
    fun r held => b.tools r (List.mem_of_mem_take held)
  rcases openToolCalls_block i b.head tools with ⟨answered, none⟩ | ⟨⟨id, asked, missing⟩, first⟩
  · rw [none]
    exact .hidden ((hiddenCut_inside inside blocks).2 answered)
  · rw [first]
    have seen : ¬ HiddenCut (b :: blocks) (k + 1) :=
      fun hidden => missing ((hiddenCut_inside inside blocks).1 hidden id asked)
    exact .opened 0 0 seen (Nat.succ_pos k) rfl

/-- **A range ends in front of a block, unless the cut is hidden.** -/
theorem cut_cases {blocks : List ToolBlock} (shape : Shape blocks) (i k : ℕ) :
    Cut blocks i k ((openToolCalls [] i ((messagesOf blocks).take k)).map (·.2)).min? := by
  induction blocks generalizing i k with
  | nil =>
    rw [messagesOf_nil, List.take_nil]
    exact .between 0 id (by rw [messagesOf_nil, List.drop_nil]; rfl)
  | cons b blocks ih =>
    cases k with
    -- Nothing is cut, between no blocks.
    | zero => exact .between 0 (not_hiddenCut_zero _) rfl
    | succ k =>
      rw [messagesOf_cons, List.take_succ_cons]
      rcases Nat.lt_or_ge k b.results.length with inside | behind
      -- The cut is inside the first block.
      · rw [List.take_append_of_le_length inside.le]
        exact cut_inside inside blocks i
      -- The cut is behind the first block.
      · have whole : (b.results ++ messagesOf blocks).take k =
            b.results ++ (messagesOf blocks).take (k - b.results.length) := by
          rw [List.take_append, List.take_of_length_le behind]
        have later : ∀ j, (messagesOf (b :: blocks)).drop (b.results.length + 1 + j) =
            (messagesOf blocks).drop j := by
          intro j
          rw [messagesOf_cons, Nat.add_right_comm, List.drop_succ_cons, List.drop_append,
            List.drop_of_length_le (Nat.le_add_right _ _), Nat.add_sub_cancel_left, List.nil_append]
        rw [whole, ← List.cons_append, openToolCalls_append]
        rcases openToolCalls_block i b.head b.tools with ⟨-, none⟩ | ⟨⟨id, asked, missing⟩, first⟩
        · -- Nothing is left open, so the cut is that of the other blocks.
          rw [none]
          have next := ih shape.tail (i + (b.message :: b.results).length) (k - b.results.length)
          have place : k + 1 = b.results.length + 1 + (k - b.results.length) := by omega
          generalize ((openToolCalls [] (i + (b.message :: b.results).length)
            ((messagesOf blocks).take (k - b.results.length))).map (·.2)).min? = earliest at next ⊢
          cases next with
          | hidden unseen => exact .hidden ((hiddenCut_behind behind blocks).2 unseen)
          | between n seen rest =>
            refine .between (n + 1) (fun hidden => seen ((hiddenCut_behind behind blocks).1 hidden)) ?_
            rw [place, later, rest, List.drop_succ_cons]
          | opened n j seen before rest =>
            have index : i + (b.message :: b.results).length + j = i + (b.results.length + 1 + j) := by
              rw [List.length_cons]
              omega
            rw [index]
            refine .opened (n + 1) _ (fun hidden => seen ((hiddenCut_behind behind blocks).1 hidden))
              (by omega) ?_
            rw [later, rest, List.drop_succ_cons]
        · -- A block with an open call is the last one.
          have last : blocks = [] := by
            by_contra more
            have answered := (shape.head_answered more).mem_iff.2 (mem_asked.1 asked)
            exact missing answered
          subst last
          rw [messagesOf_nil, List.take_nil, openToolCalls, first]
          exact .opened 0 0 (fun hidden => (hiddenCut_behind behind []).1 hidden) (Nat.succ_pos k) rfl

/-! ## The guarantee -/

/-- **A summary that keeps the history valid**: the messages behind the summarized ones are there, at
least `minMessagesToKeep` of them, behind the system message and the summary, and all are blocks. -/
structure SummaryKeeps (system : ChatMessage) (messages summarized : Conversation) (summary : String)
    (minMessagesToKeep : ℕ) (applied : Conversation) : Prop where
  kept : ∃ kept, messages = summarized ++ kept ∧
    applied = system :: summaryUserMsg summary :: summaryAckMsg :: kept ∧
    minMessagesToKeep ≤ kept.length
  shape : ∃ blocks, applied = system :: messagesOf blocks ∧ Shape blocks

/-- A snapshot is the beginning of the conversation behind the system message. -/
theorem snapshot_eq {system : ChatMessage} {messages : Conversation} (role : system.role = .system)
    {minMessagesToKeep : ℕ} {snapshot : MessagesToSummarize}
    (found : getMessagesToSummarize (system :: messages) minMessagesToKeep = some snapshot) :
    minMessagesToKeep < messages.length ∧ ∃ last, snapshot.messages = messages.take last ∧
      snapshot.lastSummarizedIndex = last ∧
      answeredEnd (system :: messages) 1 (messages.length - minMessagesToKeep + 1) = last + 1 := by
  have start : summaryStart (system :: messages) = 1 := by
    simp [summaryStart, List.findIdx?_cons, role]
  rw [getMessagesToSummarize_def, start] at found
  dsimp only at found
  split at found
  · cases found
  · split at found
    · cases found
    · split at found
      · cases found
      · rename_i enough start last
        cases found
        rw [List.length_cons] at enough start last ⊢
        have limit : messages.length + 1 - minMessagesToKeep =
            messages.length - minMessagesToKeep + 1 := by omega
        rw [limit] at last ⊢
        obtain ⟨last', same⟩ : ∃ last', answeredEnd (system :: messages) 1
            (messages.length - minMessagesToKeep + 1) = last' + 1 := ⟨_, (Nat.succ_pred (by omega)).symm⟩
        rw [same]
        exact ⟨by omega, last', rfl, rfl, rfl⟩

/-- What `Cut` says about the end of the range. -/
theorem Cut.answeredEnd_eq {blocks : List ToolBlock} {system : ChatMessage} {messages : Conversation}
    {k : ℕ} (cut : Cut blocks 1 k ((openToolCalls [] 1 (messages.take k)).map (·.2)).min?) :
    HiddenCut blocks k ∧ answeredEnd (system :: messages) 1 (k + 1) = k + 1 ∨
      ¬ HiddenCut blocks k ∧ ∃ n j, j ≤ k ∧ answeredEnd (system :: messages) 1 (k + 1) = j + 1 ∧
        (messagesOf blocks).drop j = messagesOf (blocks.drop n) := by
  have range : ((system :: messages).take (k + 1)).drop 1 = messages.take k := rfl
  unfold answeredEnd findEarliestUnresolvedToolCall
  rw [range]
  generalize ((openToolCalls [] 1 (messages.take k)).map (·.2)).min? = earliest at cut ⊢
  cases cut with
  | hidden unseen => exact .inl ⟨unseen, rfl⟩
  | between n seen rest => exact .inr ⟨seen, n, k, le_rfl, rfl, rest⟩
  | opened n j seen before rest =>
    refine .inr ⟨seen, n, j, before.le, ?_, rest⟩
    dsimp only
    rw [if_pos (by omega), Nat.add_comm]

/-- **A summary keeps the history valid if and only if the limit is no hidden cut**, whatever the blocks
are and whatever was appended since.  `messages` are those of the snapshot behind the system message; the
blocks are those of the conversation the summary is applied to, of which they are the beginning. -/
theorem summary_keeps_iff {system : ChatMessage} (role : system.role = .system)
    {messages more : Conversation} {blocks : List ToolBlock} (grown : messages ++ more = messagesOf blocks)
    (shape : Shape blocks) {minMessagesToKeep : ℕ} {snapshot : MessagesToSummarize}
    (found : getMessagesToSummarize (system :: messages) minMessagesToKeep = some snapshot)
    {summary : String} {minMessagesAfterSummary : ℕ} {applied : Conversation}
    (succeeds : applySummary (system :: messages ++ more) summary snapshot.lastSummarizedIndex
      snapshot.snapshotLen minMessagesAfterSummary = some applied) :
    SummaryKeeps system (messages ++ more) snapshot.messages summary minMessagesToKeep applied ↔
      ¬ HiddenCut blocks (messages.length - minMessagesToKeep) := by
  obtain ⟨fewer, last, first, index, limit⟩ := snapshot_eq role found
  obtain ⟨-, -, rfl⟩ := applySummary_eq succeeds
  have systemFirst : systemMessages (system :: messages ++ more) = [system] := by
    simp [systemMessages, role]
  -- What is kept begins behind the last summarized message.
  have dropped : (system :: messages ++ more).drop (last + 1) = (messagesOf blocks).drop last := by
    rw [← grown]
    rfl
  rw [systemFirst, index, dropped, first]
  -- The messages that came later do not move the cut.
  have range : messages.take (messages.length - minMessagesToKeep) =
      (messagesOf blocks).take (messages.length - minMessagesToKeep) := by
    rw [← grown, List.take_append_of_le_length (Nat.sub_le _ _)]
  have cut := cut_cases shape 1 (messages.length - minMessagesToKeep)
  rw [← range] at cut
  rcases cut.answeredEnd_eq with ⟨hidden, ends⟩ | ⟨seen, n, j, before, ends, rest⟩
  · -- What is kept begins with a result behind the acknowledgment.
    refine iff_of_false ?_ (not_not_intro hidden)
    rintro ⟨-, blocks', made, shape'⟩
    rw [limit] at ends
    injection ends with ends
    obtain ⟨r, rest, begins, tool⟩ := hidden.result
    rw [ends, begins] at made
    injection made with _ made
    obtain ⟨blocks₁, made₁, shape₁⟩ := behind_alone shape' made.symm rfl
    obtain ⟨blocks₂, made₂, -⟩ := behind_alone shape₁ made₁ rfl
    exact head_messagesOf made₂ tool
  -- The cut is between two blocks.
  · refine iff_of_true ?_ seen
    rw [limit] at ends
    injection ends with ends
    subst ends
    constructor
    · refine ⟨(messagesOf blocks).drop last, ?_, rfl, ?_⟩
      · rw [← grown, List.drop_append_of_le_length (by omega), ← List.append_assoc,
          List.take_append_drop]
      · rw [← grown, List.length_drop, List.length_append]
        omega
    · rw [rest]
      -- Neither the summary nor its acknowledgment is a tool result.
      have user : (summaryUserMsg summary).role ≠ .tool := Role.noConfusion
      have ack : summaryAckMsg.role ≠ .tool := Role.noConfusion
      refine ⟨.alone _ user :: .alone _ ack :: blocks.drop n, rfl, ?_⟩
      exact .cons (ToolBlock.answered_alone user rfl)
        (.cons (ToolBlock.answered_alone ack rfl) (shape.drop n))

/-- A block of tool calls with these ids, each with a result. -/
def calling (ids : List String) : ToolBlock where
  message := ⟨.assistant, none, some (ids.map fun id => ⟨"book", "{}", some id, none⟩), none⟩
  results := ids.map (.toolResult · "done")
  head := Role.noConfusion
  tools := by
    intro r held
    obtain ⟨id, -, rfl⟩ := List.mem_map.1 held
    rfl
  opens _ := rfl

/-- Something the user says. -/
def hello : ToolBlock := .alone (.say .user "Hello") Role.noConfusion

/-- The limit falls between the results of two calls with different ids, and the summary ends in front
of them. -/
theorem summary_keeps_iff_distinct :
    SummaryKeeps (.say .system "") (messagesOf [hello, calling ["1", "2"]]) (messagesOf [hello]) "They met." 1
      (.say .system "" :: summaryUserMsg "They met." :: summaryAckMsg ::
        messagesOf [calling ["1", "2"]]) ↔ ¬ HiddenCut [hello, calling ["1", "2"]] 3 :=
  @summary_keeps_iff (.say .system "") rfl (messagesOf [hello, calling ["1", "2"]]) [] _ (List.append_nil _)
    (by decide) 1 ⟨messagesOf [hello], 1, 5⟩ (by decide +kernel) "They met." 1 _ (by decide +kernel)

/-- **Two calls with the same id are taken for answered by one result**: the summary ends between
their results, and the second one is left behind the acknowledgment. -/
theorem summary_splits_block : ∃ applied,
    Shape [hello, calling ["1", "1"]] ∧
    getMessagesToSummarize (.say .system "" :: messagesOf [hello, calling ["1", "1"]]) 1 =
      some ⟨(messagesOf [hello, calling ["1", "1"]]).take 3, 3, 5⟩ ∧
    applySummary (.say .system "" :: messagesOf [hello, calling ["1", "1"]]) "They met." 3 5 1 =
      some applied ∧
    ¬ SummaryKeeps (.say .system "") (messagesOf [hello, calling ["1", "1"]])
      ((messagesOf [hello, calling ["1", "1"]]).take 3) "They met." 1 applied := by
  refine ⟨[.say .system "", summaryUserMsg "They met.", summaryAckMsg, .toolResult "1" "done"],
    by decide, by decide +kernel, by decide +kernel, ?_⟩
  rintro ⟨-, blocks, made, shape⟩
  injection made with _ made
  obtain ⟨blocks₁, made₁, shape₁⟩ := behind_alone shape made.symm rfl
  obtain ⟨blocks₂, made₂, -⟩ := behind_alone shape₁ made₁ rfl
  exact head_messagesOf made₂ rfl

end Feros
