import Feros.Agent.Edits
import Feros.Agent.History
/-! # Background summaries

A summary task takes a copy of the beginning of the conversation; its result names what to replace by
an index.  The conversation may only grow at its end in between, and no other task may have had the
same beginning.

* **`SummaryHistory`** is a conversation with its summarizer.  Every message has an identity, and
  `applied` records for each summary what it was made of and what it replaced.
* **`Outstanding`** relates the one task that runs, or whose result waits, to the conversation. -/

namespace Feros

open Run

/-- **A summary that was applied**: the messages of its transcript, those it replaced, and the
identities of the former. -/
structure AppliedSummary where
  transcript : Conversation
  removed : Conversation
  ids : List ℕ
  deriving DecidableEq, Repr

/-- **A conversation and its summarizer.**  `ids`, `nextId`, `runningIds` and `resultIds` are the
identities of the messages, of those the running tasks were given, and of those the results are of;
`conversation` and `summarizer` do not depend on them. -/
structure SummaryHistory where
  conversation : Conversation
  summarizer : ContextSummarizer
  ids : List ℕ
  nextId : ℕ
  runningIds : List (List ℕ)
  resultIds : List (List ℕ)
  applied : List AppliedSummary
  deriving DecidableEq, Repr

namespace SummaryHistory

/-- A conversation with at most a system prompt. -/
def start (systemPrompt : Option String) : SummaryHistory where
  conversation := (systemPrompt.map (.say .system)).toList
  summarizer := .new
  ids := List.range systemPrompt.toList.length
  nextId := systemPrompt.toList.length
  runningIds := []
  resultIds := []
  applied := []

/-- The identities of the messages of a snapshot. -/
def snapshotIds (ids : List ℕ) (task : SummaryTask) : List ℕ :=
  (ids.take (task.snapshot.lastSummarizedIndex + 1)).drop
    (task.snapshot.lastSummarizedIndex + 1 - task.snapshot.messages.length)

/-- The first result, if it has a summary that can be applied: its task and the conversation. -/
def applies (s : SummaryHistory) : Option (SummaryTask × Conversation) :=
  match s.summarizer.results with
  | (summary, task) :: _ =>
    if summary.isEmpty then none
    else (applySummary s.conversation summary task.snapshot.lastSummarizedIndex
      task.snapshot.snapshotLen task.minKeep).map (task, ·)
  | [] => none

/-- One edit; an LLM call is none here. -/
def step (config : ContextSummarizationConfig) (s : SummaryHistory) : Edit → SummaryHistory
  | .append m _ =>
    { s with
      conversation := s.conversation ++ [m]
      ids := s.ids ++ [s.nextId]
      nextId := s.nextId + 1 }
  | .trim =>
    let conversation := trimHistory s.conversation
    { s with
      conversation := conversation
      ids := s.ids.take 1 ++ s.ids.drop (1 + (s.conversation.length - conversation.length)) }
  | .request => s
  | .maybeStart =>
    let summarizer := s.summarizer.maybeStart config s.conversation
    { s with
      summarizer := summarizer
      runningIds := s.runningIds ++
        (summarizer.running.drop s.summarizer.running.length).map (snapshotIds s.ids) }
  | .complete i summary =>
    { s with
      summarizer := s.summarizer.complete i summary
      runningIds := s.runningIds.eraseIdx i
      resultIds := s.resultIds ++ s.runningIds[i]?.toList }
  | .tryApply =>
    let result := s.summarizer.tryApply s.conversation
    let s' := { s with
      conversation := result.1, summarizer := result.2, resultIds := s.resultIds.tail }
    match s.applies with
    | some (task, _) =>
      let kept := (systemMessages s.conversation).length
      let removed := task.snapshot.lastSummarizedIndex + 1
      { s' with
        ids := s.ids.take kept ++ [s.nextId, s.nextId + 1] ++ s.ids.drop removed
        nextId := s.nextId + 2
        applied := s.applied ++ [⟨task.snapshot.messages, (s.conversation.take removed).drop kept,
          s.resultIds.head?.getD []⟩] }
    | none => s'
  | .cancel => { s with summarizer := s.summarizer.cancel, resultIds := [] }

/-! ## The invariant -/

/-- **The messages have identities**, and those that were summarized have others. -/
structure Identified (ids : List ℕ) (nextId : ℕ) (applied : List AppliedSummary) : Prop where
  distinct : ids.Nodup
  known : ∀ id ∈ ids, id < nextId
  once : (applied.flatMap (·.ids)).Nodup
  gone : ∀ id ∈ applied.flatMap (·.ids), id < nextId ∧ id ∉ ids

/-- **The one task that is outstanding** has a copy of the beginning of the conversation. -/
structure TaskOf (conversation : Conversation) (ids : List ℕ) (task : SummaryTask)
    (taskIds : List ℕ) : Prop where
  snapshot : SnapshotOf conversation task.snapshot
  ids : taskIds = (ids.take (task.snapshot.lastSummarizedIndex + 1)).drop
    (systemMessages conversation).length

/-- **At most one task is outstanding**: it runs, or its result waits. -/
inductive Outstanding (conversation : Conversation) (ids : List ℕ) :
    ContextSummarizer → List (List ℕ) → List (List ℕ) → Prop
  | nothing : Outstanding conversation ids ⟨false, [], []⟩ [] []
  | running {task : SummaryTask} {taskIds : List ℕ} (of : TaskOf conversation ids task taskIds) :
      Outstanding conversation ids ⟨true, [task], []⟩ [taskIds] []
  | waiting {task : SummaryTask} {taskIds : List ℕ} (of : TaskOf conversation ids task taskIds)
      (summary : String) : Outstanding conversation ids ⟨true, [], [(summary, task)]⟩ [] [taskIds]

/-- **The history is in order.** -/
structure InOrder (s : SummaryHistory) : Prop where
  one : OneSystem s.conversation
  length : s.ids.length = s.conversation.length
  identified : Identified s.ids s.nextId s.applied
  exact : ∀ summary ∈ s.applied, summary.removed = summary.transcript
  outstanding : Outstanding s.conversation s.ids s.summarizer s.runningIds s.resultIds

/-- **An edit that leaves the outstanding task alone**: messages are trimmed only if there is none, and
a task that runs is not cancelled. -/
def Undisturbed (s : SummaryHistory) : Edit → Prop
  | .trim => (s.summarizer.running = [] ∧ s.summarizer.results = []) ∨
      s.conversation.length ≤ 1 + maxHistoryTurns * 2
  | .cancel => s.summarizer.running = []
  | _ => True

instance (s : SummaryHistory) (edit : Edit) : Decidable (s.Undisturbed edit) := by
  cases edit <;> unfold Undisturbed <;> infer_instance

/-! ## What keeps it -/

section

variable {conversation : Conversation} {ids : List ℕ} {nextId : ℕ} {applied : List AppliedSummary}

/-- A message that is new gets an id of its own. -/
theorem Identified.append (identified : Identified ids nextId applied) :
    Identified (ids ++ [nextId]) (nextId + 1) applied where
  distinct := by
    rw [List.nodup_append]
    refine ⟨identified.distinct, List.nodup_cons.2 ⟨List.not_mem_nil, List.nodup_nil⟩, ?_⟩
    rintro id held _ new rfl
    have := identified.known id held
    rw [List.mem_singleton] at new
    omega
  known id held := by
    rcases List.mem_append.1 held with held | held
    · exact (identified.known id held).trans (Nat.lt_succ_self nextId)
    · rw [List.mem_singleton.1 held]
      exact Nat.lt_succ_self nextId
  once := identified.once
  gone id held := by
    obtain ⟨known, gone⟩ := identified.gone id held
    refine ⟨known.trans (Nat.lt_succ_self nextId), fun held => ?_⟩
    rcases List.mem_append.1 held with held | held
    · exact gone held
    · rw [List.mem_singleton.1 held] at known
      exact absurd known (Nat.lt_irrefl nextId)

/-- Messages are removed. -/
theorem Identified.sublist (identified : Identified ids nextId applied) {left : List ℕ}
    (fewer : left.Sublist ids) : Identified left nextId applied where
  distinct := identified.distinct.sublist fewer
  known id held := identified.known id (fewer.subset held)
  once := identified.once
  gone id held := by
    obtain ⟨known, gone⟩ := identified.gone id held
    exact ⟨known, fun held => gone (fewer.subset held)⟩

/-- The order of the ids does not matter. -/
theorem Identified.perm (identified : Identified ids nextId applied) {ids' : List ℕ}
    (same : ids.Perm ids') : Identified ids' nextId applied where
  distinct := same.nodup identified.distinct
  known id held := identified.known id (same.mem_iff.2 held)
  once := identified.once
  gone id held := by
    obtain ⟨known, gone⟩ := identified.gone id held
    exact ⟨known, fun held => gone (same.mem_iff.2 held)⟩

/-- Messages that are not there any more were summarized. -/
theorem Identified.apply (identified : Identified ids nextId applied) {taken : List ℕ}
    (distinct : taken.Nodup) (known : ∀ id ∈ taken, id < nextId ∧ id ∉ ids)
    (first : ∀ id ∈ applied.flatMap (·.ids), id ∉ taken) (transcript removed : Conversation) :
    Identified ids nextId (applied ++ [⟨transcript, removed, taken⟩]) where
  distinct := identified.distinct
  known := identified.known
  once := by
    rw [List.flatMap_append, List.flatMap_singleton, List.nodup_append]
    refine ⟨identified.once, distinct, ?_⟩
    rintro id before _ now rfl
    exact first id before now
  gone id held := by
    rw [List.flatMap_append, List.flatMap_singleton] at held
    rcases List.mem_append.1 held with held | held
    · exact identified.gone id held
    · exact known id held

/-- Messages in the middle are summarized. -/
theorem Identified.summarize {front middle back : List ℕ}
    (identified : Identified (front ++ middle ++ back) nextId applied)
    (transcript removed : Conversation) :
    Identified (front ++ [nextId, nextId + 1] ++ back) (nextId + 2)
      (applied ++ [⟨transcript, removed, middle⟩]) := by
  have fewer : (front ++ back).Sublist (front ++ middle ++ back) := by
    rw [List.append_assoc]
    exact List.Sublist.append_left (List.sublist_append_right middle back) front
  have grown : Identified (front ++ [nextId, nextId + 1] ++ back) (nextId + 2) applied := by
    refine (identified.sublist fewer).append.append.perm ?_
    rw [List.append_assoc, List.append_assoc, List.append_assoc]
    refine List.Perm.append_left front ?_
    exact List.perm_append_comm
  have distinct := identified.distinct
  rw [List.nodup_append, List.nodup_append] at distinct
  obtain ⟨⟨-, taken, apart⟩, -, apart'⟩ := distinct
  refine grown.apply taken (fun id held => ?_) (fun id before held => ?_) transcript removed
  · have known := identified.known id
      (List.mem_append_left _ (List.mem_append_right _ held))
    refine ⟨by omega, fun again => ?_⟩
    rcases List.mem_append.1 again with again | again
    · rcases List.mem_append.1 again with again | again
      · exact apart id again id held rfl
      · simp only [List.mem_cons, List.not_mem_nil, or_false] at again
        omega
    · exact apart' id (List.mem_append_right _ held) id again rfl
  · exact (identified.gone id before).2 (List.mem_append_left _ (List.mem_append_right _ held))

/-- A task still summarizes the same messages when one is added. -/
theorem TaskOf.append {task : SummaryTask} {taskIds : List ℕ}
    (of : TaskOf conversation ids task taskIds) (length : ids.length = conversation.length)
    (m : ChatMessage) (id : ℕ) : TaskOf (conversation ++ [m]) (ids ++ [id]) task taskIds := by
  obtain ⟨⟨messages, inside, behind⟩, same⟩ := of
  have some : conversation ≠ [] := by
    rintro rfl
    rw [List.length_nil] at inside
    omega
  refine ⟨⟨?_, ?_, ?_⟩, ?_⟩
  · rw [systemMessages_append some, List.take_append_of_le_length inside]
    exact messages
  · rw [List.length_append]
    omega
  · rw [systemMessages_append some]
    exact behind
  · rw [systemMessages_append some, List.take_append_of_le_length (length ▸ inside)]
    exact same

/-- Tasks that are under way stay so when a message is added. -/
theorem Outstanding.append {summarizer : ContextSummarizer} {runningIds resultIds : List (List ℕ)}
    (outstanding : Outstanding conversation ids summarizer runningIds resultIds)
    (length : ids.length = conversation.length) (m : ChatMessage) (id : ℕ) :
    Outstanding (conversation ++ [m]) (ids ++ [id]) summarizer runningIds resultIds := by
  cases outstanding with
  | nothing => exact .nothing
  | running of => exact .running (of.append length m id)
  | waiting of summary => exact .waiting (of.append length m id) summary

/-- **The ids of a task are those of its snapshot.** -/
theorem TaskOf.snapshotIds_eq {task : SummaryTask}
    (snapshot : SnapshotOf conversation task.snapshot) :
    TaskOf conversation ids task (snapshotIds ids task) where
  snapshot := snapshot
  ids := by
    have count : task.snapshot.messages.length = task.snapshot.lastSummarizedIndex + 1 -
        (systemMessages conversation).length := by
      rw [snapshot.messages, List.length_drop, List.length_take_of_le snapshot.inside]
    have behind := snapshot.behind
    have start : task.snapshot.lastSummarizedIndex + 1 - task.snapshot.messages.length =
        (systemMessages conversation).length := by
      omega
    rw [snapshotIds, start]

/-- A task is started if none is outstanding. -/
theorem outstanding_maybeStart {summarizer : ContextSummarizer} {runningIds resultIds : List (List ℕ)}
    (config : ContextSummarizationConfig) (one : OneSystem conversation)
    (outstanding : Outstanding conversation ids summarizer runningIds resultIds) :
    let after := summarizer.maybeStart config conversation
    Outstanding conversation ids after
      (runningIds ++ (after.running.drop summarizer.running.length).map (snapshotIds ids)) resultIds := by
  intro after
  have busy : summarizer.inProgress = true → after = summarizer := fun busy => if_pos busy
  cases outstanding with
  | nothing =>
    have started : after = ⟨false, [], []⟩ ∨ ∃ snapshot, getMessagesToSummarize conversation
        config.minMessagesAfterSummary = some snapshot ∧
          after = ⟨true, [⟨snapshot, config.minMessagesAfterSummary⟩], []⟩ := by
      simp only [after, ContextSummarizer.maybeStart, Bool.false_eq_true, if_false]
      split
      · exact .inl rfl
      · rcases getMessagesToSummarize conversation config.minMessagesAfterSummary with - | snapshot
        · exact .inl rfl
        · dsimp only
          split
          · exact .inl rfl
          · exact .inr ⟨snapshot, rfl, rfl⟩
    rcases started with same | ⟨snapshot, found, started⟩
    · rw [same]
      exact .nothing
    · rw [started]
      exact .running (TaskOf.snapshotIds_eq (snapshotOf_getMessagesToSummarize one found))
  | running of =>
    rw [busy rfl]
    exact .running of
  | waiting of summary =>
    rw [busy rfl]
    exact .waiting of summary

/-- A task sends its result. -/
theorem outstanding_complete {summarizer : ContextSummarizer} {runningIds resultIds : List (List ℕ)}
    (outstanding : Outstanding conversation ids summarizer runningIds resultIds) (i : ℕ)
    (summary : String) :
    Outstanding conversation ids (summarizer.complete i summary) (runningIds.eraseIdx i)
      (resultIds ++ runningIds[i]?.toList) := by
  cases outstanding with
  | nothing => exact .nothing
  | running of =>
    cases i with
    | zero => exact .waiting of summary
    | succ i => exact .running of
  | waiting of summary' => exact .waiting of summary'

/-- A result that waits is forgotten. -/
theorem outstanding_cancel {summarizer : ContextSummarizer} {runningIds resultIds : List (List ℕ)}
    (outstanding : Outstanding conversation ids summarizer runningIds resultIds)
    (idle : summarizer.running = []) :
    Outstanding conversation ids summarizer.cancel runningIds [] := by
  cases outstanding with
  | nothing => exact .nothing
  | running of => cases idle
  | waiting of summary => exact .nothing

/-- With no task outstanding, the conversation does not matter. -/
theorem Outstanding.idle {summarizer : ContextSummarizer} {runningIds resultIds : List (List ℕ)}
    (outstanding : Outstanding conversation ids summarizer runningIds resultIds)
    (idle : summarizer.running = [] ∧ summarizer.results = []) (conversation' : Conversation)
    (ids' : List ℕ) : Outstanding conversation' ids' summarizer runningIds resultIds := by
  cases outstanding with
  | nothing => exact .nothing
  | running of => cases idle.1
  | waiting of summary => cases idle.2

end

/-! ## Edits -/

variable {s : SummaryHistory}

/-- A trim that disturbs no task keeps the order. -/
theorem inOrder_trim (order : s.InOrder) (undisturbed : s.Undisturbed .trim)
    (config : ContextSummarizationConfig) : (s.step config .trim).InOrder := by
  by_cases short : s.conversation.length ≤ 1 + maxHistoryTurns * 2
  · have same : s.step config .trim = s := by
      simp only [step, trimHistory_short short, Nat.sub_self, Nat.add_zero, List.take_append_drop]
    rw [same]
    exact order
  · have idle : s.summarizer.running = [] ∧ s.summarizer.results = [] :=
      undisturbed.resolve_right short
    have fewer : (s.ids.take 1 ++ s.ids.drop (1 + (s.conversation.length -
        (trimHistory s.conversation).length))).Sublist s.ids := by
      conv_rhs => rw [← List.take_append_drop 1 s.ids]
      refine List.Sublist.append_left ?_ _
      rw [← List.drop_drop]
      exact List.drop_sublist _ _
    refine ⟨?_, ?_, order.identified.sublist fewer, order.exact, order.outstanding.idle idle _ _⟩
    · intro m held
      change m ∈ (trimHistory s.conversation).drop 1 at held
      rw [trimHistory_eq] at held
      have first : (s.conversation.take 1).length = 1 := by
        rw [List.length_take]
        omega
      rw [List.drop_left' first, ← List.drop_drop] at held
      exact order.one m (List.mem_of_mem_drop held)
    · have trimmed := congrArg List.length (trimHistory_eq s.conversation)
      change (s.ids.take 1 ++ s.ids.drop (1 + (s.conversation.length -
        (trimHistory s.conversation).length))).length = (trimHistory s.conversation).length
      have lengths := order.length
      simp only [List.length_append, List.length_take, List.length_drop] at trimmed ⊢
      omega

/-- **A summary replaces what it was made of.** -/
theorem inOrder_applied (order : s.InOrder) {summary : String} {task : SummaryTask}
    {taskIds : List ℕ} (of : TaskOf s.conversation s.ids task taskIds) {conversation : Conversation}
    (succeeds : applySummary s.conversation summary task.snapshot.lastSummarizedIndex
      task.snapshot.snapshotLen task.minKeep = some conversation) :
    let kept := (systemMessages s.conversation).length
    let removed := task.snapshot.lastSummarizedIndex + 1
    InOrder
      { conversation := conversation
        summarizer := ⟨false, [], []⟩
        ids := s.ids.take kept ++ [s.nextId, s.nextId + 1] ++ s.ids.drop removed
        nextId := s.nextId + 2
        runningIds := []
        resultIds := []
        applied := s.applied ++ [⟨task.snapshot.messages, (s.conversation.take removed).drop kept,
          taskIds⟩] } := by
  intro kept removed
  obtain ⟨-, -, shorter⟩ := applySummary_eq succeeds
  obtain ⟨⟨messages, inside, behind⟩, same⟩ := of
  have behind' : kept ≤ removed := behind.trans (Nat.le_succ _)
  -- The messages between the system message and the end of the summarized ones have these identities.
  have split : s.ids = s.ids.take kept ++ taskIds ++ s.ids.drop removed := by
    rw [same]
    have front : (s.ids.take removed).take kept = s.ids.take kept := by
      rw [List.take_take, min_eq_left behind']
    rw [← front, List.take_append_drop, List.take_append_drop]
  refine ⟨?_, ?_, ?_, ?_, .nothing⟩
  · intro m held
    rw [shorter] at held
    have later : ∀ m ∈ s.conversation.drop removed, m.role ≠ .system := by
      intro m held
      refine order.one m ?_
      have further : removed = 1 + task.snapshot.lastSummarizedIndex := Nat.add_comm _ _
      rw [further, ← List.drop_drop] at held
      exact List.mem_of_mem_drop held
    have others : ∀ m ∈ [summaryUserMsg summary, summaryAckMsg] ++ s.conversation.drop removed,
        m.role ≠ .system := by
      intro m held
      rcases List.mem_append.1 held with held | held
      · simp only [List.mem_cons, List.not_mem_nil, or_false] at held
        rcases held with rfl | rfl <;> exact Role.noConfusion
      · exact later m held
    have alone : OneSystem (systemMessages s.conversation) := by
      intro m held
      have gone : (systemMessages s.conversation).drop 1 = [] :=
        List.drop_eq_nil_of_le (systemMessages_length_le _)
      rw [gone] at held
      cases held
    rw [List.append_assoc] at held
    exact alone.append others m held
  · have lengths := order.length
    have kept' : kept ≤ s.conversation.length := by omega
    change (s.ids.take kept ++ [s.nextId, s.nextId + 1] ++ s.ids.drop removed).length =
      conversation.length
    rw [shorter]
    simp only [List.length_append, List.length_take, List.length_drop, List.length_cons, lengths,
      List.length_nil]
    omega
  · have identified := order.identified
    rw [split] at identified
    exact identified.summarize task.snapshot.messages _
  · intro applied held
    rcases List.mem_append.1 held with held | held
    · exact order.exact applied held
    · rw [List.mem_singleton.1 held]
      exact messages.symm

/-- **A summary that is applied keeps the order.** -/
theorem inOrder_tryApply (order : s.InOrder) (config : ContextSummarizationConfig) :
    (s.step config .tryApply).InOrder := by
  obtain ⟨conversation, summarizer, ids, nextId, runningIds, resultIds, applied⟩ := s
  obtain ⟨one, length, identified, exact', outstanding⟩ := order
  cases outstanding with
  | nothing => exact ⟨one, length, identified, exact', .nothing⟩
  | running of => exact ⟨one, length, identified, exact', .running of⟩
  | waiting of summary =>
    rename_i task taskIds
    by_cases failed : summary.isEmpty = true
    · simp only [step, applies, ContextSummarizer.tryApply, if_pos failed]
      exact ⟨one, length, identified, exact', .nothing⟩
    · rcases succeeds : applySummary conversation summary task.snapshot.lastSummarizedIndex
        task.snapshot.snapshotLen task.minKeep with - | shorter
      · simp only [step, applies, ContextSummarizer.tryApply, if_neg failed, succeeds, Option.map_none,
          Option.getD_none]
        exact ⟨one, length, identified, exact', .nothing⟩
      · simp only [step, applies, ContextSummarizer.tryApply, if_neg failed, succeeds, Option.map_some,
          Option.getD_some]
        exact inOrder_applied ⟨one, length, identified, exact', .waiting of summary⟩ of succeeds

/-- **An edit keeps the history in order**, if it leaves the outstanding task alone. -/
theorem inOrder_step (config : ContextSummarizationConfig) (s : SummaryHistory) (edit : Edit)
    (order : s.InOrder) (undisturbed : s.Undisturbed edit) : (s.step config edit).InOrder := by
  cases edit with
  | append m other =>
    refine ⟨?_, ?_, order.identified.append, order.exact, order.outstanding.append order.length m _⟩
    · refine order.one.append fun m' held => ?_
      rw [List.mem_singleton.1 held]
      exact other
    · change (s.ids ++ [s.nextId]).length = (s.conversation ++ [m]).length
      rw [List.length_append, List.length_append, order.length]
      rfl
  | trim => exact inOrder_trim order undisturbed config
  | request => exact order
  | maybeStart =>
    exact ⟨order.one, order.length, order.identified, order.exact,
      outstanding_maybeStart config order.one order.outstanding⟩
  | complete i summary =>
    exact ⟨order.one, order.length, order.identified, order.exact,
      outstanding_complete order.outstanding i summary⟩
  | tryApply => exact inOrder_tryApply order config
  | cancel =>
    refine ⟨order.one, order.length, order.identified, order.exact, ?_⟩
    exact outstanding_cancel order.outstanding undisturbed

/-- A history that starts is in order. -/
theorem inOrder_start (systemPrompt : Option String) : (start systemPrompt).InOrder := by
  have alone : Identified (List.range systemPrompt.toList.length) systemPrompt.toList.length [] :=
    ⟨List.nodup_range, fun id held => List.mem_range.1 held, List.nodup_nil,
      fun id held => absurd held List.not_mem_nil⟩
  refine ⟨?_, ?_, alone, fun _ held => absurd held List.not_mem_nil, .nothing⟩
  · intro m held
    cases systemPrompt <;> cases held
  · cases systemPrompt <;> rfl

/-! ## The backend -/

/-- **The history of the backend is one of these**: the conversation and the summarizer are edited in
the same way. -/
theorem follows_edit {settings : HistorySettings} {h : History} {s : SummaryHistory}
    (same : h.conversation = s.conversation) (summarizes : h.summarizer = some s.summarizer)
    (edit : Edit) :
    let s' := s.step settings.summarization edit
    (h.edit settings edit).conversation = s'.conversation ∧
      (h.edit settings edit).summarizer = some s'.summarizer := by
  obtain ⟨conversation, summarizer, requests⟩ := h
  dsimp only at same summarizes
  subst same summarizes
  cases edit with
  | request =>
    unfold History.edit
    dsimp only
    rcases settings.params with message | params <;> exact ⟨rfl, rfl⟩
  | tryApply =>
    simp only [step, History.edit]
    rcases s.applies with - | ⟨task, conversation⟩ <;> exact ⟨rfl, rfl⟩
  | _ => exact ⟨rfl, rfl⟩

/-- **Every run of a backend that summarizes goes through such a history**: there are edits that lead
to its conversation and its summarizer. -/
theorem follows_run (b : DefaultAgentBackend) {s : SummaryHistory}
    (same : b.conversation = s.conversation) (summarizes : b.contextSummarizer = some s.summarizer)
    {calls : List AgentCall} (keeps : ∀ call ∈ calls, call.setsPrompt = false) :
    ∃ edits, let s' := run (step b.contextSummarizationConfig) s edits
      (run DefaultAgentBackend.step b calls).conversation = s'.conversation ∧
        (run DefaultAgentBackend.step b calls).contextSummarizer = some s'.summarizer := by
  obtain ⟨-, edits, edited⟩ := b.edited_run keeps
  have follows : ∀ (edits : List Edit) (h : History) (s : SummaryHistory),
      h.conversation = s.conversation → h.summarizer = some s.summarizer →
        (run (History.edit b.settings) h edits).conversation =
            (run (step b.contextSummarizationConfig) s edits).conversation ∧
          (run (History.edit b.settings) h edits).summarizer =
            some (run (step b.contextSummarizationConfig) s edits).summarizer := by
    intro edits
    induction edits with
    | nil => exact fun h s same summarizes => ⟨same, summarizes⟩
    | cons edit edits ih =>
      intro h s same summarizes
      obtain ⟨same', summarizes'⟩ := follows_edit same summarizes edit
      exact ih _ _ same' summarizes'
  obtain ⟨conversation, summarizer⟩ := follows edits b.history s same summarizes
  rw [← edited] at conversation summarizer
  exact ⟨edits, conversation, summarizer⟩

/-! ## The guarantee -/

/-- **A summary replaces the messages it was made of**, and no message is summarized twice, in every
history that leaves an outstanding task alone. -/
theorem summaries_exact (config : ContextSummarizationConfig) (systemPrompt : Option String)
    (edits : List Edit) (undisturbed : Along (step config) Undisturbed (start systemPrompt) edits) :
    let s := run (step config) (start systemPrompt) edits
    (∀ summary ∈ s.applied, summary.removed = summary.transcript) ∧
      (s.applied.flatMap (·.ids)).Nodup := by
  intro s
  have order : s.InOrder := invariant (inOrder_step config) (inOrder_start systemPrompt) undisturbed
  exact ⟨order.exact, order.identified.once⟩

/-- The user says these things. -/
def saying (texts : List String) : List Edit :=
  texts.map fun text => .append (.say .user text) Role.noConfusion

/-- Twenty things the user says. -/
def talk : List Edit :=
  saying ["a", "b", "c", "d", "e", "f", "g", "h", "i", "j", "k", "l", "m", "n", "o", "p", "q", "r", "s",
    "t"]

/-- A summary is applied after more was said. -/
theorem summaries_exact_once :
    let s := run (step {}) (start (some "")) (talk ++ .maybeStart :: saying ["u"] ++
      [.complete 0 "They talked.", .tryApply])
    (∀ summary ∈ s.applied, summary.removed = summary.transcript) ∧
      (s.applied.flatMap (·.ids)).Nodup :=
  summaries_exact {} (some "") _ (by decide +kernel)

/-- **The result of a cancelled task is applied to other messages.**  Two tasks get the same messages,
as the first one is cancelled while it runs.  Both results arrive; the first is applied, and when the
conversation has grown back to its old length the second one is applied to what was said since. -/
theorem late_summary_applied :
    let s := run (step {}) (start (some "")) (talk ++ [.maybeStart, .cancel, .maybeStart,
      .complete 0 "They talked.", .complete 0 "They talked.", .tryApply] ++ talk ++ [.tryApply])
    (¬ ∀ summary ∈ s.applied, summary.removed = summary.transcript) ∧
      ¬ (s.applied.flatMap (·.ids)).Nodup := by
  decide +kernel

/-- **A trimmed conversation is cut in the wrong place**: while the task runs one more message than
fits is added, and the oldest one is removed. -/
theorem trimmed_summary_applied :
    let s := run (step {}) (start (some "")) (talk ++ talk ++ talk ++ talk ++ talk ++ .maybeStart ::
      saying ["u"] ++ [.trim, .complete 0 "They talked.", .tryApply])
    ¬ ∀ summary ∈ s.applied, summary.removed = summary.transcript := by
  decide +kernel

end SummaryHistory

end Feros
