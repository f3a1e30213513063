import Feros.Agent.History
import Mathlib.Data.List.Nodup
import Mathlib.Data.List.Count
/-! # Blocks of tool calls

A conversation that a provider accepts consists of blocks: a message that is no tool result, and one
answer for each of its tool calls.

* **`WellFormed`** is that grammar.
* **`ToolsPaired`** says the same message by message.
* `trimHistory` cuts no block, and a summary cuts none if what it keeps begins with one. -/

namespace Feros

/-- The ids of the tool calls that a message waits for. -/
def ChatMessage.asked (m : ChatMessage) : List String :=
  if m.role = .assistant then m.callIds else []

/-- **A block**: a message and one answer for each of its tool calls, in any order. -/
structure Block (m : ChatMessage) (answers : Conversation) : Prop where
  head : m.role ≠ .tool
  tools : ∀ r ∈ answers, r.role = .tool
  distinct : m.asked.Nodup
  answered : (answers.map (·.toolCallId)).Perm (m.asked.map some)

/-- **A well-formed conversation.** -/
inductive WellFormed : Conversation → Prop
  | nil : WellFormed []
  | block {m : ChatMessage} {answers rest : Conversation} (complete : Block m answers)
      (after : WellFormed rest) : WellFormed (m :: (answers ++ rest))

/-- **Every tool result answers a call of the block it is in**, and every call is answered once in its
block. -/
structure ToolsPaired (conversation : Conversation) : Prop where
  preceded : ∀ front m back, conversation = front ++ m :: back → m.role = .tool →
    ∃ before caller between, front = before ++ caller :: between ∧ caller.role = .assistant ∧
      (∃ id ∈ caller.callIds, m.toolCallId = some id) ∧ ∀ r ∈ between, r.role = .tool
  answered : ∀ front m back, conversation = front ++ m :: back → m.role = .assistant →
    ∀ id ∈ m.callIds,
      (back.takeWhile (·.role = .tool)).countP (·.toolCallId = some id) = 1

/-! ## Blocks -/

/-- A block has as many answers as its message has calls. -/
theorem Block.length {m : ChatMessage} {answers : Conversation} (complete : Block m answers) :
    answers.length = m.asked.length := by
  have same := complete.answered.length_eq
  rwa [List.length_map, List.length_map] at same

/-- A message without tool calls is a block. -/
theorem block_alone {m : ChatMessage} (head : m.role ≠ .tool) (alone : m.asked = []) : Block m [] where
  head := head
  tools _ held := absurd held List.not_mem_nil
  distinct := alone ▸ List.nodup_nil
  answered := by
    rw [alone]
    exact List.Perm.refl []

/-- A message that waits for answers opens a block. -/
theorem opensBlock_of_asked {m : ChatMessage} (calls : m.asked ≠ []) : m.opensBlock = true := by
  unfold ChatMessage.asked at calls
  by_cases assistant : m.role = .assistant
  · rw [if_pos assistant, ChatMessage.callIds] at calls
    rcases some : m.toolCalls with - | toolCalls
    · rw [some] at calls
      exact absurd rfl calls
    · simp [ChatMessage.opensBlock, assistant, some]
  · exact absurd (if_neg assistant) calls

namespace WellFormed

/-- A message without calls is a conversation. -/
theorem single {m : ChatMessage} (head : m.role ≠ .tool) (alone : m.asked = []) : WellFormed [m] :=
  block (block_alone head alone) nil

/-- One conversation after the other is one. -/
theorem append {first second : Conversation} (wellFormed : WellFormed first)
    (next : WellFormed second) : WellFormed (first ++ second) := by
  induction wellFormed with
  | nil => exact next
  | block complete after ih =>
    rw [List.cons_append, List.append_assoc]
    exact block complete ih

end WellFormed

/-! ## Message by message -/

/-- The tool results behind a block belong to none. -/
theorem takeWhile_rest {rest : Conversation} (wellFormed : WellFormed rest) :
    rest.takeWhile (·.role = .tool) = [] := by
  cases wellFormed with
  | nil => rfl
  | block complete after => simp [complete.head]

/-- The answers of a block come right behind its message. -/
theorem takeWhile_answers {answers rest : Conversation} (tools : ∀ r ∈ answers, r.role = .tool)
    (wellFormed : WellFormed rest) : (answers ++ rest).takeWhile (·.role = .tool) = answers := by
  rw [List.takeWhile_append_of_pos (by simpa using tools), takeWhile_rest wellFormed, List.append_nil]

/-- A call of a block has one answer. -/
theorem Block.count {m : ChatMessage} {answers : Conversation} (complete : Block m answers)
    {id : String} (called : id ∈ m.asked) : answers.countP (·.toolCallId = some id) = 1 := by
  have count : (answers.map (·.toolCallId)).count (some id) = (m.asked.map some).count (some id) :=
    complete.answered.count_eq _
  have once : m.asked.count id = 1 := List.count_eq_one_of_mem complete.distinct called
  have injective : Function.Injective (some : String → Option String) := fun _ _ => Option.some.inj
  rw [List.count_map_of_injective _ _ injective, once] at count
  rw [← count, List.count, List.countP_map]
  refine List.countP_congr fun r _ => ?_
  simp

/-- **In a well-formed conversation tools are paired.** -/
theorem WellFormed.toolsPaired {conversation : Conversation} (wellFormed : WellFormed conversation) :
    ToolsPaired conversation := by
  induction wellFormed with
  | nil =>
    constructor
    · intro front m back split
      cases front <;> cases split
    · intro front m back split
      cases front <;> cases split
  | @block m answers rest complete after ih =>
    -- A message is the head of the block, an answer of the block, or behind it.
    have inside : ∀ front r back, m :: (answers ++ rest) = front ++ r :: back →
        (front = [] ∧ r = m ∧ back = answers ++ rest) ∨
        (∃ before left, front = m :: before ∧ answers = before ++ r :: left) ∨
        ∃ before, front = m :: (answers ++ before) ∧ rest = before ++ r :: back := by
      intro front r back split
      cases front with
      | nil =>
        injection split with same split
        exact .inl ⟨rfl, same.symm, split.symm⟩
      | cons first front =>
        injection split with same split
        subst same
        rcases List.append_eq_append_iff.1 split with ⟨before, there, later⟩ | ⟨left, here, later⟩
        · exact .inr (.inr ⟨before, by rw [there], later⟩)
        · cases left with
          | nil =>
            rw [List.append_nil] at here
            exact .inr (.inr ⟨[], by rw [here, List.append_nil], later.symm⟩)
          | cons r' left =>
            injection later with same later
            subst same
            exact .inr (.inl ⟨front, left, rfl, here⟩)
    constructor
    · intro front r back split tool
      rcases inside front r back split with ⟨-, rfl, -⟩ | ⟨before, left, rfl, here⟩ | ⟨before, rfl, there⟩
      · exact absurd tool complete.head
      -- An answer of the block is preceded by the head, which asked for it.
      · have held : r ∈ answers := by
          rw [here]
          exact List.mem_append_right _ List.mem_cons_self
        have answers' : r.toolCallId ∈ m.asked.map some :=
          complete.answered.mem_iff.1 (List.mem_map_of_mem held)
        obtain ⟨id, called, same⟩ := List.mem_map.1 answers'
        have assistant : m.role = .assistant := by
          by_contra other
          rw [ChatMessage.asked, if_neg other] at called
          cases called
        rw [ChatMessage.asked, if_pos assistant] at called
        refine ⟨[], m, before, rfl, assistant, ⟨id, called, same.symm⟩, fun r' held => ?_⟩
        refine complete.tools r' ?_
        rw [here]
        exact List.mem_append_left _ held
      · obtain ⟨first, caller, between, rfl, assistant, called, tools⟩ :=
          ih.preceded before r back there tool
        refine ⟨m :: (answers ++ first), caller, between, ?_, assistant, called, tools⟩
        rw [List.cons_append, List.append_assoc]
    · intro front r back split assistant id called
      rcases inside front r back split with ⟨-, rfl, rfl⟩ | ⟨before, left, rfl, here⟩ | ⟨before, rfl, there⟩
      -- The answers of the head are the tool messages right behind it.
      · rw [takeWhile_answers complete.tools after]
        exact complete.count (by rwa [ChatMessage.asked, if_pos assistant])
      · have tool : r.role = .tool := by
          refine complete.tools r ?_
          rw [here]
          exact List.mem_append_right _ List.mem_cons_self
        rw [assistant] at tool
        cases tool
      · exact ih.answered before r back there assistant id called

/-! ## The hard trim -/

/-- Inside a block its results are removed. -/
theorem removeOldest_tools {answers : Conversation} (tools : ∀ r ∈ answers, r.role = .tool)
    (target : ℕ) (rest : Conversation) :
    removeOldest target true (answers ++ rest) = removeOldest (target - answers.length) true rest := by
  induction answers generalizing target with
  | nil => rfl
  | cons r answers ih =>
    have tool : r.role = .tool := tools r List.mem_cons_self
    rw [List.cons_append, removeOldest, if_pos (by simp [tool]),
      ih (fun r' held => tools r' (List.mem_cons_of_mem r held)), List.length_cons]
    congr 1
    omega

/-- At the beginning of a block it does not matter what came before. -/
theorem removeOldest_flag {rest : Conversation} (wellFormed : WellFormed rest) (target : ℕ)
    (inBlock : Bool) : removeOldest target inBlock rest = removeOldest target false rest := by
  cases wellFormed with
  | nil => rfl
  | block complete after =>
    have head := complete.head
    simp [removeOldest, head]

/-- **Whole blocks are removed.** -/
theorem wellFormed_removeOldest {conversation : Conversation} (wellFormed : WellFormed conversation)
    (target : ℕ) : WellFormed (removeOldest target false conversation) := by
  induction wellFormed generalizing target with
  | nil => exact .nil
  | @block m answers rest complete after ih =>
    by_cases enough : target = 0
    · have kept : removeOldest target false (m :: (answers ++ rest)) = m :: (answers ++ rest) := by
        simp [removeOldest, enough]
      rw [kept]
      exact .block complete after
    · have removed : removeOldest target false (m :: (answers ++ rest)) =
          removeOldest (target - 1) m.opensBlock (answers ++ rest) := by
        simp [removeOldest, enough]
      rw [removed]
      rcases List.eq_nil_or_concat answers with rfl | ⟨_, _, some⟩
      · rw [List.nil_append, removeOldest_flag after]
        exact ih (target - 1)
      · have calls : m.asked ≠ [] := by
          intro none
          have length := complete.length
          rw [none, some] at length
          simp at length
        rw [opensBlock_of_asked calls, removeOldest_tools complete.tools, removeOldest_flag after]
        exact ih _

/-! ## What is to be summarized -/

/-- The open calls of one part after the other. -/
theorem openToolCalls_append (pending : List (String × ℕ)) (i : ℕ) (first second : Conversation) :
    openToolCalls pending i (first ++ second) =
      openToolCalls (openToolCalls pending i first) (i + first.length) second := by
  induction first generalizing pending i with
  | nil => rfl
  | cons m first ih =>
    rw [List.cons_append, openToolCalls, ih, openToolCalls, List.length_cons]
    congr 1
    omega

/-- Behind some answers the calls are open that none of them answers. -/
theorem openToolCalls_answers {answers : Conversation} (tools : ∀ r ∈ answers, r.role = .tool)
    (pending : List (String × ℕ)) (i : ℕ) :
    openToolCalls pending i answers =
      pending.filter fun p => some p.1 ∉ answers.map (·.toolCallId) := by
  induction answers generalizing pending i with
  | nil => simp [openToolCalls]
  | cons r answers ih =>
    have tool : r.role = .tool := tools r List.mem_cons_self
    have tracked : trackToolCalls pending i r = pending.filter fun p => some p.1 ≠ r.toolCallId := by
      rcases answered : r.toolCallId with - | id
      · simp [trackToolCalls, tool, answered]
      · simp only [trackToolCalls, tool, answered, reduceCtorEq, if_false]
        refine List.filter_congr fun p _ => ?_
        simp [bne, beq_eq_decide]
    rw [openToolCalls, tracked, ih (fun r' held => tools r' (List.mem_cons_of_mem r held)),
      List.filter_filter]
    refine List.filter_congr fun p _ => ?_
    simp only [List.map_cons, List.mem_cons, not_or, Bool.decide_and]
    exact Bool.and_comm _ _

/-- Behind a message its calls are open. -/
theorem trackToolCalls_eq (i : ℕ) {m : ChatMessage} (head : m.role ≠ .tool) :
    (∀ p ∈ trackToolCalls [] i m, p.2 = i ∧ p.1 ∈ m.asked) ∧
      ∀ id ∈ m.asked, (id, i) ∈ trackToolCalls [] i m := by
  have calls : trackToolCalls [] i m =
      m.asked.foldl (fun pending id => (id, i) :: pending.filter (·.1 != id)) [] := by
    unfold trackToolCalls ChatMessage.asked
    by_cases assistant : m.role = .assistant
    · simp only [assistant, if_true]
    · rw [if_neg assistant, if_neg assistant]
      rcases role : m.role with - | - | - | -
      · rfl
      · rfl
      · rfl
      · exact absurd role head
  rw [calls]
  generalize m.asked = ids
  induction ids using List.reverseRecOn with
  | nil => exact ⟨fun _ held => absurd held List.not_mem_nil, fun _ held => absurd held List.not_mem_nil⟩
  | append_singleton ids id ih =>
    rw [List.foldl_append]
    simp only [List.foldl_cons, List.foldl_nil]
    constructor
    · intro p held
      rcases List.mem_cons.1 held with rfl | held
      · exact ⟨rfl, List.mem_append_right _ (List.mem_singleton.2 rfl)⟩
      · obtain ⟨index, called⟩ := ih.1 p (List.mem_of_mem_filter held)
        exact ⟨index, List.mem_append_left _ called⟩
    · intro id' held
      by_cases same : id' = id
      · rw [same]
        exact List.mem_cons_self
      · refine List.mem_cons_of_mem _ (List.mem_filter.2 ⟨ih.2 id' ?_, by simpa using same⟩)
        rcases List.mem_append.1 held with held | held
        · exact held
        · exact absurd (List.mem_singleton.1 held) same

/-- **What is open behind a message and some answers**: nothing if they answer all of its ids, and calls
of that message otherwise. -/
theorem openToolCalls_block (i : ℕ) {m : ChatMessage} (head : m.role ≠ .tool) {answers : Conversation}
    (tools : ∀ r ∈ answers, r.role = .tool) :
    (∀ id ∈ m.asked, some id ∈ answers.map (·.toolCallId)) ∧ openToolCalls [] i (m :: answers) = [] ∨
      (∃ id ∈ m.asked, some id ∉ answers.map (·.toolCallId)) ∧
        ((openToolCalls [] i (m :: answers)).map (·.2)).min? = some i := by
  rw [openToolCalls, openToolCalls_answers tools]
  obtain ⟨sound, full⟩ := trackToolCalls_eq i head
  by_cases all : ∀ id ∈ m.asked, some id ∈ answers.map (·.toolCallId)
  · refine .inl ⟨all, List.filter_eq_nil_iff.2 fun p held => ?_⟩
    have answered := all p.1 (sound p held).2
    simpa using answered
  · push Not at all
    obtain ⟨id, called, missing⟩ := all
    refine .inr ⟨⟨id, called, missing⟩, List.min?_eq_some_iff.2 ⟨?_, fun index held => ?_⟩⟩
    · refine List.mem_map.2 ⟨(id, i), List.mem_filter.2 ⟨full id called, ?_⟩, rfl⟩
      simpa using missing
    · obtain ⟨p, inside, rfl⟩ := List.mem_map.1 held
      exact (sound p (List.mem_of_mem_filter inside)).1.ge

/-! ## With a system message -/

/-- **A conversation that a provider accepts**: a system message, and blocks. -/
def Settled (conversation : Conversation) : Prop :=
  ∃ system rest, conversation = system :: rest ∧ system.role = .system ∧ WellFormed rest

/-- A settled conversation is well-formed. -/
theorem Settled.wellFormed {conversation : Conversation} (settled : Settled conversation) :
    WellFormed conversation := by
  obtain ⟨system, rest, rfl, role, wellFormed⟩ := settled
  have alone : system.asked = [] := if_neg (by rw [role]; exact Role.noConfusion)
  have head : system.role ≠ .tool := by
    rw [role]
    exact Role.noConfusion
  exact WellFormed.block (block_alone head alone) wellFormed

/-- A settled conversation goes on. -/
theorem Settled.append {conversation more : Conversation} (settled : Settled conversation)
    (next : WellFormed more) : Settled (conversation ++ more) := by
  obtain ⟨system, rest, rfl, role, wellFormed⟩ := settled
  exact ⟨system, rest ++ more, rfl, role, wellFormed.append next⟩

/-- **A conversation whose last block waits for answers** to the calls `missing`. -/
def Opened (conversation : Conversation) (missing : List String) : Prop :=
  ∃ front m answers, conversation = front ++ m :: answers ∧ Settled front ∧ m.role ≠ .tool ∧
    (∀ r ∈ answers, r.role = .tool) ∧ m.asked.Nodup ∧
    (answers.map (·.toolCallId) ++ missing.map some).Perm (m.asked.map some)

/-- A message opens a block. -/
theorem Settled.opened {conversation : Conversation} (settled : Settled conversation) {m : ChatMessage}
    (head : m.role ≠ .tool) {missing : List String} (distinct : m.asked.Nodup)
    (asked : missing.Perm m.asked) : Opened (conversation ++ [m]) missing :=
  ⟨conversation, m, [], rfl, settled, head, fun _ held => absurd held List.not_mem_nil, distinct,
    asked.map some⟩

/-- The order of the missing answers does not matter. -/
theorem Opened.perm {conversation : Conversation} {missing missing' : List String}
    (opened : Opened conversation missing) (same : missing.Perm missing') :
    Opened conversation missing' := by
  obtain ⟨front, m, answers, rfl, settled, head, tools, distinct, answered⟩ := opened
  have same' := (same.symm.map some).append_left (answers.map (·.toolCallId))
  exact ⟨front, m, answers, rfl, settled, head, tools, distinct, same'.trans answered⟩

/-- A call is answered. -/
theorem Opened.answer {conversation : Conversation} {id : String} {missing : List String}
    (opened : Opened conversation (id :: missing)) (content : String) :
    Opened (conversation ++ [.toolResult id content]) missing := by
  obtain ⟨front, m, answers, rfl, settled, head, tools, distinct, answered⟩ := opened
  refine ⟨front, m, answers ++ [.toolResult id content], by simp, settled, head, ?_, distinct, ?_⟩
  · intro r held
    rcases List.mem_append.1 held with held | held
    · exact tools r held
    · rw [List.mem_singleton.1 held]
      rfl
  · rw [List.map_append, List.append_assoc]
    exact answered

/-- All calls are answered. -/
theorem Opened.answerAll {conversation : Conversation} {missing : List String}
    (opened : Opened conversation missing) (content : String) :
    Opened (conversation ++ missing.map fun id => .toolResult id content) [] := by
  induction missing generalizing conversation with
  | nil =>
    rw [List.map_nil, List.append_nil]
    exact opened
  | cons id missing ih =>
    rw [List.map_cons, List.append_cons]
    exact ih (opened.answer content)

/-- A block with all its answers is complete. -/
theorem Opened.close {conversation : Conversation} (opened : Opened conversation []) :
    Settled conversation := by
  obtain ⟨front, m, answers, rfl, settled, head, tools, distinct, answered⟩ := opened
  rw [List.map_nil, List.append_nil] at answered
  have complete : WellFormed (m :: (answers ++ [])) :=
    .block ⟨head, tools, distinct, answered⟩ .nil
  rw [List.append_nil] at complete
  exact settled.append complete

/-- The hard trim removes whole blocks. -/
theorem settled_trimHistory {conversation : Conversation} (settled : Settled conversation) :
    Settled (trimHistory conversation) := by
  obtain ⟨system, rest, rfl, role, wellFormed⟩ := settled
  unfold trimHistory
  dsimp only
  split
  · exact ⟨system, rest, rfl, role, wellFormed⟩
  · exact ⟨system, _, rfl, role, wellFormed_removeOldest wellFormed _⟩

/-- A well-formed conversation can be cut where no tool result comes next. -/
theorem WellFormed.drop {conversation : Conversation} (wellFormed : WellFormed conversation) (k : ℕ)
    (head : ∀ m ∈ (conversation.drop k).head?, m.role ≠ .tool) : WellFormed (conversation.drop k) := by
  induction wellFormed generalizing k with
  | nil =>
    rw [List.drop_nil]
    exact .nil
  | @block m answers rest complete after ih =>
    cases k with
    | zero => exact .block complete after
    | succ k =>
      rw [List.drop_succ_cons] at head ⊢
      rcases Nat.lt_or_ge k answers.length with cut | beyond
      · have next : ((answers ++ rest).drop k).head? = some answers[k] := by
          rw [List.head?_drop, List.getElem?_append_left cut, List.getElem?_eq_getElem cut]
        exact absurd (complete.tools _ (List.getElem_mem cut)) (head _ next)
      · have later : (answers ++ rest).drop k = rest.drop (k - answers.length) := by
          rw [List.drop_append, List.drop_of_length_le beyond, List.nil_append]
        rw [later] at head ⊢
        exact ih _ head

/-- **A summary keeps whole blocks**, if what it keeps does not begin with a tool result. -/
theorem settled_applySummary {conversation applied : Conversation} (settled : Settled conversation)
    {summary : String} {lastSummarizedIndex snapshotLen minKeep : ℕ}
    (succeeds : applySummary conversation summary lastSummarizedIndex snapshotLen minKeep =
      some applied)
    (head : ∀ m ∈ (conversation.drop (lastSummarizedIndex + 1)).head?, m.role ≠ .tool) :
    Settled applied := by
  obtain ⟨-, -, rfl⟩ := applySummary_eq succeeds
  obtain ⟨system, rest, rfl, role, wellFormed⟩ := settled
  have first : systemMessages (system :: rest) = [system] := by
    simp [systemMessages, role]
  have kept : WellFormed ((system :: rest).drop (lastSummarizedIndex + 1)) := by
    rw [List.drop_succ_cons] at head ⊢
    exact wellFormed.drop lastSummarizedIndex head
  have opening : WellFormed [summaryUserMsg summary] := WellFormed.single Role.noConfusion rfl
  have summarized : WellFormed [summaryUserMsg summary, summaryAckMsg] :=
    opening.append (WellFormed.single Role.noConfusion rfl)
  rw [first]
  exact ⟨system, _, rfl, role, summarized.append kept⟩

end Feros
