import Feros.Builder.Compression
import Mathlib.Data.List.Chain
import Mathlib.Data.List.Perm.Basic
/-! # Compressed histories stay valid

A valid history starts with a prompt of the user, alternates requests and responses, and holds the return
of each tool call, and no other.  What is left of it behind a split is valid again if the split is at a
prompt that answers no tool call; a history without such a split is cut behind its first message. -/

namespace Feros

namespace ModelMessage

/-- The id of the tool call that a part is. -/
def callId : ResponsePart → Option String
  | .toolCall _ _ toolCallId => some toolCallId
  | _ => none

/-- The id of the tool call that a part answers. -/
def returnId : RequestPart → Option String
  | .toolReturn _ _ toolCallId => some toolCallId
  | _ => none

/-- The tool calls of a message. -/
def callIds : ModelMessage → List String
  | request _ => []
  | response parts => parts.filterMap callId

/-- The tool calls that a message answers. -/
def returnIds : ModelMessage → List String
  | request parts => parts.filterMap returnId
  | response _ => []

/-- A message that prompts the user is a request. -/
theorem isRequest_of_promptsUser {m : ModelMessage} (prompts : m.promptsUser = true) : m.isRequest = true := by
  cases m with
  | request parts => rfl
  | response parts => cases prompts

end ModelMessage

open ModelMessage

/-! ## Valid histories -/

/-- The history starts with a request with a user prompt. -/
def StartsWithPrompt (messages : List ModelMessage) : Prop := ∃ first ∈ messages.head?, first.promptsUser = true

/-- Requests and responses alternate. -/
def TakesTurns (messages : List ModelMessage) : Prop :=
  messages.IsChain fun m next => m.isRequest ≠ next.isRequest

/-- The history contains a tool call as often as its return. -/
def Paired (messages : List ModelMessage) : Prop :=
  (messages.flatMap callIds).Perm (messages.flatMap returnIds)

/-- **Every tool call is answered at once**: each response is directly followed by the returns of its tool
calls, and there are no others. -/
structure Answered (messages : List ModelMessage) : Prop where
  followed : messages.IsChain fun m next => m.callIds.Perm next.returnIds
  first : ∀ m ∈ messages.head?, m.returnIds = []
  last : ∀ m ∈ messages.getLast?, m.callIds = []

/-- **A compressed history is valid**, and shorter than the one it stands for. -/
structure Compressed (messages compressed : List ModelMessage) : Prop where
  starts : StartsWithPrompt compressed
  alternates : TakesTurns compressed
  paired : Paired compressed
  shorter : compressed.length < messages.length

instance (messages : List ModelMessage) : Decidable (StartsWithPrompt messages) :=
  inferInstanceAs (Decidable (∃ first ∈ messages.head?, first.promptsUser = true))

instance (messages : List ModelMessage) : Decidable (TakesTurns messages) :=
  inferInstanceAs (Decidable (messages.IsChain _))

/-- What the messages behind the first one answer is what all of them call. -/
theorem perm_of_followed {m : ModelMessage} {messages : List ModelMessage}
    (followed : (m :: messages).IsChain fun m next => m.callIds.Perm next.returnIds)
    (last : ∀ m' ∈ (m :: messages).getLast?, m'.callIds = []) :
    ((m :: messages).flatMap callIds).Perm (messages.flatMap returnIds) := by
  induction messages generalizing m with
  | nil =>
      rw [List.flatMap_cons, last m rfl]
      exact List.Perm.refl _
  | cons next messages ih =>
      obtain ⟨here, rest⟩ := List.isChain_cons_cons.1 followed
      rw [List.flatMap_cons, List.flatMap_cons]
      exact here.append (ih rest fun m' held => last m' (by rw [List.getLast?_cons_cons]; exact held))

/-- What is left behind a split is paired exactly if it starts without a return. -/
theorem paired_drop_iff {messages : List ModelMessage} (answered : Answered messages) {i : ℕ} {m : ModelMessage}
    (here : messages[i]? = some m) : Paired (messages.drop i) ↔ m.returnIds = [] := by
  obtain ⟨inside, get⟩ := List.getElem?_eq_some_iff.1 here
  have front : messages.drop i = m :: messages.drop (i + 1) := by rw [List.drop_eq_getElem_cons inside, get]
  have followed := answered.followed.drop i
  have last : ∀ m' ∈ (messages.drop i).getLast?, m'.callIds = [] := by
    intro m' held
    apply answered.last
    rw [List.getLast?_drop, if_neg (Nat.not_le.2 inside)] at held
    exact held
  rw [front] at followed last ⊢
  have same := perm_of_followed followed last
  unfold Paired
  constructor
  · intro paired
    have length := paired.length_eq
    rw [same.length_eq, List.flatMap_cons, List.length_append] at length
    exact List.length_eq_zero_iff.1 (by omega)
  · intro none
    rw [List.flatMap_cons (f := returnIds), none]
    exact same

/-! ## The split -/

/-- A request with a user prompt is at this index. -/
def PromptAt (messages : List ModelMessage) (i : ℕ) : Prop := messages[i]?.any promptsUser = true

instance (messages : List ModelMessage) (i : ℕ) : Decidable (PromptAt messages i) :=
  inferInstanceAs (Decidable (_ = _))

/-- **The last prompt of the user** up to a limit. -/
structure LastPrompt (messages : List ModelMessage) (limit i : ℕ) : Prop where
  prompts : PromptAt messages i
  within : i ≤ limit
  last : ∀ j, i < j → j ≤ limit → ¬ PromptAt messages j

/-- **The walk back ends at the last prompt** where the first message is one. -/
theorem lastPrompt_walkBack (messages : List ModelMessage) (limit : ℕ) (first : PromptAt messages 0) :
    LastPrompt messages limit (walkBack messages limit) := by
  induction limit with
  | zero => exact ⟨first, le_rfl, fun j above within => absurd above (by omega)⟩
  | succ limit ih =>
      unfold walkBack
      by_cases here : messages[limit + 1]?.any promptsUser = true
      · rw [if_pos here]
        exact ⟨here, le_rfl, fun j above within => absurd above (by omega)⟩
      · rw [if_neg here]
        refine ⟨ih.prompts, by have := ih.within; omega, ?_⟩
        intro j above within
        rcases Nat.lt_or_ge limit j with beyond | inside
        · rw [show j = limit + 1 by omega]
          exact here
        · exact ih.last j above inside

/-- A limit has one last prompt. -/
theorem LastPrompt.unique {messages : List ModelMessage} {limit i j : ℕ} (first : LastPrompt messages limit i)
    (second : LastPrompt messages limit j) : i = j := by
  rcases Nat.lt_trichotomy i j with less | same | greater
  · exact absurd second.prompts (first.last j less second.within)
  · exact same
  · exact absurd first.prompts (second.last i greater first.within)

/-! ## What is kept -/

variable {messages : List ModelMessage} {i : ℕ}

/-- The message at a prompt, and what is left from there on. -/
theorem PromptAt.message (prompt : PromptAt messages i) : ∃ m, messages[i]? = some m ∧ m.promptsUser = true ∧
    i < messages.length ∧ messages.drop i = m :: messages.drop (i + 1) := by
  unfold PromptAt at prompt
  rcases here : messages[i]? with - | m
  · rw [here] at prompt
    cases prompt
  · rw [here] at prompt
    obtain ⟨inside, get⟩ := List.getElem?_eq_some_iff.1 here
    refine ⟨m, rfl, prompt, inside, ?_⟩
    rw [List.drop_eq_getElem_cons inside, get]

/-- What is left from a prompt on, without a summary. -/
theorem compressed_drop_iff (alternates : TakesTurns messages) (answered : Answered messages)
    (prompt : PromptAt messages i) (split : 0 < i) :
    Compressed messages (messages.drop i) ↔ ∀ m ∈ messages[i]?, m.returnIds = [] := by
  obtain ⟨m, here, prompts, inside, front⟩ := prompt.message
  have paired := paired_drop_iff answered here
  rw [here]
  constructor
  · rintro compressed m' held
    cases held
    exact paired.1 compressed.paired
  · intro none
    constructor
    · rw [front]
      exact ⟨m, rfl, prompts⟩
    · exact alternates.drop i
    · exact paired.2 (none m rfl)
    · rw [List.length_drop]
      omega

/-- What is left from a prompt on, behind a summary. -/
theorem compressed_summary_iff (summary : String) (alternates : TakesTurns messages) (answered : Answered messages)
    (prompt : PromptAt messages i) : Compressed messages (summaryExchange summary ++ messages.drop i) ↔
      2 < i ∧ ∀ m ∈ messages[i]?, m.returnIds = [] := by
  obtain ⟨m, here, prompts, inside, front⟩ := prompt.message
  have length : (summaryExchange summary ++ messages.drop i).length = messages.length - i + 2 := by
    rw [List.length_append, List.length_drop, Nat.add_comm]
    rfl
  -- the exchange calls no tool and answers none
  have same : Paired (summaryExchange summary ++ messages.drop i) ↔ Paired (messages.drop i) := by
    unfold Paired
    rw [List.flatMap_append, List.flatMap_append]
    rfl
  have paired := paired_drop_iff answered here
  rw [here]
  constructor
  · intro compressed
    have shorter := compressed.shorter
    rw [length] at shorter
    refine ⟨by omega, ?_⟩
    rintro m' held
    cases held
    exact paired.1 (same.1 compressed.paired)
  · rintro ⟨late, none⟩
    constructor
    · exact ⟨_, rfl, rfl⟩
    · unfold TakesTurns summaryExchange
      have rest := alternates.drop i
      rw [front] at rest ⊢
      have request := isRequest_of_promptsUser prompts
      refine List.isChain_cons_cons.2 ⟨Bool.noConfusion, List.isChain_cons_cons.2 ⟨?_, rest⟩⟩
      rw [request]
      exact Bool.noConfusion
    · exact same.2 (paired.2 (none m rfl))
    · rw [length]
      omega

/-- **A history without a prompt to split at is not compressed**: what is left starts with a response, or it is
longer than before. -/
theorem not_compressed (starts : StartsWithPrompt messages) (alternates : TakesTurns messages)
    (long : 1 < messages.length) (summary : Option String) : ¬ Compressed messages
      (match summary with
        | some summary => summaryExchange summary ++ messages.drop 1
        | none => messages.drop 1) := by
  rcases messages with - | ⟨first, - | ⟨second, rest⟩⟩
  · exact absurd long (by simp)
  · exact absurd long (by simp)
  · intro compressed
    cases summary with
    | some summary =>
        have shorter := compressed.shorter
        simp [summaryExchange] at shorter
    | none =>
        obtain ⟨m, held, prompts⟩ := starts
        cases held
        obtain ⟨m, held, again⟩ := compressed.starts
        cases held
        apply (List.isChain_cons_cons.1 alternates).1
        rw [isRequest_of_promptsUser prompts, isRequest_of_promptsUser again]

/-! ## The guarantee -/

/-- **When a compressed history is valid and shorter.**  The last prompt of the user that is not among the
recent messages answers no tool call, and it comes behind the first message, or behind the second one if the
model has given a summary. -/
theorem compressed_iff (model : String → Except String String) (starts : StartsWithPrompt messages)
    (alternates : TakesTurns messages) (answered : Answered messages)
    (long : compressionThreshold < messages.length) :
    Compressed messages (compressHistory model messages) ↔
      ∃ i, LastPrompt messages (messages.length - keepRecent) i ∧ (∀ m ∈ messages[i]?, m.returnIds = []) ∧
        (if (summarize model (messages.take i)).isSome then 2 else 0) < i := by
  have first : PromptAt messages 0 := by
    obtain ⟨m, held, prompts⟩ := starts
    unfold PromptAt
    rw [← List.head?_eq_getElem?, held]
    exact prompts
  have last := lastPrompt_walkBack messages (messages.length - keepRecent) first
  have split : findSafeSplit messages (messages.length - keepRecent) =
      max (walkBack messages (messages.length - keepRecent)) 1 := by
    unfold findSafeSplit
    dsimp only [compressionThreshold, keepRecent] at long ⊢
    rw [show max 1 (min (messages.length - 12) (messages.length - 1)) = messages.length - 12 by omega]
  unfold compressHistory
  rw [if_neg (Nat.not_le.2 long)]
  dsimp only
  rw [split]
  generalize walkBack messages (messages.length - keepRecent) = i at last
  rcases Nat.eq_zero_or_pos i with zero | behind
  · rw [zero, show max 0 1 = 1 from rfl]
    refine iff_of_false (not_compressed starts alternates ?_ _) ?_
    · dsimp only [compressionThreshold] at long
      omega
    · rintro ⟨j, there, -, late⟩
      rw [there.unique last, zero] at late
      exact absurd late (Nat.not_lt_zero _)
  · rw [show max i 1 = i by omega]
    constructor
    · intro compressed
      refine ⟨i, last, ?_⟩
      cases answer : summarize model (messages.take i) with
      | some summary =>
          rw [answer] at compressed
          obtain ⟨late, none⟩ := (compressed_summary_iff summary alternates answered last.prompts).1 compressed
          exact ⟨none, late⟩
      | none =>
          rw [answer] at compressed
          exact ⟨(compressed_drop_iff alternates answered last.prompts behind).1 compressed, behind⟩
    · rintro ⟨j, there, none, late⟩
      have same := there.unique last
      subst same
      cases answer : summarize model (messages.take j) with
      | some summary =>
          rw [answer] at late
          exact (compressed_summary_iff summary alternates answered last.prompts).2 ⟨late, none⟩
      | none => exact (compressed_drop_iff alternates answered last.prompts behind).2 none

/-- Twenty questions with an answer each, and one more. -/
def longTalk : List ModelMessage :=
  (List.replicate 20 [.request [.userPrompt "And then?"], .response [.text "Then we wait."]]).flatten ++
    [.request [.userPrompt "And then?"]]

/-- One prompt, and twenty tool calls with their returns. -/
def longExchange : List ModelMessage :=
  .request [.userPrompt "Build the agent."] ::
    ((List.range 20).flatMap fun k =>
      [.response [.toolCall "read_config" "\x7b\x7d" s!"call-{k}"],
        .request [.toolReturn "read_config" "ok" s!"call-{k}"]])

/-- Every call of the long talk was answered. -/
theorem answered_longTalk : Answered longTalk := by
  constructor <;> decide +kernel

/-- Every call of the long exchange was answered. -/
theorem answered_longExchange : Answered longExchange := by
  constructor <;> decide +kernel

/-- The long talk is compressed with its requests answered. -/
theorem compressed_longTalk : Compressed longTalk (compressHistory (fun _ => .ok "They wait.") longTalk) := by
  apply (compressed_iff (fun _ => .ok "They wait.") (by decide +kernel) (by decide +kernel) answered_longTalk
    (by decide +kernel)).2
  refine ⟨28, ⟨by decide +kernel, by decide +kernel, ?_⟩, by decide +kernel, by decide +kernel⟩
  intro j above within
  have only : j = 29 := by
    rw [show longTalk.length - keepRecent = 29 by decide +kernel] at within
    omega
  rw [only]
  decide +kernel

/-- **A long exchange is torn apart.**  The split falls behind the prompt, and the summary makes the history
longer. -/
theorem not_always_compressed : ¬ ∀ (model : String → Except String String) (messages : List ModelMessage),
    StartsWithPrompt messages → TakesTurns messages → Answered messages →
      compressionThreshold < messages.length → Compressed messages (compressHistory model messages) := by
  intro always
  have compressed := always (fun _ => .ok "An agent is built.") longExchange (by decide +kernel) (by decide +kernel)
    answered_longExchange (by decide +kernel)
  exact absurd compressed.shorter (by decide +kernel)

end Feros
