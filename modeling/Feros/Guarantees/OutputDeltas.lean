import Feros.Agent.ServerEvents
import Feros.Guarantees.NativeTranscripts
/-! # Deltas of what the bot says

The server sends a turn in chunks, and sometimes sends its whole text again.  A replay is told from new text
by comparing them: a chunk that the text so far begins with is taken for one, a chunk that begins with the
text so far is taken for that text and what follows it, and a turn that begins like the turn before loses
this beginning.  The deltas are exact if and only if no chunk can be mistaken so; then replays of the whole
text change nothing.

* **`ChunkMessage`**: a message with a chunk of what the bot says.
* **`Distinct`**: a chunk that cannot be taken for a replay.
* **`Gathered`**: what the provider has made of the text so far. -/

namespace Feros

open Run

/-! ## Messages -/

/-- **A message with a chunk** of what the bot says: the turn goes on.  The user may be transcribed in it too,
tools may be called, and tokens counted. -/
structure ChunkMessage extends Arrival where
  content : ServerContent
  text : String
  isContent : msg.serverContent = some content
  isText : content.outputTranscription = some (some text)
  nonempty : text ≠ ""
  noModelTurn : content.modelTurn = none
  notInterrupted : content.interrupted ≠ some true
  notComplete : content.turnComplete ≠ some true

/-- **The message that ends a turn**, without further output. -/
structure CompleteMessage extends Arrival where
  content : ServerContent
  isContent : msg.serverContent = some content
  noText : content.outputTranscription = none
  noModelTurn : content.modelTurn = none
  notInterrupted : content.interrupted ≠ some true
  complete : content.turnComplete = some true

namespace GeminiLiveProvider

section Reading

variable (library : ToolLibrary) (decode : String → Except String (List UInt8))

/-- The provider reads the chunks of a turn. -/
def readsChunk (p : GeminiLiveProvider) (chunk : ChunkMessage) : GeminiLiveProvider :=
  p.reads library decode chunk.toArrival

/-- **The deltas of some chunks.** -/
def deltas (p : GeminiLiveProvider) (turn : List ChunkMessage) : List String :=
  outputs (readsChunk library decode) (fun p chunk => deltasOf (p.emits library decode chunk.toArrival)) p turn

/-- The full texts that are reported with some chunks. -/
def fullTexts (p : GeminiLiveProvider) (turn : List ChunkMessage) : List String :=
  outputs (readsChunk library decode) (fun p chunk => fullTextsOf (p.emits library decode chunk.toArrival)) p
    turn

end Reading

/-! ## Replays -/

/-- **A chunk cannot be taken for a replay**: at the start of a turn it does not begin with the text of the
turn before, white space aside; later neither of the chunk and the text so far begins with the other. -/
def Distinct (previous said chunk : String) : Prop :=
  if said = "" then trim previous = "" ∨ ¬ (trim previous).toList <+: (trimStart chunk).toList
  else ¬ said.toList <+: chunk.toList ∧ ¬ chunk.toList <+: said.toList

instance (previous said chunk : String) : Decidable (Distinct previous said chunk) :=
  inferInstanceAs (Decidable (ite ..))

/-- **No chunk of a turn can be taken for a replay.** -/
def AllDistinct (previous : String) (chunks : List String) : Prop :=
  Along (· ++ ·) (Distinct previous) "" chunks

instance (previous : String) (chunks : List String) : Decidable (AllDistinct previous chunks) :=
  inferInstanceAs (Decidable (Along ..))

/-- **The texts of a turn with replays**: after each chunk the whole text so far is sent again, a number of
times. -/
def withReplays : String → List (String × ℕ) → List String
  | _, [] => []
  | said, (chunk, again) :: rest =>
    chunk :: (List.replicate again (said ++ chunk) ++ withReplays (said ++ chunk) rest)

/-- **What was made of the text so far**: before the turn begins only the text of the turn before is known, and
then only that of the turn. -/
def Gathered (previous said : String) (p : GeminiLiveProvider) : Prop :=
  if said = "" then p.outputPhase = .listening ∧ p.lastCompletedOutput = trim previous
  else p.outputPhase = .botSpeaking said ∧ p.lastCompletedOutput = ""

/-! ## A chunk -/

section Chunk

variable (library : ToolLibrary) (decode : String → Except String (List UInt8))

/-- The content of a chunk: the user, and then what the bot says. -/
theorem handleContent_chunk (chunk : ChunkMessage) (q : GeminiLiveProvider) :
    let input := q.handleInput chunk.content.inputTranscription
    let flushed := input.2.flushPendingInput
    q.handleContent decode chunk.content =
      (input.1 ++ (flushed.1 ++ (flushed.2.pushOutput chunk.text).1), (flushed.2.pushOutput chunk.text).2) := by
  unfold handleContent
  rw [chunk.isText, chunk.noModelTurn]
  simp only [handleInterrupted_skip chunk.notInterrupted, handleTurnComplete_skip chunk.notComplete,
    handleOutput, handleModelTurn, Option.getD_some, List.append_nil]

/-- **Reading a chunk** is pushing it. -/
theorem reads_chunk (p : GeminiLiveProvider) (chunk : ChunkMessage) : ∃ q, SameVoice p q ∧
    SameVoice (q.pushOutputDelta chunk.text).2 (p.readsChunk library decode chunk) ∧
    deltasOf (p.emits library decode chunk.toArrival) = (q.pushOutputDelta chunk.text).1.toList ∧
    fullTextsOf (p.emits library decode chunk.toArrival) = [] := by
  have nonempty : ¬ chunk.text.isEmpty = true := fun isEmpty =>
    chunk.nonempty (String.isEmpty_iff.1 isEmpty)
  obtain ⟨q, same, -, emitted, read⟩ := reads_content library decode p chunk.toArrival chunk.isContent
  rw [handleContent_chunk decode chunk q] at emitted read
  generalize isInput : q.handleInput chunk.content.inputTranscription = input at emitted read
  have fromInput : ∀ event ∈ input.1, event.isInput = true := by
    rw [← isInput]
    exact isInput_handleInput _ q
  have voice : SameVoice q input.2 := by
    rw [← isInput]
    exact .handleInput _ q
  have pushed := input.2.flushPendingInput.2.outputs_pushOutput chunk.text
  rw [if_neg nonempty] at pushed
  refine ⟨input.2.flushPendingInput.2, (same.trans voice).trans (.flushPendingInput _), ?_, ?_, ?_⟩
  · unfold readsChunk
    rw [read, pushOutput, if_neg nonempty]
    exact .refl _
  · rw [emitted, deltasOf_append, deltasOf_append, deltasOf_append, pushed.1]
    unfold deltasOf
    rw [outputs_of_input fromInput, outputs_of_input (isInput_flushPendingInput _), outputs_toolCallEvents,
      List.nil_append, List.nil_append, List.append_nil]
  · rw [emitted, fullTextsOf_append, fullTextsOf_append, fullTextsOf_append, pushed.2]
    unfold fullTextsOf
    rw [outputs_of_input fromInput, outputs_of_input (isInput_flushPendingInput _), outputs_toolCallEvents]
    rfl

end Chunk

/-! ## What a chunk adds -/

section Delta

variable {previous said text : String} {p : GeminiLiveProvider}

/-- What is trimmed does not begin with white space. -/
theorem trimStart_trim (text : String) : trimStart (trim text) = trim text := by
  have shorter : (trimStart (trim text)).toList <:+ (trim text).toList := by
    rw [trimStart, String.toList_ofList]
    exact List.dropWhile_suffix _
  have longer : (trim text).toList.length ≤ (trimStart (trim text)).toList.length := by
    conv_lhs => rw [← trim_trim text, trim, String.toList_ofList]
    rw [trimStart, String.toList_ofList]
    exact (List.rdropWhile_prefix _ _).length_le
  exact String.toList_inj.1 (shorter.eq_of_length_le longer)

/-- A replay of the turn before is not there: the text counts as it is. -/
theorem stripReplay_distinct (distinct : Distinct previous "" text) :
    stripReplay (trim previous) text = text := by
  unfold stripReplay
  split
  · rfl
  · rename_i some_
    rcases distinct with blank | other
    · exact absurd (String.isEmpty_iff.2 blank) some_
    · dsimp only
      rw [trimStart_trim, if_neg fun isPrefix => other (List.isPrefixOf_iff_prefix.1 isPrefix)]

/-- What looks like a replay of the turn before is taken off. -/
theorem length_stripReplay_lt (mistaken : ¬ Distinct previous "" text) :
    (stripReplay (trim previous) text).length < text.length := by
  have both : trim previous ≠ "" ∧ (trim previous).toList <+: (trimStart text).toList := by
    unfold Distinct at mistaken
    rw [if_pos rfl, not_or, not_not] at mistaken
    exact mistaken
  obtain ⟨some_, isPrefix⟩ := both
  have positive : 0 < (trim previous).toList.length :=
    List.length_pos_iff.2 fun empty => some_ (String.toList_eq_nil_iff.1 empty)
  have trimmed : (trimStart text).toList.length ≤ text.toList.length := by
    rw [trimStart, String.toList_ofList]
    exact (List.dropWhile_suffix _).length_le
  have dropped := (List.dropWhile_suffix (· == ' ')
    (l := (trimStart text).toList.drop (trim previous).toList.length)).length_le
  have inside := isPrefix.length_le
  rw [List.length_drop] at dropped
  unfold stripReplay
  rw [if_neg fun empty => some_ (String.isEmpty_iff.1 empty)]
  dsimp only
  rw [trimStart_trim, if_pos (List.isPrefixOf_iff_prefix.2 isPrefix), String.length_ofList,
    ← String.length_toList]
  omega

/-- The first text of a turn counts as a whole. -/
theorem delta_first (nonempty : text ≠ "") : GeminiLivePhase.delta "" text = some text := by
  have whole : String.ofList (text.toList.drop "".toList.length) = text := String.ofList_toList
  unfold GeminiLivePhase.delta
  dsimp only
  have front : "".toList.isPrefixOf text.toList = true := List.isPrefixOf_iff_prefix.2 List.nil_prefix
  rw [whole, if_pos front, if_neg fun isEmpty => nonempty (String.isEmpty_iff.1 isEmpty)]

/-- A later text counts as a whole, if it cannot be taken for a replay. -/
theorem delta_distinct (begun : said ≠ "") (nonempty : text ≠ "") (distinct : Distinct previous said text) :
    GeminiLivePhase.delta said text = some text := by
  rw [Distinct, if_neg begun] at distinct
  unfold GeminiLivePhase.delta
  rw [if_neg fun isPrefix => distinct.1 (List.isPrefixOf_iff_prefix.1 isPrefix),
    if_neg fun isPrefix => distinct.2 (List.isPrefixOf_iff_prefix.1 isPrefix),
    if_neg fun isEmpty => nonempty (String.isEmpty_iff.1 isEmpty)]

/-- **The whole text again** adds nothing. -/
theorem delta_replay (said : String) : GeminiLivePhase.delta said said = none := by
  have rest : String.ofList (said.toList.drop said.toList.length) = "" := by
    rw [List.drop_length]
  unfold GeminiLivePhase.delta
  dsimp only
  rw [rest, if_pos (List.isPrefixOf_iff_prefix.2 (List.prefix_refl _))]
  exact if_pos rfl

/-- What looks like a replay is taken off, or dropped. -/
theorem length_delta_lt (begun : said ≠ "") (nonempty : text ≠ "") (mistaken : ¬ Distinct previous said text) :
    ((GeminiLivePhase.delta said text).getD "").length < text.length := by
  have positive : 0 < text.length := by
    rw [← String.length_toList]
    exact List.length_pos_iff.2 fun empty => nonempty (String.toList_eq_nil_iff.1 empty)
  have saidPositive : 0 < said.toList.length :=
    List.length_pos_iff.2 fun empty => begun (String.toList_eq_nil_iff.1 empty)
  have none_ : (Option.getD none "").length < text.length := positive
  rw [Distinct, if_neg begun] at mistaken
  unfold GeminiLivePhase.delta
  dsimp only
  by_cases front : said.toList <+: text.toList
  · have inside := front.length_le
    rw [if_pos (List.isPrefixOf_iff_prefix.2 front)]
    split
    · exact none_
    · rw [Option.getD_some, String.length_ofList, List.length_drop]
      have size : text.toList.length = text.length := String.length_toList
      omega
  · have replay : text.toList <+: said.toList := by
      by_contra other
      exact mistaken ⟨front, other⟩
    rw [if_neg fun isPrefix => front (List.isPrefixOf_iff_prefix.1 isPrefix),
      if_pos (List.isPrefixOf_iff_prefix.2 replay)]
    exact none_

/-- A delta is at most as long as what it is computed from. -/
theorem length_delta_le {buf text new : String} (found : GeminiLivePhase.delta buf text = some new) :
    new.length ≤ text.length := by
  unfold GeminiLivePhase.delta at found
  dsimp only at found
  split at found
  · split at found
    · cases found
    · rw [← Option.some.inj found, String.length_ofList, List.length_drop, String.length_toList]
      exact Nat.sub_le _ _
  · split at found
    · cases found
    · split at found
      · cases found
      · exact (congrArg String.length (Option.some.inj found)).ge

/-- A delta is no longer than the text it comes from. -/
theorem length_pushDelta_le (phase : GeminiLivePhase) (text : String) :
    ((phase.pushDelta text).1.getD "").length ≤ text.length := by
  unfold GeminiLivePhase.pushDelta
  dsimp only
  split
  · rename_i new found
    exact length_delta_le found
  · exact Nat.zero_le _

/-- What is pushed is at most the text. -/
theorem length_pushOutputDelta_le (p : GeminiLiveProvider) (text : String) :
    ((p.pushOutputDelta text).1.getD "").length ≤ text.length := by
  have fresh : (p.freshText text).length ≤ text.length := by
    unfold freshText stripReplay
    split
    · dsimp only
      split
      · exact le_rfl
      · split
        · rw [String.length_ofList]
          refine (List.dropWhile_suffix _).length_le.trans ?_
          rw [List.length_drop]
          refine (Nat.sub_le _ _).trans ?_
          rw [trimStart, String.toList_ofList, ← String.length_toList]
          exact (List.dropWhile_suffix _).length_le
        · exact le_rfl
    · exact le_rfl
  unfold pushOutputDelta
  dsimp only
  split
  · exact Nat.zero_le _
  · exact (length_pushDelta_le _ _).trans fresh

/-- A text that counts as it is, in terms of the output phase. -/
theorem pushOutputDelta_eq {delta : Option String} {buf : String} (nonempty : text ≠ "")
    (fresh : p.freshText text = text) (pushed : p.outputPhase.pushDelta text = (delta, .botSpeaking buf)) :
    p.pushOutputDelta text = (delta, { p with outputPhase := .botSpeaking buf, lastCompletedOutput := "" }) := by
  unfold pushOutputDelta
  dsimp only
  rw [fresh, if_neg fun isEmpty => nonempty (String.isEmpty_iff.1 isEmpty), pushed]
  rfl

/-- While the bot is heard every text counts as it is. -/
theorem freshText_speaking (speaking : p.outputPhase = .botSpeaking said) : p.freshText text = text := by
  unfold freshText
  rw [speaking]

/-- **A chunk that cannot be taken for a replay** is pushed as it is. -/
theorem Gathered.push (gathered : Gathered previous said p) (nonempty : text ≠ "")
    (distinct : Distinct previous said text) :
    (p.pushOutputDelta text).1 = some text ∧ Gathered previous (said ++ text) (p.pushOutputDelta text).2 := by
  have grown : said ++ text ≠ "" := fun empty => nonempty (String.append_eq_empty_iff.1 empty).2
  unfold Gathered at gathered ⊢
  rw [if_neg grown]
  split at gathered
  · rename_i start
    obtain ⟨quiet, last⟩ := gathered
    subst start
    have fresh : p.freshText text = text := by
      unfold freshText
      rw [quiet, last]
      exact stripReplay_distinct distinct
    have pushed : p.outputPhase.pushDelta text = (some text, .botSpeaking ("" ++ text)) := by
      unfold GeminiLivePhase.pushDelta
      rw [quiet]
      dsimp only
      rw [delta_first nonempty]
      rfl
    rw [pushOutputDelta_eq nonempty fresh pushed]
    exact ⟨rfl, rfl, rfl⟩
  · rename_i begun
    have pushed : p.outputPhase.pushDelta text = (some text, .botSpeaking (said ++ text)) := by
      unfold GeminiLivePhase.pushDelta
      rw [gathered.1]
      dsimp only
      rw [delta_distinct begun nonempty distinct]
      rfl
    rw [pushOutputDelta_eq nonempty (freshText_speaking gathered.1) pushed]
    exact ⟨rfl, rfl, rfl⟩

/-- **A chunk that can be taken for a replay** is pushed in part, or not at all. -/
theorem Gathered.mistaken (gathered : Gathered previous said p) (nonempty : text ≠ "")
    (mistaken : ¬ Distinct previous said text) :
    ((p.pushOutputDelta text).1.getD "").length < text.length := by
  have positive : 0 < text.length := by
    rw [← String.length_toList]
    exact List.length_pos_iff.2 fun empty => nonempty (String.toList_eq_nil_iff.1 empty)
  unfold pushOutputDelta
  dsimp only
  split
  · exact positive
  · unfold Gathered at gathered
    split at gathered
    · rename_i start
      obtain ⟨quiet, last⟩ := gathered
      subst start
      have fresh : (p.freshText text).length < text.length := by
        unfold freshText
        rw [quiet, last]
        exact length_stripReplay_lt mistaken
      exact (length_pushDelta_le _ _).trans_lt fresh
    · rename_i begun
      have shorter := length_delta_lt begun nonempty mistaken
      rw [freshText_speaking gathered.1, gathered.1]
      unfold GeminiLivePhase.pushDelta
      dsimp only
      split
      · rename_i new found
        rw [found] at shorter
        exact shorter
      · exact positive

/-- **The whole text again** changes nothing. -/
theorem Gathered.replayed (gathered : Gathered previous said p) (begun : said ≠ "") :
    (p.pushOutputDelta said).1 = none ∧ Gathered previous said (p.pushOutputDelta said).2 := by
  unfold Gathered at gathered ⊢
  rw [if_neg begun] at gathered ⊢
  have pushed : p.outputPhase.pushDelta said = (none, .botSpeaking said) := by
    unfold GeminiLivePhase.pushDelta
    rw [gathered.1]
    dsimp only
    rw [delta_replay]
    rfl
  rw [pushOutputDelta_eq begun (freshText_speaking gathered.1) pushed]
  exact ⟨rfl, rfl, rfl⟩

end Delta

/-! ## A turn -/

section Turn

variable (library : ToolLibrary) (decode : String → Except String (List UInt8)) {previous said : String}
  {p q : GeminiLiveProvider}

/-- What was gathered is a matter of the voice. -/
theorem Gathered.voice (gathered : Gathered previous said p) (same : SameVoice p q) :
    Gathered previous said q := by
  unfold Gathered at gathered ⊢
  rw [same.outputPhase, same.lastCompletedOutput]
  exact gathered

/-- **A distinct chunk** is the delta. -/
theorem Gathered.reads (gathered : Gathered previous said p) (chunk : ChunkMessage)
    (distinct : Distinct previous said chunk.text) :
    deltasOf (p.emits library decode chunk.toArrival) = [chunk.text] ∧
      Gathered previous (said ++ chunk.text) (p.readsChunk library decode chunk) := by
  obtain ⟨q, before, after, deltas, -⟩ := reads_chunk library decode p chunk
  obtain ⟨pushed, grown⟩ := (gathered.voice before).push chunk.nonempty distinct
  rw [deltas, pushed]
  exact ⟨rfl, grown.voice after⟩

/-- **A replay** has no delta. -/
theorem Gathered.readsReplay (gathered : Gathered previous said p) (chunk : ChunkMessage)
    (replay : chunk.text = said) :
    deltasOf (p.emits library decode chunk.toArrival) = [] ∧
      Gathered previous said (p.readsChunk library decode chunk) := by
  obtain ⟨q, before, after, deltas, -⟩ := reads_chunk library decode p chunk
  obtain ⟨pushed, kept⟩ := (gathered.voice before).replayed (replay ▸ chunk.nonempty)
  rw [replay] at deltas after
  rw [deltas, pushed]
  exact ⟨rfl, kept.voice after⟩

/-- A delta is its own text. -/
theorem join_toList (delta : Option String) : String.join delta.toList = delta.getD "" := by
  cases delta with
  | none => rfl
  | some delta => exact String.empty_append

/-- What a chunk adds is at most its text. -/
theorem length_deltas_chunk (p : GeminiLiveProvider) (chunk : ChunkMessage) :
    (String.join (deltasOf (p.emits library decode chunk.toArrival))).length ≤ chunk.text.length := by
  obtain ⟨q, -, -, deltas, -⟩ := reads_chunk library decode p chunk
  rw [deltas, join_toList]
  exact length_pushOutputDelta_le q chunk.text

/-- What a mistaken chunk adds is less. -/
theorem Gathered.length_deltas_lt (gathered : Gathered previous said p) (chunk : ChunkMessage)
    (mistaken : ¬ Distinct previous said chunk.text) :
    (String.join (deltasOf (p.emits library decode chunk.toArrival))).length < chunk.text.length := by
  obtain ⟨q, before, -, deltas, -⟩ := reads_chunk library decode p chunk
  rw [deltas, join_toList]
  exact (gathered.voice before).mistaken chunk.nonempty mistaken

/-- The deltas of a turn begin with those of its first chunk. -/
theorem deltas_cons (p : GeminiLiveProvider) (chunk : ChunkMessage) (turn : List ChunkMessage) :
    p.deltas library decode (chunk :: turn) = deltasOf (p.emits library decode chunk.toArrival) ++
      (p.readsChunk library decode chunk).deltas library decode turn := rfl

/-- The deltas of a turn are those of its parts. -/
theorem deltas_append (p : GeminiLiveProvider) (first second : List ChunkMessage) :
    p.deltas library decode (first ++ second) = p.deltas library decode first ++
      (run (readsChunk library decode) p first).deltas library decode second := by
  induction first generalizing p with
  | nil => rfl
  | cons chunk first ih =>
      rw [List.cons_append, deltas_cons, ih, deltas_cons, List.append_assoc, run_cons]

/-- A turn without an end emits no full text. -/
theorem fullTexts_eq (p : GeminiLiveProvider) (turn : List ChunkMessage) :
    p.fullTexts library decode turn = [] := by
  induction turn generalizing p with
  | nil => rfl
  | cons chunk turn ih =>
      obtain ⟨-, -, -, -, noFull⟩ := reads_chunk library decode p chunk
      unfold fullTexts at ih ⊢
      rw [outputs, noFull, ih]
      rfl

/-- **The deltas are no longer than the texts of the chunks.** -/
theorem length_deltas_le (p : GeminiLiveProvider) (turn : List ChunkMessage) :
    (String.join (p.deltas library decode turn)).length ≤ (String.join (turn.map (·.text))).length := by
  induction turn generalizing p with
  | nil => exact le_rfl
  | cons chunk turn ih =>
      have first := length_deltas_chunk library decode p chunk
      have rest := ih (p.readsChunk library decode chunk)
      rw [deltas_cons, String.join_append, String.length_append, List.map_cons, String.join_cons,
        String.length_append]
      exact Nat.add_le_add first rest

/-- **If nothing is lost, no chunk was mistaken.** -/
theorem Gathered.allDistinct (gathered : Gathered previous said p) (turn : List ChunkMessage)
    (whole : (String.join (p.deltas library decode turn)).length = (String.join (turn.map (·.text))).length) :
    Along (· ++ ·) (Distinct previous) said (turn.map (·.text)) := by
  induction turn generalizing p said with
  | nil => trivial
  | cons chunk turn ih =>
      have first := length_deltas_chunk library decode p chunk
      have rest := length_deltas_le library decode
        (p.readsChunk library decode chunk) turn
      rw [deltas_cons, String.join_append, String.length_append, List.map_cons, String.join_cons,
        String.length_append] at whole
      have distinct : Distinct previous said chunk.text := by
        by_contra mistaken
        have shorter := gathered.length_deltas_lt library decode chunk mistaken
        omega
      obtain ⟨-, grown⟩ := gathered.reads library decode chunk distinct
      exact ⟨distinct, ih grown (by omega)⟩

/-- **Replays of the whole text**, a number of times. -/
theorem Gathered.readsReplays (gathered : Gathered previous said p) (turn : List ChunkMessage)
    (replays : ∀ chunk ∈ turn, chunk.text = said) :
    p.deltas library decode turn = [] ∧
      Gathered previous said (run (readsChunk library decode) p turn) := by
  induction turn generalizing p with
  | nil => exact ⟨rfl, gathered⟩
  | cons chunk turn ih =>
      obtain ⟨nothing, kept⟩ := gathered.readsReplay library decode chunk
        (replays chunk List.mem_cons_self)
      obtain ⟨rest, after⟩ := ih kept fun other held => replays other (List.mem_cons_of_mem _ held)
      rw [deltas_cons, nothing, rest]
      exact ⟨rfl, after⟩

/-- **The chunks of a turn are its deltas**, whatever is replayed in between. -/
theorem Gathered.readsTurn (gathered : Gathered previous said p) (parts : List (String × ℕ))
    (turn : List ChunkMessage) (texts : turn.map (·.text) = withReplays said parts)
    (distinct : Along (· ++ ·) (Distinct previous) said (parts.map Prod.fst)) :
    p.deltas library decode turn = parts.map Prod.fst ∧
      Gathered previous (said ++ String.join (parts.map Prod.fst)) (run (readsChunk library decode) p turn) := by
  induction parts generalizing said p turn with
  | nil =>
      have nothing : turn = [] := List.map_eq_nil_iff.1 texts
      subst nothing
      refine ⟨rfl, ?_⟩
      rw [List.map_nil, String.join_nil, String.append_empty]
      exact gathered
  | cons part parts ih =>
      obtain ⟨text, again⟩ := part
      obtain ⟨chunk, later, rfl, rfl, laterTexts⟩ := List.map_eq_cons_iff.1 texts
      obtain ⟨replays, rest, rfl, replayTexts, restTexts⟩ := List.map_eq_append_iff.1 laterTexts
      have replayed : ∀ other ∈ replays, other.text = said ++ chunk.text := by
        intro other held
        have inside := List.mem_map_of_mem (f := (·.text)) held
        rw [replayTexts] at inside
        exact List.eq_of_mem_replicate inside
      obtain ⟨delta, grown⟩ := gathered.reads library decode chunk distinct.1
      obtain ⟨nothing, kept⟩ := grown.readsReplays library decode replays replayed
      obtain ⟨deltas, after⟩ := ih kept rest restTexts distinct.2
      refine ⟨?_, ?_⟩
      · rw [deltas_cons, delta, deltas_append, nothing, deltas]
        rfl
      · rw [List.map_cons, String.join_cons, ← String.append_assoc, run_cons, run_append]
        exact after

/-- The text that is reported at the end of a turn. -/
theorem Gathered.fullText (gathered : Gathered previous said p) :
    p.outputPhase.fullText = if isBlank said then none else some (trim said) := by
  unfold Gathered at gathered
  split at gathered
  · rename_i start
    subst start
    rw [gathered.1]
    rfl
  · rw [gathered.1]
    rfl

/-- **The end of a turn**: its text is reported, unless it is blank, and is the text of the turn before the
next. -/
theorem Gathered.completes (gathered : Gathered previous said p) (complete : CompleteMessage) :
    deltasOf (p.emits library decode complete.toArrival) = [] ∧
      fullTextsOf (p.emits library decode complete.toArrival) = (if isBlank said then [] else [trim said]) ∧
      Gathered (if said = "" then previous else said) "" (p.reads library decode complete.toArrival) := by
  obtain ⟨q, same, -, emitted, read⟩ := reads_content library decode p complete.toArrival complete.isContent
  -- The message has no text and no audio: the turn is completed and nothing else.
  have handled : q.handleContent decode complete.content =
      ((q.handleInput complete.content.inputTranscription).1 ++
        ((q.handleInput complete.content.inputTranscription).2.handleTurnComplete (some true)).1,
      ((q.handleInput complete.content.inputTranscription).2.handleTurnComplete (some true)).2) := by
    unfold handleContent
    rw [complete.noText, complete.noModelTurn, complete.complete]
    simp only [handleInterrupted_skip complete.notInterrupted, handleOutput, handleModelTurn, List.append_nil]
  rw [handled] at emitted read
  generalize isInput : q.handleInput complete.content.inputTranscription = input at emitted read
  have fromInput : ∀ event ∈ input.1, event.isInput = true := by
    rw [← isInput]
    exact isInput_handleInput _ q
  -- The user's transcript does not touch the voice of the model.
  have voice : SameVoice p input.2 := by
    rw [← isInput]
    exact same.trans (.handleInput _ q)
  have there := gathered.voice voice
  have full := there.fullText
  have texts : input.2.outputPhase.fullText.toList = if isBlank said then [] else [trim said] := by
    rw [full]
    split <;> rfl
  -- The events of the end, the user's first.
  have reported (isFinal : Bool) : (p.emits library decode complete.toArrival).filterMap
      (RealtimeEvent.output isFinal) =
        (input.2.outputPhase.fullText.toList.map (RealtimeEvent.outputTranscription · true)).filterMap
          (RealtimeEvent.output isFinal) := by
    unfold handleTurnComplete at emitted
    rw [if_pos rfl] at emitted
    rw [emitted]
    simp only [List.filterMap_append, outputs_of_input fromInput,
      outputs_of_input (isInput_flushPendingInput _), outputs_toolCallEvents, List.nil_append,
      List.append_nil]
    exact List.append_nil _
  refine ⟨?_, ?_, ?_⟩
  · unfold deltasOf
    rw [reported false, texts]
    split <;> rfl
  · unfold fullTextsOf
    rw [reported true, texts]
    split <;> rfl
  · rw [read]
    unfold handleTurnComplete
    rw [if_pos rfl]
    refine ⟨rfl, ?_⟩
    show input.2.outputPhase.fullText.getD input.2.lastCompletedOutput = _
    rw [full]
    unfold Gathered at there
    split at there
    · rename_i start
      rw [if_pos start, start]
      exact there.2
    · rename_i begun
      rw [if_neg begun]
      split
      · rename_i blank
        rw [Option.getD_none, there.2]
        exact (String.isEmpty_iff.1 blank).symm
      · rfl

end Turn

/-! ## The deltas of a turn -/

/-- **Deltas are exact** if and only if no chunk can be taken for a replay.  Then each chunk is a delta, however
often the whole text so far is sent again after it, and the end of the turn reports the text, trimmed, unless
it is blank. -/
theorem deltas_exact (library : ToolLibrary) (decode : String → Except String (List UInt8))
    {previous : String} {p : GeminiLiveProvider} (quiet : p.outputPhase = .listening)
    (last : p.lastCompletedOutput = trim previous) :
    (∀ turn : List ChunkMessage,
      String.join (p.deltas library decode turn) = String.join (turn.map (·.text)) ↔
        AllDistinct previous (turn.map (·.text))) ∧
    ∀ (parts : List (String × ℕ)) (turn : List ChunkMessage) (complete : CompleteMessage),
      turn.map (·.text) = withReplays "" parts → AllDistinct previous (parts.map Prod.fst) →
        let text := String.join (parts.map Prod.fst)
        let spoken := run (readsChunk library decode) p turn
        p.deltas library decode turn = parts.map Prod.fst ∧ p.fullTexts library decode turn = [] ∧
          deltasOf (spoken.emits library decode complete.toArrival) = [] ∧
          fullTextsOf (spoken.emits library decode complete.toArrival) =
            if isBlank text then [] else [trim text] := by
  have start : Gathered previous "" p := ⟨quiet, last⟩
  refine ⟨?_, ?_⟩
  · intro turn
    constructor
    · intro whole
      exact start.allDistinct library decode turn (congrArg String.length whole)
    · intro distinct
      -- Without replays.
      have parts : (turn.map fun chunk => (chunk.text, 0)).map Prod.fst = turn.map (·.text) :=
        List.map_map
      have once (said : String) (turn : List ChunkMessage) : turn.map (·.text) =
          withReplays said (turn.map fun chunk => (chunk.text, 0)) := by
        induction turn generalizing said with
        | nil => rfl
        | cons chunk turn ih =>
            exact congrArg (chunk.text :: ·) (ih (said ++ chunk.text))
      have read := start.readsTurn library decode
        (turn.map fun chunk => (chunk.text, 0)) turn (once "" turn) (by rw [parts]; exact distinct)
      rw [read.1, parts]
  · intro parts turn complete texts distinct
    obtain ⟨deltas, gathered⟩ := start.readsTurn library decode parts turn texts
      distinct
    rw [String.empty_append] at gathered
    obtain ⟨noDelta, full, -⟩ := gathered.completes library decode complete
    exact ⟨deltas, fullTexts_eq library decode p turn, noDelta, full⟩

/-- No JSON is parsed, and none is rendered. -/
def noJson : ToolLibrary := ⟨fun _ => .error "no JSON", fun _ => "", fun _ _ => .ok ""⟩

/-- The bot says something, and nothing else is in the message. -/
def spokenChunk (text : String) (nonempty : text ≠ "") : ChunkMessage where
  msg := { serverContent := some { outputTranscription := some (some text) } }
  uuid := fun _ => ""
  content := { outputTranscription := some (some text) }
  text := text
  isContent := rfl
  isText := rfl
  nonempty := nonempty
  noModelTurn := rfl
  notInterrupted := nofun
  notComplete := nofun

/-- The turn is complete, and nothing else is in the message. -/
def completion : CompleteMessage where
  msg := { serverContent := some { turnComplete := some true } }
  uuid := fun _ => ""
  content := { turnComplete := some true }
  isContent := rfl
  noText := rfl
  noModelTurn := rfl
  notInterrupted := nofun
  complete := rfl

/-- A turn after a turn that ended with a greeting; its first half is sent again. -/
theorem deltas_exact_replayed :
    let turn := [spokenChunk " How are" (by decide), spokenChunk " How are" (by decide),
      spokenChunk " you?" (by decide)]
    let p : GeminiLiveProvider := { lastCompletedOutput := "Hello." }
    p.deltas noJson (fun _ => .ok []) turn = [" How are", " you?"] ∧
      fullTextsOf ((run (readsChunk noJson fun _ => .ok []) p turn).emits noJson (fun _ => .ok [])
        completion.toArrival) = ["How are you?"] := by
  have last : ({ lastCompletedOutput := "Hello." } : GeminiLiveProvider).lastCompletedOutput =
      trim "Hello. " := by decide
  have read := (deltas_exact noJson (fun _ => .ok []) rfl last).2 [(" How are", 1), (" you?", 0)]
    [spokenChunk " How are" (by decide), spokenChunk " How are" (by decide), spokenChunk " you?" (by decide)]
    completion rfl (by decide)
  exact ⟨read.1, read.2.2.2⟩

/-- **New text is taken for a replay**: a word that is repeated, a chunk that begins like the turn, and a turn that
begins like the one before; and a turn that is blank has no text to report. -/
theorem deltas_mistaken :
    let told (p : GeminiLiveProvider) (turn : List ChunkMessage) :=
      (String.join (p.deltas noJson (fun _ => .ok []) turn), String.join (turn.map (·.text)))
    told {} [spokenChunk "ha" (by decide), spokenChunk "ha" (by decide)] = ("ha", "haha") ∧
    told {} [spokenChunk "a" (by decide), spokenChunk "ab" (by decide)] = ("ab", "aab") ∧
    told { lastCompletedOutput := "Yes" } [spokenChunk "Yes" (by decide), spokenChunk ", sir" (by decide)] =
      (", sir", "Yes, sir") ∧
    fullTextsOf ((run (readsChunk noJson fun _ => .ok []) {} [spokenChunk " " (by decide)]).emits noJson
      (fun _ => .ok []) completion.toArrival) = [] := by
  decide +kernel

end GeminiLiveProvider

end Feros
