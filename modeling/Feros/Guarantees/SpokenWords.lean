import Feros.Guarantees.TtsBatches
import Feros.Library.Words
import Feros.Reactor.State
/-! # Words that are spoken

A text is spoken on its own, so that the synthesiser hears the words of each text.  What the LLM says
is cleaned token by token before it is fed to the TTS stage.

Two things can go wrong: the cleaning drops white space (a line break is a control character), and a
batch may end inside a word.  `words_kept_iff` says when neither does, or the one makes up for the
other. -/

namespace Feros

open Words

namespace TtsBatching

/-! ## Words -/

/-- The words of a text. -/
def splitWords (text : String) : List (List Char) := words isWhitespace text.toList

/-- `char::is_ascii_control`. -/
def isAsciiControl (c : Char) : Bool := c.toNat < 0x20 || c.toNat == 0x7F

/-- No markdown mark and no emoji. -/
def isProse (c : Char) : Bool :=
  let n := c.toNat
  c != '*' && c != '#' && c != '_' &&
    !((0x1F600 ≤ n && n ≤ 0x1F6FF) || (0x2600 ≤ n && n ≤ 0x26FF) || (0x2700 ≤ n && n ≤ 0x27BF))

/-- A character is speakable where it is prose and no control character. -/
theorem isSpeakable_eq (c : Char) : isSpeakable c = (!isAsciiControl c && isProse c) := by
  simp only [isSpeakable, isAsciiControl, isProse, Bool.and_assoc]

/-- **The words that are to be spoken**: those of the text, without emoji and markdown. -/
def proseWords (text : String) : List (List Char) :=
  ((splitWords text).map (·.filter isProse)).filter (!·.isEmpty)

/-- What the TTS stage is fed for some tokens of the LLM. -/
def fed (tokens : List String) : List String := (tokens.map cleanForTts).filter (!·.isEmpty)

/-- A character that is spoken. -/
def isSpoken (c : Char) : Bool := !isWhitespace c && isProse c

/-! ## When words are kept -/

/-- Some blank character stands behind `k` characters that are spoken. -/
def BlankBehind (blank : Char → Bool) (chars : List Char) (k : ℕ) : Prop :=
  ∃ front c back, chars = front ++ c :: back ∧ blank c = true ∧ (front.filter isSpoken).length = k

/-- **The buffer is cut behind `k` characters** when a token is fed: it is flushed, and what is flushed
of it ends there. -/
def CutHere (before : List String) (token : String) (k : ℕ) : Prop :=
  (Batches.gather before).Flushes token ∧
    isBlank (cut ((Batches.gather before).buffer ++ token)).1 = false ∧
    k + (solid (cut ((Batches.gather before).buffer ++ token)).2).length =
      (solid (String.join (before ++ [token]))).length

/-- The buffer is cut behind `k` characters by one of the tokens. -/
def CutBehind (tokens : List String) (k : ℕ) : Prop :=
  ∃ front token back, tokens = front ++ token :: back ∧ CutHere front token k

/-- **Words are kept**: between two spoken characters there is white space in what the LLM says exactly
if some of it is not a control character, or the buffer is cut there. -/
structure WordsKept (tokens : List String) : Prop where
  /-- All control characters are white space. -/
  printable : ∀ c ∈ (String.join tokens).toList, isAsciiControl c = true → isWhitespace c = true
  blanks : ∀ k, 0 < k → k < ((String.join tokens).toList.filter isSpoken).length →
    (BlankBehind isWhitespace (String.join tokens).toList k ↔
      BlankBehind (fun c => isWhitespace c && !isAsciiControl c) (String.join tokens).toList k ∨
        CutBehind (fed tokens) k)

/-! ## Words of the batches -/

/-- The letters of a text are what is solid in it. -/
theorem letters_eq_solid (text : String) : letters isWhitespace text.toList = solid text := rfl

/-- Trimmed text, with the white space around it. -/
theorem trim_split (text : String) : ∃ front back, text.toList = front ++ ((trim text).toList ++ back) ∧
    letters isWhitespace front = [] ∧ letters isWhitespace back = [] := by
  refine ⟨text.toList.takeWhile isWhitespace,
    (text.toList.dropWhile isWhitespace).rtakeWhile isWhitespace, ?_, ?_, ?_⟩
  · have whole : text.toList.takeWhile isWhitespace ++ text.toList.dropWhile isWhitespace = text.toList :=
      List.takeWhile_append_dropWhile
    rw [trim, String.toList_ofList, List.rdropWhile_append_rtakeWhile, whole]
  · rw [letters, List.filter_eq_nil_iff]
    intro c held
    rw [List.mem_takeWhile_imp held]
    exact Bool.false_ne_true
  · rw [letters, List.filter_eq_nil_iff]
    intro c held
    rw [List.mem_rtakeWhile_imp held]
    exact Bool.false_ne_true

namespace Batches

/-- The texts, each with a blank behind it. -/
def spoken (texts : List String) : List Char := texts.flatMap fun text => text.toList ++ [' ']

/-- One more batch is spoken behind the others. -/
theorem spoken_concat (texts : List String) (last : String) :
    spoken (texts ++ [last]) = spoken texts ++ (last.toList ++ [' ']) := by
  rw [spoken, List.flatMap_append, List.flatMap_singleton]
  rfl

/-- The words that are spoken are the words of the batches. -/
theorem words_spoken (texts : List String) :
    words isWhitespace (spoken texts) = texts.flatMap splitWords := words_flatMap _ _ (by decide)

/-- The letters that are spoken are those of the batches. -/
theorem letters_spoken (texts : List String) :
    letters isWhitespace (spoken texts) = solid (String.join texts) := by
  induction texts with
  | nil => rfl
  | cons text texts ih =>
      have blank : letters isWhitespace [' '] = [] := by decide
      rw [String.join_cons, solid_append, ← ih, spoken, List.flatMap_cons, letters_append, letters_append,
        blank, List.append_nil]
      rfl

/-- Texts end in a break. -/
theorem break_spoken {texts : List String} (some : 0 < (letters isWhitespace (spoken texts)).length) :
    Break isWhitespace (spoken texts) (letters isWhitespace (spoken texts)).length := by
  induction texts using List.reverseRecOn with
  | nil => cases some
  | append_singleton texts last _ =>
      have blank : letters isWhitespace [' '] = [] := by decide
      refine ⟨spoken texts ++ last.toList, ' ', [], ?_, by decide, ?_⟩
      · rw [spoken_concat, List.append_assoc]
      · rw [spoken_concat, ← List.append_assoc, letters_append (spoken texts ++ last.toList), blank,
          List.append_nil]

/-- All characters of the batches. -/
def chars (b : Batches) : List Char := spoken b.texts ++ b.buffer.toList

/-- **Handing out text adds a break behind it**, and no other break is added or lost. -/
theorem break_send (flushText remainder : String) (b : Batches) {k : ℕ} (pos : 0 < k) :
    Break isWhitespace (b.send flushText remainder).chars k ↔
      Break isWhitespace (spoken b.texts ++ (flushText.toList ++ remainder.toList)) k ∨
        (isBlank flushText = false ∧
          k = (letters isWhitespace (spoken b.texts)).length + (solid flushText).length) := by
  have start (zero : k = (letters isWhitespace (spoken b.texts)).length) :
      Break isWhitespace (spoken b.texts) k := by
    rw [zero] at pos ⊢
    exact break_spoken pos
  unfold Batches.send
  by_cases blank : isBlank flushText = true
  -- Nothing is sent: the blank text only separates.
  · have none : letters isWhitespace flushText.toList = [] := solid_eq_nil blank
    obtain ⟨more, less⟩ := @break_blank _ isWhitespace (spoken b.texts) _ none remainder.toList k
    rw [if_pos blank, blank, or_iff_left (fun h => Bool.noConfusion h.1)]
    refine ⟨more, fun here => ?_⟩
    rcases less here with zero | here
    · exact (start zero).append _
    · exact here
  -- What is sent is trimmed, and a blank is spoken behind it.
  · obtain ⟨front, back, whole, none, none'⟩ := trim_split flushText
    have space : letters isWhitespace [' '] = [] := by decide
    have length : (letters isWhitespace (spoken b.texts ++ (trim flushText).toList)).length =
        (letters isWhitespace (spoken b.texts)).length + (solid flushText).length := by
      rw [letters_append, List.length_append, letters_eq_solid, solid_trim]
    obtain ⟨moreFront, lessFront⟩ := @break_blank _ isWhitespace (spoken b.texts) _ none
      ((trim flushText).toList ++ (back ++ remainder.toList)) k
    obtain ⟨moreBack, lessBack⟩ := @break_blank _ isWhitespace
      (spoken b.texts ++ (trim flushText).toList) _ none' remainder.toList k
    obtain ⟨moreSpace, lessSpace⟩ := @break_blank _ isWhitespace
      (spoken b.texts ++ (trim flushText).toList) _ space remainder.toList k
    rw [length] at lessBack lessSpace
    have after : chars ⟨remainder, b.chunkCount + 1, b.texts ++ [trim flushText]⟩ =
        spoken b.texts ++ (trim flushText).toList ++ ([' '] ++ remainder.toList) := by
      rw [chars, spoken_concat, List.append_assoc, List.append_assoc, List.append_assoc]
    have before : spoken b.texts ++ (flushText.toList ++ remainder.toList) =
        spoken b.texts ++ (front ++ ((trim flushText).toList ++ (back ++ remainder.toList))) := by
      rw [whole, List.append_assoc, List.append_assoc]
    rw [if_neg blank, after, before, Bool.eq_false_of_not_eq_true blank, eq_self_iff_true, true_and]
    rw [← List.append_assoc (spoken b.texts) (trim flushText).toList] at moreFront lessFront
    constructor
    -- The blank is a break of its own, behind the letters that were sent.
    · intro here
      rcases lessSpace here with behind | here
      · exact .inr behind
      · exact .inl (moreFront (moreBack here))
    · rintro (here | behind)
      · rcases lessFront here with zero | here
        · rw [List.append_assoc]
          exact (start zero).append _
        · rcases lessBack here with behind | here
          · rw [behind, ← length]
            exact break_here _ (by decide) _
          · exact moreSpace here
      · rw [behind, ← length]
        exact break_here _ (by decide) _

variable {tokens : List String}

/-- The letters that were gathered are those of the tokens. -/
theorem letters_chars (tokens : List String) :
    letters isWhitespace (gather tokens).chars = solid (String.join tokens) := by
  rw [chars, letters_append, letters_spoken, letters_eq_solid]
  exact (holds_gather tokens).whole

/-- **A cut behind the tokens** is a cut behind the tokens before, or one that the last token makes. -/
theorem cutBehind_concat (tokens : List String) (last : String) (k : ℕ) :
    CutBehind (tokens ++ [last]) k ↔ CutBehind tokens k ∨ CutHere tokens last k := by
  constructor
  · rintro ⟨front, token, back, split, here⟩
    rcases List.eq_nil_or_concat back with rfl | ⟨back, c, rfl⟩
    · obtain ⟨rfl, same⟩ := List.append_inj' split rfl
      cases same
      exact .inr here
    · have same : tokens ++ [last] = (front ++ token :: back) ++ [c] := by
        rw [split, List.concat_eq_append, List.append_assoc, List.cons_append]
      exact .inl ⟨front, token, back, List.append_inj_left' same rfl, here⟩
  · rintro (⟨front, token, back, rfl, here⟩ | here)
    · exact ⟨front, token, back ++ [last], by rw [List.append_assoc, List.cons_append], here⟩
    · exact ⟨tokens, last, [], rfl, here⟩

/-- **The breaks of the batches** are those of the tokens, and the cuts. -/
theorem break_gather (tokens : List String) {k : ℕ} (pos : 0 < k) :
    Break isWhitespace (gather tokens).chars k ↔
      Break isWhitespace (String.join tokens).toList k ∨ CutBehind tokens k := by
  induction tokens using List.reverseRecOn with
  | nil =>
      refine iff_of_false (not_break_nil k) ?_
      rintro (here | ⟨front, token, back, split, -⟩)
      · exact not_break_nil k here
      · cases front <;> cases split
  | append_singleton tokens last ih =>
      have length : (letters isWhitespace (gather tokens).chars).length =
          (letters isWhitespace (String.join tokens).toList).length := by
        rw [letters_chars, letters_eq_solid]
      -- What the token adds stands behind equally many characters on both sides.
      have fed : Break isWhitespace ((gather tokens).chars ++ last.toList) k ↔
          Break isWhitespace (String.join (tokens ++ [last])).toList k ∨ CutBehind tokens k := by
        rw [join_concat, String.toList_append, break_append, break_append, ih, length]
        exact or_right_comm
      rw [gather_concat, cutBehind_concat, ← or_assoc, ← fed]
      by_cases flushes : (gather tokens).Flushes last
      · have whole := cut_append ((gather tokens).buffer ++ last)
        have chars : (gather tokens).chars ++ last.toList = spoken (gather tokens).texts ++
            ((cut ((gather tokens).buffer ++ last)).1.toList ++
              (cut ((gather tokens).buffer ++ last)).2.toList) := by
          rw [← String.toList_append, whole, String.toList_append, chars, List.append_assoc]
        have total := congrArg (fun chars => (letters isWhitespace chars).length) chars
        rw [letters_append, letters_chars, letters_eq_solid, ← solid_append, ← join_concat,
          letters_append, letters_append, List.length_append, List.length_append, letters_eq_solid,
          letters_eq_solid] at total
        rw [Batches.token, if_pos flushes, break_send _ _ _ pos, chars]
        refine or_congr Iff.rfl ?_
        rw [CutHere, and_iff_right flushes, total]
        refine and_congr Iff.rfl ?_
        omega
      · rw [Batches.token, if_neg flushes, or_iff_left fun here : CutHere tokens last k => flushes here.1]
        rw [chars, chars, String.toList_append, List.append_assoc]

/-- **The breaks of the texts** of a stream. -/
theorem break_batchTexts (tokens : List String) {k : ℕ} (pos : 0 < k)
    (inside : k < (solid (String.join tokens)).length) :
    Break isWhitespace (spoken (batchTexts tokens)) k ↔
      Break isWhitespace (String.join tokens).toList k ∨ CutBehind tokens k := by
  have last : spoken (batchTexts tokens) = ((gather tokens).send (gather tokens).buffer "").chars := by
    unfold batchTexts Batches.finish Batches.send
    by_cases blank : isBlank (gather tokens).buffer = true
    · rw [if_pos blank, if_pos blank]
      exact (List.append_nil _).symm
    · rw [if_neg blank, if_neg blank]
      exact (List.append_nil _).symm
  have total := congrArg List.length (letters_chars tokens)
  rw [chars, letters_append, List.length_append, letters_eq_solid] at total
  rw [last, break_send _ _ _ pos, ← break_gather tokens pos, chars]
  rw [show "".toList = [] from rfl, List.append_nil]
  refine or_iff_left ?_
  rintro ⟨-, rfl⟩
  omega

end Batches

/-! ## Words of what the LLM says -/

/-- White space is no markdown mark and no emoji. -/
theorem isProse_of_isWhitespace {c : Char} (blank : isWhitespace c = true) : isProse c = true := by
  have star : c ≠ '*' := by
    rintro rfl
    cases blank
  have hash : c ≠ '#' := by
    rintro rfl
    cases blank
  have line : c ≠ '_' := by
    rintro rfl
    cases blank
  simp only [isWhitespace, Bool.or_eq_true, Bool.and_eq_true, decide_eq_true_eq, beq_iff_eq] at blank
  simp only [isProse, Bool.and_eq_true, bne_iff_ne, Bool.not_eq_true', Bool.or_eq_false_iff,
    Bool.and_eq_false_iff, decide_eq_false_iff_not]
  exact ⟨⟨⟨star, hash⟩, line⟩, by omega⟩

/-- A control character is no markdown mark and no emoji. -/
theorem isProse_of_isAsciiControl {c : Char} (control : isAsciiControl c = true) : isProse c = true := by
  have star : c ≠ '*' := by
    rintro rfl
    cases control
  have hash : c ≠ '#' := by
    rintro rfl
    cases control
  have line : c ≠ '_' := by
    rintro rfl
    cases control
  simp only [isAsciiControl, Bool.or_eq_true, decide_eq_true_eq, beq_iff_eq] at control
  simp only [isProse, Bool.and_eq_true, bne_iff_ne, Bool.not_eq_true', Bool.or_eq_false_iff,
    Bool.and_eq_false_iff, decide_eq_false_iff_not]
  exact ⟨⟨⟨star, hash⟩, line⟩, by omega⟩

/-- **What is fed** is the cleaned text. -/
theorem toList_join_fed (tokens : List String) :
    (String.join (fed tokens)).toList = (String.join tokens).toList.filter isSpeakable := by
  induction tokens with
  | nil => rfl
  | cons token tokens ih =>
      rw [String.join_cons, String.toList_append, List.filter_append, ← ih, fed, List.map_cons]
      by_cases empty : (cleanForTts token).isEmpty = true
      · have none : token.toList.filter isSpeakable = [] := by
          have text := String.isEmpty_iff.1 empty
          rwa [← String.toList_eq_nil_iff, cleanForTts, String.toList_ofList] at text
        rw [List.filter_cons_of_neg (by rw [empty]; exact Bool.false_ne_true), none]
        rfl
      · rw [List.filter_cons_of_pos (by rw [Bool.eq_false_of_not_eq_true empty]; rfl), String.join_cons,
          String.toList_append, cleanForTts, String.toList_ofList]
        rfl

variable {chars : List Char}

/-- The spoken characters of what is fed. -/
theorem letters_speakable (chars : List Char) : letters isWhitespace (chars.filter isSpeakable) =
    (chars.filter isSpoken).filter (!isAsciiControl ·) := by
  rw [letters, List.filter_filter, List.filter_filter]
  apply List.filter_congr
  intro c _
  rw [isSpeakable_eq, isSpoken, ← Bool.and_assoc, Bool.and_comm (!isWhitespace c), Bool.and_assoc]

/-- The spoken characters of the words that are to be spoken. -/
theorem letters_prose (chars : List Char) :
    letters isWhitespace (chars.filter fun c => isWhitespace c || isProse c) = chars.filter isSpoken := by
  rw [letters, List.filter_filter]
  apply List.filter_congr
  intro c _
  rw [isSpoken]
  cases isWhitespace c <;> simp

/-- **All spoken characters are fed** exactly if the control characters are white space. -/
theorem filter_control_iff : (chars.filter isSpoken).filter (!isAsciiControl ·) = chars.filter isSpoken ↔
    ∀ c ∈ chars, isAsciiControl c = true → isWhitespace c = true := by
  rw [List.filter_eq_self]
  constructor
  · intro fed c held control
    by_contra solid
    have here := fed c (List.mem_filter.2 ⟨held, by
      rw [isSpoken, Bool.eq_false_of_not_eq_true solid, isProse_of_isAsciiControl control]
      rfl⟩)
    rw [control] at here
    cases here
  · intro printable c held
    obtain ⟨inside, said⟩ := List.mem_filter.1 held
    by_contra control
    rw [Bool.not_eq_true', Bool.not_eq_false] at control
    rw [isSpoken, printable c inside control] at said
    cases said

/-- The breaks of the words that are to be spoken. -/
theorem break_prose (chars : List Char) (k : ℕ) :
    Break isWhitespace (chars.filter fun c => isWhitespace c || isProse c) k ↔
      BlankBehind isWhitespace chars k := by
  rw [break_filter]
  constructor
  · rintro ⟨front, c, back, split, ⟨-, blank⟩, rfl⟩
    exact ⟨front, c, back, split, blank, by rw [letters_prose]⟩
  · rintro ⟨front, c, back, split, blank, rfl⟩
    exact ⟨front, c, back, split, ⟨by rw [blank, Bool.true_or], blank⟩, by rw [letters_prose]⟩

/-- The breaks of what is fed. -/
theorem break_speakable (printable : ∀ c ∈ chars, isAsciiControl c = true → isWhitespace c = true) (k : ℕ) :
    Break isWhitespace (chars.filter isSpeakable) k ↔
      BlankBehind (fun c => isWhitespace c && !isAsciiControl c) chars k := by
  have letters {front back : List Char} {c : Char} (split : chars = front ++ c :: back) :
      letters isWhitespace (front.filter isSpeakable) = front.filter isSpoken := by
    rw [letters_speakable, filter_control_iff]
    exact fun d held => printable d (split ▸ List.mem_append_left _ held)
  rw [break_filter]
  constructor
  · rintro ⟨front, c, back, split, ⟨kept, blank⟩, rfl⟩
    rw [isSpeakable_eq, Bool.and_eq_true] at kept
    exact ⟨front, c, back, split, Bool.and_eq_true_iff.2 ⟨blank, kept.1⟩, by rw [letters split]⟩
  · rintro ⟨front, c, back, split, here, rfl⟩
    obtain ⟨blank, kept⟩ := Bool.and_eq_true_iff.1 here
    refine ⟨front, c, back, split, ⟨?_, blank⟩, by rw [letters split]⟩
    rw [isSpeakable_eq, kept, isProse_of_isWhitespace blank]
    rfl

/-- **No word is broken and none are fused** exactly if words are kept. -/
theorem words_kept_iff (contextId : String) (tokens : List String) :
    (wsTexts contextId (fed tokens)).flatMap splitWords = proseWords (String.join tokens) ↔
      WordsKept tokens := by
  have spoken : letters isWhitespace (Batches.spoken (batchTexts (fed tokens))) =
      ((String.join tokens).toList.filter isSpoken).filter (!isAsciiControl ·) := by
    rw [Batches.letters_spoken, batchTexts, (Batches.holds_gather (fed tokens)).finish.whole,
      ← letters_speakable, ← toList_join_fed]
    rfl
  have fedSolid : solid (String.join (fed tokens)) =
      ((String.join tokens).toList.filter isSpoken).filter (!isAsciiControl ·) := by
    rw [← letters_speakable, ← toList_join_fed]
    rfl
  rw [wsTexts_eq, ← Batches.words_spoken, proseWords, splitWords, words_filter, words_eq_iff, spoken,
    letters_prose, filter_control_iff]
  have breaks (printable : ∀ c ∈ (String.join tokens).toList, isAsciiControl c = true → isWhitespace c = true)
      {k : ℕ} (pos : 0 < k) (inside : k < ((String.join tokens).toList.filter isSpoken).length) :
      (Break isWhitespace (Batches.spoken (batchTexts (fed tokens))) k ↔
        Break isWhitespace ((String.join tokens).toList.filter fun c => isWhitespace c || isProse c) k) ↔
      (BlankBehind isWhitespace (String.join tokens).toList k ↔
        BlankBehind (fun c => isWhitespace c && !isAsciiControl c) (String.join tokens).toList k ∨
          CutBehind (fed tokens) k) := by
    rw [← filter_control_iff.2 printable, ← fedSolid] at inside
    rw [Batches.break_batchTexts (fed tokens) pos inside, toList_join_fed, break_speakable printable,
      break_prose]
    exact Iff.comm
  constructor
  · rintro ⟨printable, same⟩
    refine ⟨printable, ?_⟩
    intro k pos inside
    refine (breaks printable pos inside).1 (same k pos ?_)
    rwa [filter_control_iff.2 printable]
  · intro kept
    refine ⟨kept.printable, ?_⟩
    intro k pos inside
    rw [filter_control_iff.2 kept.printable] at inside
    exact (breaks kept.printable pos inside).2 (kept.blanks k pos inside)

/-- **A word is broken** where the first batch passes thirty characters, and behind a point; and two
words are fused where a line break was. -/
theorem words_broken :
    (wsTexts "turn" (fed ["I would like to tell you about the wonder", "ful day"])).flatMap splitWords ≠
        proseWords (String.join ["I would like to tell you about the wonder", "ful day"]) ∧
      (wsTexts "turn" (fed ["It is 3.", "14"])).flatMap splitWords ≠
        proseWords (String.join ["It is 3.", "14"]) ∧
      (wsTexts "turn" (fed ["one\ntwo"])).flatMap splitWords ≠ proseWords (String.join ["one\ntwo"]) := by
  decide +kernel

end TtsBatching

/-- **The reactor feeds the stage** what is fed for its tokens, while a session is open. -/
theorem Reactor.log_foldl_sendTtsToken {β : Type} [AgentBackend β] (tokens : List String) {r : Reactor β}
    (ready : r.tts.tokenTx = true) : (tokens.foldl (fun r token => r.sendTtsToken token) r).log =
      r.log ++ (TtsBatching.fed tokens).map fun token => .tts (.feedToken token) := by
  induction tokens generalizing r with
  | nil => exact (List.append_nil _).symm
  | cons token tokens ih =>
      rw [List.foldl_cons, TtsBatching.fed, List.map_cons]
      by_cases empty : (cleanForTts token).isEmpty = true
      · have same : r.sendTtsToken token = r := by
          rw [Reactor.sendTtsToken, if_pos empty]
        rw [same, ih ready, List.filter_cons_of_neg (by rw [empty]; exact Bool.false_ne_true)]
        rfl
      · have some : (!(cleanForTts token).isEmpty) = true := by
          rw [Bool.eq_false_of_not_eq_true empty]
          rfl
        have sent : (r.sendTtsToken token).log = r.log ++ [.tts (.feedToken (cleanForTts token))] ∧
            (r.sendTtsToken token).tts.tokenTx = true := by
          rw [Reactor.sendTtsToken, if_neg empty, Reactor.feedToken, if_pos ready]
          exact ⟨rfl, ready⟩
        rw [ih sent.2, sent.1, @List.filter_cons_of_pos _ (fun text : String => !text.isEmpty) _ _ some,
          List.append_assoc]
        rfl

end Feros
