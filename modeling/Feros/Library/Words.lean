import Mathlib.Data.List.Basic
/-!
# Words

A text is a list of letters and separators; its **`words`** are the longest pieces without a
separator.  They are determined by the letters and by the **breaks**: the numbers of letters behind
which a separator stands, `words_eq_iff`.  So two texts that were made in different ways have the same
words if they have the same letters and the same breaks between them.
-/

namespace Words

variable {α : Type*} (sep : α → Bool)

/-- **The words of a text.** -/
def words (text : List α) : List (List α) := (text.splitOnP sep).filter (!·.isEmpty)

/-- The letters of a text. -/
def letters (text : List α) : List α := text.filter (!sep ·)

/-- **A separator stands behind the first `k` letters.** -/
def Break (text : List α) (k : ℕ) : Prop :=
  ∃ front a back, text = front ++ a :: back ∧ sep a = true ∧ (letters sep front).length = k

section Letters

variable {sep}

/-- A text without characters has no letters. -/
@[simp] theorem letters_nil : letters sep [] = [] := rfl

/-- A separator is no letter. -/
theorem letters_cons_sep {a : α} (here : sep a = true) (text : List α) :
    letters sep (a :: text) = letters sep text := by
  rw [letters, List.filter_cons_of_neg]
  · rfl
  · rw [here]
    exact Bool.false_ne_true

/-- What is no separator is a letter. -/
theorem letters_cons_letter {a : α} (here : sep a = false) (text : List α) :
    letters sep (a :: text) = a :: letters sep text := by
  rw [letters, List.filter_cons_of_pos]
  · rfl
  · rw [here]
    rfl

/-- The letters of two texts are those of the first and of the second. -/
theorem letters_append (first second : List α) :
    letters sep (first ++ second) = letters sep first ++ letters sep second := List.filter_append ..

/-! ## Breaks -/

/-- An empty text has no break. -/
theorem not_break_nil (k : ℕ) : ¬ Break sep [] k := by
  rintro ⟨front, a, back, split, -, -⟩
  cases front <;> cases split

/-- A separator breaks before the letters that follow. -/
theorem break_cons_sep {a : α} (here : sep a = true) (text : List α) (k : ℕ) :
    Break sep (a :: text) k ↔ k = 0 ∨ Break sep text k := by
  constructor
  · rintro ⟨front, b, back, split, there, rfl⟩
    rcases List.cons_eq_append_iff.1 split with ⟨rfl, -⟩ | ⟨front, rfl, rfl⟩
    · exact .inl rfl
    · refine .inr ⟨front, b, back, rfl, there, ?_⟩
      rw [letters_cons_sep here]
  · rintro (rfl | ⟨front, b, back, rfl, there, rfl⟩)
    · exact ⟨[], a, text, rfl, here, rfl⟩
    · refine ⟨a :: front, b, back, rfl, there, ?_⟩
      rw [letters_cons_sep here]

/-- A letter moves every break behind it by one. -/
theorem break_cons_letter {a : α} (here : sep a = false) (text : List α) (k : ℕ) :
    Break sep (a :: text) (k + 1) ↔ Break sep text k := by
  constructor
  · rintro ⟨front, b, back, split, there, length⟩
    rcases List.cons_eq_append_iff.1 split with ⟨rfl, -⟩ | ⟨front, rfl, rfl⟩
    · cases length
    · rw [letters_cons_letter here, List.length_cons] at length
      exact ⟨front, b, back, rfl, there, Nat.succ_inj.1 length⟩
  · rintro ⟨front, b, back, rfl, there, rfl⟩
    refine ⟨a :: front, b, back, rfl, there, ?_⟩
    rw [letters_cons_letter here, List.length_cons]

/-- Nothing breaks before the first letter of a text that begins with one. -/
theorem not_break_cons_letter {a : α} (here : sep a = false) (text : List α) :
    ¬ Break sep (a :: text) 0 := by
  rintro ⟨front, b, back, split, there, length⟩
  rcases List.cons_eq_append_iff.1 split with ⟨rfl, same⟩ | ⟨front, rfl, rfl⟩
  · cases same
    rw [here] at there
    cases there
  · rw [letters_cons_letter here] at length
    cases length

/-- **Breaks of two texts in a row.** -/
theorem break_append (first second : List α) (k : ℕ) : Break sep (first ++ second) k ↔
    Break sep first k ∨ ∃ j, (letters sep first).length + j = k ∧ Break sep second j := by
  constructor
  · rintro ⟨front, a, back, split, here, rfl⟩
    rcases List.append_eq_append_iff.1 split with ⟨more, rfl, rfl⟩ | ⟨more, rfl, rest⟩
    · refine .inr ⟨(letters sep more).length, ?_, more, a, back, rfl, here, rfl⟩
      rw [letters_append, List.length_append]
    · cases more with
      | nil =>
          refine .inr ⟨0, ?_, [], a, back, rest.symm, here, rfl⟩
          rw [List.append_nil, Nat.add_zero]
      | cons b more =>
          cases rest
          exact .inl ⟨front, a, more, rfl, here, rfl⟩
  · rintro (⟨front, a, back, rfl, here, rfl⟩ | ⟨j, rfl, front, a, back, rfl, here, rfl⟩)
    · exact ⟨front, a, back ++ second, by rw [List.append_assoc, List.cons_append], here, rfl⟩
    · refine ⟨first ++ front, a, back, by rw [List.append_assoc], here, ?_⟩
      rw [letters_append, List.length_append]

/-- **Breaks of a part of the text.** -/
theorem break_filter (keep : α → Bool) (text : List α) (k : ℕ) : Break sep (text.filter keep) k ↔
    ∃ front a back, text = front ++ a :: back ∧ (keep a = true ∧ sep a = true) ∧
      (letters sep (front.filter keep)).length = k := by
  constructor
  · rintro ⟨front, a, back, split, here, rfl⟩
    obtain ⟨first, second, rfl, rfl, rest⟩ := List.filter_eq_append_iff.1 split
    obtain ⟨dropped, last, rfl, none, kept, rfl⟩ := List.filter_eq_cons_iff.1 rest
    refine ⟨first ++ dropped, a, last, by rw [List.append_assoc], ⟨kept, here⟩, ?_⟩
    rw [List.filter_append, List.filter_eq_nil_iff.2 none, List.append_nil]
  · rintro ⟨front, a, back, rfl, ⟨kept, here⟩, rfl⟩
    refine ⟨front.filter keep, a, back.filter keep, ?_, here, rfl⟩
    rw [List.filter_append, List.filter_cons_of_pos kept]

/-- No break comes behind more letters than there are. -/
theorem Break.le {text : List α} {k : ℕ} (here : Break sep text k) : k ≤ (letters sep text).length := by
  obtain ⟨front, a, back, rfl, -, rfl⟩ := here
  rw [letters_append, List.length_append]
  exact Nat.le_add_right ..

/-- In a text of separators there is a break in front only. -/
theorem Break.eq_zero {text : List α} {k : ℕ} (here : Break sep text k) (none : letters sep text = []) :
    k = 0 := by
  have most := here.le
  rw [none] at most
  exact Nat.le_zero.1 most

/-- **Separators between two texts** break where the second begins, and nowhere else. -/
theorem break_blank (first : List α) {blank : List α} (none : letters sep blank = []) (second : List α)
    {k : ℕ} : (Break sep (first ++ second) k → Break sep (first ++ (blank ++ second)) k) ∧
      (Break sep (first ++ (blank ++ second)) k →
        k = (letters sep first).length ∨ Break sep (first ++ second) k) := by
  rw [break_append, break_append]
  constructor
  · rintro (here | ⟨j, sum, here⟩)
    · exact .inl here
    · refine .inr ⟨j, sum, (break_append blank second j).2 (.inr ⟨j, ?_, here⟩)⟩
      rw [none, List.length_nil, Nat.zero_add]
  · rintro (here | ⟨j, sum, here⟩)
    · exact .inr (.inl here)
    · rcases (break_append blank second j).1 here with front | ⟨i, rfl, back⟩
      · rw [front.eq_zero none, Nat.add_zero] at sum
        exact .inl sum.symm
      · rw [none, List.length_nil, Nat.zero_add] at sum
        exact .inr (.inr ⟨i, sum, back⟩)

/-- A separator breaks where it stands. -/
theorem break_here (first : List α) {a : α} (here : sep a = true) (second : List α) :
    Break sep (first ++ a :: second) (letters sep first).length := ⟨first, a, second, rfl, here, rfl⟩

/-- A break of the first of two texts. -/
theorem Break.append {first : List α} {k : ℕ} (here : Break sep first k) (second : List α) :
    Break sep (first ++ second) k := (break_append first second k).2 (.inl here)

/-! ## The words of a text -/

/-- A text without characters has no words. -/
@[simp] theorem words_nil : words sep [] = [] := rfl

/-- **A separator divides the words.** -/
theorem words_append_sep (first : List α) {a : α} (here : sep a = true) (second : List α) :
    words sep (first ++ a :: second) = words sep first ++ words sep second := by
  rw [words, List.splitOnP_append_cons _ _ here, List.filter_append]
  rfl

/-- A separator at the front of a text begins no word. -/
theorem words_cons_sep {a : α} (here : sep a = true) (text : List α) :
    words sep (a :: text) = words sep text := words_append_sep [] here text

/-- A letter in front of another lengthens its word. -/
theorem words_cons_cons {a b : α} (first : sep a = false) (second : sep b = false) (text : List α) :
    ∃ word more, words sep (b :: text) = word :: more ∧ words sep (a :: b :: text) = (a :: word) :: more := by
  obtain ⟨piece, pieces, split⟩ := List.exists_cons_of_ne_nil (List.splitOnP_ne_nil sep text)
  refine ⟨b :: piece, pieces.filter (!·.isEmpty), ?_, ?_⟩
  · rw [words, List.splitOnP_cons_eq_if_modifyHead, second, if_neg Bool.false_ne_true, split]
    rfl
  · rw [words, List.splitOnP_cons_eq_if_modifyHead, first, if_neg Bool.false_ne_true,
      List.splitOnP_cons_eq_if_modifyHead, second, if_neg Bool.false_ne_true, split]
    rfl

/-- Words of texts that end in a separator each. -/
theorem words_flatMap {β : Type*} (texts : List β) (chars : β → List α) {a : α} (here : sep a = true) :
    words sep (texts.flatMap fun text => chars text ++ [a]) = texts.flatMap fun text => words sep (chars text) := by
  induction texts with
  | nil => rfl
  | cons text texts ih =>
      rw [List.flatMap_cons, List.flatMap_cons, List.append_assoc, List.singleton_append,
        words_append_sep _ here, ih]

/-- **Dropping letters from the words** is dropping them from the text. -/
theorem words_filter (keep : α → Bool) (text : List α) :
    ((words sep text).map (·.filter keep)).filter (!·.isEmpty) =
      words sep (text.filter fun a => sep a || keep a) := by
  have pieces : (text.splitOnP sep).map (·.filter keep) =
      (text.filter fun a => sep a || keep a).splitOnP sep := by
    induction text with
    | nil => rfl
    | cons a text ih =>
        obtain ⟨piece, more, split⟩ := List.exists_cons_of_ne_nil (List.splitOnP_ne_nil sep text)
        rw [split] at ih
        rcases here : sep a with _ | _
        · rcases kept : keep a with _ | _
          · rw [List.filter_cons_of_neg (by simp [here, kept]), ← ih,
              List.splitOnP_cons_eq_if_modifyHead, here, if_neg Bool.false_ne_true, split,
              List.modifyHead_cons, List.map_cons, List.filter_cons_of_neg (by simp [kept]), List.map_cons]
          · rw [List.filter_cons_of_pos (by simp [kept]), List.splitOnP_cons_eq_if_modifyHead,
              List.splitOnP_cons_eq_if_modifyHead, here, if_neg Bool.false_ne_true,
              if_neg Bool.false_ne_true, ← ih, split, List.modifyHead_cons, List.map_cons, List.map_cons,
              List.modifyHead_cons, List.filter_cons_of_pos kept]
        · rw [List.filter_cons_of_pos (by simp [here]), List.splitOnP_cons_eq_if_modifyHead,
            List.splitOnP_cons_eq_if_modifyHead, here, if_pos rfl, if_pos rfl, ← ih, split, List.map_cons]
          rfl
  rw [words, words, ← pieces, List.filter_map, List.filter_map, List.filter_filter]
  refine congrArg _ (List.filter_congr ?_)
  intro piece _
  cases piece with
  | nil => rfl
  | cons a piece => exact Bool.and_true _

end Letters

/-! ## Words from letters and breaks -/

open Classical in
/-- Cut letters into words at some breaks. -/
noncomputable def cutAt (breaks : ℕ → Prop) : List α → List (List α)
  | [] => []
  | a :: rest =>
    match cutAt (fun k => breaks (k + 1)) rest with
    | [] => [[a]]
    | word :: more => if breaks 1 then [a] :: word :: more else (a :: word) :: more

/-- Nothing is cut into nothing. -/
@[simp] theorem cutAt_nil (breaks : ℕ → Prop) : cutAt breaks ([] : List α) = [] := rfl

/-- What is cut is kept, and no word is empty. -/
theorem cutAt_spec (breaks : ℕ → Prop) (text : List α) :
    (cutAt breaks text).flatten = text ∧ ∀ word ∈ cutAt breaks text, word ≠ [] := by
  induction text generalizing breaks with
  | nil => exact ⟨rfl, nofun⟩
  | cons a rest ih =>
      obtain ⟨whole, nonempty⟩ := ih fun k => breaks (k + 1)
      rw [cutAt]
      rcases pieces : cutAt (fun k => breaks (k + 1)) rest with _ | ⟨word, more⟩
      all_goals
        rw [pieces] at whole nonempty
      · refine ⟨congrArg (a :: ·) whole, ?_⟩
        intro word held
        rw [List.mem_singleton.1 held]
        exact List.cons_ne_nil a []
      · by_cases here : breaks 1
        · simp only [if_pos here]
          refine ⟨congrArg (a :: ·) whole, ?_⟩
          intro other held
          rcases List.mem_cons.1 held with rfl | held
          · exact List.cons_ne_nil a []
          · exact nonempty other held
        · simp only [if_neg here]
          refine ⟨congrArg (a :: ·) whole, ?_⟩
          intro other held
          rcases List.mem_cons.1 held with rfl | held
          · exact List.cons_ne_nil a word
          · exact nonempty other (List.mem_cons_of_mem _ held)

/-- **The cuts show** in the words. -/
theorem cutAt_inj {breaks breaks' : ℕ → Prop} {text : List α} (same : cutAt breaks text = cutAt breaks' text)
    {k : ℕ} (pos : 0 < k) (inside : k < text.length) : breaks k ↔ breaks' k := by
  induction text generalizing breaks breaks' k with
  | nil => cases inside
  | cons a rest ih =>
      obtain ⟨whole, nonempty⟩ := cutAt_spec (fun k => breaks (k + 1)) rest
      obtain ⟨whole', nonempty'⟩ := cutAt_spec (fun k => breaks' (k + 1)) rest
      have some : rest ≠ [] := by
        rintro rfl
        rw [List.length_singleton] at inside
        omega
      rw [cutAt, cutAt] at same
      -- The rest is cut into words by both.
      rcases first : cutAt (fun k => breaks (k + 1)) rest with _ | ⟨word, more⟩
      · rw [first] at whole
        exact absurd whole.symm some
      rcases second : cutAt (fun k => breaks' (k + 1)) rest with _ | ⟨word', more'⟩
      · rw [second] at whole'
        exact absurd whole'.symm some
      rw [first] at nonempty
      rw [second] at nonempty'
      have wordSome := nonempty word (List.mem_cons_self ..)
      have wordSome' := nonempty' word' (List.mem_cons_self ..)
      simp only [first, second] at same
      -- The first break is there in both or in neither, as the first words are the same.
      have here : (breaks 1 ↔ breaks' 1) ∧ word :: more = word' :: more' := by
        by_cases one : breaks 1
        · rw [if_pos one] at same
          by_cases one' : breaks' 1
          · rw [if_pos one'] at same
            exact ⟨iff_of_true one one', (List.cons.inj same).2⟩
          · rw [if_neg one'] at same
            exact absurd (List.cons.inj (List.cons.inj same).1).2.symm wordSome'
        · rw [if_neg one] at same
          by_cases one' : breaks' 1
          · rw [if_pos one'] at same
            exact absurd (List.cons.inj (List.cons.inj same).1).2 wordSome
          · rw [if_neg one'] at same
            obtain ⟨head, tail⟩ := List.cons.inj same
            exact ⟨iff_of_false one one', by rw [(List.cons.inj head).2, tail]⟩
      obtain ⟨j, rfl⟩ := Nat.exists_eq_add_one_of_ne_zero (Nat.ne_of_gt pos)
      rcases Nat.eq_zero_or_pos j with rfl | later
      · exact here.1
      · have rest : cutAt (fun k => breaks (k + 1)) rest = cutAt (fun k => breaks' (k + 1)) rest := by
          rw [first, second, here.2]
        exact ih rest later (Nat.lt_of_succ_lt_succ inside)

/-- Only the breaks between letters matter. -/
theorem cutAt_congr {breaks breaks' : ℕ → Prop} {text : List α}
    (same : ∀ k, 0 < k → k < text.length → (breaks k ↔ breaks' k)) :
    cutAt breaks text = cutAt breaks' text := by
  induction text generalizing breaks breaks' with
  | nil => rfl
  | cons a rest ih =>
      have tail : cutAt (fun k => breaks (k + 1)) rest = cutAt (fun k => breaks' (k + 1)) rest :=
        ih fun k _ inside => same (k + 1) k.succ_pos (Nat.succ_lt_succ inside)
      rw [cutAt, cutAt, tail]
      rcases later : cutAt (fun k => breaks' (k + 1)) rest with _ | ⟨word, more⟩
      · rfl
      · have some : 1 < (a :: rest).length := by
          cases rest with
          | nil => cases later
          | cons b rest => exact Nat.succ_lt_succ (Nat.succ_pos _)
        have here := same 1 Nat.one_pos some
        dsimp only
        by_cases one : breaks 1
        · rw [if_pos one, if_pos (here.1 one)]
        · rw [if_neg one, if_neg (here.not.1 one)]

/-- **The words are the letters, cut at the breaks.** -/
theorem words_eq_cutAt (text : List α) : words sep text = cutAt (Break sep text) (letters sep text) := by
  induction text with
  | nil => rfl
  | cons a text ih =>
      rcases here : sep a with _ | _
      · have shift : (fun k => Break sep (a :: text) (k + 1)) = Break sep text :=
          funext fun k => propext (break_cons_letter here text k)
        rw [letters_cons_letter here, cutAt, shift, ← ih, propext (break_cons_letter here text 0)]
        cases text with
        | nil =>
            rw [words, List.splitOnP_cons_eq_if_modifyHead, here]
            rfl
        | cons b text =>
            rcases next : sep b with _ | _
            · obtain ⟨word, more, rest, whole⟩ := words_cons_cons here next text
              rw [whole, rest]
              simp only [if_neg (not_break_cons_letter next text)]
            · have divided : words sep (a :: b :: text) = words sep [a] ++ words sep text :=
                words_append_sep [a] next text
              have single : words sep [a] = [[a]] := by
                rw [words, List.splitOnP_cons_eq_if_modifyHead, here]
                rfl
              have break0 : Break sep (b :: text) 0 := (break_cons_sep next text 0).2 (.inl rfl)
              rw [divided, single, words_cons_sep next]
              rcases words sep text with - | ⟨word, more⟩
              · rfl
              · simp only [if_pos break0]
                rfl
      · rw [words_cons_sep here, letters_cons_sep here, ih]
        apply cutAt_congr
        intro k pos _
        rw [break_cons_sep here, or_iff_right (Nat.ne_of_gt pos)]

variable {sep}

/-- **Two texts have the same words** exactly if they have the same letters, and the same breaks between
them. -/
theorem words_eq_iff {first second : List α} : words sep first = words sep second ↔
    letters sep first = letters sep second ∧
      ∀ k, 0 < k → k < (letters sep first).length → (Break sep first k ↔ Break sep second k) := by
  rw [words_eq_cutAt, words_eq_cutAt]
  constructor
  · intro same
    have flat := congrArg List.flatten same
    rw [(cutAt_spec _ _).1, (cutAt_spec _ _).1] at flat
    refine ⟨flat, ?_⟩
    intro k pos inside
    rw [← flat] at same
    exact cutAt_inj same pos inside
  · rintro ⟨flat, breaks⟩
    rw [← flat]
    exact cutAt_congr breaks

end Words
