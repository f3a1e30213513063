import Feros.Generation
import Feros.Utf8
/-! # Detecting the turn-completion marker

`detected` feeds the tokens of an output through the phase, as the handler of LLM events does, and
says which marker was found and what went to TTS.

The check looks at the first tokens that come to four bytes, `detected_eq`.  White space in front of
the marker counts for these, and a blank behind ✓ may come after them: the text is **`Steady`** if
neither can make a difference. -/

namespace Feros

open String (utf8Len)

namespace LlmTurnPhase

/-! ## Feeding an output -/

/-- What came of an output so far. -/
structure Detection where
  phase : LlmTurnPhase
  marker : Option TurnCompletion
  /-- The text that went to TTS. -/
  forwarded : String
  deriving DecidableEq, Repr

namespace Detection

/-- Before the first token. -/
def new : Detection := ⟨.generating (some ""), none, ""⟩

/-- What is done with the action: behind ○ or ◐ the output is suppressed. -/
def act (action : TokenAction) (d : Detection) : Detection :=
  match action with
  | .drop => d
  | .accumulate => d
  | .passthrough token => { d with forwarded := d.forwarded ++ token }
  | .markerCheckCompleted (some .incompleteShort) _ =>
    { d with phase := .suppressing none, marker := some .incompleteShort }
  | .markerCheckCompleted (some .incompleteLong) _ =>
    { d with phase := .suppressing none, marker := some .incompleteLong }
  | .markerCheckCompleted marker emittedText =>
    { d with marker := marker, forwarded := d.forwarded ++ emittedText }

/-- A token. -/
def token (d : Detection) (token : String) : Detection :=
  let (phase, action) := d.phase.processToken token true
  { d with phase := phase }.act action

/-- The end of the output. -/
def flush (d : Detection) : Detection :=
  match d.phase.processLateFlush true with
  | (phase, some action) => { d with phase := phase }.act action
  | (phase, none) => { d with phase := phase }

/-- The marker, and the text. -/
def result (d : Detection) : Option TurnCompletion × String := (d.marker, d.forwarded)

end Detection

/-- **What is found in an output**, fed in tokens. -/
def detected (tokens : List String) : Option TurnCompletion × String :=
  (tokens.foldl Detection.token .new).flush.result

/-- **The tokens are a split of the text.** -/
def Splits (text : String) (tokens : List String) : Prop :=
  (∀ token ∈ tokens, token ≠ "") ∧ String.join tokens = text

/-! ## What the check sees -/

/-- What is found if the check sees `seen`, and `later` comes after it. -/
def verdict (seen later : String) : Option TurnCompletion × String :=
  match checkMarker seen with
  | .markerCheckCompleted (some .incompleteShort) _ => (some .incompleteShort, "")
  | .markerCheckCompleted (some .incompleteLong) _ => (some .incompleteLong, "")
  | .markerCheckCompleted marker emittedText => (marker, emittedText ++ later)
  | _ => (none, "")

namespace Detection

/-- Behind ○ or ◐ nothing is forwarded. -/
theorem foldl_suppressing (response : Option String) (marker : Option TurnCompletion) (text : String)
    (tokens : List String) :
    tokens.foldl token ⟨.suppressing response, marker, text⟩ = ⟨.suppressing response, marker, text⟩ := by
  induction tokens with
  | nil => rfl
  | cons token tokens ih => exact ih

/-- After the check everything else is forwarded. -/
theorem foldl_checked (marker : Option TurnCompletion) (text : String) (tokens : List String) :
    tokens.foldl token ⟨.generating none, marker, text⟩ =
      ⟨.generating none, marker, text ++ String.join tokens⟩ := by
  induction tokens generalizing text with
  | nil => rw [String.join_nil, String.append_empty, List.foldl_nil]
  | cons first tokens ih =>
      rw [List.foldl_cons, String.join_cons, ← String.append_assoc]
      exact ih (text ++ first)

/-- What a check that has just been made leads to. -/
theorem result_act_checkMarker (seen : String) (tokens : List String) :
    (tokens.foldl token ((⟨.generating none, none, ""⟩ : Detection).act (checkMarker seen))).flush.result =
      verdict seen (String.join tokens) := by
  unfold verdict
  rcases found : checkMarker seen with _ | _ | ⟨_ | (_ | _ | _), text⟩ | _
  case markerCheckCompleted.none =>
    show (tokens.foldl token ⟨.generating none, none, "" ++ text⟩).flush.result = _
    rw [foldl_checked, String.empty_append]
    rfl
  case markerCheckCompleted.some.complete =>
    show (tokens.foldl token ⟨.generating none, some .complete, "" ++ text⟩).flush.result = _
    rw [foldl_checked, String.empty_append]
    rfl
  case markerCheckCompleted.some.incompleteShort =>
    show (tokens.foldl token ⟨.suppressing none, some .incompleteShort, ""⟩).flush.result = _
    rw [foldl_suppressing]
    rfl
  case markerCheckCompleted.some.incompleteLong =>
    show (tokens.foldl token ⟨.suppressing none, some .incompleteLong, ""⟩).flush.result = _
    rw [foldl_suppressing]
    rfl
  all_goals
    unfold checkMarker at found
    split at found <;> cases found

/-- **The check sees the first tokens that come to four bytes**, behind what is buffered; or all of
them at the end. -/
theorem result_buffering {buf : String} (short : buf.utf8ByteSize < 4) (tokens : List String) :
    ∃ seen later, seen ++ later = buf ++ String.join tokens ∧ (4 ≤ seen.utf8ByteSize ∨ later = "") ∧
      (tokens.foldl token ⟨.generating (some buf), none, ""⟩).flush.result = verdict seen later := by
  induction tokens generalizing buf with
  | nil =>
      refine ⟨buf, "", by rw [String.join_nil], .inr rfl, ?_⟩
      rw [List.foldl_nil]
      by_cases empty : buf.isEmpty = true
      · rw [String.isEmpty_iff.1 empty]
        decide
      · have checks : (⟨.generating (some buf), none, ""⟩ : Detection).flush =
            (⟨.generating none, none, ""⟩ : Detection).act (checkMarker buf) := by
          simp [flush, processLateFlush, markerChecked, empty]
        have found := result_act_checkMarker buf []
        rw [List.foldl_nil, String.join_nil] at found
        rw [checks, ← found]
        -- Nothing is left to flush after the check.
        unfold checkMarker
        split
        · rename_i marker skip _
          cases marker <;> rfl
        · rfl
  | cons first tokens ih =>
      rw [String.join_cons, ← String.append_assoc, List.foldl_cons]
      by_cases long : (buf ++ first).utf8ByteSize < 4
      · have waits : token ⟨.generating (some buf), none, ""⟩ first =
            ⟨.generating (some (buf ++ first)), none, ""⟩ := by
          unfold token processToken
          dsimp only
          rw [if_pos rfl, if_pos long]
          rfl
        rw [waits]
        exact ih long
      · have checks : token ⟨.generating (some buf), none, ""⟩ first =
            (⟨.generating none, none, ""⟩ : Detection).act (checkMarker (buf ++ first)) := by
          unfold token processToken
          dsimp only
          rw [if_pos rfl, if_neg long]
        rw [checks]
        exact ⟨buf ++ first, String.join tokens, rfl, .inl (Nat.not_lt.1 long),
          result_act_checkMarker _ _⟩

end Detection

/-! ## What the check finds -/

/-- What is found in `rest`, behind white space and in front of `later`. -/
def found (blank : List Char) (later : String) : List Char → Option TurnCompletion × String
  | '✓' :: ' ' :: tail => (some .complete, String.ofList tail ++ later)
  | '✓' :: tail => (some .complete, String.ofList tail ++ later)
  | '○' :: _ => (some .incompleteShort, "")
  | '◐' :: _ => (some .incompleteLong, "")
  | rest => (none, String.ofList (blank ++ rest) ++ later)

/-- Where the marker at the start of `rest` ends, behind white space. -/
def locate (blank : List Char) : List Char → Option (TurnCompletion × ℕ)
  | '✓' :: tail => some (.complete,
      if tail.head? = some ' ' then utf8Len (blank ++ ['✓', ' ']) else utf8Len (blank ++ ['✓']))
  | '○' :: _ => some (.incompleteShort, utf8Len (blank ++ ['○']))
  | '◐' :: _ => some (.incompleteLong, utf8Len (blank ++ ['◐']))
  | _ => none

section Found

variable {blank : List Char}

/-- Text that starts with no marker. -/
theorem found_none {rest : List Char} (later : String)
    (unmarked : ∀ c ∈ rest.head?, c ≠ '✓' ∧ c ≠ '○' ∧ c ≠ '◐') :
    found blank later rest = (none, String.ofList (blank ++ rest) ++ later) := by
  unfold found
  split
  · exact absurd rfl (unmarked _ rfl).1
  · exact absurd rfl (unmarked _ rfl).1
  · exact absurd rfl (unmarked _ rfl).2.1
  · exact absurd rfl (unmarked _ rfl).2.2
  · rfl

/-- A complete marker is found where no blank follows. -/
theorem found_complete {tail : List Char} (later : String) (noBlank : tail.head? ≠ some ' ') :
    found blank later ('✓' :: tail) = (some .complete, String.ofList tail ++ later) := by
  unfold found
  split
  · rename_i same
    cases same
    exact absurd rfl noBlank
  · rename_i same
    cases same
    rfl
  · rename_i same
    cases same
  · rename_i same
    cases same
  · rename_i unmarked _ _
    exact absurd rfl (unmarked tail)

variable (allBlank : ∀ c ∈ blank, isWhitespace c = true)
include allBlank

/-- **The detector looks behind the white space** at the front. -/
theorem detect_eq {rest : List Char} (starts : ∀ c ∈ rest.head?, isWhitespace c = false) :
    TurnCompletion.detect (String.ofList (blank ++ rest)) = locate blank rest := by
  have trimmed : trimStart (String.ofList (blank ++ rest)) = String.ofList rest := by
    rw [trimStart, String.toList_ofList, dropWhile_blank allBlank starts]
  have skipped : (String.ofList (blank ++ rest)).utf8ByteSize - (String.ofList rest).utf8ByteSize =
      utf8Len blank := by
    rw [String.utf8ByteSize_ofList, String.utf8ByteSize_ofList, String.utf8Len_append]
    omega
  have space : ' '.utf8Size = 1 := by decide
  unfold TurnCompletion.detect
  dsimp only
  rw [trimmed, skipped, String.toList_ofList]
  split
  · simp only [locate, String.utf8Len_append, String.utf8Len_cons, String.utf8Len_nil, space,
      Nat.zero_add, Nat.add_comm 1, Nat.add_assoc]
  · simp only [locate, String.utf8Len_append, String.utf8Len_cons, String.utf8Len_nil,
      Nat.zero_add]
  · simp only [locate, String.utf8Len_append, String.utf8Len_cons, String.utf8Len_nil,
      Nat.zero_add]
  · rename_i complete short long
    rw [locate.eq_4 blank rest complete short long]

/-- **What the check makes of a text.** -/
theorem verdict_eq {rest : List Char} (starts : ∀ c ∈ rest.head?, isWhitespace c = false)
    (later : String) : verdict (String.ofList (blank ++ rest)) later = found blank later rest := by
  have detects := detect_eq allBlank starts
  have slice (front back : List Char) :
      sliceFrom (String.ofList (blank ++ (front ++ back))) (utf8Len (blank ++ front)) =
        String.ofList back := by
    rw [← List.append_assoc, sliceFrom_utf8Len]
  unfold verdict checkMarker
  rw [detects]
  clear detects
  rcases rest with - | ⟨c, tail⟩
  -- An empty rest holds no marker.
  · have unmarked : ∀ d ∈ ([] : List Char).head?, d ≠ '✓' ∧ d ≠ '○' ∧ d ≠ '◐' := by
      intro d held
      cases held
    rw [found_none later unmarked]
    rfl
  · by_cases complete : c = '✓'
    · subst complete
      by_cases space : tail.head? = some ' '
      · obtain ⟨more, rfl⟩ := List.head?_eq_some_iff.1 space
        -- One blank behind the marker belongs to it.
        have located : locate blank ('✓' :: ' ' :: more) =
            some (.complete, utf8Len (blank ++ ['✓', ' '])) := by
          rw [locate, if_pos space]
        have behind := slice ['✓', ' '] more
        rw [located]
        dsimp only
        rw [if_pos rfl, show '✓' :: ' ' :: more = ['✓', ' '] ++ more from rfl, behind]
        rfl
      · have located : locate blank ('✓' :: tail) = some (.complete, utf8Len (blank ++ ['✓'])) := by
          rw [locate, if_neg space]
        have behind := slice ['✓'] tail
        rw [found_complete later space, located]
        dsimp only
        rw [if_pos rfl, show '✓' :: tail = ['✓'] ++ tail from rfl, behind]
    · by_cases short : c = '○'
      · subst short
        rfl
      · by_cases long : c = '◐'
        · subst long
          rfl
        -- The first character is none of the three markers.
        · have unmarked : ∀ d ∈ (c :: tail).head?, d ≠ '✓' ∧ d ≠ '○' ∧ d ≠ '◐' := by
            intro d held
            obtain rfl : c = d := Option.some.inj held
            exact ⟨complete, short, long⟩
          have nowhere : locate blank (c :: tail) = none := by
            unfold locate
            split
            · rename_i same
              exact absurd (List.cons.inj same).1 complete
            · rename_i same
              exact absurd (List.cons.inj same).1 short
            · rename_i same
              exact absurd (List.cons.inj same).1 long
            · rfl
          rw [found_none later unmarked, nowhere]

end Found

/-- A turn-completion marker. -/
def IsMarker (c : Char) : Prop := c = '✓' ∨ c = '○' ∨ c = '◐'

/-- **The text is steady**: less than four bytes of white space stand in front of a marker, and none in
front of a `✓` that a blank follows. -/
structure Steady (text : String) : Prop where
  short : ∀ c tail, text.toList.dropWhile isWhitespace = c :: tail → IsMarker c →
    utf8Len (text.toList.takeWhile isWhitespace) < 4
  bare : ∀ tail, text.toList.dropWhile isWhitespace = '✓' :: ' ' :: tail →
    text.toList.takeWhile isWhitespace = []

/-! ## All splits -/

/-- **Detection depends on what the check sees.** -/
theorem detected_eq {text : String} {tokens : List String} (splits : Splits text tokens) :
    ∃ seen later, seen ++ later = text ∧ (4 ≤ seen.utf8ByteSize ∨ later = "") ∧
      detected tokens = verdict seen later := by
  obtain ⟨seen, later, whole, enough, result⟩ :=
    Detection.result_buffering (show "".utf8ByteSize < 4 by decide) tokens
  rw [String.empty_append, splits.2] at whole
  exact ⟨seen, later, whole, enough, result⟩

/-- The check can be made to see any four bytes or more. -/
theorem detected_pair {seen : String} (long : 4 ≤ seen.utf8ByteSize) (tokens : List String) :
    detected (seen :: tokens) = verdict seen (String.join tokens) := by
  have checks : Detection.token .new seen =
      (⟨.generating none, none, ""⟩ : Detection).act (checkMarker seen) := by
    unfold Detection.token Detection.new processToken
    dsimp only
    rw [if_pos rfl, String.empty_append, if_neg (Nat.not_lt.2 long)]
  unfold detected
  rw [List.foldl_cons, checks]
  exact Detection.result_act_checkMarker seen tokens

/-- A part of the text at its front ends in the white space or behind it. -/
theorem split_blank {blank rest seen later : List Char} (whole : seen ++ later = blank ++ rest) :
    (∃ more, blank = seen ++ more) ∨ ∃ front, front ≠ [] ∧ seen = blank ++ front ∧ rest = front ++ later := by
  rcases List.append_eq_append_iff.1 whole with ⟨more, rfl, -⟩ | ⟨front, rfl, rfl⟩
  · exact .inl ⟨more, rfl⟩
  · cases front with
    | nil => exact .inl ⟨[], (List.append_nil _).symm ▸ (List.append_nil _).symm⟩
    | cons c front => exact .inr ⟨c :: front, nofun, rfl, rfl⟩

section Steady

/-- Text that starts with none of the markers. -/
theorem found_unmarked {rest : List Char} (blank : List Char) (later : String)
    (unmarked : ∀ c ∈ rest.head?, ¬ IsMarker c) :
    found blank later rest = (none, String.ofList (blank ++ rest) ++ later) := by
  apply found_none
  intro c held
  have no := unmarked c held
  unfold IsMarker at no
  exact not_or.1 no |>.imp_right not_or.1

/-- **Where the check is made does not matter**, with little white space in front. -/
theorem verdict_front {blank rest seen later : List Char}
    (allBlank : ∀ c ∈ blank, isWhitespace c = true)
    (starts : ∀ c ∈ rest.head?, isWhitespace c = false) (whole : seen ++ later = blank ++ rest)
    (long : 4 ≤ utf8Len seen) (short : ∀ c tail, rest = c :: tail → IsMarker c → utf8Len blank < 4)
    (bare : ∀ tail, rest = '✓' :: ' ' :: tail → blank = []) :
    verdict (String.ofList seen) (String.ofList later) = found blank "" rest := by
  have same : String.ofList seen ++ String.ofList later = String.ofList (blank ++ rest) ++ "" := by
    rw [← String.ofList_append, whole, String.append_empty]
  rcases split_blank whole with ⟨more, within⟩ | ⟨front, nonempty, rfl, rfl⟩
  · -- The check sees white space only, so there is too much of it for a marker.
    have unmarked : ∀ c ∈ rest.head?, ¬ IsMarker c := by
      intro c held marker
      obtain ⟨tail, eq⟩ := List.head?_eq_some_iff.1 held
      have few := short c tail eq marker
      rw [within, String.utf8Len_append] at few
      omega
    have seenBlank : ∀ c ∈ seen, isWhitespace c = true :=
      fun c held => allBlank c (within ▸ List.mem_append_left more held)
    have sees := @verdict_eq seen seenBlank [] (by intro c held; cases held) (String.ofList later)
    rw [List.append_nil] at sees
    rw [sees, found_unmarked blank "" unmarked, found_unmarked seen _ (by intro c held; cases held),
      List.append_nil, same]
  -- The check sees the first character behind the white space.
  · obtain ⟨c, tail, rfl⟩ := List.exists_cons_of_ne_nil nonempty
    have frontStarts : ∀ d ∈ (c :: tail).head?, isWhitespace d = false := fun d held => starts d held
    rw [verdict_eq allBlank frontStarts]
    by_cases marker : IsMarker c
    · rcases marker with rfl | rfl | rfl
      · by_cases space : tail.head? = some ' '
        · obtain ⟨more, rfl⟩ := List.head?_eq_some_iff.1 space
          show (_, String.ofList more ++ String.ofList later) = (_, String.ofList (more ++ later) ++ "")
          rw [String.ofList_append, String.append_empty]
        -- The blank that belongs to the marker cannot be cut off: four bytes were seen.
        · have noSpace : (tail ++ later).head? ≠ some ' ' := by
            intro here
            cases tail with
            | nil =>
                obtain ⟨more, eq⟩ := List.head?_eq_some_iff.1 here
                have none := bare more (congrArg ('✓' :: ·) eq)
                rw [none] at long
                revert long
                simp
                decide
            | cons d tail => exact space here
          rw [found_complete _ space, List.cons_append, found_complete _ noSpace, String.ofList_append,
            String.append_empty]
      · rfl
      · rfl
    · have unmarked (more : List Char) : ∀ d ∈ (c :: more).head?, ¬ IsMarker d := by
        intro d held
        obtain rfl : c = d := Option.some.inj held
        exact marker
      rw [found_unmarked _ _ (unmarked tail), List.cons_append, found_unmarked _ _ (unmarked _), same]
      rfl

variable {text : String}

/-- What is taken is blank. -/
theorem blank_takeWhile : ∀ c ∈ text.toList.takeWhile isWhitespace, isWhitespace c = true :=
  fun _ held => List.mem_takeWhile_imp held

/-- What is left begins with no blank. -/
theorem starts_dropWhile : ∀ c ∈ (text.toList.dropWhile isWhitespace).head?, isWhitespace c = false := by
  intro c held
  have here := List.head?_dropWhile_not isWhitespace text.toList
  rw [Option.mem_def.1 held] at here
  exact here

/-- What the check makes of the whole text. -/
theorem verdict_text (text : String) : verdict text "" =
    found (text.toList.takeWhile isWhitespace) "" (text.toList.dropWhile isWhitespace) := by
  have all := verdict_eq (@blank_takeWhile text) (@starts_dropWhile text) ""
  rwa [List.takeWhile_append_dropWhile, String.ofList_toList] at all

/-- **In a steady text every split gives the same.** -/
theorem Steady.detected_eq (steady : Steady text) {tokens : List String} (splits : Splits text tokens) :
    detected tokens = verdict text "" := by
  obtain ⟨seen, later, whole, long | rfl, result⟩ := LlmTurnPhase.detected_eq splits
  · have chars : seen.toList ++ later.toList =
        text.toList.takeWhile isWhitespace ++ text.toList.dropWhile isWhitespace := by
      rw [List.takeWhile_append_dropWhile, ← whole, String.toList_append]
    rw [utf8ByteSize_eq] at long
    have front := verdict_front blank_takeWhile starts_dropWhile chars long steady.short steady.bare
    rw [String.ofList_toList, String.ofList_toList] at front
    rw [result, front, verdict_text]
  · rw [String.append_empty] at whole
    rw [result, whole]

/-- A marker is found. -/
theorem found_marked {c : Char} (marker : IsMarker c) (blank tail : List Char) (later : String) :
    (found blank later (c :: tail)).1 ≠ none := by
  rcases marker with rfl | rfl | rfl
  · unfold found
    split
    · nofun
    · nofun
    · nofun
    · nofun
    · rename_i unmarked _ _
      exact absurd rfl (unmarked tail)
  · nofun
  · nofun

/-- Two pieces that are not empty split the text. -/
theorem splits_pair {seen later : List Char} (someSeen : seen ≠ []) (someLater : later ≠ []) :
    Splits (String.ofList (seen ++ later)) [String.ofList seen, String.ofList later] := by
  constructor
  · intro token held
    rcases List.mem_cons.1 held with rfl | held
    · exact fun empty => someSeen (String.ofList_eq_empty_iff.1 empty)
    · rw [List.mem_singleton.1 held]
      exact fun empty => someLater (String.ofList_eq_empty_iff.1 empty)
  · rw [String.join_cons, String.join_cons, String.join_nil, String.append_empty, String.ofList_append]

/-- **Two splits**: the check sees a part of the text at its front, or all of it. -/
theorem verdict_pair {seen later : List Char} (whole : seen ++ later = text.toList)
    (someLater : later ≠ []) (long : 4 ≤ utf8Len seen)
    (same : ∀ tokens tokens', Splits text tokens → Splits text tokens' → detected tokens = detected tokens') :
    verdict (String.ofList seen) (String.ofList later) = verdict text "" := by
  have someSeen : seen ≠ [] := by
    rintro rfl
    rw [String.utf8Len_nil] at long
    exact absurd long (by decide)
  have pair := splits_pair someSeen someLater
  rw [whole, String.ofList_toList] at pair
  have single : Splits text [text] := by
    constructor
    · intro token held
      rw [List.mem_singleton.1 held]
      rintro rfl
      exact someSeen (List.append_eq_nil_iff.1 whole).1
    · rw [String.join_cons, String.join_nil, String.append_empty]
  have all : 4 ≤ text.utf8ByteSize := by
    rw [utf8ByteSize_eq, ← whole, String.utf8Len_append]
    omega
  have eq := same _ _ pair single
  rw [← String.utf8ByteSize_ofList] at long
  rwa [detected_pair long, detected_pair all, String.join_cons, String.join_nil, String.append_empty] at eq

/-- **If every split gives the same, the text is steady.** -/
theorem steady_of_same
    (same : ∀ tokens tokens', Splits text tokens → Splits text tokens' → detected tokens = detected tokens') :
    Steady text := by
  have chars : text.toList.takeWhile isWhitespace ++ text.toList.dropWhile isWhitespace = text.toList :=
    List.takeWhile_append_dropWhile
  constructor
  · intro c tail rest marker
    by_contra many
    rw [Nat.not_lt] at many
    -- A check that sees the white space only finds nothing.
    have someLater : text.toList.dropWhile isWhitespace ≠ [] := by
      rw [rest]
      exact List.cons_ne_nil c tail
    have eq := verdict_pair chars someLater many same
    have sees := @verdict_eq _ (@blank_takeWhile text) [] (by intro d held; cases held)
      (String.ofList (text.toList.dropWhile isWhitespace))
    rw [List.append_nil] at sees
    rw [sees, verdict_text, rest] at eq
    exact found_marked marker _ tail "" (congrArg Prod.fst eq).symm
  · intro tail rest
    by_contra someBlank
    -- A check that sees the marker only leaves the blank behind it.
    have whole : (text.toList.takeWhile isWhitespace ++ ['✓']) ++ ' ' :: tail = text.toList := by
      rw [rest] at chars
      exact (List.append_assoc _ ['✓'] _).trans chars
    have long : 4 ≤ utf8Len (text.toList.takeWhile isWhitespace ++ ['✓']) := by
      obtain ⟨c, more, eq⟩ := List.exists_cons_of_ne_nil someBlank
      have size : '✓'.utf8Size = 3 := by decide
      have pos := c.utf8Size_pos
      rw [eq, String.utf8Len_append, String.utf8Len_cons, String.utf8Len_cons, String.utf8Len_nil, size]
      omega
    have eq := verdict_pair whole (List.cons_ne_nil ' ' tail) long same
    rw [verdict_eq (@blank_takeWhile text) (by rintro d ⟨⟩; decide), verdict_text, rest] at eq
    have texts : String.ofList [] ++ String.ofList (' ' :: tail) = String.ofList tail ++ "" :=
      congrArg Prod.snd eq
    rw [String.append_empty, ← String.ofList_append, String.ofList_inj] at texts
    exact absurd (congrArg List.length texts) (Nat.succ_ne_self _)

/-- Without a marker nothing is cut. -/
theorem verdict_none {seen later : String} (unmarked : (verdict seen later).1 = none) :
    (verdict seen later).2 = seen ++ later := by
  unfold verdict checkMarker at unmarked ⊢
  rcases found : TurnCompletion.detect seen with _ | ⟨_ | _ | _, skip⟩
  · rfl
  · rw [found] at unmarked
    cases unmarked
  · rw [found] at unmarked
    cases unmarked
  · rw [found] at unmarked
    cases unmarked

end Steady

/-- **Detection does not depend on the split into tokens exactly if the text is steady**; without a
marker all of the output is forwarded. -/
theorem detected_same_iff (text : String) :
    ((∀ tokens tokens', Splits text tokens → Splits text tokens' → detected tokens = detected tokens') ∧
      ∀ tokens, Splits text tokens → (detected tokens).1 = none → (detected tokens).2 = text) ↔
    Steady text := by
  constructor
  · exact fun independent => steady_of_same independent.1
  · intro steady
    constructor
    · intro tokens tokens' splits splits'
      rw [steady.detected_eq splits, steady.detected_eq splits']
    · intro tokens splits unmarked
      obtain ⟨seen, later, whole, -, result⟩ := detected_eq splits
      rw [result] at unmarked ⊢
      rw [verdict_none unmarked, whole]

/-- **The split shows**: behind a blank, `✓` alone brings its own check, and the blank after it is
spoken; and a check on four blanks misses the marker. -/
theorem detected_differs :
    detected [" ✓", " ok"] = (some .complete, " ok") ∧ detected [" ✓ ok"] = (some .complete, "ok") ∧
      detected ["    ", "○"] = (none, "    ○") ∧ detected ["    ○"] = (some .incompleteShort, "") := by
  decide +kernel

end LlmTurnPhase

end Feros
