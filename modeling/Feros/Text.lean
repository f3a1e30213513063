import Mathlib.Data.List.DropRight
/-! # Text

The string operations the reactor uses.  A `String` is handled through its characters, as the
source handles a `str`; byte lengths are UTF-8 lengths. -/

namespace Feros

/-- The characters with the Unicode `White_Space` property, those `str::trim` strips. -/
def isWhitespace (c : Char) : Bool :=
  let n := c.toNat
  (9 ≤ n && n ≤ 13) || n == 0x20 || n == 0x85 || n == 0xA0 || n == 0x1680 ||
    (0x2000 ≤ n && n ≤ 0x200A) || n == 0x2028 || n == 0x2029 || n == 0x202F ||
    n == 0x205F || n == 0x3000

/-- `str::trim_start`. -/
def trimStart (text : String) : String :=
  String.ofList (text.toList.dropWhile isWhitespace)

/-- `str::trim`. -/
def trim (text : String) : String :=
  String.ofList ((text.toList.dropWhile isWhitespace).rdropWhile isWhitespace)

/-- `text.trim().is_empty()`. -/
def isBlank (text : String) : Bool := (trim text).isEmpty

/-- Blank text is white space throughout. -/
theorem isBlank_iff {text : String} :
    isBlank text = true ↔ ∀ c ∈ text.toList, isWhitespace c = true := by
  unfold isBlank trim
  rw [String.isEmpty_iff, ← String.toList_eq_nil_iff, String.toList_ofList,
    List.rdropWhile_eq_nil_iff]
  constructor
  · intro h
    have empty : text.toList.dropWhile isWhitespace = [] := by
      by_contra rest
      have head := List.head_dropWhile_not isWhitespace rest
      have blank := h _ (List.head_mem rest)
      rw [head] at blank
      cases blank
    exact List.dropWhile_eq_nil_iff.1 empty
  · intro h c mem
    exact h c ((List.dropWhile_suffix _).subset mem)

/-- Two texts are blank where both are. -/
theorem isBlank_append (first second : String) :
    isBlank (first ++ second) = (isBlank first && isBlank second) := by
  rw [Bool.eq_iff_iff, Bool.and_eq_true, isBlank_iff, isBlank_iff, isBlank_iff,
    String.toList_append]
  exact List.forall_mem_append

/-- Blank text at the start is trimmed away. -/
theorem trim_append_of_isBlank {first : String} (blank : isBlank first = true) (second : String) :
    trim (first ++ second) = trim second := by
  unfold trim
  rw [String.toList_append, List.dropWhile_append_of_pos (isBlank_iff.1 blank)]

/-- Trimming twice is trimming once. -/
theorem trim_trim (text : String) : trim (trim text) = trim text := by
  have kept : ((text.toList.dropWhile isWhitespace).rdropWhile isWhitespace).dropWhile isWhitespace =
      (text.toList.dropWhile isWhitespace).rdropWhile isWhitespace := by
    have front := List.rdropWhile_prefix isWhitespace (text.toList.dropWhile isWhitespace)
    rw [List.dropWhile_eq_self_iff]
    intro isLong
    rw [front.getElem isLong]
    exact List.dropWhile_get_zero_not isWhitespace text.toList _
  unfold trim
  rw [String.toList_ofList, kept, List.rdropWhile_idempotent]

/-- The characters of `&text[skip..]` for a byte offset at a character boundary. -/
def dropBytes : ℕ → List Char → List Char
  | 0, chars => chars
  | _ + 1, [] => []
  | skip + 1, c :: chars => dropBytes (skip + 1 - c.utf8Size) chars

/-- `&text[skip..]`. -/
def sliceFrom (text : String) (skip : ℕ) : String :=
  String.ofList (dropBytes skip text.toList)

/-! ## Cleaning for speech -/

/-- The characters `clean_for_tts` keeps: no ASCII control character, no markdown mark and no
emoji. -/
def isSpeakable (c : Char) : Bool :=
  let n := c.toNat
  !(n < 0x20 || n == 0x7F) && c != '*' && c != '#' && c != '_' &&
    !((0x1F600 ≤ n && n ≤ 0x1F6FF) || (0x2600 ≤ n && n ≤ 0x26FF) || (0x2700 ≤ n && n ≤ 0x27BF))

/-- `clean_for_tts`: strip emoji and markdown formatting from LLM tokens. -/
def cleanForTts (token : String) : String :=
  String.ofList (token.toList.filter isSpeakable)

/-- `strip_turn_markers`: `clean_for_tts`, then drop the markers ✓, ○ and ◐. -/
def stripTurnMarkers (text : String) : String :=
  String.ofList ((cleanForTts text).toList.filter fun c =>
    !(c == '\u2713' || c == '\u25CB' || c == '\u25D0'))

/-! ## Turn completion markers -/

/-- Turn completion marker detected in the first LLM token. -/
inductive TurnCompletion where
  /-- ✓: the user finished speaking. -/
  | complete
  /-- ○: the user was cut off mid-sentence. -/
  | incompleteShort
  /-- ◐: the user needs time to think. -/
  | incompleteLong
  deriving DecidableEq, Repr

namespace TurnCompletion

/-- Parse a marker at the beginning of `text`; the marker and how many bytes to skip. -/
def detect (text : String) : Option (TurnCompletion × ℕ) :=
  let trimmed := trimStart text
  let skipWs := text.utf8ByteSize - trimmed.utf8ByteSize
  match trimmed.toList with
  | '✓' :: stripped =>
    let markerBytes := skipWs + '✓'.utf8Size
    -- Also skip a trailing space if present.
    some (.complete, if stripped.head? = some ' ' then markerBytes + 1 else markerBytes)
  | '○' :: _ => some (.incompleteShort, skipWs + '○'.utf8Size)
  | '◐' :: _ => some (.incompleteLong, skipWs + '◐'.utf8Size)
  | _ => none

/-- Timeout in seconds before re-prompting the LLM. -/
def timeoutSecs : TurnCompletion → ℕ
  | .complete => 0
  | .incompleteShort => 3
  | .incompleteLong => 4

/-- Nudge prompt after an incomplete turn; `wasShort` if the marker was ○. -/
def nudgePrompt (wasShort : Bool) : String :=
  if wasShort then
    "The user paused briefly. Generate a brief, natural prompt to encourage " ++
    "them to continue. Your response MUST begin with ✓ followed by your message. " ++
    "Do NOT output ○ or ◐. Be concise (1 sentence max)."
  else
    "The user has been quiet for a while. Generate a friendly check-in. " ++
    "Your response MUST begin with ✓ followed by your message. " ++
    "Do NOT output ○ or ◐. Acknowledge they might be thinking, " ++
    "and offer to help when ready. Be brief (1 sentence)."

end TurnCompletion

example : TurnCompletion.detect "  ✓ Response" = some (.complete, 6) := by decide

end Feros
