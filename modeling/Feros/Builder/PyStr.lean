import Feros.Builder.Json
import Mathlib.Algebra.GroupWithZero.Nat
/-! # Python strings

A string of Python is a list of code points, and surrogates are code points too.  Such a string cannot
always be encoded, and what comes back from a text file or from JSON is not always what was written.

* **`encode`** fails on a surrogate.
* **`splitLines`** is `str.splitlines`; **`universalNewlines`** is what a file opened as text gives.
* **`rejoin`** is what JSON makes of a string: two surrogates become the character they stand for. -/

namespace Feros

/-- A code point. -/
abbrev CodePoint := Fin 0x110000

instance neZeroUnicode : NeZero (0x110000 : ℕ) := ⟨by decide⟩

/-- **A string of Python.** -/
abbrev PyStr := List CodePoint

namespace PyStr

/-- The code point is half of a pair, the first half or the second one. -/
def isSurrogate (c : CodePoint) : Bool := 0xD800 ≤ c.val && c.val ≤ 0xDFFF

/-- The code point is a line feed. -/
def newline : CodePoint := 0x0A

/-- The code point is a carriage return. -/
def carriageReturn : CodePoint := 0x0D

/-- A string without surrogates. -/
def ofString (s : String) : PyStr := s.toList.map fun c => Fin.ofNat 0x110000 c.toNat

/-- `str.encode("utf-8")`; the bytes are taken as the string they encode.  Surrogates have no encoding. -/
def encode (text : PyStr) : Option String :=
  if text.any isSurrogate then none else some (String.ofList (text.map fun c => Char.ofNat c.val))

/-- `str.strip() == ""`. -/
def isBlank (text : PyStr) : Bool := text.all fun c => isSpace (Char.ofNat c.val)

/-! ## Lines -/

/-- The code point ends a line, for `str.splitlines`. -/
def isLineEnd (c : CodePoint) : Bool :=
  (0x0A ≤ c.val && c.val ≤ 0x0D) || (0x1C ≤ c.val && c.val ≤ 0x1E) || c.val == 0x85 || c.val == 0x2028 ||
    c.val == 0x2029

/-- The lines of what follows the beginning of a line; a line feed directly behind a carriage return does
not end another line. -/
def splitFrom (line : PyStr) (behindReturn : Bool) : PyStr → List PyStr
  | [] => if line = [] then [] else [line]
  | c :: rest =>
    if behindReturn && c == newline then splitFrom line false rest
    else if isLineEnd c then line :: splitFrom [] (c == carriageReturn) rest
    else splitFrom (line ++ [c]) false rest

/-- **`str.splitlines`.** -/
def splitLines (text : PyStr) : List PyStr := splitFrom [] false text

/-- What is read from here on. -/
def readFrom (behindReturn : Bool) : PyStr → PyStr
  | [] => []
  | c :: rest =>
    if behindReturn && c == newline then readFrom false rest
    else if c = carriageReturn then newline :: readFrom true rest
    else c :: readFrom false rest

/-- **What a text file gives when it is read**: every line end of a file becomes a line feed. -/
def universalNewlines (text : PyStr) : PyStr := readFrom false text

/-! ## JSON -/

/-- The first half of a pair. -/
def isHigh (c : CodePoint) : Bool := 0xD800 ≤ c.val && c.val ≤ 0xDBFF

/-- The second half of a pair. -/
def isLow (c : CodePoint) : Bool := 0xDC00 ≤ c.val && c.val ≤ 0xDFFF

/-- **What `json.loads` makes of a string that `json.dumps` wrote**: two halves that meet are joined. -/
def rejoin : PyStr → PyStr
  | [] => []
  | [c] => [c]
  | high :: low :: rest =>
    if isHigh high && isLow low then
      Fin.ofNat 0x110000 (0x10000 + (high.val - 0xD800) * 0x400 + (low.val - 0xDC00)) :: rejoin rest
    else high :: rejoin (low :: rest)

/-! ## Lemmas -/

/-- A text that was encoded holds no surrogate. -/
theorem not_surrogate {text : PyStr} {s : String} (encoded : encode text = some s) :
    ∀ c ∈ text, isSurrogate c = false := by
  intro c held
  unfold encode at encoded
  by_cases any : text.any isSurrogate = true
  · rw [if_pos any] at encoded
    cases encoded
  · by_contra surrogate
    exact any (List.any_eq_true.2 ⟨c, held, Bool.not_eq_false _ ▸ surrogate⟩)

/-- **A string comes back from its encoding.** -/
theorem ofString_of_encode {text : PyStr} {s : String} (encoded : encode text = some s) : ofString s = text := by
  have clean := not_surrogate encoded
  unfold encode at encoded
  split at encoded
  · cases encoded
  · cases encoded
    unfold ofString
    rw [String.toList_ofList, List.map_map]
    conv_rhs => rw [← List.map_id text]
    refine List.map_congr_left fun c held => ?_
    have plain := clean c held
    have valid : Nat.isValidChar c.val := by
      unfold isSurrogate at plain
      have bound := c.isLt
      simp only [Bool.and_eq_false_iff, decide_eq_false_iff_not] at plain
      unfold Nat.isValidChar
      omega
    apply Fin.ext
    have back : (Char.ofNat c.val).toNat = c.val := by
      rw [Char.ofNat, dif_pos valid]
      rfl
    show (Char.ofNat c.val).toNat % 0x110000 = c.val
    rw [back, Nat.mod_eq_of_lt c.isLt]

/-- Reading a text file does not change where the lines end. -/
theorem splitFrom_readFrom (line : PyStr) (behindReturn : Bool) (text : PyStr) :
    splitFrom line false (readFrom behindReturn text) = splitFrom line behindReturn text := by
  induction text generalizing line behindReturn with
  | nil => rfl
  | cons c rest ih =>
      unfold readFrom
      conv_rhs => unfold splitFrom
      by_cases second : (behindReturn && c == newline) = true
      · rw [if_pos second, if_pos second]
        exact ih line false
      · rw [if_neg second, if_neg second]
        by_cases here : c = carriageReturn
        · subst here
          rw [if_pos rfl]
          exact congrArg (line :: ·) (ih [] true)
        · rw [if_neg here]
          have other : (c == carriageReturn) = false := beq_eq_false_iff_ne.2 here
          rw [other]
          conv_lhs => unfold splitFrom
          rw [Bool.false_and, if_neg Bool.false_ne_true, other, ih [] false, ih (line ++ [c]) false]

/-- **The lines of a text are those that its file gives.** -/
theorem splitLines_universalNewlines (text : PyStr) : splitLines (universalNewlines text) = splitLines text :=
  splitFrom_readFrom [] false text

/-- No line holds a line feed. -/
theorem newline_not_mem_splitFrom {line : PyStr} {behindReturn : Bool} {text : PyStr} (clean : newline ∉ line) :
    ∀ l ∈ splitFrom line behindReturn text, newline ∉ l := by
  induction text generalizing line behindReturn with
  | nil =>
      intro l held
      unfold splitFrom at held
      split at held
      · cases held
      · rw [List.mem_singleton.1 held]
        exact clean
  | cons c rest ih =>
      intro l held
      unfold splitFrom at held
      split at held
      · exact ih clean l held
      · split at held
        next ends =>
          rcases List.mem_cons.1 held with rfl | later
          · exact clean
          · exact ih List.not_mem_nil l later
        next inside =>
          refine ih ?_ l held
          rw [List.mem_append, List.mem_singleton]
          rintro (old | same)
          · exact clean old
          · rw [← same] at inside
            exact inside rfl

/-- No line of a split text holds a newline. -/
theorem newline_not_mem_splitLines {text : PyStr} : ∀ l ∈ splitLines text, newline ∉ l :=
  newline_not_mem_splitFrom List.not_mem_nil

end PyStr

end Feros
