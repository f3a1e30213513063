import Mathlib.Data.String.Basic
import Feros.Text
/-! # Byte offsets into text

A byte offset is a character boundary if it is the length of some characters at the front; slicing at
a boundary splits the text there. -/

namespace Feros

open String (utf8Len)

/-- `text.len()`. -/
theorem utf8ByteSize_eq (text : String) : text.utf8ByteSize = utf8Len text.toList := by
  rw [← String.utf8ByteSize_ofList, String.ofList_toList]

/-- Dropping the bytes of some characters drops these. -/
theorem dropBytes_utf8Len (front back : List Char) : dropBytes (utf8Len front) (front ++ back) = back := by
  induction front with
  | nil =>
      rw [String.utf8Len_nil, List.nil_append, dropBytes]
  | cons c front ih =>
      obtain ⟨bytes, here⟩ := Nat.exists_eq_add_one_of_ne_zero c.utf8Size_pos.ne'
      have total : utf8Len (c :: front) = utf8Len front + bytes + 1 := by
        rw [String.utf8Len_cons, here, Nat.add_assoc]
      have less : utf8Len front + bytes + 1 - c.utf8Size = utf8Len front := by
        omega
      rw [total, List.cons_append, dropBytes, less, ih]

/-- A slice from a character boundary on. -/
theorem sliceFrom_utf8Len (front back : List Char) :
    sliceFrom (String.ofList (front ++ back)) (utf8Len front) = String.ofList back := by
  rw [sliceFrom, String.toList_ofList, dropBytes_utf8Len]

/-- The characters in the first bytes. -/
def takeBytes : ℕ → List Char → List Char
  | 0, _ => []
  | _ + 1, [] => []
  | count + 1, c :: chars => c :: takeBytes (count + 1 - c.utf8Size) chars

/-- `&text[..count]`. -/
def sliceTo (text : String) (count : ℕ) : String :=
  String.ofList (takeBytes count text.toList)

/-- Taking the bytes of some characters takes these. -/
theorem takeBytes_utf8Len (front back : List Char) :
    takeBytes (utf8Len front) (front ++ back) = front := by
  induction front with
  | nil => rw [String.utf8Len_nil, takeBytes]
  | cons c front ih =>
      obtain ⟨bytes, here⟩ := Nat.exists_eq_add_one_of_ne_zero c.utf8Size_pos.ne'
      have total : utf8Len (c :: front) = utf8Len front + bytes + 1 := by
        rw [String.utf8Len_cons, here, Nat.add_assoc]
      have less : utf8Len front + bytes + 1 - c.utf8Size = utf8Len front := by
        omega
      rw [total, List.cons_append, takeBytes, less, ih]

/-- A slice up to a character boundary. -/
theorem sliceTo_utf8Len (front back : List Char) :
    sliceTo (String.ofList (front ++ back)) (utf8Len front) = String.ofList front := by
  rw [sliceTo, String.toList_ofList, takeBytes_utf8Len]

/-- White space in front of other text is trimmed. -/
theorem dropWhile_blank {blank rest : List Char} (allBlank : ∀ c ∈ blank, isWhitespace c = true)
    (starts : ∀ c ∈ rest.head?, isWhitespace c = false) :
    (blank ++ rest).dropWhile isWhitespace = rest := by
  rw [List.dropWhile_append_of_pos allBlank]
  cases rest with
  | nil => rfl
  | cons c rest =>
      have here := starts c rfl
      rw [List.dropWhile_cons_of_neg (by rw [here]; exact Bool.false_ne_true)]

end Feros
