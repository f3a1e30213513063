import Mathlib.Data.List.Induction
/-! # Segments of a stream

A stream carries pieces, and marks between them; a mark closes a segment.  How a segment is cut into
pieces makes no difference.

* **`segments`** are those that were closed, **`unclosed`** what has come since.
* **`segments_append`** says that a longer stream has the segments of a shorter one, and more. -/

namespace Segments

variable {α β : Type*}

/-- An item of a stream: a piece, or a mark that closes a segment. -/
inductive Item (α : Type*) where
  | piece (items : List α)
  | mark
  deriving DecidableEq, Repr

/-- What an item does to the segments that were closed and what has come since. -/
def push (cut : List (List α) × List α) : Item α → List (List α) × List α
  | .piece items => (cut.1, cut.2 ++ items)
  | .mark => (cut.1 ++ [cut.2], [])

/-- The segments of a stream, and what has come since. -/
def cut (stream : List (Item α)) : List (List α) × List α := stream.foldl push ([], [])

/-- **The segments** that were closed. -/
def segments (stream : List (Item α)) : List (List α) := (cut stream).1

/-- What has come since the last mark. -/
def unclosed (stream : List (Item α)) : List α := (cut stream).2

/-- All that the pieces carry. -/
def carried (stream : List (Item α)) : List α :=
  stream.flatMap fun
    | .piece items => items
    | .mark => []

/-- One more item is pushed onto what was cut. -/
theorem cut_concat (stream : List (Item α)) (item : Item α) :
    cut (stream ++ [item]) = push (cut stream) item := by
  unfold cut
  rw [List.foldl_append]
  rfl

/-- A longer stream is cut on from where the shorter one ended. -/
theorem cut_append (stream later : List (Item α)) :
    cut (stream ++ later) = later.foldl push (cut stream) := List.foldl_append

/-- Streams with the same cut are cut alike when they go on. -/
theorem cut_append_congr {stream stream' : List (Item α)} (same : cut stream = cut stream')
    (later : List (Item α)) : cut (stream ++ later) = cut (stream' ++ later) := by
  rw [cut_append, cut_append, same]

/-- An empty piece makes no difference. -/
theorem cut_concat_empty (stream : List (Item α)) : cut (stream ++ [.piece []]) = cut stream := by
  rw [cut_concat]
  unfold push
  dsimp only
  rw [List.append_nil]

/-- Nothing has no segments. -/
@[simp] theorem segments_nil : segments ([] : List (Item α)) = [] := rfl

/-- Nothing is unclosed in an empty stream. -/
@[simp] theorem unclosed_nil : unclosed ([] : List (Item α)) = [] := rfl

/-- A piece ends no segment. -/
@[simp] theorem segments_concat_piece (stream : List (Item α)) (items : List α) :
    segments (stream ++ [.piece items]) = segments stream := by
  unfold segments
  rw [cut_concat]
  rfl

/-- A piece is unclosed. -/
@[simp] theorem unclosed_concat_piece (stream : List (Item α)) (items : List α) :
    unclosed (stream ++ [.piece items]) = unclosed stream ++ items := by
  unfold unclosed
  rw [cut_concat]
  rfl

/-- A mark ends a segment. -/
@[simp] theorem segments_concat_mark (stream : List (Item α)) :
    segments (stream ++ [.mark]) = segments stream ++ [unclosed stream] := by
  unfold segments unclosed
  rw [cut_concat]
  rfl

/-- A mark leaves nothing unclosed. -/
@[simp] theorem unclosed_concat_mark (stream : List (Item α)) :
    unclosed (stream ++ [.mark]) = [] := by
  unfold unclosed
  rw [cut_concat]
  rfl

/-- An item whose pieces are written with several letters each. -/
def Item.flatMap (f : α → List β) : Item α → Item β
  | .piece items => .piece (items.flatMap f)
  | .mark => .mark

/-- What has come since the last mark is written letter by letter. -/
theorem unclosed_flatMap (f : α → List β) (stream : List (Item α)) :
    unclosed (stream.map (Item.flatMap f)) = (unclosed stream).flatMap f := by
  induction stream using List.reverseRecOn with
  | nil => rfl
  | append_singleton stream item ih =>
    rw [List.map_append]
    cases item with
    | piece items => simp [Item.flatMap, ih]
    | mark => simp [Item.flatMap]

/-- An item only adds to the segments. -/
theorem segments_concat (stream : List (Item α)) (item : Item α) :
    segments stream <+: segments (stream ++ [item]) := by
  cases item with
  | piece items => exact ⟨[], by rw [segments_concat_piece, List.append_nil]⟩
  | mark =>
    rw [segments_concat_mark]
    exact List.prefix_append _ _

/-- **What comes later only adds to the segments.** -/
theorem segments_append (stream later : List (Item α)) :
    segments stream <+: segments (stream ++ later) := by
  induction later using List.reverseRecOn with
  | nil => exact ⟨[], by rw [List.append_nil, List.append_nil]⟩
  | append_singleton later item ih =>
    rw [← List.append_assoc]
    exact ih.trans (segments_concat _ item)

/-- **Each item is in one segment, and in order.** -/
theorem flatten_segments (stream : List (Item α)) :
    (segments stream).flatten ++ unclosed stream = carried stream := by
  induction stream using List.reverseRecOn with
  | nil => rfl
  | append_singleton stream item ih =>
    unfold carried at ih ⊢
    rw [List.flatMap_append]
    cases item with
    | piece items =>
      rw [segments_concat_piece, unclosed_concat_piece, ← List.append_assoc, ih]
      simp
    | mark =>
      rw [segments_concat_mark, unclosed_concat_mark, List.flatten_concat, ih]
      simp

end Segments
