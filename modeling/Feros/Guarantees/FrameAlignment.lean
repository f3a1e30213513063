import Feros.Audio.RingBuffer
/-! # No audio is lost on the way into frames

What the ring buffer yields and still holds is what it was fed, exactly if every chunk fits behind
what is left of those before it. -/

namespace Feros

open Frames

namespace AudioRingBuffer

variable {rb : AudioRingBuffer}

/-- **Every chunk fits** behind the bytes that are left of the chunks before it, where `left` bytes were
there at first. -/
def ChunksFit (capacity frameBytes left : ℕ) (chunks : List Bytes) : Prop :=
  ∀ front chunk back, chunks = front ++ chunk :: back →
    (left + front.flatten.length) % frameBytes + chunk.length ≤ capacity

/-- Chunks fit where the first one does, and the others behind it. -/
theorem chunksFit_cons {capacity frameBytes left : ℕ} (short : left < frameBytes) (chunk : Bytes)
    (chunks : List Bytes) : ChunksFit capacity frameBytes left (chunk :: chunks) ↔
      left + chunk.length ≤ capacity ∧
        ChunksFit capacity frameBytes ((left + chunk.length) % frameBytes) chunks := by
  constructor
  · intro fit
    constructor
    · have first := fit [] chunk chunks rfl
      rwa [List.flatten_nil, List.length_nil, Nat.add_zero, Nat.mod_eq_of_lt short] at first
    · rintro front later back rfl
      have next := fit (chunk :: front) later back rfl
      rwa [List.flatten_cons, List.length_append, ← Nat.add_assoc, ← Nat.mod_add_mod] at next
  · rintro ⟨first, rest⟩ front later back split
    rcases List.cons_eq_append_iff.1 split with ⟨rfl, same⟩ | ⟨before, rfl, rfl⟩
    · injection same with same
      rw [List.flatten_nil, List.length_nil, Nat.add_zero, Nat.mod_eq_of_lt short, same]
      exact first
    · rw [List.flatten_cons, List.length_append, ← Nat.add_assoc, ← Nat.mod_add_mod]
      exact rest before later back rfl

/-- **What feeding does**: the buffer stays sound, some of what it was fed is cut into frames, and that
is all of it exactly if every chunk fits. -/
theorem feed_framed (sound : rb.Sound) {chunks : List Bytes} {frames : List Bytes}
    {after : AudioRingBuffer} (result : rb.feed chunks = (frames, after)) :
    after.Sound ∧ ∃ kept, Framed rb.frameBytes kept frames after.buffered ∧
      kept.length ≤ (rb.buffered ++ chunks.flatten).length ∧
      (kept = rb.buffered ++ chunks.flatten ↔
        ChunksFit rb.buf.length rb.frameBytes rb.buffered.length chunks) := by
  have length := length_buffered sound.inside
  induction chunks generalizing rb frames with
  | nil =>
      obtain ⟨rfl, rfl⟩ := Prod.mk.inj result
      have short : rb.buffered.length < rb.frameBytes := length.trans_lt sound.short
      refine ⟨sound, rb.buffered, Framed.of_short short, ?_, ?_⟩
      · rw [List.flatten_nil, List.append_nil]
      · rw [List.flatten_nil, List.append_nil]
        refine iff_of_true rfl ?_
        intro front chunk back split
        cases front <;> cases split
  | cons chunk chunks ih =>
      have short : rb.buffered.length < rb.frameBytes := length.trans_lt sound.short
      rw [chunksFit_cons short]
      unfold feed at result
      rcases processed : rb.processFrames chunk with ⟨first, next⟩
      rcases fed : next.feed chunks with ⟨later, last⟩
      rw [processed] at result
      dsimp only at result
      rw [fed] at result
      obtain ⟨rfl, rfl⟩ := Prod.mk.inj result
      by_cases fits : rb.buffered.length + chunk.length ≤ rb.buf.length
      · obtain ⟨framed, sound', frameBytes, capacity⟩ := processFrames_framed sound fits processed
        obtain ⟨last, kept, cut, shorter, all⟩ := ih sound' fed (length_buffered sound'.inside)
        rw [frameBytes] at cut all
        rw [capacity, framed.length_rest, List.length_append] at all
        -- What was kept later begins with what is left of this chunk.
        refine ⟨last, first.flatten ++ kept, ⟨?_, ?_, cut.short⟩, ?_, ?_⟩
        · rw [List.flatten_append, List.append_assoc, cut.whole]
        · intro frame held
          rcases List.mem_append.1 held with held | held
          · exact framed.length_eq frame held
          · exact cut.length_eq frame held
        · rw [List.flatten_cons, ← List.append_assoc, ← framed.whole, List.append_assoc,
            List.length_append, List.length_append]
          exact Nat.add_le_add_left shorter _
        · rw [List.flatten_cons, ← List.append_assoc, ← framed.whole, List.append_assoc,
            List.append_cancel_left_eq, all]
          exact (and_iff_right fits).symm
      · rw [Nat.not_le] at fits
        obtain ⟨rfl, rfl⟩ := Prod.mk.inj ((processFrames_dropped sound fits).symm.trans processed)
        obtain ⟨last, kept, cut, shorter, -⟩ := ih sound fed length
        have lost : kept.length < (rb.buffered ++ (chunk :: chunks).flatten).length := by
          rw [List.flatten_cons, List.length_append, List.length_append]
          rw [List.length_append] at shorter
          have inside := sound.inside
          omega
        refine ⟨last, kept, cut, lost.le, iff_of_false ?_ ?_⟩
        · intro same
          rw [same] at lost
          exact lt_irrefl _ lost
        · rintro ⟨first, -⟩
          exact Nat.not_le.2 fits first

/-- **No audio is lost**: the frames have their length, they and what is still buffered are what was
fed, and that is less than a frame. -/
structure Aligned (frameBytes : ℕ) (chunks : List Bytes) (fed : List Bytes × AudioRingBuffer) : Prop where
  length_eq : ∀ frame ∈ fed.1, frame.length = frameBytes
  whole : fed.1.flatten ++ fed.2.buffered = chunks.flatten
  short : fed.2.buffered.length < frameBytes

/-- **Frame alignment loses no audio exactly if every chunk fits**, on a fresh buffer. -/
theorem frames_aligned_iff (capacity : ℕ) {frameBytes : ℕ} (pos : 0 < frameBytes)
    (chunks : List Bytes) :
    Aligned frameBytes chunks ((new capacity frameBytes).feed chunks) ↔
      ChunksFit capacity frameBytes 0 chunks := by
  rcases fed : (new capacity frameBytes).feed chunks with ⟨frames, rb⟩
  obtain ⟨-, kept, framed, -, all⟩ := feed_framed (sound_new pos) fed
  rw [buffered_new, List.nil_append] at all
  have room : (new capacity frameBytes).buf.length = capacity := List.length_replicate
  rw [room] at all
  refine Iff.trans ?_ all
  constructor
  · intro aligned
    exact framed.whole.symm.trans aligned.whole
  · intro same
    exact ⟨framed.length_eq, framed.whole.trans same, framed.short⟩

/-- Four bytes in two chunks make a frame. -/
theorem frames_aligned_pair : Aligned 4 [[1, 2, 3], [4]] ((new 4 4).feed [[1, 2, 3], [4]]) := by
  refine (frames_aligned_iff 4 (by decide) [[1, 2, 3], [4]]).2 ?_
  rw [chunksFit_cons (by decide), chunksFit_cons (by decide)]
  refine ⟨by decide, by decide, ?_⟩
  intro front chunk back split
  cases front <;> cases split

/-- **A chunk that is longer than the room left is lost**: of two chunks of three bytes, nothing of the
second is yielded or kept. -/
theorem chunk_lost : (new 4 4).feed [[1, 2, 3], [4, 5, 6]] = ([], ⟨[1, 2, 3, 0], 3, 4⟩) ∧
    ¬ Aligned 4 [[1, 2, 3], [4, 5, 6]] ((new 4 4).feed [[1, 2, 3], [4, 5, 6]]) := by
  have lost : (new 4 4).feed [[1, 2, 3], [4, 5, 6]] = ([], ⟨[1, 2, 3, 0], 3, 4⟩) := by decide
  refine ⟨lost, ?_⟩
  rw [lost]
  intro aligned
  have whole := aligned.whole
  revert whole
  decide

end AudioRingBuffer

end Feros
