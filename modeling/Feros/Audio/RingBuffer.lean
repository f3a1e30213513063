import Feros.Types
import Feros.Library.Frames
/-! # The ring buffer for frames

It holds the bytes that do not fill a frame yet at its front.  `processFrames` writes a chunk behind
them, hands out the complete frames, and moves what is left to the front.

`processFrames_framed` and `processFrames_dropped` are all that is used of it elsewhere: a chunk that
fits is cut into frames together with what was left, and one that does not fit is lost. -/

namespace Feros

open Frames

/-- `buf[pos..pos + audio.len()].copy_from_slice(audio)`. -/
def overwrite (buf audio : Bytes) (pos : ℕ) : Bytes :=
  buf.take pos ++ audio ++ buf.drop (pos + audio.length)

/-- `buf.copy_within(start..stop, 0)`. -/
def copyToFront (buf : Bytes) (start stop : ℕ) : Bytes := overwrite buf ((buf.take stop).drop start) 0

/-- **The ring buffer**; it does not grow. -/
structure AudioRingBuffer where
  buf : Bytes
  writePos : ℕ
  frameBytes : ℕ
  deriving DecidableEq, Repr

namespace AudioRingBuffer

/-- Create a new ring buffer. -/
def new (capacity frameBytes : ℕ) : AudioRingBuffer := ⟨List.replicate capacity 0, 0, frameBytes⟩

/-- The bytes that wait for the rest of their frame. -/
def buffered (rb : AudioRingBuffer) : Bytes := rb.buf.take rb.writePos

/-- "Compact if we'd overflow": the bytes are at the front already. -/
def compact (audio : Bytes) (rb : AudioRingBuffer) : AudioRingBuffer :=
  if rb.writePos + audio.length > rb.buf.length then
    { rb with buf := if rb.writePos > 0 then copyToFront rb.buf 0 rb.writePos else rb.buf }
  else rb

/-- Write a chunk behind the buffered bytes, if it fits. -/
def write (audio : Bytes) (rb : AudioRingBuffer) : AudioRingBuffer :=
  if rb.writePos + audio.length ≤ rb.buf.length then
    { rb with
      buf := overwrite rb.buf audio rb.writePos
      writePos := rb.writePos + audio.length }
  else rb

/-- The loop that hands out the complete frames from `readPos` on, and where it stops reading.  Every
round reads a frame, so there are no more rounds than bytes. -/
def readFrames (rb : AudioRingBuffer) : (rounds readPos : ℕ) → List Bytes × ℕ
  | 0, readPos => ([], readPos)
  | rounds + 1, readPos =>
    if readPos + rb.frameBytes ≤ rb.writePos then
      let (frames, stop) := rb.readFrames rounds (readPos + rb.frameBytes)
      ((rb.buf.take (readPos + rb.frameBytes)).drop readPos :: frames, stop)
    else ([], readPos)

/-- **Feed audio into the buffer**, and hand out each complete frame. -/
def processFrames (audio : Bytes) (rb : AudioRingBuffer) : List Bytes × AudioRingBuffer :=
  let rb := (rb.compact audio).write audio
  let (frames, readPos) := rb.readFrames rb.writePos 0
  let remaining := rb.writePos - readPos
  (frames, { rb with
    buf := if remaining > 0 ∧ readPos > 0 then copyToFront rb.buf readPos rb.writePos else rb.buf
    writePos := remaining })

/-- Feed chunks one after the other, and collect the frames. -/
def feed (rb : AudioRingBuffer) : List Bytes → List Bytes × AudioRingBuffer
  | [] => ([], rb)
  | chunk :: chunks =>
    let (frames, rb) := rb.processFrames chunk
    let (later, rb) := rb.feed chunks
    (frames ++ later, rb)

/-- **The buffer is sound**: the buffered bytes are in it, and do not fill a frame. -/
structure Sound (rb : AudioRingBuffer) : Prop where
  inside : rb.writePos ≤ rb.buf.length
  short : rb.writePos < rb.frameBytes

variable {rb : AudioRingBuffer}

/-- What is buffered is up to the write position. -/
theorem length_buffered (inside : rb.writePos ≤ rb.buf.length) : rb.buffered.length = rb.writePos :=
  List.length_take_of_le inside

/-- A new buffer is sound. -/
theorem sound_new {capacity frameBytes : ℕ} (pos : 0 < frameBytes) : (new capacity frameBytes).Sound :=
  ⟨Nat.zero_le _, pos⟩

/-- A new buffer holds nothing. -/
theorem buffered_new (capacity frameBytes : ℕ) : (new capacity frameBytes).buffered = [] := rfl

/-- Compacting does not change anything. -/
theorem compact_eq (inside : rb.writePos ≤ rb.buf.length) (audio : Bytes) : rb.compact audio = rb := by
  have same : copyToFront rb.buf 0 rb.writePos = rb.buf := by
    unfold copyToFront overwrite
    rw [List.take_zero, List.nil_append, List.drop_zero, Nat.zero_add, List.length_take_of_le inside,
      List.take_append_drop]
  unfold compact
  rw [same, ite_self, ite_self]

/-- A chunk that fits is behind the buffered bytes. -/
theorem take_overwrite {buf : Bytes} {pos : ℕ} (inside : pos ≤ buf.length) (audio : Bytes) :
    (overwrite buf audio pos).take (pos + audio.length) = buf.take pos ++ audio := by
  have length : (buf.take pos ++ audio).length = pos + audio.length := by
    rw [List.length_append, List.length_take_of_le inside]
  unfold overwrite
  rw [← length, List.take_left]

/-- Overwriting leaves the length. -/
theorem length_overwrite {buf audio : Bytes} {pos : ℕ} (fits : pos + audio.length ≤ buf.length) :
    (overwrite buf audio pos).length = buf.length := by
  unfold overwrite
  rw [List.length_append, List.length_append, List.length_drop,
    List.length_take_of_le (Nat.le_of_add_right_le fits)]
  omega

/-- **The loop cuts what it reads into frames.** -/
theorem readFrames_framed (pos : 0 < rb.frameBytes) (inside : rb.writePos ≤ rb.buf.length)
    {rounds readPos : ℕ} (behind : readPos ≤ rb.writePos) (enough : rb.writePos ≤ rounds + readPos) :
    let (frames, stop) := rb.readFrames rounds readPos
    Framed rb.frameBytes (rb.buffered.drop readPos) frames (rb.buffered.drop stop) ∧
      readPos ≤ stop ∧ stop ≤ rb.writePos := by
  induction rounds generalizing readPos with
  | zero =>
      refine ⟨Framed.of_short ?_, le_rfl, behind⟩
      rw [List.length_drop, length_buffered inside]
      omega
  | succ rounds ih =>
      unfold readFrames
      by_cases complete : readPos + rb.frameBytes ≤ rb.writePos
      · rw [if_pos complete]
        obtain ⟨framed, later, before⟩ := ih complete (by omega)
        refine ⟨⟨?_, ?_, framed.short⟩, by omega, before⟩
        · rw [List.flatten_cons, List.append_assoc, framed.whole, buffered,
            ← List.take_append_drop rb.frameBytes ((rb.buf.take rb.writePos).drop readPos),
            List.drop_drop, List.take_drop, List.take_take, Nat.min_eq_left complete]
        · intro frame held
          rcases List.mem_cons.1 held with rfl | held
          · rw [List.length_drop, List.length_take_of_le (complete.trans inside)]
            omega
          · exact framed.length_eq frame held
      · rw [if_neg complete]
        refine ⟨Framed.of_short ?_, le_rfl, behind⟩
        rw [List.length_drop, length_buffered inside]
        omega

/-- What is left is moved to the front. -/
theorem take_copyToFront {buf : Bytes} {start stop : ℕ} (inside : stop ≤ buf.length) :
    (copyToFront buf start stop).take (stop - start) = (buf.take stop).drop start := by
  have length : ((buf.take stop).drop start).length = stop - start := by
    rw [List.length_drop, List.length_take_of_le inside]
  have moved := take_overwrite (Nat.zero_le buf.length) ((buf.take stop).drop start)
  rwa [length, Nat.zero_add, List.take_zero, List.nil_append] at moved

/-- Handing out the frames and moving what is left to the front. -/
theorem handOut_framed (pos : 0 < rb.frameBytes) (inside : rb.writePos ≤ rb.buf.length)
    {frames : List Bytes} {readPos : ℕ} (reads : rb.readFrames rb.writePos 0 = (frames, readPos)) :
    let after : AudioRingBuffer := { rb with
      buf := if rb.writePos - readPos > 0 ∧ readPos > 0 then copyToFront rb.buf readPos rb.writePos
        else rb.buf
      writePos := rb.writePos - readPos }
    Framed rb.frameBytes rb.buffered frames after.buffered ∧ after.Sound ∧
      after.buf.length = rb.buf.length := by
  intro after
  have framed := readFrames_framed pos inside (Nat.zero_le _) (Nat.le_add_right _ 0)
  rw [reads] at framed
  obtain ⟨framed, -, stop⟩ := framed
  rw [List.drop_zero] at framed
  have moved : after.buffered = rb.buffered.drop readPos := by
    show (if rb.writePos - readPos > 0 ∧ readPos > 0 then copyToFront rb.buf readPos rb.writePos
      else rb.buf).take (rb.writePos - readPos) = _
    by_cases moves : rb.writePos - readPos > 0 ∧ readPos > 0
    · rw [if_pos moves, take_copyToFront inside]
      rfl
    · rw [if_neg moves]
      rcases Nat.eq_zero_or_pos readPos with rfl | some
      · rfl
      · -- Everything was read.
        have all : rb.writePos - readPos = 0 := by omega
        have nothing : rb.buffered.length ≤ readPos := by
          rw [length_buffered inside]
          omega
        rw [all, List.take_zero, List.drop_eq_nil_of_le nothing]
  have length : after.buf.length = rb.buf.length := by
    show (if _ then copyToFront rb.buf readPos rb.writePos else rb.buf).length = _
    split
    · refine length_overwrite ?_
      rw [List.length_drop, List.length_take_of_le inside]
      omega
    · rfl
  have short : rb.writePos - readPos < rb.frameBytes := by
    have short := framed.short
    rwa [List.length_drop, length_buffered inside] at short
  refine ⟨?_, ⟨?_, short⟩, length⟩
  · rw [moved]
    exact framed
  · rw [length]
    exact (Nat.sub_le _ _).trans inside

/-- **A chunk that fits** is cut into frames, behind what was left. -/
theorem processFrames_framed (sound : rb.Sound) {audio : Bytes}
    (fits : rb.buffered.length + audio.length ≤ rb.buf.length) {frames : List Bytes}
    {after : AudioRingBuffer} (result : rb.processFrames audio = (frames, after)) :
    Framed rb.frameBytes (rb.buffered ++ audio) frames after.buffered ∧ after.Sound ∧
      after.frameBytes = rb.frameBytes ∧ after.buf.length = rb.buf.length := by
  rw [length_buffered sound.inside] at fits
  let written : AudioRingBuffer := { rb with
    buf := overwrite rb.buf audio rb.writePos
    writePos := rb.writePos + audio.length }
  have writes : (rb.compact audio).write audio = written := by
    rw [compact_eq sound.inside, write, if_pos fits]
  have length := length_overwrite fits
  unfold processFrames at result
  rw [writes] at result
  obtain ⟨rfl, rfl⟩ := Prod.mk.inj result
  obtain ⟨framed, after, kept⟩ := @handOut_framed written (Nat.zero_lt_of_lt sound.short)
    (fits.trans_eq length.symm) _ _ rfl
  have holds := take_overwrite sound.inside audio
  refine ⟨?_, after, rfl, kept.trans length⟩
  rw [buffered, ← holds]
  exact framed

/-- **A chunk that does not fit is lost.** -/
theorem processFrames_dropped (sound : rb.Sound) {audio : Bytes}
    (long : rb.buf.length < rb.buffered.length + audio.length) : rb.processFrames audio = ([], rb) := by
  rw [length_buffered sound.inside] at long
  have writes : (rb.compact audio).write audio = rb := by
    rw [compact_eq sound.inside, write, if_neg (Nat.not_le.2 long)]
  have none : rb.readFrames rb.writePos 0 = ([], 0) := by
    cases rb.writePos with
    | zero => rfl
    | succ rounds =>
        unfold readFrames
        have short := sound.short
        rw [if_neg (by omega)]
  unfold processFrames
  rw [writes]
  dsimp only
  rw [none]
  show ([], { rb with buf := if _ then _ else rb.buf, writePos := rb.writePos - 0 }) = ([], rb)
  rw [if_neg (fun moves => absurd moves.2 (lt_irrefl 0))]
  rfl

end AudioRingBuffer

end Feros
