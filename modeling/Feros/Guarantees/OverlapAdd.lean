import Feros.Guarantees.DenoisedAudio
import Mathlib.Data.List.GetD
import Mathlib.Data.List.Induction
/-! # DTLN adds up overlapping blocks

The networks see the last 512 samples at every shift of 128.  A sample that is put out is the sum of what the
blocks that overlap it say of it, the oldest first: of four blocks, once four were made since the warm-up. -/

namespace Feros

open Frames

namespace DtlnCore

open Dtln Denoiser

variable {ν α : Type} [Zero α] [Add α] {m : DtlnModel ν α} {states : ν}

/-- The last 512 samples at every shift. -/
def windows (frames : List (List α)) : List (List α) :=
  (List.range frames.length).map fun t =>
    ((List.replicate blockLen 0 ++ frames.flatten).drop (128 * (t + 1))).take blockLen

/-- What the networks make of one window after the other. -/
def estimates (m : DtlnModel ν α) (states : ν) (windows : List (List α)) : List (List α) × ν :=
  feed (fun states window => ((m.estimate states window).1.toList, (m.estimate states window).2)) states windows

/-- What blocks say of a sample, with the latest block first. -/
def overlapped : List (List α) → ℕ → α
  | [], _ => 0
  | block :: older, i => (if i + 128 < 512 then overlapped older (i + 128) else 0) + block.getD i 0

/-- The sum of what at most four blocks say of a sample of the first shift, with the latest block first. -/
def mixed (blocks : List (List α)) (i : ℕ) : α :=
  (((blocks.take 4).zipIdx.reverse).map fun b => b.1.getD (i + 128 * b.2) 0).foldl (· + ·) 0

/-- The first samples are mixed as they are. -/
theorem overlapped_eq_mixed (blocks : List (List α)) {i : ℕ} (first : i < 128) :
    overlapped blocks i = mixed blocks i := by
  have one : i + 128 < 512 := by omega
  have two : i + 128 + 128 < 512 := by omega
  have three : i + 128 + 128 + 128 < 512 := by omega
  have four : ¬ i + 128 + 128 + 128 + 128 < 512 := by omega
  rcases blocks with - | ⟨a, - | ⟨b, - | ⟨c, - | ⟨d, older⟩⟩⟩⟩
  · rfl
  · simp [overlapped, mixed]
  · simp [overlapped, mixed, one]
  · simp [overlapped, mixed, one, two]
  · simp [overlapped, mixed, one, two, three, four]

/-- **Overlap-add**, sample by sample. -/
theorem getD_overlapAdd {outBuffer block : List α} (whole : outBuffer.length = 512) (full : block.length = 512)
    {i : ℕ} (inside : i < 512) :
    (overlapAdd outBuffer block).getD i 0 =
      (if i + 128 < 512 then outBuffer.getD (i + 128) 0 else 0) + block.getD i 0 := by
  unfold overlapAdd blockShift blockLen
  dsimp only
  have length : (outBuffer.drop 128 ++ List.replicate 128 (0 : α)).length = 512 := by
    rw [List.length_append, List.length_drop, whole, List.length_replicate]
  have all : block.take 512 = block := List.take_of_length_le (by omega)
  rw [all, full, List.drop_of_length_le (Nat.le_of_eq length), List.append_nil]
  have here : block.getD i 0 = block.get ⟨i, full ▸ inside⟩ := List.getD_eq_getElem _ _ _
  rw [List.getD_eq_getElem _ _ (by rw [List.length_zipWith, length, full]; exact inside), List.getElem_zipWith,
    here]
  refine congrArg (· + block[i]) ?_
  split
  · next kept =>
    have later : outBuffer.getD (i + 128) 0 = outBuffer[i + 128] := List.getD_eq_getElem _ _ _
    rw [List.getElem_append_left (by rw [List.length_drop, whole]; omega), List.getElem_drop, later]
    simp only [Nat.add_comm]
  · next gone =>
    rw [List.getElem_append_right (by rw [List.length_drop, whole]; omega), List.getElem_replicate]

omit [Add α] in
/-- More frames add a window. -/
theorem windows_concat {frames : List (List α)} (chunks : ∀ chunk ∈ frames, chunk.length = 128) {chunk : List α}
    (size : chunk.length = 128) :
    windows (frames ++ [chunk]) = windows frames ++
      [(List.replicate blockLen 0 ++ frames.flatten).drop (128 * (frames.length + 1)) ++ chunk] := by
  have length := length_flatten chunks
  have all : (List.replicate blockLen (0 : α) ++ frames.flatten).length = 512 + 128 * frames.length := by
    rw [List.length_append, List.length_replicate, length]
    rfl
  unfold windows
  rw [List.length_append, List.length_singleton, List.range_succ, List.map_append, List.map_singleton,
    List.flatten_append, List.flatten_singleton, ← List.append_assoc]
  refine congrArg₂ (· ++ ·) ?_ ?_
  · apply List.map_congr_left
    intro t held
    have before := List.mem_range.1 held
    rw [List.drop_append_of_le_length (by omega), List.take_append_of_le_length]
    rw [List.length_drop, all, blockLen]
    omega
  · rw [List.drop_append_of_le_length (by omega), List.take_of_length_le]
    rw [List.length_append, List.length_drop, all, size, blockLen]
    omega

/-- **The networks never fail**, and make whole blocks. -/
def Reliable (m : DtlnModel ν α) : Prop :=
  ∀ states window, ∃ block, (m.estimate states window).1 = some block ∧ block.length = 512

/-- **What a core holds** after some frames. -/
structure Heard (m : DtlnModel ν α) (states : ν) (frames : List (List α)) (c : DtlnCore ν α) : Prop where
  inBuffer : c.inBuffer = (List.replicate blockLen 0 ++ frames.flatten).drop (128 * frames.length)
  network : c.states = (estimates m states (windows frames)).2
  length : (estimates m states (windows frames)).1.length = frames.length
  warm : c.warmupRemaining = 5 - frames.length
  whole : c.outBuffer.length = 512
  out : 5 ≤ frames.length → ∀ i < 512,
    c.outBuffer.getD i 0 = overlapped ((estimates m states (windows frames)).1.drop 5).reverse i

/-- A new core has heard nothing. -/
theorem heard_new (m : DtlnModel ν α) (states : ν) : Heard m states [] (new states) where
  inBuffer := by simp [new]
  network := rfl
  length := rfl
  warm := rfl
  whole := List.length_replicate
  out := nofun

/-- One shift. -/
theorem Heard.shift {frames : List (List α)} {c : DtlnCore ν α} (heard : Heard m states frames c)
    (reliable : Reliable m) (chunks : ∀ chunk ∈ frames, chunk.length = 128) {chunk : List α}
    (size : chunk.length = 128) : Heard m states (frames ++ [chunk]) (c.shift m chunk).2 := by
  -- The window is the end of everything that was fed, behind a block of silence.
  have input : c.inBuffer.drop 128 ++ chunk =
      (List.replicate blockLen 0 ++ frames.flatten).drop (128 * (frames.length + 1)) ++ chunk := by
    rw [heard.inBuffer, List.drop_drop, Nat.mul_succ]
  -- The network has seen one window more.
  have next : estimates m states (windows (frames ++ [chunk])) =
      ((estimates m states (windows frames)).1 ++
          (m.estimate c.states (c.inBuffer.drop 128 ++ chunk)).1.toList,
        (m.estimate c.states (c.inBuffer.drop 128 ++ chunk)).2) := by
    rw [windows_concat chunks size, ← input, estimates, feed_append, heard.network]
    simp only [feed, List.append_nil, estimates]
  -- The estimate has the length of a block, so the refused branch of the shift is not reached.
  obtain ⟨block, made, full⟩ := reliable c.states (c.inBuffer.drop 128 ++ chunk)
  have processed : c.processShift m chunk =
      { c with
        inBuffer := c.inBuffer.drop 128 ++ chunk
        states := (m.estimate c.states (c.inBuffer.drop 128 ++ chunk)).2
        outBuffer := overlapAdd c.outBuffer block } := by
    unfold processShift
    rw [show blockShift = 128 from rfl]
    rcases result : m.estimate c.states (c.inBuffer.drop 128 ++ chunk) with ⟨_ | other, after⟩
    · rw [result] at made
      cases made
    · rw [result] at made
      cases made
      dsimp only
      rw [result]
  rw [made] at next
  have count : (estimates m states (windows (frames ++ [chunk]))).1.length = (frames ++ [chunk]).length := by
    rw [next, List.length_append, List.length_append, heard.length]
    rfl
  have sound := length_overlapAdd heard.whole block
  have still : (frames ++ [chunk]).length = frames.length + 1 := List.length_append
  have stream : c.inBuffer.drop 128 ++ chunk =
      (List.replicate blockLen 0 ++ (frames ++ [chunk]).flatten).drop (128 * (frames ++ [chunk]).length) := by
    have enough : 128 * (frames.length + 1) ≤ (List.replicate blockLen (0 : α) ++ frames.flatten).length := by
      rw [List.length_append, List.length_replicate, length_flatten chunks, blockLen]
      omega
    rw [input, still, List.flatten_append, List.flatten_singleton, ← List.append_assoc,
      List.drop_append_of_le_length enough]
  unfold DtlnCore.shift
  rw [processed]
  dsimp only
  by_cases warming : c.warmupRemaining > 0
  · rw [if_pos warming]
    have warm := heard.warm
    refine ⟨stream, by rw [next], count, ?_, ?_, fun many i inside => ?_⟩
    · dsimp only
      omega
    · dsimp only
      split
      · exact List.length_replicate
      · exact sound
    · -- The warm-up ends: nothing of what was heard is left.
      have ends : c.warmupRemaining - 1 = 0 := by omega
      dsimp only
      rw [if_pos ends, List.drop_of_length_le (by omega), List.reverse_nil, overlapped, blockLen]
      rw [List.getD_eq_getElem _ _ (by rw [List.length_replicate]; exact inside), List.getElem_replicate]
  · rw [if_neg warming]
    have warm := heard.warm
    have many : 5 ≤ frames.length := by omega
    refine ⟨stream, by rw [next], count, ?_, sound, fun _ i inside => ?_⟩
    · dsimp only
      omega
    -- The block is added to the ends of the three blocks before it.
    · dsimp only
      rw [getD_overlapAdd heard.whole full inside, next, Option.toList_some,
        List.drop_append_of_le_length (heard.length ▸ many), List.reverse_append, List.reverse_singleton,
        List.singleton_append, overlapped]
      congr 1
      split
      · next inner => exact heard.out many (i + 128) inner
      · rfl

/-- **A core that was fed has heard what it was fed.** -/
theorem heard_feed (states : ν) (reliable : Reliable m) {frames : List (List α)}
    (chunks : ∀ chunk ∈ frames, chunk.length = 128) :
    Heard m states frames (feed (DtlnCore.shift m) (new states) frames).2 := by
  induction frames using List.reverseRecOn with
  | nil => exact heard_new m states
  | append_singleton frames chunk ih =>
      have before : ∀ chunk ∈ frames, chunk.length = 128 := fun other held =>
        chunks other (List.mem_append_left _ held)
      rw [feed_append]
      exact (ih before).shift reliable before (chunks chunk (List.mem_append_right _ List.mem_cons_self))

/-- What a shift puts out. -/
theorem shift_out {frames : List (List α)} {c : DtlnCore ν α} {chunk : List α} (heard : Heard m states frames c)
    (after : Heard m states (frames ++ [chunk]) (c.shift m chunk).2) :
    (c.shift m chunk).1 =
      if frames.length < 5 then List.replicate 256 0
      else pcmOf m.bytesOf ((List.range 128).map
        (mixed ((estimates m states (windows (frames ++ [chunk]))).1.drop 5).reverse)) := by
  have warm := heard.warm
  have same : (c.processShift m chunk).warmupRemaining = c.warmupRemaining := by
    unfold processShift
    dsimp only
    split <;> rfl
  by_cases warming : frames.length < 5
  · rw [if_pos warming]
    unfold DtlnCore.shift
    dsimp only
    rw [if_pos (by omega)]
    rfl
  · rw [if_neg warming]
    have sums := after.out (by rw [List.length_append]; omega)
    have whole := after.whole
    have buffer : (c.shift m chunk).2 = c.processShift m chunk ∧
        (c.shift m chunk).1 = pcmOf m.bytesOf ((c.processShift m chunk).outBuffer.take 128) := by
      unfold DtlnCore.shift
      dsimp only
      rw [if_neg (by omega)]
      exact ⟨rfl, rfl⟩
    rw [buffer.1] at sums whole
    rw [buffer.2]
    refine congrArg _ (List.ext_getElem ?_ fun i inside inside' => ?_)
    · rw [List.length_take, whole, List.length_map, List.length_range]
      rfl
    · have first : i < 128 := by
        rw [List.length_map, List.length_range] at inside'
        exact inside'
      rw [List.getElem_take, List.getElem_map, List.getElem_range, ← overlapped_eq_mixed _ first,
        ← sums i (by omega)]
      exact (List.getD_eq_getElem _ _ _).symm

omit [Add α] in
/-- Later frames do not change the windows before. -/
theorem windows_prefix {front back : List (List α)} (chunks : ∀ chunk ∈ front ++ back, chunk.length = 128) :
    windows front <+: windows (front ++ back) := by
  induction back using List.reverseRecOn with
  | nil =>
      exact ⟨[], by rw [List.append_nil, List.append_nil]⟩
  | append_singleton back chunk ih =>
      rw [← List.append_assoc] at chunks ⊢
      have before : ∀ chunk ∈ front ++ back, chunk.length = 128 := fun other held =>
        chunks other (List.mem_append_left _ held)
      rw [windows_concat before (chunks chunk (List.mem_append_right _ List.mem_cons_self))]
      exact (ih before).trans (List.prefix_append _ _)

/-- **The blocks overlap and add up.** -/
theorem dtln_overlap_add (states : ν) (reliable : Reliable m) {frames : List (List α)}
    (chunks : ∀ chunk ∈ frames, chunk.length = 128) {t : ℕ} (inside : t < frames.length) :
    ((feed (DtlnCore.shift m) (new states) frames).1.drop (256 * t)).take 256 =
      if t < 5 then List.replicate 256 0
      else pcmOf m.bytesOf ((List.range 128).map
        (mixed (((estimates m states (windows frames)).1.take (t + 1)).drop 5).reverse)) := by
  have cut : frames = (frames.take t ++ [frames[t]]) ++ frames.drop (t + 1) := by
    rw [List.append_assoc, List.singleton_append, ← List.drop_eq_getElem_cons inside, List.take_append_drop]
  have length : (frames.take t).length = t := List.length_take_of_le (Nat.le_of_lt inside)
  have before : ∀ chunk ∈ frames.take t, chunk.length = 128 := fun chunk held =>
    chunks chunk (List.mem_of_mem_take held)
  have size : frames[t].length = 128 := chunks _ (List.getElem_mem inside)
  have heard := heard_feed states reliable before
  have after := heard.shift reliable before size
  have out := shift_out heard after
  -- The blocks of the frames up to this one.
  have blocks : (estimates m states (windows (frames.take t ++ [frames[t]]))).1 =
      (estimates m states (windows frames)).1.take (t + 1) := by
    have all : ∀ chunk ∈ (frames.take t ++ [frames[t]]) ++ frames.drop (t + 1), chunk.length = 128 := by
      rw [← cut]
      exact chunks
    obtain ⟨more, windows_eq⟩ := windows_prefix all
    rw [← cut] at windows_eq
    have count := after.length
    rw [List.length_append, length, List.length_singleton] at count
    rw [← windows_eq, estimates, estimates, feed_append, ← count]
    exact (List.take_left).symm
  rw [blocks, length] at out
  rw [← out]
  have fresh : (new states : DtlnCore ν α).outBuffer.length = 512 := List.length_replicate
  have passed := length_feed_shift (m := m) fresh (frames.take t)
  have here := (shift_spec (m := m) heard.whole frames[t]).1
  rw [length] at passed
  have whole : (feed (DtlnCore.shift m) (new states) frames).1 =
      (feed (DtlnCore.shift m) (new states) (frames.take t)).1 ++
        ((feed (DtlnCore.shift m) (new states) (frames.take t)).2.shift m frames[t]).1 ++
        (feed (DtlnCore.shift m) ((feed (DtlnCore.shift m) (new states) (frames.take t)).2.shift m frames[t]).2
          (frames.drop (t + 1))).1 := by
    conv_lhs => rw [cut, feed_append, feed_append]
    simp only [feed, List.append_nil]
  rw [whole, List.append_assoc, ← passed, List.drop_left, ← here, List.take_left]

/-- A model of one number that passes the audio through. -/
def throughModel : DtlnModel Unit ℤ where
  sampleOf low high := low.toNat + 256 * high.toNat
  bytesOf n := (UInt8.ofNat (n.toNat % 256), UInt8.ofNat (n.toNat / 256))
  estimate _ window := (some ((window ++ List.replicate 512 0).take 512), ())

/-- The model that lets everything through is reliable. -/
theorem reliable_throughModel : Reliable throughModel := by
  intro _ window
  refine ⟨(window ++ List.replicate 512 0).take 512, rfl, List.length_take_of_le ?_⟩
  rw [List.length_append, List.length_replicate]
  exact Nat.le_add_left 512 window.length

/-- Nine shifts, each of one sound. -/
def nineShifts : List (List ℤ) := (List.range 9).map fun k => List.replicate 128 (k + 1 : ℤ)

/-- The last of them puts out the sixth shift: four blocks say the same of it. -/
theorem dtln_overlap_add_through :
    ((feed (DtlnCore.shift throughModel) (new ()) nineShifts).1.drop (256 * 8)).take 4 = [24, 0, 24, 0] ∧
      ((feed (DtlnCore.shift throughModel) (new ()) nineShifts).1.drop (256 * 8)).take 256 =
        if 8 < 5 then List.replicate 256 0
        else pcmOf throughModel.bytesOf ((List.range 128).map
          (mixed (((estimates throughModel () (windows nineShifts)).1.take (8 + 1)).drop 5).reverse)) :=
  ⟨by decide +kernel, dtln_overlap_add () reliable_throughModel
    (fun chunk held => by
      obtain ⟨k, -, rfl⟩ := List.mem_map.1 held
      exact List.length_replicate)
    (by decide)⟩

end DtlnCore

end Feros
