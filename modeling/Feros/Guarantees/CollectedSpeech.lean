import Feros.Inference.SileroVadFilter
import Feros.Library.Bursts
import Mathlib.Algebra.Ring.Int.Defs
/-! # What the silence filter keeps

The loop of `collect_speech` finds exactly the bursts of speech: from a window of speech to a window of
speech, with shorter pauses in it than the shortest silence.  What it returns are the samples of the padded
bursts, each sample once and in its place, however the paddings overlap. -/

namespace Feros

namespace SileroVadFilter

open Bursts Stretch

variable {α : Type} {f : SileroVadFilter α} {audio : List α} {s : Scan} {k : ℕ}

/-- How many windows of silence end a burst. -/
def gap (f : SileroVadFilter α) : ℕ := max 1 ((f.minSilenceSamples + f.windowSize - 1) / f.windowSize)

/-- A gap lasts a window at least. -/
theorem gap_pos (f : SileroVadFilter α) : 0 < f.gap := Nat.le_max_left _ _

/-- The silence is long enough exactly after `gap` windows. -/
theorem silence_iff (windows : 0 < f.windowSize) {m : ℕ} (some : 0 < m) :
    f.minSilenceSamples ≤ m * f.windowSize ↔ f.gap ≤ m := by
  have rounded : (f.minSilenceSamples + f.windowSize - 1) / f.windowSize ≤ m ↔
      f.minSilenceSamples ≤ m * f.windowSize := by
    rw [Nat.div_le_iff_le_mul_add_pred windows, Nat.mul_comm m]
    omega
  rw [gap, Nat.max_le, rounded]
  exact (and_iff_right some).symm

/-- The segment of a burst that was closed by silence. -/
def segmentOf (f : SileroVadFilter α) (burst : ℕ × ℕ) : Stretch :=
  ⟨burst.1 * f.windowSize, (burst.2 + 1) * f.windowSize⟩

/-- A segment that is long enough. -/
def Long (f : SileroVadFilter α) (seg : Stretch) : Prop := f.minSpeechSamples ≤ seg.stop - seg.start

instance decidableLong (f : SileroVadFilter α) (seg : Stretch) : Decidable (f.Long seg) :=
  inferInstanceAs (Decidable (_ ≤ _))

/-- The segment of a burst: a burst that was still going on goes up to the end. -/
def burstSegment (f : SileroVadFilter α) (numSamples : ℕ) (burst : ℕ × ℕ) : Stretch :=
  if burst.2 + f.gap < f.windowCount numSamples then f.segmentOf burst
  else ⟨burst.1 * f.windowSize, numSamples⟩

/-- Every window begins in the audio, and every window but the last is full. -/
theorem lt_windowCount (windows : 0 < f.windowSize) {numSamples j : ℕ} (inside : j < f.windowCount numSamples) :
    j * f.windowSize < numSamples := by
  unfold windowCount at inside
  rw [Nat.lt_div_iff_mul_lt windows] at inside
  omega

/-- A burst that was closed is its own segment. -/
theorem burstSegment_closed {numSamples a b : ℕ} (closed : b + f.gap < f.windowCount numSamples) :
    f.burstSegment numSamples (a, b) = f.segmentOf (a, b) := if_pos closed

/-- A burst that is still open goes to the end of the audio. -/
theorem burstSegment_open {numSamples a b : ℕ} (grows : f.windowCount numSamples ≤ b + f.gap) :
    f.burstSegment numSamples (a, b) = ⟨a * f.windowSize, numSamples⟩ := if_neg (Nat.not_lt_of_le grows)

variable [Zero α]

/-- **What the loop knows** after some windows. -/
structure Scanned (f : SileroVadFilter α) (audio : List α) (k : ℕ) (s : Scan) : Prop where
  /-- The segments are those of the bursts that are closed, in their order. -/
  segments : ∃ bursts : List (ℕ × ℕ), s.segments = (bursts.map f.segmentOf).filter (fun seg => f.Long seg) ∧
    bursts.Pairwise (fun first second => first.2 < second.1) ∧
    ∀ burst, burst ∈ bursts ↔ Closed (f.isSpeech audio) f.gap k burst.1 burst.2
  quiet : s.currentSpeech = none → Quiet (f.isSpeech audio) f.gap k
  current : ∀ start, s.currentSpeech = some start → ∃ a b, Open (f.isSpeech audio) f.gap k a b ∧
    start = a * f.windowSize ∧ s.silenceCounter = (k - 1 - b) * f.windowSize

/-- Before the first window nothing was scanned. -/
theorem scanned_start (f : SileroVadFilter α) (audio : List α) : Scanned f audio 0 ⟨[], none, 0⟩ := by
  refine ⟨⟨[], rfl, .nil, fun burst => ⟨nofun, fun closed => ?_⟩⟩, fun _ => nofun, nofun⟩
  exact absurd closed.1.inside (Nat.not_lt_zero _)

/-- No burst is closed by a window of speech, or where none goes on. -/
theorem closed_same (still : ∀ a b, Open (f.isSpeech audio) f.gap k a b → b + f.gap = k → f.isSpeech audio k = true)
    (burst : ℕ × ℕ) : Closed (f.isSpeech audio) f.gap (k + 1) burst.1 burst.2 ↔
      Closed (f.isSpeech audio) f.gap k burst.1 burst.2 := by
  rw [closed_succ_iff f.gap_pos]
  refine or_iff_left ?_
  rintro ⟨opened, closes, no⟩
  cases no.symm.trans (still _ _ opened closes)

/-- **The loop keeps what it knows.** -/
theorem scanned_step (windows : 0 < f.windowSize) (scanned : Scanned f audio k s) :
    Scanned f audio (k + 1) (f.scanWindow (k * f.windowSize) (f.isSpeech audio k) s) := by
  obtain ⟨⟨bursts, segments, sorted, closed⟩, quiet, current⟩ := scanned
  unfold scanWindow
  cases verdict : f.isSpeech audio k with
  | true =>
    rw [if_pos rfl]
    refine ⟨⟨bursts, segments, sorted, fun burst => ?_⟩, nofun, ?_⟩
    -- A window with speech closes no burst.
    · exact (closed burst).trans (closed_same (fun _ _ _ _ => verdict) burst).symm
    · intro start begun
      dsimp only at begun ⊢
      -- It begins a burst, or it goes on with the one that is open.
      rcases at_ : s.currentSpeech with - | before
      · rw [at_] at begun
        cases begun
        exact ⟨k, k, (quiet at_).begins f.gap_pos verdict, rfl, by simp⟩
      · rw [at_] at begun
        cases begun
        obtain ⟨a, b, opened, starts, -⟩ := current before at_
        exact ⟨a, k, opened.extends f.gap_pos verdict, starts, by simp⟩
  | false =>
    rw [if_neg Bool.false_ne_true]
    rcases at_ : s.currentSpeech with - | start
    -- Silence outside a burst.
    · refine ⟨⟨bursts, segments, sorted, fun burst => ?_⟩, fun _ => (quiet at_).waits verdict, ?_⟩
      · refine (closed burst).trans (closed_same (fun a b opened _ => ?_) burst).symm
        exact absurd opened (quiet at_).not_open
      · intro start begun
        cases at_.symm.trans begun
    · obtain ⟨a, b, opened, starts, silent⟩ := current start at_
      have inside := opened.1.inside
      have grows := opened.2
      -- Silence inside: the counter holds the time since the last window with speech.
      have silence : s.silenceCounter + f.windowSize = (k - b) * f.windowSize := by
        rw [silent, ← Nat.succ_mul]
        congr 1
        omega
      dsimp only
      rw [silence]
      have enough := silence_iff (f := f) windows (m := k - b) (by omega)
      by_cases closes : f.minSilenceSamples ≤ (k - b) * f.windowSize
      · rw [if_pos closes]
        -- The gap is over, so the burst is closed behind its last window with speech.
        have ends : b + f.gap = k := by
          have reached := enough.1 closes
          omega
        have speechEnd : k * f.windowSize - (k - b) * f.windowSize + f.windowSize = (b + 1) * f.windowSize := by
          rw [← Nat.sub_mul, Nat.add_mul, Nat.one_mul]
          congr 2
          omega
        rw [speechEnd, starts]
        refine ⟨⟨bursts ++ [(a, b)], ?_, ?_, fun burst => ?_⟩, fun _ => opened.quiet verdict ends, nofun⟩
        · rw [List.map_append, List.filter_append, segments]
          by_cases long : f.Long (f.segmentOf (a, b))
          · rw [List.map_singleton, List.filter_singleton, decide_eq_true long]
            exact if_pos long
          · rw [List.map_singleton, List.filter_singleton, decide_eq_false long]
            exact (if_neg long).trans (List.append_nil _).symm
        -- The new burst lies behind the others.
        · refine List.pairwise_append.2 ⟨sorted, List.pairwise_singleton _ _, fun earlier held later here => ?_⟩
          rw [List.mem_singleton.1 here]
          obtain ⟨burst, done⟩ := (closed earlier).1 held
          have apart := burst.before opened.1 (by omega)
          exact Nat.lt_of_le_of_lt (Nat.le_add_right _ _) apart
        · rw [List.mem_append, List.mem_singleton, closed burst, closed_succ_iff f.gap_pos]
          refine or_congr_right ⟨?_, ?_⟩
          · rintro rfl
            exact ⟨opened, ends, verdict⟩
          · rintro ⟨opened', -, -⟩
            obtain ⟨sameStart, sameEnd⟩ := opened.unique opened'
            exact Prod.ext sameStart.symm sameEnd.symm
      · rw [if_neg closes]
        -- The gap is not over yet.
        have waits : ¬ f.gap ≤ k - b := fun reached => closes (enough.2 reached)
        refine ⟨⟨bursts, segments, sorted, fun burst => ?_⟩, ?_, ?_⟩
        · refine (closed burst).trans (closed_same (fun a' b' opened' ends => ?_) burst).symm
          obtain ⟨-, rfl⟩ := opened.unique opened'
          omega
        · intro none
          cases none
        · intro start' begun
          cases begun
          exact ⟨a, b, opened.waits verdict (by omega), starts, by simp⟩

/-- **The scan has seen the windows it has passed.** -/
theorem scanned_to (windows : 0 < f.windowSize) (audio : List α) (k : ℕ) :
    Scanned f audio k (f.scanTo audio k) := by
  unfold scanTo
  induction k with
  | zero => exact scanned_start f audio
  | succ k ih =>
      rw [List.range_succ, List.foldl_append]
      exact scanned_step windows ih

/-! ## The segments -/

/-- The segments of the bursts that were closed. -/
theorem closed_segments {bursts : List (ℕ × ℕ)}
    (sorted : bursts.Pairwise fun first second => first.2 < second.1)
    (closed : ∀ burst, burst ∈ bursts ↔
      Closed (f.isSpeech audio) f.gap (f.windowCount audio.length) burst.1 burst.2) :
    Ordered ((bursts.map f.segmentOf).filter fun seg => f.Long seg) ∧
      ∀ seg, seg ∈ (bursts.map f.segmentOf).filter (fun seg => f.Long seg) ↔ f.Long seg ∧ ∃ a b,
        Closed (f.isSpeech audio) f.gap (f.windowCount audio.length) a b ∧
          f.burstSegment audio.length (a, b) = seg := by
  refine ⟨⟨?_, ?_⟩, fun seg => ?_⟩
  · refine List.Pairwise.filter _ (List.pairwise_map.2 (sorted.imp_of_mem fun {first second} held _ apart => ?_))
    have order := ((closed first).1 held).1.order
    exact Nat.mul_le_mul_right _ (by omega)
  · intro seg held
    obtain ⟨burst, isBurst, rfl⟩ := List.mem_map.1 (List.mem_of_mem_filter held)
    have order := ((closed burst).1 isBurst).1.order
    exact Nat.mul_le_mul_right _ (by omega)
  · rw [List.mem_filter, List.mem_map, decide_eq_true_iff, and_comm]
    refine and_congr_right fun _ => ⟨?_, ?_⟩
    · rintro ⟨⟨a, b⟩, held, rfl⟩
      have isClosed := (closed (a, b)).1 held
      exact ⟨a, b, isClosed, burstSegment_closed isClosed.2⟩
    · rintro ⟨a, b, isClosed, rfl⟩
      exact ⟨(a, b), (closed (a, b)).2 isClosed, (burstSegment_closed isClosed.2).symm⟩

/-- A segment begins in the audio. -/
theorem burstSegment_start (windows : 0 < f.windowSize) {numSamples a b : ℕ}
    (burst : IsBurst (f.isSpeech audio) f.gap (f.windowCount numSamples) a b) :
    (f.burstSegment numSamples (a, b)).start = a * f.windowSize ∧ a * f.windowSize < numSamples := by
  constructor
  · unfold burstSegment
    split <;> rfl
  · exact lt_windowCount windows (Nat.lt_of_le_of_lt burst.order burst.inside)

/-- **The segments are those of the bursts that are long enough**, in their order. -/
theorem segments_spec (windows : 0 < f.windowSize) (audio : List α) :
    Ordered (f.segments audio) ∧
    ∀ seg, seg ∈ f.segments audio ↔ f.Long seg ∧ ∃ a b,
      IsBurst (f.isSpeech audio) f.gap (f.windowCount audio.length) a b ∧
        f.burstSegment audio.length (a, b) = seg := by
  obtain ⟨⟨bursts, segments, sorted, closed⟩, quiet, current⟩ :=
    scanned_to windows audio (f.windowCount audio.length)
  obtain ⟨ordered, members⟩ := closed_segments sorted closed
  rw [← segments] at ordered members
  unfold SileroVadFilter.segments
  dsimp only
  rcases at_ : (f.scanTo audio (f.windowCount audio.length)).currentSpeech with - | start
  -- No burst is open at the end.
  · refine ⟨ordered, fun seg => (members seg).trans (and_congr_right fun _ => ?_)⟩
    refine exists_congr fun a => exists_congr fun b => and_congr_left fun _ => ⟨And.left, fun burst => ?_⟩
    exact ⟨burst, quiet at_ b burst.inside burst.last⟩
  · obtain ⟨a, b, opened, rfl, -⟩ := current start at_
    have last := burstSegment_open (f := f) (a := a) opened.2
    have begins := (burstSegment_start windows opened.1).2
    -- One is open: it is the only burst that the scan has not closed.
    have either (seg : Stretch) : (f.Long seg ∧ ∃ a b,
        IsBurst (f.isSpeech audio) f.gap (f.windowCount audio.length) a b ∧
          f.burstSegment audio.length (a, b) = seg) ↔
        seg ∈ (f.scanTo audio (f.windowCount audio.length)).segments ∨
          f.Long seg ∧ seg = ⟨a * f.windowSize, audio.length⟩ := by
      rw [members seg, ← and_or_left]
      refine and_congr_right fun _ => ⟨?_, ?_⟩
      · rintro ⟨a', b', burst, rfl⟩
        rcases closed_or_open burst with isClosed | isOpen
        · exact .inl ⟨a', b', isClosed, rfl⟩
        · obtain ⟨rfl, rfl⟩ := opened.unique isOpen
          exact .inr last
      · rintro (⟨a', b', isClosed, same⟩ | rfl)
        · exact ⟨a', b', isClosed.1, same⟩
        · exact ⟨a, b, opened.1, last⟩
    by_cases long : f.minSpeechSamples ≤ audio.length - a * f.windowSize
    · dsimp only
      rw [if_pos long]
      refine ⟨⟨List.pairwise_append.2 ⟨ordered.1, List.pairwise_singleton _ _, ?_⟩, ?_⟩, fun seg => ?_⟩
      -- It lies behind the others.
      · intro earlier held later here
        rw [List.mem_singleton.1 here]
        obtain ⟨-, a', b', isClosed, rfl⟩ := (members earlier).1 held
        rw [(burstSegment_start windows isClosed.1).1]
        have done := isClosed.2
        have grows := opened.2
        have apart := isClosed.1.before opened.1 (by omega)
        have order := isClosed.1.order
        exact Nat.mul_le_mul_right _ (by omega)
      · intro seg held
        rcases List.mem_append.1 held with before | here
        · exact ordered.2 seg before
        · rw [List.mem_singleton.1 here]
          exact begins.le
      · rw [either, List.mem_append, List.mem_singleton]
        refine or_congr_right ⟨?_, And.right⟩
        rintro rfl
        exact ⟨long, rfl⟩
    · dsimp only
      rw [if_neg long]
      refine ⟨ordered, fun seg => ?_⟩
      rw [either]
      refine (or_iff_left ?_).symm
      rintro ⟨isLong, rfl⟩
      exact long isLong

/-! ## What is kept -/

/-- **A sample that is kept**: it lies in a burst that is long enough, or in its padding. -/
def Heard (f : SileroVadFilter α) (audio : List α) (i : ℕ) : Prop :=
  ∃ a b, IsBurst (f.isSpeech audio) f.gap (f.windowCount audio.length) a b ∧
    f.Long (f.burstSegment audio.length (a, b)) ∧
    a * f.windowSize ≤ i + f.speechPadSamples ∧
    i < (f.burstSegment audio.length (a, b)).stop + f.speechPadSamples

/-- The padded segments cover what is heard. -/
theorem covers_padded (windows : 0 < f.windowSize) (audio : List α) {i : ℕ} (inside : i < audio.length) :
    Covers ((f.segments audio).map (f.pad audio.length)) i ↔ f.Heard audio i := by
  obtain ⟨-, members⟩ := f.segments_spec windows audio
  unfold Covers Heard
  simp only [List.mem_map, exists_exists_and_eq_and]
  constructor
  · rintro ⟨seg, held, within⟩
    obtain ⟨long, a, b, burst, rfl⟩ := (members seg).1 held
    refine ⟨a, b, burst, long, ?_⟩
    unfold pad Contains at within
    rw [(burstSegment_start windows burst).1] at within
    dsimp only at within
    omega
  · rintro ⟨a, b, burst, long, below, above⟩
    refine ⟨_, (members _).2 ⟨long, a, b, burst, rfl⟩, ?_⟩
    unfold pad Contains
    rw [(burstSegment_start windows burst).1]
    dsimp only
    omega

open Classical in
/-- **The filter keeps exactly the padded bursts of speech**, each sample once and in its place; audio of less
than two windows is left as it is. -/
theorem collect_speech_keeps (windows : 0 < f.windowSize) (audio : List α) :
    f.collectSpeech audio =
      if audio.length < f.windowSize * 2 then audio else Stretch.keep audio (f.Heard audio) := by
  unfold collectSpeech
  split
  · rfl
  · obtain ⟨ordered, members⟩ := f.segments_spec windows audio
    have padded : Ordered ((f.segments audio).map (f.pad audio.length)) := by
      refine ⟨List.pairwise_map.2 (ordered.1.imp fun order => ?_), ?_⟩
      · exact Nat.sub_le_sub_right order _
      · intro seg held
        obtain ⟨before, isSegment, rfl⟩ := List.mem_map.1 held
        have order := ordered.2 before isSegment
        obtain ⟨-, a, b, burst, rfl⟩ := (members before).1 isSegment
        have begins := burstSegment_start windows burst
        unfold pad
        dsimp only
        omega
    obtain ⟨covers, apart⟩ := merge_spec padded
    rw [flatMap_slice apart]
    refine keep_congr fun i inside => ?_
    exact (covers i).trans (f.covers_padded windows audio inside)

/-- A filter with windows of two samples that takes every sound for speech. -/
def soundFilter : SileroVadFilter ℤ where
  windowSize := 2
  minSpeechDurationMs := 3
  minSilenceDurationMs := 4
  speechPadMs := 1
  sampleRate := 1000
  speaks heard := heard.getLast?.any fun window => window.any (· ≠ 0)

example : soundFilter.collectSpeech [0, 0, 0, 0, 0, 7, 8, 0, 9, 0, 0, 0, 0, 0, 0, 0, 5, 0, 0, 0] =
    [0, 0, 7, 8, 0, 9, 0, 0, 0, 5, 0, 0, 0] := by decide

open Classical in
/-- Four samples, the two in the middle are sounds. -/
theorem collect_speech_keeps_sound :
    soundFilter.collectSpeech [0, 7, 8, 0] =
      if ([0, 7, 8, 0] : List ℤ).length < soundFilter.windowSize * 2 then [0, 7, 8, 0]
      else Stretch.keep [0, 7, 8, 0] (soundFilter.Heard [0, 7, 8, 0]) :=
  collect_speech_keeps (by decide) [0, 7, 8, 0]

end SileroVadFilter

end Feros
