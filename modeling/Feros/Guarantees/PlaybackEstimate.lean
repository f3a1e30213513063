import Mathlib.Data.Rat.Floor
import Mathlib.Algebra.Order.Floor.Semifield
import Feros.Library.InOrder
import Feros.Coordinator.Refinement
import Feros.NativeSession
/-! # How long the client still plays

The client plays the chunks in order, each from its arrival on or from the end of the chunk before.  The
tracker keeps the first arrival, the last one and the number of bytes.  In exact time its estimate covers
what the client plays if and only if each chunk came at most two seconds after the audio before it was over,
had it been played without a pause, or lasts, with what comes behind it, at most two seconds longer than the
last arrival.  What is computed from the estimate is then late enough.

* **`stillPlays`**: how long the client still plays.
* **`exactRemaining`**: the estimate in exact time; `remainingPlayback` is it in whole nanoseconds.
* **`NeverShort`, `Covered`**: that the estimate suffices, and the condition on the arrivals. -/

namespace Feros

open InOrder

namespace PlaybackTracker

/-- A chunk that is sent to the client: when, and how many bytes. -/
abbrev Chunk := Instant × ℕ

/-! ## The client -/

/-- How long some bytes of mono PCM16 last, in nanoseconds. -/
def duration (sampleRate bytes : ℕ) : ℚ := (bytes * 1000000000 : ℕ) / (sampleRate * 2 : ℕ)

/-- A chunk as something to be played. -/
def job (sampleRate : ℕ) (chunk : Chunk) : Job ℚ := ⟨chunk.1, duration sampleRate chunk.2⟩

/-- How long some chunks last. -/
def lasts (sampleRate : ℕ) (chunks : List Chunk) : ℚ := work (chunks.map (job sampleRate))

/-- **When the client has played the last chunk.** -/
def clientEnd (sampleRate : ℕ) (chunks : List Chunk) : ℚ :=
  match chunks with
  | [] => 0
  | first :: _ => finishFrom (first.1 : ℚ) (chunks.map (job sampleRate))

/-- **How long the client still plays.** -/
def stillPlays (sampleRate : ℕ) (chunks : List Chunk) (now : ℚ) : ℚ :=
  if chunks = [] then 0 else max 0 (clientEnd sampleRate chunks - now)

/-! ## The tracker -/

/-- **A tracker that has recorded some chunks.** -/
def recorded (sampleRate : ℕ) (chunks : List Chunk) : PlaybackTracker :=
  chunks.foldl (fun p chunk => p.record chunk.1 chunk.2) (.new sampleRate)

/-- **The estimate in exact time.** -/
def exactRemaining (now : ℚ) (p : PlaybackTracker) : ℚ :=
  match p.firstChunkTs with
  | none => 0
  | some firstTs =>
    let lastTs := p.lastChunkTs.getD firstTs
    let earliestDone := max (firstTs + duration p.sampleRate p.totalBytes) (lastTs : ℚ)
    max 0 (earliestDone + playbackBuffer - now)

/-- **What the arrivals must be like**: each chunk came at most two seconds after the audio before it would have
been over without pauses, or is over, with what comes behind it, at most two seconds after the last arrival, if
it is played when it comes. -/
def Covered (sampleRate : ℕ) (chunks : List Chunk) : Prop :=
  ∀ first ∈ chunks.head?, ∀ last ∈ chunks.getLast?, ∀ front chunk back, chunks = front ++ chunk :: back →
    (chunk.1 : ℚ) ≤ first.1 + lasts sampleRate front + playbackBuffer ∨
      (chunk.1 : ℚ) + lasts sampleRate (chunk :: back) ≤ last.1 + playbackBuffer

/-- **The estimate never falls short** from the last arrival on. -/
def NeverShort (sampleRate : ℕ) (chunks : List Chunk) : Prop :=
  ∀ now : ℚ, (∀ last ∈ chunks.getLast?, (last.1 : ℚ) ≤ now) →
    stillPlays sampleRate chunks now ≤ (recorded sampleRate chunks).exactRemaining now

/-! ## What is recorded -/

section Recorded

variable (sampleRate : ℕ)

/-- Bytes one behind the other last as long as both. -/
theorem duration_add (first second : ℕ) :
    duration sampleRate (first + second) = duration sampleRate first + duration sampleRate second := by
  unfold duration
  rw [Nat.add_mul, Nat.cast_add, add_div]

/-- No bytes last no time. -/
theorem duration_zero : duration sampleRate 0 = 0 := by
  unfold duration
  rw [Nat.zero_mul, Nat.cast_zero, zero_div]

/-- Some chunks last as long as their bytes. -/
theorem lasts_eq (chunks : List Chunk) : lasts sampleRate chunks = duration sampleRate (chunks.map Prod.snd).sum := by
  induction chunks with
  | nil => exact (duration_zero sampleRate).symm
  | cons chunk chunks ih =>
      rw [List.map_cons, List.sum_cons, duration_add, ← ih]
      exact work_cons _ _

/-- Chunks one behind the other last as long as both. -/
theorem lasts_append (front back : List Chunk) :
    lasts sampleRate (front ++ back) = lasts sampleRate front + lasts sampleRate back := by
  unfold lasts
  rw [List.map_append, work_append]

/-- What is recorded after more chunks. -/
theorem record_chunks (p : PlaybackTracker) (chunks : List Chunk) :
    let after := chunks.foldl (fun p chunk => p.record chunk.1 chunk.2) p
    after.sampleRate = p.sampleRate ∧ after.totalBytes = p.totalBytes + (chunks.map Prod.snd).sum ∧
      after.firstChunkTs = p.firstChunkTs.or (chunks.head?.map Prod.fst) ∧
      after.lastChunkTs = (chunks.getLast?.map Prod.fst).or p.lastChunkTs := by
  induction chunks generalizing p with
  | nil => exact ⟨rfl, rfl, (Option.or_none).symm, rfl⟩
  | cons chunk chunks ih =>
      obtain ⟨rate, bytes, first, last⟩ := ih (p.record chunk.1 chunk.2)
      refine ⟨rate, ?_, ?_, ?_⟩
      · rw [List.foldl_cons, bytes, List.map_cons, List.sum_cons, ← Nat.add_assoc]
        rfl
      · rw [List.foldl_cons, first]
        cases known : p.firstChunkTs with
        | none =>
            unfold record
            rw [known]
            rfl
        | some firstTs =>
            unfold record
            rw [known]
            rfl
      · rw [List.foldl_cons, last, List.getLast?_cons]
        cases chunks.getLast? with
        | none => rfl
        | some chunk => rfl

/-- **The estimate** after some chunks. -/
theorem exactRemaining_recorded {chunks : List Chunk} {first last : Chunk} (isFirst : chunks.head? = some first)
    (isLast : chunks.getLast? = some last) (now : ℚ) :
    (recorded sampleRate chunks).exactRemaining now =
      max 0 (max (first.1 + lasts sampleRate chunks) (last.1 : ℚ) + playbackBuffer - now) := by
  obtain ⟨rate, bytes, firstTs, lastTs⟩ := record_chunks (.new sampleRate) chunks
  rw [isFirst] at firstTs
  rw [isLast] at lastTs
  have total : (PlaybackTracker.new sampleRate).totalBytes + (chunks.map Prod.snd).sum =
      (chunks.map Prod.snd).sum := Nat.zero_add _
  unfold recorded exactRemaining
  rw [firstTs, lastTs, rate, bytes, total, lasts_eq]
  rfl

/-- **The client has played everything** by a time if and only if the work from each chunk on is done by then. -/
theorem clientEnd_le_iff {chunks : List Chunk} {first : Chunk} (isFirst : chunks.head? = some first) {bound : ℚ} :
    clientEnd sampleRate chunks ≤ bound ↔ (first.1 : ℚ) + lasts sampleRate chunks ≤ bound ∧
      ∀ front chunk back, chunks = front ++ chunk :: back →
        (chunk.1 : ℚ) + lasts sampleRate (chunk :: back) ≤ bound := by
  obtain ⟨rest, rfl⟩ : ∃ rest, chunks = first :: rest := List.head?_eq_some_iff.1 isFirst
  unfold clientEnd
  dsimp only
  rw [finishFrom_le_iff]
  refine and_congr Iff.rfl ⟨fun each => ?_, fun each => ?_⟩
  · intro front chunk back split
    have played := each (front.map (job sampleRate)) (job sampleRate chunk) (back.map (job sampleRate))
    rw [split, List.map_append] at played
    exact played rfl
  · intro front played back split
    obtain ⟨front, later, chunks, rfl, more⟩ := List.map_eq_append_iff.1 split
    obtain ⟨chunk, back, rfl, rfl, rfl⟩ := List.map_eq_cons_iff.1 more
    exact each front chunk back chunks

/-- **The client is done by the estimated end** if and only if its chunks are covered. -/
theorem clientEnd_le_estimate_iff {chunks : List Chunk} {first last : Chunk} (isFirst : chunks.head? = some first)
    (isLast : chunks.getLast? = some last) :
    clientEnd sampleRate chunks ≤ max (first.1 + lasts sampleRate chunks) (last.1 : ℚ) + playbackBuffer ↔
      Covered sampleRate chunks := by
  have slack : (0 : ℚ) ≤ playbackBuffer := Nat.cast_nonneg _
  rw [clientEnd_le_iff sampleRate isFirst]
  have covered : Covered sampleRate chunks ↔ ∀ front chunk back, chunks = front ++ chunk :: back →
      (chunk.1 : ℚ) ≤ first.1 + lasts sampleRate front + playbackBuffer ∨
        (chunk.1 : ℚ) + lasts sampleRate (chunk :: back) ≤ last.1 + playbackBuffer := by
    unfold Covered
    rw [isFirst, isLast]
    simp only [Option.mem_def, Option.some.injEq, forall_eq']
  rw [covered]
  constructor
  · rintro ⟨-, each⟩ front chunk back split
    have bound := each front chunk back split
    rw [max_add, le_max_iff] at bound
    refine bound.imp_left fun early => ?_
    have whole : lasts sampleRate chunks = lasts sampleRate front + lasts sampleRate (chunk :: back) := by
      rw [split, lasts_append]
    linarith
  · intro each
    refine ⟨?_, ?_⟩
    · have least := le_max_left ((first.1 : ℚ) + lasts sampleRate chunks) (last.1 : ℚ)
      linarith
    · intro front chunk back split
      have whole : lasts sampleRate chunks = lasts sampleRate front + lasts sampleRate (chunk :: back) := by
        rw [split, lasts_append]
      rw [max_add, le_max_iff]
      refine (each front chunk back split).imp_left fun early => ?_
      linarith

/-- **The estimate never falls short** if and only if the chunks are covered. -/
theorem never_short_iff (chunks : List Chunk) : NeverShort sampleRate chunks ↔ Covered sampleRate chunks := by
  rcases chunks with _ | ⟨first, rest⟩
  · refine ⟨fun _ => nofun, fun _ now _ => ?_⟩
    exact le_rfl
  · obtain ⟨last, isLast⟩ : ∃ last, (first :: rest).getLast? = some last :=
      ⟨_, List.getLast?_eq_some_getLast (List.cons_ne_nil first rest)⟩
    have slack : (0 : ℚ) ≤ playbackBuffer := Nat.cast_nonneg _
    rw [← clientEnd_le_estimate_iff sampleRate rfl isLast]
    constructor
    · intro never
      have atLast := never last.1 fun other isOther => by
        rw [isLast] at isOther
        rw [← Option.some.inj isOther]
      rw [stillPlays, if_neg (List.cons_ne_nil first rest), exactRemaining_recorded sampleRate rfl isLast] at atLast
      -- At the last arrival the estimate is at least the slack, so nothing is cut off at zero.
      have later := le_max_right ((first.1 : ℚ) + lasts sampleRate (first :: rest)) (last.1 : ℚ)
      have positive : 0 ≤ max ((first.1 : ℚ) + lasts sampleRate (first :: rest)) (last.1 : ℚ) +
          playbackBuffer - last.1 := by
        linarith
      have plays := (le_max_right _ _).trans (atLast.trans (max_le positive le_rfl))
      linarith
    · intro done now _
      rw [stillPlays, if_neg (List.cons_ne_nil first rest), exactRemaining_recorded sampleRate rfl isLast]
      exact max_le_max le_rfl (sub_le_sub_right done now)

end Recorded

/-! ## Whole nanoseconds -/

/-- The tracker's duration is the exact one, in whole nanoseconds. -/
theorem totalAudioDuration_eq (p : PlaybackTracker) :
    p.totalAudioDuration = ⌊duration p.sampleRate p.totalBytes⌋₊ := by
  unfold totalAudioDuration duration Duration.fromSecs
  dsimp only
  rw [Nat.floor_div_eq_div]
  split
  · rename_i silent
    rw [silent, Nat.div_zero]
  · rfl

/-- Bytes last no negative time. -/
theorem duration_nonneg (sampleRate bytes : ℕ) : 0 ≤ duration sampleRate bytes := by
  unfold duration
  positivity

/-- A time that is left, cut to whole units. -/
theorem truncated_bounds (first last slack now : ℕ) {length : ℚ} (nonneg : 0 ≤ length) :
    ((max (first + ⌊length⌋₊) last + slack - now : ℕ) : ℚ) ≤
        max 0 (max ((first : ℚ) + length) last + slack - now) ∧
      max 0 (max ((first : ℚ) + length) last + slack - now) <
        ((max (first + ⌊length⌋₊) last + slack - now : ℕ) : ℚ) + 1 := by
  have below := Nat.floor_le nonneg
  have above := Nat.lt_floor_add_one length
  -- The end in whole units is at most a unit too early.
  have early : (max ((first : ℚ) + ⌊length⌋₊) last : ℚ) ≤ max ((first : ℚ) + length) last :=
    max_le_max (by linarith) le_rfl
  have late : max ((first : ℚ) + length) last < max ((first : ℚ) + ⌊length⌋₊) last + 1 := by
    have fromFirst := le_max_left ((first : ℚ) + ⌊length⌋₊) (last : ℚ)
    have fromLast := le_max_right ((first : ℚ) + ⌊length⌋₊) (last : ℚ)
    exact max_lt (by linarith) (by linarith)
  rcases le_total now (max (first + ⌊length⌋₊) last + slack) with before | after
  · rw [Nat.cast_sub before]
    have left : (now : ℚ) ≤ ((max (first + ⌊length⌋₊) last + slack : ℕ) : ℚ) := Nat.cast_le.2 before
    push_cast at left ⊢
    exact ⟨(by linarith : _ ≤ _).trans (le_max_right 0 _), max_lt (by linarith) (by linarith)⟩
  · rw [Nat.sub_eq_zero_of_le after, Nat.cast_zero]
    have ended : ((max (first + ⌊length⌋₊) last + slack : ℕ) : ℚ) ≤ now := Nat.cast_le.2 after
    push_cast at ended
    exact ⟨le_max_left 0 _, max_lt (by linarith) (by linarith)⟩

/-- **The estimate is the exact one, in whole nanoseconds.** -/
theorem remainingPlayback_bounds (now : Instant) (p : PlaybackTracker) :
    (p.remainingPlayback now : ℚ) ≤ p.exactRemaining now ∧
      p.exactRemaining now < p.remainingPlayback now + 1 := by
  cases known : p.firstChunkTs with
  | none =>
      unfold remainingPlayback exactRemaining
      rw [known]
      exact ⟨Nat.cast_zero.le, by norm_num⟩
  | some firstTs =>
      unfold remainingPlayback exactRemaining
      rw [known, totalAudioDuration_eq]
      dsimp only
      exact truncated_bounds _ _ _ _ (duration_nonneg _ _)

end PlaybackTracker

end Feros
