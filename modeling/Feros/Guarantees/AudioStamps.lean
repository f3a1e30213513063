import Feros.Stages
/-! # The stamps of bot audio

Every chunk of bot audio is stamped with the sample it starts at.  `AgentAudioCursor` computes the
samples elapsed in 64 bits, **`elapsedSamplesU64`**: the nanoseconds and their product with the rate
wrap around.  With these, chunks never overlap; and within a day nothing wraps around at any rate up
to 192 kHz. -/

namespace Feros

namespace AgentAudioCursor

/-! ## Calls of a cursor -/

/-- A call of the cursor, and the time at which it is made if it looks at the clock. -/
inductive Call where
  | beginTurn
  | resetOrigin (now : Instant)
  | stamp (now : Instant) (pcmBytes : ℕ)
  deriving DecidableEq, Repr

namespace Call

/-- What the call reads off the clock. -/
def reading : Call → Option Instant
  | .beginTurn => none
  | .resetOrigin now => some now
  | .stamp now _ => some now

/-- A chunk is stamped. -/
def IsStamp : Call → Prop
  | .stamp _ _ => True
  | _ => False

end Call

/-- **The clock never goes back**, from the start of the session on. -/
def Forward (start : Instant) (calls : List Call) : Prop :=
  (start :: calls.filterMap Call.reading).Pairwise (· ≤ ·)

/-- Wall-clock elapsed time in samples, as it is computed: in 64 bits. -/
def elapsedSamplesU64 (now : Instant) (c : AgentAudioCursor) : ℕ :=
  (now - c.sessionStart) % 2 ^ 64 * c.sampleRate % 2 ^ 64 / 1000000000

/-- The start offset of a chunk, and the cursor advanced past it, with the elapsed time as it is
computed. -/
def stampU64 (now : Instant) (pcmBytes : ℕ) (c : AgentAudioCursor) : ℕ × AgentAudioCursor :=
  let start := if c.pendingTurnSnap then max c.cursor (c.elapsedSamplesU64 now) else c.cursor
  (start, { c with cursor := start + pcmBytes / 2, pendingTurnSnap := false })

/-- A call. -/
def call (c : AgentAudioCursor) : Call → AgentAudioCursor
  | .beginTurn => c.beginTurn
  | .resetOrigin now => c.resetOrigin now
  | .stamp now pcmBytes => (c.stampU64 now pcmBytes).2

/-- The cursor of a session after some calls. -/
def after (start : Instant) (sampleRate : ℕ) (calls : List Call) : AgentAudioCursor :=
  calls.foldl call (new start sampleRate)

/-- **The offset of a chunk** stamped after some calls. -/
def offset (start : Instant) (sampleRate : ℕ) (calls : List Call) (now : Instant) : ℕ :=
  ((after start sampleRate calls).stampU64 now 0).1

/-- Since when time counts: since the last reset, or the start of the session. -/
def origin (start : Instant) : List Call → Instant
  | [] => start
  | .resetOrigin now :: calls => origin now calls
  | _ :: calls => origin start calls

/-! ## Nothing wraps around -/

/-- **The elapsed time is exact** if the product stays below 2⁶⁴. -/
theorem elapsedSamplesU64_eq {now : Instant} {c : AgentAudioCursor}
    (small : (now - c.sessionStart) * c.sampleRate < 2 ^ 64) :
    c.elapsedSamplesU64 now = c.elapsedSamples now := by
  rcases Nat.eq_zero_or_pos c.sampleRate with zero | pos
  · rw [elapsedSamplesU64, elapsedSamples, zero, Nat.mul_zero, Nat.mul_zero, Nat.zero_mod]
  · have short : now - c.sessionStart < 2 ^ 64 := (Nat.le_mul_of_pos_right _ pos).trans_lt small
    rw [elapsedSamplesU64, elapsedSamples, Nat.mod_eq_of_lt short, Nat.mod_eq_of_lt small]

/-- **The stamp is the one of the recording model** if nothing wraps around. -/
theorem stampU64_eq {now : Instant} {c : AgentAudioCursor}
    (small : (now - c.sessionStart) * c.sampleRate < 2 ^ 64) (pcmBytes : ℕ) :
    c.stampU64 now pcmBytes = c.stamp now pcmBytes := by
  rw [stampU64, stamp, elapsedSamplesU64_eq small]

/-- A day, in nanoseconds. -/
def day : Duration := 24 * 60 * 60 * 1000000000

/-- The product of a day and a rate fits into 64 bits. -/
theorem product_lt {nanos sampleRate : ℕ} (short : nanos < day) (rate : sampleRate ≤ 192000) :
    nanos * sampleRate < 2 ^ 64 := by
  calc nanos * sampleRate ≤ day * 192000 := Nat.mul_le_mul short.le rate
    _ < 2 ^ 64 := by decide

/-! ## What calls do to the cursor -/

section Calls

variable (c : AgentAudioCursor)

/-- No call changes the sample rate. -/
@[simp] theorem sampleRate_call (call : Call) : (c.call call).sampleRate = c.sampleRate := by
  cases call <;> rfl

/-- No calls change the sample rate. -/
theorem sampleRate_foldl (calls : List Call) : (calls.foldl call c).sampleRate = c.sampleRate := by
  induction calls generalizing c with
  | nil => rfl
  | cons call calls ih => rw [List.foldl_cons, ih, sampleRate_call]

/-- **The session starts at the origin.** -/
theorem sessionStart_foldl (calls : List Call) :
    (calls.foldl call c).sessionStart = origin c.sessionStart calls := by
  induction calls generalizing c with
  | nil => rfl
  | cons call calls ih =>
      rw [List.foldl_cons, ih]
      cases call <;> rfl

variable {calls : List Call} (quiet : ∀ call ∈ calls, ¬ call.IsStamp)
include quiet

/-- **Between two chunks the cursor stays**, and a snap is pending if a turn begins. -/
theorem foldl_quiet : (calls.foldl call c).cursor = c.cursor ∧
    (calls.foldl call c).pendingTurnSnap = (c.pendingTurnSnap || decide (Call.beginTurn ∈ calls)) := by
  induction calls generalizing c with
  | nil => exact ⟨rfl, (Bool.or_false _).symm⟩
  | cons first calls ih =>
      rw [List.foldl_cons]
      have rest : ∀ call ∈ calls, ¬ call.IsStamp := fun call held => quiet call (List.mem_cons_of_mem _ held)
      obtain ⟨cursor, pending⟩ := ih (c.call first) rest
      rw [cursor, pending]
      cases first with
      | beginTurn =>
          refine ⟨rfl, ?_⟩
          rw [decide_eq_true (List.mem_cons_self ..), Bool.or_true]
          exact Bool.true_or _
      | resetOrigin now =>
          refine ⟨rfl, ?_⟩
          have same : Call.beginTurn ∈ Call.resetOrigin now :: calls ↔ Call.beginTurn ∈ calls := by
            simp
          rw [decide_eq_decide.2 same]
          rfl
      | stamp now bytes => exact absurd trivial (quiet _ (List.mem_cons_self ..))

/-- **The next chunk** goes to the cursor, or to where the clock is if that is further in a new turn. -/
theorem stampU64_foldl_quiet (now : Instant) :
    ((calls.foldl call c).stampU64 now 0).1 =
      if c.pendingTurnSnap = true ∨ Call.beginTurn ∈ calls then
        max c.cursor ((calls.foldl call c).elapsedSamplesU64 now)
      else c.cursor := by
  obtain ⟨cursor, pending⟩ := foldl_quiet c quiet
  rw [stampU64, pending, cursor]
  by_cases begun : c.pendingTurnSnap = true ∨ Call.beginTurn ∈ calls
  · rw [if_pos begun, if_pos (by simpa using begun)]
  · rw [if_neg begun, if_neg (by simpa using begun)]

end Calls

/-! ## Runs -/

section Sequences

variable (start : Instant) (sampleRate : ℕ)

/-- The samples on the clock at some time, after some calls. -/
def wall (calls : List Call) (now : Instant) : ℕ :=
  (now - origin start calls) * sampleRate / 1000000000

/-- **Chunks come one behind the other.** -/
structure Consecutive (calls : List Call) : Prop where
  /-- A chunk starts where the one before it ends, or later. -/
  behind : ∀ front now bytes middle now' bytes' back,
    calls = front ++ .stamp now bytes :: (middle ++ .stamp now' bytes' :: back) →
      (∀ call ∈ middle, ¬ call.IsStamp) →
        offset start sampleRate front now + bytes / 2 ≤
          offset start sampleRate (front ++ .stamp now bytes :: middle) now'
  /-- Inside a turn it starts where the one before it ends. -/
  adjacent : ∀ front now bytes middle now' bytes' back,
    calls = front ++ .stamp now bytes :: (middle ++ .stamp now' bytes' :: back) →
      (∀ call ∈ middle, ¬ call.IsStamp) → Call.beginTurn ∉ middle →
        offset start sampleRate (front ++ .stamp now bytes :: middle) now' =
          offset start sampleRate front now + bytes / 2

/-- **The first chunk of a turn snaps to the clock**, but not back behind the previous end. -/
structure Snapped (calls : List Call) : Prop where
  turn : ∀ front now bytes middle now' bytes' back,
    calls = front ++ .stamp now bytes :: (middle ++ .stamp now' bytes' :: back) →
      (∀ call ∈ middle, ¬ call.IsStamp) → Call.beginTurn ∈ middle →
        offset start sampleRate (front ++ .stamp now bytes :: middle) now' =
          max (offset start sampleRate front now + bytes / 2)
            (wall start sampleRate (front ++ .stamp now bytes :: middle) now')
  /-- Before the first chunk nothing has been placed. -/
  first : ∀ middle now bytes back, calls = middle ++ .stamp now bytes :: back →
    (∀ call ∈ middle, ¬ call.IsStamp) → Call.beginTurn ∈ middle →
      offset start sampleRate middle now = max 0 (wall start sampleRate middle now)

/-- **No intermediate product overflows** in a stamp. -/
def Fits (calls : List Call) : Prop :=
  ∀ front now bytes back, calls = front ++ .stamp now bytes :: back →
    now - origin start front < 2 ^ 64 ∧ (now - origin start front) * sampleRate < 2 ^ 64

/-- The cursor behind a chunk. -/
theorem after_stamp (front : List Call) (now : Instant) (bytes : ℕ) (middle : List Call) :
    after start sampleRate (front ++ .stamp now bytes :: middle) =
      middle.foldl call ((after start sampleRate front).stampU64 now bytes).2 := by
  rw [after, List.foldl_append, List.foldl_cons]
  rfl

/-- **Where a chunk goes that follows another.** -/
theorem offset_next (front : List Call) (now : Instant) (bytes : ℕ) {middle : List Call}
    (quiet : ∀ call ∈ middle, ¬ call.IsStamp) (now' : Instant) :
    offset start sampleRate (front ++ .stamp now bytes :: middle) now' =
      if Call.beginTurn ∈ middle then
        max (offset start sampleRate front now + bytes / 2)
          ((after start sampleRate (front ++ .stamp now bytes :: middle)).elapsedSamplesU64 now')
      else offset start sampleRate front now + bytes / 2 := by
  rw [offset, after_stamp, stampU64_foldl_quiet _ quiet]
  by_cases begun : Call.beginTurn ∈ middle
  · rw [if_pos begun, if_pos (.inr begun)]
    rfl
  · rw [if_neg begun, if_neg]
    · rfl
    · rintro (pending | begun')
      · cases pending
      · exact begun begun'

/-- What the clock shows, if nothing wraps around. -/
theorem elapsedSamplesU64_after {calls : List Call} {now : Instant}
    (small : (now - origin start calls) * sampleRate < 2 ^ 64) :
    (after start sampleRate calls).elapsedSamplesU64 now = wall start sampleRate calls now := by
  have started : (after start sampleRate calls).sessionStart = origin start calls :=
    sessionStart_foldl _ calls
  have rate : (after start sampleRate calls).sampleRate = sampleRate := sampleRate_foldl _ calls
  rw [elapsedSamplesU64_eq (by rwa [started, rate]), elapsedSamples, started, rate, wall]

/-- **Chunks never overlap**, whatever wraps around. -/
theorem consecutive (calls : List Call) : Consecutive start sampleRate calls := by
  constructor
  · intro front now bytes middle now' bytes' back _ quiet
    rw [offset_next start sampleRate front now bytes quiet]
    by_cases begun : Call.beginTurn ∈ middle
    · rw [if_pos begun]
      exact le_max_left _ _
    · rw [if_neg begun]
  · intro front now bytes middle now' bytes' back _ quiet same
    rw [offset_next start sampleRate front now bytes quiet, if_neg same]

variable {start sampleRate} {calls : List Call}

/-- **Turns snap to the clock** if nothing wraps around. -/
theorem Fits.snapped (fits : Fits start sampleRate calls) : Snapped start sampleRate calls := by
  constructor
  · intro front now bytes middle now' bytes' back split quiet begun
    have small : (now' - origin start (front ++ .stamp now bytes :: middle)) * sampleRate < 2 ^ 64 := by
      refine (fits (front ++ .stamp now bytes :: middle) now' bytes' back ?_).2
      rw [split, List.append_assoc]
      rfl
    rw [offset_next start sampleRate front now bytes quiet, if_pos begun,
      elapsedSamplesU64_after start sampleRate small]
  · intro middle now bytes back split quiet begun
    have small := (fits middle now bytes back split).2
    rw [← elapsedSamplesU64_after start sampleRate small, offset, after,
      stampU64_foldl_quiet _ quiet, if_pos (.inr begun)]
    rfl

/-- Time counts since some time after the start of the session. -/
theorem le_origin {front back : List Call} (forward : Forward start (front ++ back)) :
    start ≤ origin start front := by
  induction front generalizing start with
  | nil => exact le_rfl
  | cons call front ih =>
      cases call with
      | beginTurn => exact ih forward
      | resetOrigin now =>
          obtain ⟨later, rest⟩ := List.pairwise_cons.1 forward
          exact (later now (List.mem_cons_self ..)).trans (ih rest)
      | stamp now bytes =>
          obtain ⟨later, rest⟩ := List.pairwise_cons.1 forward
          refine ih (List.pairwise_cons.2 ⟨?_, (List.pairwise_cons.1 rest).2⟩)
          exact fun time held => later time (List.mem_cons_of_mem _ held)

/-- **Nothing overflows within a day.** -/
theorem fits_of_short (forward : Forward start calls)
    (short : ∀ now ∈ calls.filterMap Call.reading, now - start < day) (rate : sampleRate ≤ 192000) :
    Fits start sampleRate calls := by
  rintro front now bytes back rfl
  have since : now - origin start front < day := by
    have early := le_origin forward
    have read : now - start < day := by
      apply short
      rw [List.filterMap_append]
      exact List.mem_append_right _ (List.mem_cons_self ..)
    exact (Nat.sub_le_sub_left early now).trans_lt read
  refine ⟨?_, product_lt since rate⟩
  exact since.trans (by decide)

end Sequences

/-- **The stamps of bot audio never overlap.**  Chunks come one behind the other, without gaps inside
a turn; and in a session shorter than a day no product overflows, and every turn starts at the
previous end or at the time on the clock, whichever is later. -/
theorem stamps_never_overlap {start : Instant} {sampleRate : ℕ} {calls : List Call}
    (forward : Forward start calls) : Consecutive start sampleRate calls ∧
      ((∀ now ∈ calls.filterMap Call.reading, now - start < day) → sampleRate ≤ 192000 →
        Fits start sampleRate calls ∧ Snapped start sampleRate calls) := by
  refine ⟨consecutive start sampleRate calls, ?_⟩
  intro short rate
  have fits := fits_of_short forward short rate
  exact ⟨fits, fits.snapped⟩

/-- Two turns at 24 kHz, with a reset of the origin between them. -/
def twoTurns : List Call :=
  [.beginTurn, .stamp 1000000000 960, .stamp 1010000000 960, .resetOrigin 2000000000, .beginTurn,
    .stamp 3000000000 960]

/-- Two turns at 24 kHz, with a reset of the origin between them. -/
theorem stamps_never_overlap_twoTurns : Consecutive 0 24000 twoTurns ∧ Fits 0 24000 twoTurns ∧
    Snapped 0 24000 twoTurns := by
  have forward : Forward 0 twoTurns := by
    unfold Forward
    decide
  have short : ∀ now ∈ twoTurns.filterMap Call.reading, now - 0 < day := by decide
  have stamps := @stamps_never_overlap 0 24000 twoTurns forward
  exact ⟨stamps.1, stamps.2 short (by decide)⟩

end AgentAudioCursor

end Feros
