import Feros.Audio.Denoiser
import Mathlib.Algebra.Ring.Int.Defs
import Mathlib.Data.List.Flatten
import Mathlib.Data.List.Forall2
/-! # What the denoisers do to a stream

However the audio is cut into calls, a denoiser cuts its samples into the same frames, and the audio it
answers with is what its machine made of them, in order and without a gap; all else it answers is silence.
DTLN falls behind by less than a shift and a call, and never falls behind again. -/

namespace Feros

open Frames

namespace Denoiser

variable {κ σ ω α : Type} {parts : DenoiserParts κ σ ω α} {start d : Denoiser κ σ ω α}

/-- The calls one after the other, with what each is answered with. -/
def denoise (parts : DenoiserParts κ σ ω α) (d : Denoiser κ σ ω α) (calls : List Bytes) :
    List Bytes × Denoiser κ σ ω α :=
  feed (fun d pcm => ([(d.denoiseFrame parts pcm).1], (d.denoiseFrame parts pcm).2)) d calls

/-- A call is answered with audio that is there, or with silence. -/
def answered (pcm : Bytes) (given : Option Bytes) : Bytes :=
  given.getD (List.replicate (pcm.length / 2 * 2) 0)

/-- The audio that was given. -/
def heard (given : List (Option Bytes)) : Bytes := (given.flatMap Option.toList).flatten

/-- What is heard of one list of answers after the other. -/
theorem heard_append (first second : List (Option Bytes)) :
    heard (first ++ second) = heard first ++ heard second := by
  unfold heard
  rw [List.flatMap_append, List.flatten_append]

/-- What is heard of one answer. -/
theorem heard_singleton (given : Option Bytes) : heard [given] = given.toList.flatten := by
  unfold heard
  rw [List.flatMap_singleton]

/-- **What the answers amount to**: the frames of all the audio went through the machine, and what it made of
them was given or is kept. -/
structure Worked (parts : DenoiserParts κ σ ω α) (start : Denoiser κ σ ω α) (calls : List Bytes)
    (given : List (Option Bytes)) (d : Denoiser κ σ ω α) (frames : List (List α)) (pieces : List Bytes) :
    Prop where
  loaded : d.loaded = true
  up : d.up = (feed parts.up start.up calls).2
  framed : Framed parts.frameSize (feed parts.up start.up calls).1 frames d.buf
  machine : d.machine = (feed parts.work start.machine frames).2
  /-- The audio on its way back, as the resampler gets it. -/
  whole : pieces.flatten = (feed parts.work start.machine frames).1
  some_audio : ∀ piece ∈ pieces, piece ≠ []
  down : d.down = (feed parts.down start.down pieces).2
  out : heard given ++ d.outBuf = (feed parts.down start.down pieces).1
  /-- A call is answered with as much audio as it brought. -/
  lengths : List.Forall₂ (fun pcm given => (answered pcm given).length = pcm.length / 2 * 2) calls given

/-- **One call.** -/
theorem Worked.advance {calls : List Bytes} {given : List (Option Bytes)} {frames : List (List α)}
    {pieces : List Bytes} (pos : 0 < parts.frameSize) (worked : Worked parts start calls given d frames pieces)
    (pcm : Bytes) :
    ∃ frames' pieces', Worked parts start (calls ++ [pcm]) (given ++ [(d.advance parts pcm).1])
      (d.advance parts pcm).2 (frames ++ frames') (pieces ++ pieces') := by
  -- The machine takes the whole frames from the front of the buffer.
  obtain ⟨frames', framed, outs, machine⟩ := pump_spec pos parts.work d.machine
    (Nat.le_refl (d.buf ++ (parts.up d.up pcm).1).length)
  have ups : feed parts.up start.up (calls ++ [pcm]) =
      ((feed parts.up start.up calls).1 ++ (parts.up d.up pcm).1, (parts.up d.up pcm).2) := by
    rw [feed_append, ← worked.up]
    simp only [feed, List.append_nil]
  have works : feed parts.work start.machine (frames ++ frames') =
      ((feed parts.work start.machine frames).1 ++ (feed parts.work d.machine frames').1,
        (feed parts.work d.machine frames').2) := by
    rw [feed_append, ← worked.machine]
  set made := pump parts.frameSize parts.work (d.buf ++ (parts.up d.up pcm).1).length d.machine
    (d.buf ++ (parts.up d.up pcm).1) with made_eq
  -- What goes to the resampler, if there is anything.
  obtain ⟨pieces', some_audio, whole, downs⟩ : ∃ pieces' : List Bytes, (∀ piece ∈ pieces', piece ≠ []) ∧
      pieces'.flatten = made.1 ∧
      (if made.1.isEmpty then ([], d.down) else parts.down d.down made.1) = feed parts.down d.down pieces' := by
    by_cases empty : made.1 = []
    · exact ⟨[], fun _ held => (List.not_mem_nil held).elim, empty.symm, by rw [empty]; rfl⟩
    · refine ⟨[made.1], ?_, List.flatten_singleton, ?_⟩
      · intro piece held
        rwa [List.mem_singleton.1 held]
      · rw [if_neg (by simpa using empty)]
        simp only [feed, List.append_nil]
  have ends : feed parts.down start.down (pieces ++ pieces') =
      ((feed parts.down start.down pieces).1 ++ (feed parts.down d.down pieces').1,
        (feed parts.down d.down pieces').2) := by
    rw [feed_append, ← worked.down]
  -- What is delivered and what is kept is all the audio that came out.
  have kept := deliver_kept (pcm.length / 2 * 2) (d.outBuf ++ (feed parts.down d.down pieces').1)
  have after : d.advance parts pcm =
      ((deliver (pcm.length / 2 * 2) (d.outBuf ++ (feed parts.down d.down pieces').1)).1,
        { d with
          up := (parts.up d.up pcm).2
          machine := made.2.1
          down := (feed parts.down d.down pieces').2
          buf := made.2.2
          outBuf := (deliver (pcm.length / 2 * 2) (d.outBuf ++ (feed parts.down d.down pieces').1)).2 }) := by
    rw [← downs]
    rfl
  rw [after]
  refine ⟨frames', pieces', ?_⟩
  constructor
  · exact worked.loaded
  · rw [ups]
  · rw [ups]
    exact worked.framed.append framed
  · rw [works, ← machine]
  · rw [List.flatten_append, worked.whole, whole, works, ← outs]
  · intro piece held
    rcases List.mem_append.1 held with before | here
    · exact worked.some_audio piece before
    · exact some_audio piece here
  · rw [ends]
  · rw [heard_append, heard_singleton, List.append_assoc, kept, ← List.append_assoc, worked.out, ends]
  · refine List.rel_append worked.lengths (.cons ?_ .nil)
    unfold answered
    -- A call that gets no frame is answered with silence of its own length.
    rcases gives : (deliver (pcm.length / 2 * 2) (d.outBuf ++ (feed parts.down d.down pieces').1)).1 with - | out
    · rw [Option.getD_none, List.length_replicate]
    · rw [Option.getD_some, deliver_length gives]

/-- At the start nothing was worked on. -/
theorem worked_start (loaded : start.loaded = true) (empty : start.buf = []) (nothing : start.outBuf = [])
    (pos : 0 < parts.frameSize) : Worked parts start [] [] start [] [] := by
  refine ⟨loaded, rfl, ?_, rfl, rfl, nofun, rfl, nothing, .nil⟩
  rw [empty]
  exact Framed.of_short pos

/-- A call that brings audio. -/
theorem denoiseFrame_eq (loaded : d.loaded = true) {pcm : Bytes} (brings : 2 ≤ pcm.length) :
    d.denoiseFrame parts pcm = (answered pcm (d.advance parts pcm).1, (d.advance parts pcm).2) := by
  unfold denoiseFrame
  rw [if_neg]
  · rfl
  · rw [loaded]
    simp only [Bool.true_eq_false, or_false]
    omega

/-- A call is answered with as much audio as it brought. -/
theorem length_advance {pcm out : Bytes} (gives : (d.advance parts pcm).1 = some out) :
    out.length = pcm.length / 2 * 2 := by
  unfold advance at gives
  exact deliver_length gives

/-- The stage never has to pass a frame through because of an empty answer. -/
theorem denoiserStage_eq (parts : DenoiserParts κ σ ω α) (d : Denoiser κ σ ω α) {frame : Bytes}
    (brings : 2 ≤ frame.length) :
    denoiserStage parts (some d) frame = ((d.denoiseFrame parts frame).1, some (d.denoiseFrame parts frame).2) := by
  have full : (d.denoiseFrame parts frame).1 ≠ [] := by
    apply List.ne_nil_of_length_pos
    unfold denoiseFrame
    split
    · exact Nat.lt_of_lt_of_le Nat.zero_lt_two brings
    · dsimp only
      rcases gives : (d.advance parts frame).1 with - | out
      · rw [Option.getD_none, List.length_replicate]
        omega
      · rw [Option.getD_some, length_advance gives]
        omega
  unfold denoiserStage
  dsimp only
  rw [if_neg (by simpa using full)]

/-- What the calls are answered with, as far as it is there. -/
def answers (parts : DenoiserParts κ σ ω α) (d : Denoiser κ σ ω α) : List Bytes → List (Option Bytes)
  | [] => []
  | pcm :: calls => (d.advance parts pcm).1 :: answers parts (d.advance parts pcm).2 calls

/-- **Call after call.** -/
theorem worked_denoise {before calls : List Bytes} {given : List (Option Bytes)} {frames : List (List α)}
    {pieces : List Bytes} (pos : 0 < parts.frameSize) (worked : Worked parts start before given d frames pieces)
    (bring : ∀ pcm ∈ calls, 2 ≤ pcm.length) :
    (d.denoise parts calls).1 = List.zipWith answered calls (d.answers parts calls) ∧
      ∃ frames' pieces', Worked parts start (before ++ calls) (given ++ d.answers parts calls)
        (d.denoise parts calls).2 (frames ++ frames') (pieces ++ pieces') := by
  induction calls generalizing before d given frames pieces with
  | nil =>
      refine ⟨rfl, [], [], ?_⟩
      unfold answers
      simp only [List.append_nil]
      exact worked
  | cons pcm calls ih =>
      obtain ⟨first, first_pieces, next⟩ := worked.advance pos pcm
      obtain ⟨results, frames', pieces', last⟩ := ih next
        fun other held => bring other (List.mem_cons_of_mem _ held)
      have call : d.denoiseFrame parts pcm = (answered pcm (d.advance parts pcm).1, (d.advance parts pcm).2) :=
        denoiseFrame_eq worked.loaded (bring pcm List.mem_cons_self)
      refine ⟨?_, first ++ frames', first_pieces ++ pieces', ?_⟩
      · unfold denoise at results ⊢
        unfold answers
        rw [feed, call, results, List.zipWith_cons_cons, List.singleton_append]
      · have there : (d.denoise parts (pcm :: calls)).2 = ((d.advance parts pcm).2.denoise parts calls).2 := by
          unfold denoise
          rw [feed, call]
        unfold answers
        rw [there, ← List.singleton_append (l := calls),
          ← List.singleton_append (l := answers parts (d.advance parts pcm).2 calls),
          ← List.append_assoc, ← List.append_assoc, ← List.append_assoc, ← List.append_assoc]
        exact last

/-! ## Calls of any size -/

/-- The call brings a sample. -/
def brings (pcm : Bytes) : Bool := 2 ≤ pcm.length

/-- A call without a whole sample is answered with what it brought, and changes nothing. -/
theorem denoiseFrame_of_not_brings {pcm : Bytes} (small : brings pcm = false) :
    d.denoiseFrame parts pcm = (pcm, d) := by
  have short := of_decide_eq_false small
  unfold denoiseFrame
  rw [if_pos (.inl (by omega))]

/-- A call that brings audio is answered with as much of it. -/
theorem denoiseFrame_of_brings (parts : DenoiserParts κ σ ω α) (loaded : d.loaded = true) {pcm : Bytes}
    (some_ : brings pcm = true) :
    (d.denoiseFrame parts pcm).1.length = pcm.length / 2 * 2 ∧ (d.denoiseFrame parts pcm).2.loaded = true := by
  rw [denoiseFrame_eq loaded (of_decide_eq_true some_)]
  refine ⟨?_, loaded⟩
  unfold answered
  rcases gives : (d.advance parts pcm).1 with - | out
  · rw [Option.getD_none, List.length_replicate]
  · rw [Option.getD_some, length_advance gives]

/-- A call, and those behind it. -/
theorem denoise_cons (parts : DenoiserParts κ σ ω α) (d : Denoiser κ σ ω α) (pcm : Bytes) (calls : List Bytes) :
    d.denoise parts (pcm :: calls) =
      ((d.denoiseFrame parts pcm).1 :: ((d.denoiseFrame parts pcm).2.denoise parts calls).1,
        ((d.denoiseFrame parts pcm).2.denoise parts calls).2) := rfl

/-- Without its model a denoiser answers each call with what it brought. -/
theorem denoise_of_not_loaded (missing : d.loaded = false) (calls : List Bytes) :
    d.denoise parts calls = (calls, d) := by
  induction calls with
  | nil => rfl
  | cons pcm calls ih =>
      have same : d.denoiseFrame parts pcm = (pcm, d) := by
        unfold denoiseFrame
        rw [if_pos (.inr missing)]
      rw [denoise_cons, same, ih]

/-- **The calls that bring audio are all that counts**: the others are answered on their own. -/
theorem denoise_filter (parts : DenoiserParts κ σ ω α) (loaded : d.loaded = true) (calls : List Bytes) :
    d.denoise parts (calls.filter brings) =
        ((d.denoise parts calls).1.filter brings, (d.denoise parts calls).2) ∧
      List.Forall₂ (fun pcm result => if brings pcm then result.length = pcm.length / 2 * 2 else result = pcm) calls
        (d.denoise parts calls).1 := by
  induction calls generalizing d with
  | nil => exact ⟨rfl, .nil⟩
  | cons pcm calls ih =>
      rw [denoise_cons, List.filter_cons, List.filter_cons]
      by_cases some_ : brings pcm = true
      · obtain ⟨length, still⟩ := denoiseFrame_of_brings parts loaded some_
        obtain ⟨rest, sizes⟩ := ih still
        have full : brings (d.denoiseFrame parts pcm).1 = true := by
          have enough := of_decide_eq_true some_
          refine decide_eq_true ?_
          rw [length]
          omega
        rw [if_pos some_, if_pos full, denoise_cons, rest]
        exact ⟨rfl, .cons (by rw [if_pos some_]; exact length) sizes⟩
      · have small : brings pcm = false := Bool.eq_false_iff.2 some_
        rw [denoiseFrame_of_not_brings small, if_neg some_, if_neg some_]
        obtain ⟨rest, sizes⟩ := ih loaded
        exact ⟨rest, .cons (by rw [if_neg some_]) sizes⟩

/-- A model whose samples are pairs of bytes, which passes them on, with a resampler that changes nothing. -/
def pairModel : FullBandModel Unit Unit (UInt8 × UInt8) where
  sampleOf low high := (low, high)
  bytesOf pair := pair
  resample _ audio := (audio, ())
  processFrame _ frame := (frame, ())

/-- RNNoise with that model. -/
def pairDenoiser : Denoiser Unit Unit (Option Unit) (UInt8 × UInt8) := ⟨true, (), (), some (), [], []⟩

/-- A call of 481 samples, one of a single byte, and one of two samples. -/
def unevenCalls : List Bytes := [List.replicate 962 5, [9], [1, 0, 2, 0]]

/-- There is a sample for two bytes. -/
@[simp] theorem length_samplesOf (sampleOf : UInt8 → UInt8 → α) (pcm : Bytes) :
    (samplesOf sampleOf pcm).length = pcm.length / 2 := by
  fun_induction samplesOf sampleOf pcm with
  | case1 low high rest ih =>
      rw [List.length_cons, ih, List.length_cons, List.length_cons]
      omega
  | case2 pcm short =>
      rcases pcm with - | ⟨low, - | ⟨high, rest⟩⟩
      · rfl
      · simp
      · exact absurd rfl (short low high rest)

/-- A sample is two bytes. -/
theorem length_pcmOf (bytesOf : α → UInt8 × UInt8) (samples : List α) :
    (pcmOf bytesOf samples).length = 2 * samples.length := by
  unfold pcmOf
  rw [List.length_flatMap]
  simp [Nat.mul_comm]

/-- How many samples calls bring. -/
def brought (calls : List Bytes) : ℕ := (calls.map fun pcm => pcm.length / 2).sum

/-- There are as many samples as were brought. -/
theorem length_flatMap_samplesOf (sampleOf : UInt8 → UInt8 → α) (calls : List Bytes) :
    (calls.flatMap (samplesOf sampleOf)).length = brought calls := by
  unfold brought
  rw [List.length_flatMap]
  congr 1
  exact List.map_congr_left fun pcm _ => length_samplesOf sampleOf pcm

/-- Whether a call finds enough audio. -/
theorem advance_isSome (parts : DenoiserParts κ σ ω α) (d : Denoiser κ σ ω α) (pcm : Bytes) :
    (d.advance parts pcm).1.isSome ↔
      pcm.length / 2 * 2 ≤ (heard [(d.advance parts pcm).1] ++ (d.advance parts pcm).2.outBuf).length := by
  rw [heard_singleton]
  unfold advance
  dsimp only
  rw [deliver_kept]
  exact deliver_isSome _ _

variable {ν : Type} [Zero α] [Add α] {m : DtlnModel ν α}

/-- The buffer keeps its length when a block is added. -/
theorem length_overlapAdd {outBuffer : List α} (whole : outBuffer.length = 512) (block : List α) :
    (DtlnCore.overlapAdd outBuffer block).length = 512 := by
  unfold DtlnCore.overlapAdd Dtln.blockShift Dtln.blockLen
  simp only [List.length_append, List.length_zipWith, List.length_drop, List.length_replicate,
    List.length_take, whole]
  omega

/-- A shift puts out as many samples as it takes. -/
theorem shift_spec {c : DtlnCore ν α} (whole : c.outBuffer.length = 512) (chunk : List α) :
    (c.shift m chunk).1.length = 256 ∧ (c.shift m chunk).2.outBuffer.length = 512 := by
  have still : (c.processShift m chunk).outBuffer.length = 512 := by
    unfold DtlnCore.processShift
    dsimp only
    split
    · exact whole
    · exact length_overlapAdd whole _
  unfold DtlnCore.shift
  dsimp only
  split
  · refine ⟨List.length_replicate, ?_⟩
    dsimp only
    split
    · exact List.length_replicate
    · exact still
  · refine ⟨?_, still⟩
    rw [length_pcmOf, List.length_take, still]
    rfl

/-- There are 256 bytes for every shift. -/
theorem length_feed_shift {c : DtlnCore ν α} (whole : c.outBuffer.length = 512) (frames : List (List α)) :
    (feed (DtlnCore.shift m) c frames).1.length = 256 * frames.length := by
  induction frames generalizing c with
  | nil => rfl
  | cons chunk frames ih =>
      obtain ⟨here, still⟩ := shift_spec (m := m) whole chunk
      rw [feed, List.length_append, here, ih still, List.length_cons]
      omega

/-- There is nothing to resample. -/
theorem feed_dtln_up (calls : List Bytes) :
    feed (dtln m).up () calls = (calls.flatMap (samplesOf m.sampleOf), ()) := by
  induction calls with
  | nil => rfl
  | cons pcm calls ih =>
      rw [feed, show ((dtln m).up () pcm).2 = () from rfl, ih]
      rfl

/-- The way back of DTLN changes nothing. -/
theorem feed_dtln_down (pieces : List Bytes) : feed (dtln m).down () pieces = (pieces.flatten, ()) := by
  induction pieces with
  | nil => rfl
  | cons piece pieces ih =>
      rw [feed, show ((dtln m).down () piece).2 = () from rfl, ih]
      rfl

/-- **What is behind**: the audio that waits is what was brought and not heard. -/
theorem behind_of_worked {start d : Denoiser Unit (DtlnCore ν α) Unit α} {calls : List Bytes}
    {given : List (Option Bytes)} {frames : List (List α)} {pieces : List Bytes}
    (fresh : start.machine.outBuffer.length = 512) (worked : Worked (dtln m) start calls given d frames pieces) :
    (heard given).length + d.outBuf.length + 2 * d.buf.length = 2 * brought calls ∧
      d.buf.length = brought calls % 128 := by
  have framed := worked.framed
  have out := congrArg List.length worked.out
  rw [show start.up = () from rfl, feed_dtln_up] at framed
  rw [show start.down = () from rfl, feed_dtln_down, worked.whole, List.length_append] at out
  rw [show (dtln m).work = DtlnCore.shift m from rfl, length_feed_shift fresh] at out
  have rest := framed.length_rest
  have all := congrArg List.length framed.whole
  rw [List.length_append, length_flatten framed.length_eq, length_flatMap_samplesOf] at all
  rw [length_flatMap_samplesOf] at rest
  have size : (dtln m).frameSize = 128 := rfl
  rw [size] at all rest
  exact ⟨by omega, rest⟩

/-- **Which calls are answered with silence** does not depend on the audio. -/
theorem answers_isNone (calls : List Bytes) {start d : Denoiser Unit (DtlnCore ν α) Unit α} {before : List Bytes}
    {given : List (Option Bytes)} {frames : List (List α)} {pieces : List Bytes} {lag : ℕ}
    (fresh : start.machine.outBuffer.length = 512) (worked : Worked (dtln m) start before given d frames pieces)
    (behind : (heard given).length + 2 * lag = 2 * brought before) :
    (d.answers (dtln m) calls).map Option.isNone =
        refused 128 (brought before) lag (calls.map fun pcm => pcm.length / 2) ∧
      (heard (d.answers (dtln m) calls)).length + 2 * lagAfter 128 (brought before) lag
        (calls.map fun pcm => pcm.length / 2) = 2 * brought calls + 2 * lag := by
  induction calls generalizing before d given frames pieces lag with
  | nil => exact ⟨rfl, by simp [answers, heard, brought, lagAfter]⟩
  | cons pcm calls ih =>
      obtain ⟨first, first_pieces, next⟩ := worked.advance (Nat.succ_pos 127) pcm
      obtain ⟨waits, rest⟩ := behind_of_worked fresh next
      have enough := advance_isSome (dtln m) d pcm
      have total : brought (before ++ [pcm]) = brought before + pcm.length / 2 := by
        unfold brought
        rw [List.map_append, List.sum_append]
        simp
      have more : brought (pcm :: calls) = pcm.length / 2 + brought calls := List.sum_cons
      -- What is heard is what the first call gives and what the others give.
      have split : heard ((d.advance (dtln m) pcm).1 :: (d.advance (dtln m) pcm).2.answers (dtln m) calls) =
          heard [(d.advance (dtln m) pcm).1] ++ heard ((d.advance (dtln m) pcm).2.answers (dtln m) calls) := by
        rw [← heard_append, List.singleton_append]
      rw [total] at waits rest
      rw [heard_append, List.length_append] at waits
      rw [List.length_append] at enough
      unfold answers
      rw [List.map_cons, List.map_cons, refused, lagAfter, split, List.length_append, more, ← rest]
      by_cases short : lag < (d.advance (dtln m) pcm).2.buf.length
      · -- Too little audio: the call adds to what is behind.
        have none : (d.advance (dtln m) pcm).1 = none := by
          rw [← Option.not_isSome_iff_eq_none, enough]
          omega
        have silent : (heard [(d.advance (dtln m) pcm).1]).length = 0 := by rw [none]; rfl
        have further : (heard (given ++ [(d.advance (dtln m) pcm).1])).length + 2 * (lag + pcm.length / 2) =
            2 * brought (before ++ [pcm]) := by
          rw [heard_append, List.length_append, silent, total]
          omega
        obtain ⟨later, ends⟩ := ih next further
        rw [total] at later ends
        rw [if_pos short, if_pos short, silent, later]
        exact ⟨congrArg (· :: _) (by rw [none]; rfl), by omega⟩
      -- The call gets its audio, and what is behind stays the same.
      · have isSome : (d.advance (dtln m) pcm).1.isSome := by
          rw [enough]
          omega
        obtain ⟨out, some⟩ := Option.isSome_iff_exists.1 isSome
        have given' : (heard [(d.advance (dtln m) pcm).1]).length = pcm.length / 2 * 2 := by
          rw [some, heard_singleton, Option.toList_some, List.flatten_singleton, length_advance some]
        have same : (heard (given ++ [(d.advance (dtln m) pcm).1])).length + 2 * lag =
            2 * brought (before ++ [pcm]) := by
          rw [heard_append, List.length_append, given', total]
          omega
        obtain ⟨later, ends⟩ := ih next same
        rw [total] at later ends
        rw [if_neg short, if_neg short, given', later]
        exact ⟨congrArg (· :: _) (by rw [some]; rfl), by omega⟩

/-- What is heard of an answer, and of those behind it. -/
theorem heard_cons (audio : Option Bytes) (given : List (Option Bytes)) :
    heard (audio :: given) = audio.toList.flatten ++ heard given := by
  rw [← heard_singleton, ← heard_append, List.singleton_append]

/-- No more is heard than was brought. -/
theorem length_heard_le {calls : List Bytes} {given : List (Option Bytes)}
    (lengths : List.Forall₂ (fun pcm given => (answered pcm given).length = pcm.length / 2 * 2) calls given) :
    (heard given).length ≤ 2 * brought calls := by
  induction lengths with
  | nil => exact Nat.zero_le _
  | @cons pcm audio calls given here _ ih =>
      rw [heard_cons, List.length_append, show brought (pcm :: calls) = pcm.length / 2 + brought calls from
        List.sum_cons]
      rcases audio with - | out
      · rw [Option.toList_none, List.flatten_nil, List.length_nil]
        omega
      · rw [Option.toList_some, List.flatten_singleton]
        have exactly : out.length = pcm.length / 2 * 2 := here
        omega

/-- The audio of the answers is what was heard, if that is as much. -/
theorem flatten_answered {calls : List Bytes} {given : List (Option Bytes)}
    (lengths : List.Forall₂ (fun pcm given => (answered pcm given).length = pcm.length / 2 * 2) calls given)
    (all : (heard given).length = 2 * brought calls) :
    (List.zipWith answered calls given).flatten = heard given := by
  induction lengths with
  | nil => rfl
  | @cons pcm audio calls given here lengths ih =>
      have most := length_heard_le lengths
      rw [heard_cons, List.length_append, show brought (pcm :: calls) = pcm.length / 2 + brought calls from
        List.sum_cons] at all
      rw [List.zipWith_cons_cons, List.flatten_cons, heard_cons]
      rcases audio with - | out
      · rw [Option.toList_none, List.flatten_nil, List.length_nil] at all
        have brings : pcm.length / 2 = 0 := by omega
        rw [ih (by omega), Option.toList_none, List.flatten_nil, answered, Option.getD_none, brings,
          Nat.zero_mul, List.replicate_zero]
      · have exactly : out.length = pcm.length / 2 * 2 := here
        rw [Option.toList_some, List.flatten_singleton] at all
        rw [ih (by omega), Option.toList_some, List.flatten_singleton]
        rfl

/-- **DTLN answers with the stream that its networks make**, and falls behind by less than a shift and a
call. -/
theorem dtln_stream (m : DtlnModel ν α) (states : ν) {calls : List Bytes}
    (bring : ∀ pcm ∈ calls, 2 ≤ pcm.length) :
    let start : Denoiser Unit (DtlnCore ν α) Unit α := ⟨true, (), DtlnCore.new states, (), [], []⟩
    (start.denoise (dtln m) calls).1 = List.zipWith answered calls (start.answers (dtln m) calls) ∧
      (start.answers (dtln m) calls).map Option.isNone =
        refused 128 0 0 (calls.map fun pcm => pcm.length / 2) ∧
      (∀ longest, (∀ pcm ∈ calls, pcm.length / 2 ≤ longest) →
        2 * brought calls ≤ (heard (start.answers (dtln m) calls)).length + 2 * (126 + longest)) ∧
      ∃ frames, Framed 128 (calls.flatMap (samplesOf m.sampleOf)) frames (start.denoise (dtln m) calls).2.buf ∧
        heard (start.answers (dtln m) calls) ++ (start.denoise (dtln m) calls).2.outBuf =
          (feed (DtlnCore.shift m) (DtlnCore.new states) frames).1 ∧
        ((∀ pcm ∈ calls, 128 ∣ pcm.length / 2) →
          (start.denoise (dtln m) calls).1.flatten =
            (feed (DtlnCore.shift m) (DtlnCore.new states) frames).1) := by
  intro start
  have pos : 0 < (dtln m).frameSize := Nat.succ_pos 127
  have fresh : start.machine.outBuffer.length = 512 := List.length_replicate
  have began : Worked (dtln m) start [] [] start [] [] := worked_start rfl rfl rfl pos
  have nothing : (heard []).length + 2 * 0 = 2 * brought [] := rfl
  obtain ⟨results, frames, pieces, worked⟩ := worked_denoise pos began bring
  obtain ⟨silent, lag⟩ := answers_isNone calls fresh began nothing
  have waits := (behind_of_worked fresh worked).1
  have framed := worked.framed
  have out := worked.out
  rw [show start.up = () from rfl, feed_dtln_up] at framed
  rw [show start.down = () from rfl, feed_dtln_down, worked.whole] at out
  rw [show brought [] = 0 from rfl] at lag
  -- The answers, the refused calls, the delay, the frames, and whole shifts.
  refine ⟨results, silent, ?_, frames, framed, out, ?_⟩
  · intro longest few
    have bounded : lagAfter 128 0 0 (calls.map fun pcm => pcm.length / 2) ≤ 128 - 2 + longest := by
      apply lagAfter_le (by decide) _ (Nat.zero_le _)
      intro demand held
      obtain ⟨pcm, inside, rfl⟩ := List.mem_map.1 held
      exact few pcm inside
    omega
  · intro whole
    -- Calls of whole shifts leave nothing behind, so every call is answered.
    have level : lagAfter 128 0 0 (calls.map fun pcm => pcm.length / 2) = 0 := by
      apply lagAfter_of_dvd (Nat.dvd_zero 128)
      intro demand held
      obtain ⟨pcm, inside, rfl⟩ := List.mem_map.1 held
      exact whole pcm inside
    rw [level] at lag
    rw [List.nil_append, List.nil_append] at waits
    have empty : (start.denoise (dtln m) calls).2.outBuf = [] :=
      List.eq_nil_of_length_eq_zero (by omega)
    rw [empty, List.append_nil] at out
    have answers_all := flatten_answered worked.lengths (by
      rw [List.nil_append, List.nil_append]
      omega)
    rw [List.nil_append, List.nil_append] at answers_all
    rw [results, answers_all]
    exact out

/-- Networks that pass the audio on. -/
def echoModel : DtlnModel Unit ℤ where
  sampleOf low high := low.toNat + 256 * high.toNat
  bytesOf n := (UInt8.ofNat (n.toNat % 256), UInt8.ofNat (n.toNat / 256))
  estimate _ window := (some window, ())

/-- Calls of 100, of 100 and of 312 samples. -/
def oddCalls : List Bytes := [List.replicate 200 5, List.replicate 200 6, List.replicate 624 7]

/-- The first call is answered with silence, the others with what was made of the shifts that are complete. -/
theorem dtln_stream_echo :
    let start : Denoiser Unit (DtlnCore Unit ℤ) Unit ℤ := ⟨true, (), DtlnCore.new (), (), [], []⟩
    (start.denoise (dtln echoModel) oddCalls).1 =
        List.zipWith answered oddCalls (start.answers (dtln echoModel) oddCalls) ∧
      (start.answers (dtln echoModel) oddCalls).map Option.isNone =
        refused 128 0 0 (oddCalls.map fun pcm => pcm.length / 2) ∧
      (∀ longest, (∀ pcm ∈ oddCalls, pcm.length / 2 ≤ longest) →
        2 * brought oddCalls ≤ (heard (start.answers (dtln echoModel) oddCalls)).length + 2 * (126 + longest)) ∧
      ∃ frames, Framed 128 (oddCalls.flatMap (samplesOf echoModel.sampleOf)) frames
          (start.denoise (dtln echoModel) oddCalls).2.buf ∧
        heard (start.answers (dtln echoModel) oddCalls) ++ (start.denoise (dtln echoModel) oddCalls).2.outBuf =
          (feed (DtlnCore.shift echoModel) (DtlnCore.new ()) frames).1 ∧
        ((∀ pcm ∈ oddCalls, 128 ∣ pcm.length / 2) →
          (start.denoise (dtln echoModel) oddCalls).1.flatten =
            (feed (DtlnCore.shift echoModel) (DtlnCore.new ()) frames).1) :=
  dtln_stream echoModel () (by decide +kernel)

example : refused 128 0 0 (oddCalls.map fun pcm => pcm.length / 2) = [true, false, false] := by
  decide +kernel

end Denoiser

end Feros
