import Feros.Types
import Feros.Library.FrameMachines
/-! # The denoisers

The three denoisers share one way: the audio of a call becomes samples, whole frames of samples go through a
machine, and what the machine puts out is kept until it is enough to answer a call with as much audio as it
brought.  A call that finds too little is answered with silence.

The neural networks, the transforms around them and the resamplers are parameters. -/

namespace Feros

open Frames

/-- `for i in 0..n_samples`: the samples of PCM-16 audio; an odd byte at the end is left out. -/
def samplesOf {α : Type} (sampleOf : UInt8 → UInt8 → α) : Bytes → List α
  | low :: high :: rest => sampleOf low high :: samplesOf sampleOf rest
  | _ => []

/-- `extend_from_slice(&val.to_le_bytes())` for every sample. -/
def pcmOf {α : Type} (bytesOf : α → UInt8 × UInt8) (samples : List α) : Bytes :=
  samples.flatMap fun s => [(bytesOf s).1, (bytesOf s).2]

/-- **The parts of a denoiser.** -/
structure DenoiserParts (κ σ ω α : Type) where
  /-- How many samples the machine takes at once. -/
  frameSize : ℕ
  /-- The samples of audio. -/
  up : κ → Bytes → List α × κ
  /-- What the machine makes of a frame. -/
  work : σ → List α → Bytes × σ
  /-- The audio of what the machine put out. -/
  down : ω → Bytes → Bytes × ω

/-- **A denoiser.** -/
structure Denoiser (κ σ ω α : Type) where
  /-- The model is there, and the resampler if one is needed. -/
  loaded : Bool
  up : κ
  machine : σ
  down : ω
  /-- The samples that wait for the rest of their frame. -/
  buf : List α
  /-- The audio that no call was answered with yet. -/
  outBuf : Bytes
  deriving DecidableEq, Repr

namespace Denoiser

variable {κ σ ω α : Type}

/-- A call that is taken in, and its answer: `none` if there is too little audio yet. -/
def advance (parts : DenoiserParts κ σ ω α) (d : Denoiser κ σ ω α) (pcm : Bytes) :
    Option Bytes × Denoiser κ σ ω α :=
  let (samples, up) := parts.up d.up pcm
  let buf := d.buf ++ samples
  let (worked, machine, rest) := pump parts.frameSize parts.work buf.length d.machine buf
  let (out, down) := if worked.isEmpty then ([], d.down) else parts.down d.down worked
  let (given, outBuf) := deliver (pcm.length / 2 * 2) (d.outBuf ++ out)
  (given, { d with up := up, machine := machine, down := down, buf := rest, outBuf := outBuf })

/-- **`denoise_frame`.** -/
def denoiseFrame (parts : DenoiserParts κ σ ω α) (d : Denoiser κ σ ω α) (pcm : Bytes) :
    Bytes × Denoiser κ σ ω α :=
  if pcm.length / 2 = 0 ∨ d.loaded = false then (pcm, d)
  else
    let (given, d) := d.advance parts pcm
    -- Not enough output yet.
    (given.getD (List.replicate (pcm.length / 2 * 2) 0), d)

end Denoiser

/-! ## DTLN -/

namespace Dtln

/-- `BLOCK_LEN`. -/
def blockLen : ℕ := 512

/-- `BLOCK_SHIFT`. -/
def blockShift : ℕ := 128

end Dtln

/-- **What DTLN uses from outside.** -/
structure DtlnModel (ν α : Type) where
  sampleOf : UInt8 → UInt8 → α
  bytesOf : α → UInt8 × UInt8
  /-- The two networks, and the transforms before and between them: a block of clean audio for the last
  block of audio, or `none` if a network fails. -/
  estimate : ν → List α → Option (List α) × ν

/-- What DTLN keeps from one shift to the next. -/
structure DtlnCore (ν α : Type) where
  states : ν
  inBuffer : List α
  outBuffer : List α
  warmupRemaining : ℕ
  deriving DecidableEq, Repr

namespace DtlnCore

open Dtln

variable {ν α : Type} [Zero α] [Add α]

/-- A core that has heard nothing. -/
def new (states : ν) : DtlnCore ν α :=
  ⟨states, List.replicate blockLen 0, List.replicate blockLen 0, 5⟩

/-- "Overlap-add". -/
def overlapAdd (outBuffer block : List α) : List α :=
  let shifted := outBuffer.drop blockShift ++ List.replicate blockShift 0
  List.zipWith (· + ·) shifted (block.take blockLen) ++ shifted.drop (block.take blockLen).length

/-- `process_shift`: a network that fails leaves the output as it was. -/
def processShift (m : DtlnModel ν α) (chunk : List α) (c : DtlnCore ν α) : DtlnCore ν α :=
  let inBuffer := c.inBuffer.drop blockShift ++ chunk
  match m.estimate c.states inBuffer with
  | (none, states) => { c with inBuffer := inBuffer, states := states }
  | (some block, states) =>
    { c with inBuffer := inBuffer, states := states, outBuffer := overlapAdd c.outBuffer block }

/-- A pass of the loop of `denoise_frame`: a shift, and the audio it puts out. -/
def shift (m : DtlnModel ν α) (c : DtlnCore ν α) (chunk : List α) : Bytes × DtlnCore ν α :=
  let c := c.processShift m chunk
  if c.warmupRemaining > 0 then
    let warmupRemaining := c.warmupRemaining - 1
    let outBuffer := if warmupRemaining = 0 then List.replicate blockLen 0 else c.outBuffer
    -- Silence while the networks warm up.
    (List.replicate (2 * blockShift) 0, { c with warmupRemaining := warmupRemaining, outBuffer := outBuffer })
  else (pcmOf m.bytesOf (c.outBuffer.take blockShift), c)

end DtlnCore

/-- `DtlnDenoiser`: there is nothing to resample. -/
def dtln {ν α : Type} [Zero α] [Add α] (m : DtlnModel ν α) : DenoiserParts Unit (DtlnCore ν α) Unit α where
  frameSize := Dtln.blockShift
  up _ pcm := (samplesOf m.sampleOf pcm, ())
  work := DtlnCore.shift m
  down _ worked := (worked, ())

/-! ## RNNoise and DeepFilterNet3 -/

/-- **What the denoisers at 48 kHz use from outside.** -/
structure FullBandModel (κ ρ α : Type) where
  sampleOf : UInt8 → UInt8 → α
  bytesOf : α → UInt8 × UInt8
  /-- `SoxrStreamResampler::process`. -/
  resample : κ → Bytes → Bytes × κ
  /-- `process_frame` or `process_hop`. -/
  processFrame : ρ → List α → List α × ρ

namespace FullBandModel

variable {κ ρ α : Type}

/-- The way of RNNoise and DeepFilterNet3; a resampler for the way back may be missing. -/
def parts (m : FullBandModel κ ρ α) (frameSize : ℕ) : DenoiserParts κ ρ (Option κ) α where
  frameSize := frameSize
  up upResampler pcm :=
    let (upsampled, upResampler) := m.resample upResampler pcm
    (samplesOf m.sampleOf upsampled, upResampler)
  work state chunk :=
    let (enhanced, state) := m.processFrame state chunk
    (pcmOf m.bytesOf enhanced, state)
  down downResampler downBuf :=
    match downResampler with
    | some r =>
      let (downsampled, r) := m.resample r downBuf
      (downsampled, some r)
    | none => (downBuf, none)

end FullBandModel

/-- `RnnoiseDenoiser`, with its `FRAME_SIZE`. -/
def rnnoise {κ ρ α : Type} (m : FullBandModel κ ρ α) : DenoiserParts κ ρ (Option κ) α := m.parts 480

/-- `DeepFilterNetDenoiser`, with its `HOP_SIZE`. -/
def deepFilterNet {κ ρ α : Type} (m : FullBandModel κ ρ α) : DenoiserParts κ ρ (Option κ) α := m.parts 480

/-! ## The stage of the reactor -/

/-- **`DenoiserStage::process`**: without a denoiser, and for an empty answer, the frame as it came. -/
def denoiserStage {κ σ ω α : Type} (parts : DenoiserParts κ σ ω α) (inner : Option (Denoiser κ σ ω α))
    (frame : Bytes) : Bytes × Option (Denoiser κ σ ω α) :=
  match inner with
  | some d =>
    let (out, d) := d.denoiseFrame parts frame
    (if out.isEmpty then frame else out, some d)
  | none => (frame, none)

end Feros
