import Mathlib.Data.List.DropRight
import Feros.Types
/-! # Voice activity detection

`SileroVad` turns frames into the start and the end of speech.  It asks for some speech frames in a row
before speech starts and for some others before it ends, and keeps a few frames from before the start.

* **`VadEnv`** is the arithmetic in floating point; what the model infers is an input.
* **`SileroVad.advance`** is what is done with the prediction for a frame.
* **`VadStage`** is the wrapper that takes the audio of the utterance.

What a frame does is in `advance_quiet`, outside speech, and in `advance_speaking`. -/

namespace Feros

/-- **Floating-point numbers**, and the smoothed volume after a frame. -/
structure VadEnv where
  F32 : Type
  zero : F32
  /-- `a >= b`. -/
  atLeast : F32 → F32 → Bool
  /-- `volume + 0.2 * (rms - volume)`. -/
  smooth : F32 → Bytes → F32

/-- The options of the state machine. -/
structure VadConfig (env : VadEnv) where
  threshold : env.F32
  minVolume : env.F32
  silenceFrames : ℕ
  minSpeechFrames : ℕ
  lookbackFrames : ℕ

/-- Probabilities in percent, and a volume that does not change. -/
def VadEnv.percent : VadEnv := ⟨ℕ, 0, fun a b => b ≤ a, fun volume _ => volume⟩

/-- `VAD_THRESHOLD_IDLE`, in percent. -/
def vadThresholdIdle : VadEnv.percent.F32 := (70 : ℕ)

/-- The options of a session, in percent. -/
def VadConfig.defaults : VadConfig .percent := ⟨vadThresholdIdle, (0 : ℕ), 6, 6, 20⟩

/-- What a frame can lead to. -/
inductive InnerVadEvent where
  | speechStart
  | speechEnd
  deriving DecidableEq, Repr

/-- **The detector.** -/
structure SileroVad (env : VadEnv) where
  config : VadConfig env
  isSpeaking : Bool
  speechFrameCount : ℕ
  silenceFrameCount : ℕ
  /-- The last frames outside speech. -/
  lookbackBuffer : List Bytes
  /-- The audio of the utterance. -/
  speechAudio : Bytes
  volume : env.F32

namespace SileroVad

variable {env : VadEnv}

/-- A detector before the first frame. -/
def new (config : VadConfig env) : SileroVad env := ⟨config, false, 0, 0, [], [], env.zero⟩

/-- Keep a frame for the next start, and drop the oldest one if there are too many. -/
def lookBack (frame : Bytes) (v : SileroVad env) : SileroVad env :=
  if !v.isSpeaking then
    let kept := v.lookbackBuffer ++ [frame]
    { v with lookbackBuffer := if kept.length > v.config.lookbackFrames then kept.tail else kept }
  else v

/-- **What is done with a prediction** for a frame. -/
def advance (isSpeechPred : Bool) (frame : Bytes) (v : SileroVad env) :
    Option InnerVadEvent × SileroVad env :=
  if isSpeechPred then
    let v := { v with silenceFrameCount := 0 }
    if !v.isSpeaking then
      let v := { v with speechFrameCount := v.speechFrameCount + 1 }
      if v.speechFrameCount ≥ v.config.minSpeechFrames then
        (some .speechStart, { v with
          isSpeaking := true
          speechFrameCount := 0
          speechAudio := v.lookbackBuffer.flatten ++ frame })
      else (none, v.lookBack frame)
    else (none, { v with speechAudio := v.speechAudio ++ frame }.lookBack frame)
  else
    let v := { v with speechFrameCount := 0 }
    if v.isSpeaking then
      let v := { v with
        silenceFrameCount := v.silenceFrameCount + 1
        speechAudio := v.speechAudio ++ frame }
      if v.silenceFrameCount ≥ v.config.silenceFrames then
        (some .speechEnd, { v with isSpeaking := false, silenceFrameCount := 0 })
      else (none, v.lookBack frame)
    else (none, v.lookBack frame)

/-- The frame is taken for speech. -/
def predicts (prob : env.F32) (v : SileroVad env) : Bool :=
  env.atLeast prob v.config.threshold && env.atLeast v.volume v.config.minVolume

/-- **A frame**, for which the model inferred a probability or failed. -/
def processFrame (inferred : Option env.F32) (frame : Bytes) (v : SileroVad env) :
    Option InnerVadEvent × SileroVad env :=
  let v := { v with volume := env.smooth v.volume frame }
  match inferred with
  | none => (none, v)
  | some prob => v.advance (v.predicts prob) frame

/-- Drive the state machine with a given probability. -/
def processWithProb (prob : env.F32) (frame : Bytes) (v : SileroVad env) :
    Option InnerVadEvent × SileroVad env :=
  let v := { v with volume := env.smooth v.volume frame }
  v.advance (v.predicts prob) frame

/-- Both do the same with a probability. -/
theorem processFrame_some (prob : env.F32) (frame : Bytes) (v : SileroVad env) :
    v.processFrame (some prob) frame = v.processWithProb prob frame := rfl

/-- `std::mem::take(&mut self.speech_audio)`. -/
def takeSpeechAudio (v : SileroVad env) : Bytes × SileroVad env :=
  (v.speechAudio, { v with speechAudio := [] })

/-! ## What a frame does -/

/-- The frames kept are the last ones. -/
theorem rtake_concat {α : Type*} {kept : List α} {n : ℕ} (few : kept.length ≤ n) (last : α) :
    (if (kept ++ [last]).length > n then (kept ++ [last]).tail else kept ++ [last]) =
      (kept ++ [last]).rtake n := by
  have length : (kept ++ [last]).length = kept.length + 1 := List.length_append
  rw [List.rtake]
  by_cases full : (kept ++ [last]).length > n
  · have one : (kept ++ [last]).length - n = 1 := by omega
    rw [if_pos full, one, List.drop_one]
  · have all : (kept ++ [last]).length - n = 0 := by omega
    rw [if_neg full, all, List.drop_zero]

variable {isSpeechPred : Bool} {frame : Bytes} {v : SileroVad env}

/-- **Outside speech** a frame starts speech, or is kept for the next start. -/
theorem advance_quiet (quiet : v.isSpeaking = false) (few : v.lookbackBuffer.length ≤ v.config.lookbackFrames) :
    ((v.advance isSpeechPred frame).1 = some .speechStart ∧
        (v.advance isSpeechPred frame).2.isSpeaking = true ∧
        (v.advance isSpeechPred frame).2.speechAudio = v.lookbackBuffer.flatten ++ frame ∧
        (v.advance isSpeechPred frame).2.lookbackBuffer = v.lookbackBuffer) ∨
      ((v.advance isSpeechPred frame).1 = none ∧
        (v.advance isSpeechPred frame).2.isSpeaking = false ∧
        (v.advance isSpeechPred frame).2.lookbackBuffer =
          (v.lookbackBuffer ++ [frame]).rtake v.config.lookbackFrames) := by
  have kept := rtake_concat few frame
  cases isSpeechPred with
  | true =>
      by_cases enough : v.speechFrameCount + 1 ≥ v.config.minSpeechFrames
      · refine .inl ?_
        simp [advance, quiet, enough]
      · refine .inr ?_
        simp only [advance, lookBack, quiet, enough, Bool.not_false, if_true, if_false, kept]
        trivial
  | false =>
      refine .inr ?_
      simp only [advance, lookBack, quiet, Bool.not_false, Bool.false_eq_true, if_true, if_false, kept]
      trivial

/-- **In speech** a frame is added to the audio, and may end the speech. -/
theorem advance_speaking (speaking : v.isSpeaking = true) :
    ((v.advance isSpeechPred frame).1 = some .speechEnd ∧
        (v.advance isSpeechPred frame).2.isSpeaking = false ∨
      (v.advance isSpeechPred frame).1 = none ∧ (v.advance isSpeechPred frame).2.isSpeaking = true) ∧
      (v.advance isSpeechPred frame).2.speechAudio = v.speechAudio ++ frame ∧
      (v.advance isSpeechPred frame).2.lookbackBuffer = v.lookbackBuffer := by
  cases isSpeechPred with
  | true => simp [advance, lookBack, speaking]
  | false =>
      by_cases enough : v.silenceFrameCount + 1 ≥ v.config.silenceFrames
      · simp [advance, speaking, enough]
      · simp [advance, lookBack, speaking, enough]

/-- The detector never changes its settings. -/
@[simp] theorem config_advance : (v.advance isSpeechPred frame).2.config = v.config := by
  unfold advance lookBack
  dsimp only
  split_ifs <;> rfl

end SileroVad

/-! ## The stage -/

/-- The VAD stage of a session. -/
structure VadStage (env : VadEnv) where
  inner : SileroVad env

namespace VadStage

variable {env : VadEnv}

/-- `VadStage::set_threshold`; it is left alone if it is the same. -/
def setThreshold (threshold : env.F32) (s : VadStage env) : VadStage env :=
  ⟨{ s.inner with config := { s.inner.config with threshold := threshold } }⟩

/-- `VadStage::process`: the event of a frame, with the audio of the utterance at its end. -/
def process (inferred : Option env.F32) (frame : Bytes) (s : VadStage env) :
    Option VadEvent × VadStage env :=
  match s.inner.processFrame inferred frame with
  | (some .speechStart, inner) => (some .speechStarted, ⟨inner⟩)
  | (some .speechEnd, inner) =>
    let (audio, inner) := inner.takeSpeechAudio
    (if audio.isEmpty then none else some (.speechEnded audio), ⟨inner⟩)
  | (none, inner) => (none, ⟨inner⟩)

end VadStage

end Feros
