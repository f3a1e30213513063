import Feros.Library.Stretches
/-! # The silence filter of the STT server

`SileroVadFilter` runs a speech model over the windows of an utterance and keeps only the bursts of speech it
finds, with some padding.  The model is a parameter: what it says of a window depends on the windows it has
seen since its state was reset. -/

namespace Feros

/-- **The filter**, with the durations in samples. -/
structure SileroVadFilter (α : Type) where
  windowSize : ℕ
  minSpeechDurationMs : ℕ
  minSilenceDurationMs : ℕ
  speechPadMs : ℕ
  sampleRate : ℕ
  /-- The probability that the model gives to the last of the windows since the reset reaches the
  threshold. -/
  speaks : List (List α) → Bool

namespace SileroVadFilter

variable {α : Type} [Zero α]

/-- `min_speech_samples`. -/
def minSpeechSamples (f : SileroVadFilter α) : ℕ := f.minSpeechDurationMs * f.sampleRate / 1000

/-- `min_silence_samples`. -/
def minSilenceSamples (f : SileroVadFilter α) : ℕ := f.minSilenceDurationMs * f.sampleRate / 1000

/-- `speech_pad_samples`. -/
def speechPadSamples (f : SileroVadFilter α) : ℕ := f.speechPadMs * f.sampleRate / 1000

/-- How many windows there are: `len(range(0, num_samples, window_size))`. -/
def windowCount (f : SileroVadFilter α) (numSamples : ℕ) : ℕ := (numSamples + f.windowSize - 1) / f.windowSize

/-- The window at a position; the last one is filled up with zeros. -/
def chunk (f : SileroVadFilter α) (audio : List α) (k : ℕ) : List α :=
  let chunk := (audio.drop (k * f.windowSize)).take f.windowSize
  chunk ++ List.replicate (f.windowSize - chunk.length) 0

/-- What the model says of a window. -/
def isSpeech (f : SileroVadFilter α) (audio : List α) (k : ℕ) : Bool :=
  f.speaks ((List.range (k + 1)).map (f.chunk audio))

/-- The variables of the loop. -/
structure Scan where
  segments : List Stretch
  /-- Where the burst began that is going on. -/
  currentSpeech : Option ℕ
  silenceCounter : ℕ
  deriving DecidableEq, Repr

/-- One pass of the loop, over the window at sample `i`. -/
def scanWindow (f : SileroVadFilter α) (i : ℕ) (speech : Bool) (s : Scan) : Scan :=
  if speech then { s with currentSpeech := some (s.currentSpeech.getD i), silenceCounter := 0 }
  else
    match s.currentSpeech with
    | none => s
    | some start =>
      let silenceCounter := s.silenceCounter + f.windowSize
      if f.minSilenceSamples ≤ silenceCounter then
        let speechEnd := i - silenceCounter + f.windowSize
        { segments :=
            if f.minSpeechSamples ≤ speechEnd - start then s.segments ++ [⟨start, speechEnd⟩] else s.segments
          currentSpeech := none
          silenceCounter := 0 }
      else { s with silenceCounter := silenceCounter }

/-- The loop over the first windows. -/
def scanTo (f : SileroVadFilter α) (audio : List α) (count : ℕ) : Scan :=
  (List.range count).foldl
    (fun s k => f.scanWindow (k * f.windowSize) (f.isSpeech audio k) s) ⟨[], none, 0⟩

/-- The segments of speech: a burst that is still going on at the end goes up to the end. -/
def segments (f : SileroVadFilter α) (audio : List α) : List Stretch :=
  let s := f.scanTo audio (f.windowCount audio.length)
  match s.currentSpeech with
  | none => s.segments
  | some start =>
    if f.minSpeechSamples ≤ audio.length - start then s.segments ++ [⟨start, audio.length⟩] else s.segments

/-- A segment with its padding. -/
def pad (f : SileroVadFilter α) (numSamples : ℕ) (seg : Stretch) : Stretch :=
  ⟨seg.start - f.speechPadSamples, min numSamples (seg.stop + f.speechPadSamples)⟩

/-- **Extract only the speech segments**, one behind the other. -/
def collectSpeech (f : SileroVadFilter α) (audio : List α) : List α :=
  -- Too short for the model.
  if audio.length < f.windowSize * 2 then audio
  else
    let merged := Stretch.merge ((f.segments audio).map (f.pad audio.length))
    merged.flatMap (Stretch.slice audio)

end SileroVadFilter

end Feros
