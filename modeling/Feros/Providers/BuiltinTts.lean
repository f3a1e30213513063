import Feros.Providers.Stt
/-! # Audio of a TTS server

A TTS server answers with a WAV or with raw PCM.  The decoder goes through the chunks of a WAV by their
sizes, which come from the network. -/

namespace Feros

/-! ## Byte ranges -/

/-- The number in little-endian bytes. -/
def leNat : Bytes → ℕ
  | [] => 0
  | byte :: bytes => byte.toNat + 256 * leNat bytes

/-- `u32::from_le_bytes`, for a range of four bytes. -/
def fromLeBytes (bytes : Bytes) : Option ℕ := if bytes.length = 4 then some (leNat bytes) else none

/-- The range `[start..stop]` of a slice: an access out of range panics, which is `none`. -/
def slice (raw : Bytes) (start stop : ℕ) : Option Bytes :=
  if start ≤ stop ∧ stop ≤ raw.length then some ((raw.drop start).take (stop - start)) else none

/-! ## Decoding -/

/-- Parsed audio with its native sample rate. -/
structure DecodedAudio where
  pcm : Bytes
  sampleRate : ℕ
  deriving DecidableEq, Repr

/-- `RIFF`. -/
def riffId : Bytes := [82, 73, 70, 70]

/-- `WAVE`. -/
def waveId : Bytes := [87, 65, 86, 69]

/-- `fmt `. -/
def fmtId : Bytes := [102, 109, 116, 32]

/-- `data`. -/
def dataId : Bytes := [100, 97, 116, 97]

/-- The chunk loop of `parse_wav`, at a position; `none` is a panic. -/
def parseChunks (wav : Bytes) (pos sampleRate : ℕ) : Option (Option DecodedAudio) :=
  if pos + 8 ≤ wav.length then do
    let chunkId ← slice wav pos (pos + 4)
    let sizeBytes ← slice wav (pos + 4) (pos + 8)
    match fromLeBytes sizeBytes with
    | none => return none
    | some chunkSize =>
      -- WAV chunks are word-aligned.
      let next := pos + (8 + chunkSize) + chunkSize % 2
      if chunkId = fmtId ∧ 16 ≤ chunkSize then
        let rateBytes ← slice wav (pos + 12) (pos + 16)
        match fromLeBytes rateBytes with
        | none => return none
        | some rate => parseChunks wav next rate
      else if chunkId = dataId then
        if sampleRate = 0 then return none
        else
          let pcm ← slice wav (pos + 8) (min (pos + 8 + chunkSize) wav.length)
          return some ⟨pcm, sampleRate⟩
      else parseChunks wav next sampleRate
  else return none
termination_by wav.length - pos

/-- Decode a WAV; Groq and the HTTP endpoint of Cartesia use this directly. -/
def parseWav (wav : Bytes) : Option (Option DecodedAudio) :=
  if wav.length < 44 then return none
  else do
    let riff ← slice wav 0 4
    if riff ≠ riffId then return none
    else
      let wave ← slice wav 8 12
      if wave ≠ waveId then return none
      else parseChunks wav 12 0

/-- Detect the format and decode; `assumedRate` is used for raw PCM. -/
def decodeAudio (raw : Bytes) (assumedRate : ℕ) : Option (Option DecodedAudio) :=
  let rawPcm := if raw.isEmpty then none else some ⟨raw, assumedRate⟩
  if 44 < raw.length then do
    let riff ← slice raw 0 4
    if riff ≠ riffId then return rawPcm
    else
      let wave ← slice raw 8 12
      if wave ≠ waveId then return rawPcm
      else parseWav raw
  else return rawPcm

/-! ## Ranges of appended bytes -/

/-- A slice is refused where the data is too short for it. -/
theorem slice_eq_none {raw : Bytes} {start stop : ℕ} (ordered : start ≤ stop) :
    slice raw start stop = none ↔ raw.length < stop := by
  rw [slice, ite_eq_right_iff]
  constructor
  · intro never
    by_contra within
    cases never ⟨ordered, Nat.le_of_not_lt within⟩
  · intro beyond within
    omega

/-- A slice that is within is there. -/
theorem slice_within {raw : Bytes} {start stop : ℕ} (ordered : start ≤ stop) (within : stop ≤ raw.length) :
    slice raw start stop = some ((raw.drop start).take (stop - start)) := if_pos ⟨ordered, within⟩

/-- Four bytes make a number. -/
theorem fromLeBytes_of_length {bytes : Bytes} (four : bytes.length = 4) :
    fromLeBytes bytes = some (leNat bytes) := if_pos four

/-- **Reading a `u32` back.** -/
theorem leNat_u32Bytes (n : ℕ) (bound : n < 2 ^ 32) : leNat (u32Bytes n) = n := by
  simp only [u32Bytes, leNat, UInt8.toNat_ofNat']
  omega

/-- A number is four bytes. -/
@[simp] theorem length_u32Bytes (n : ℕ) : (u32Bytes n).length = 4 := rfl

end Feros
