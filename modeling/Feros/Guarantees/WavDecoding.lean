import Feros.Providers.BuiltinTts
/-! # WAV decoding

The chunk loop ends, and it panics if and only if it comes to the header of a format chunk whose rate lies
behind the end of the bytes, `parseChunks_eq_none`.  A WAV file is decoded to its data and its rate, with
one exception of its length: 44 bytes, which are a file without audio, are taken for raw PCM. -/

namespace Feros

/-! ## The walk over the chunks -/

/-- The identifier at a position. -/
def chunkIdAt (wav : Bytes) (pos : ℕ) : Bytes := (wav.drop pos).take 4

/-- The chunk size at a position. -/
def chunkSizeAt (wav : Bytes) (pos : ℕ) : ℕ := leNat ((wav.drop (pos + 4)).take 4)

/-- **The positions that a reader of chunks comes to**, up to the first data chunk. -/
inductive ChunkWalk (wav : Bytes) : ℕ → ℕ → Prop where
  | here (pos : ℕ) : ChunkWalk wav pos pos
  | next {pos last : ℕ} (header : pos + 8 ≤ wav.length) (other : chunkIdAt wav pos ≠ dataId)
      (rest : ChunkWalk wav (pos + (8 + chunkSizeAt wav pos) + chunkSizeAt wav pos % 2) last) :
      ChunkWalk wav pos last

/-- **A format chunk is cut off before the end of its rate.** -/
structure CutFormat (wav : Bytes) (pos : ℕ) : Prop where
  header : pos + 8 ≤ wav.length
  cut : wav.length < pos + 16
  fmt : chunkIdAt wav pos = fmtId
  long : 16 ≤ chunkSizeAt wav pos

/-- What one turn of the loop does. -/
theorem parseChunks_step {wav : Bytes} {pos : ℕ} (sampleRate : ℕ) (header : pos + 8 ≤ wav.length) :
    parseChunks wav pos sampleRate =
      (let next := pos + (8 + chunkSizeAt wav pos) + chunkSizeAt wav pos % 2
      if chunkIdAt wav pos = fmtId ∧ 16 ≤ chunkSizeAt wav pos then
        (slice wav (pos + 12) (pos + 16)).bind fun bytes => parseChunks wav next (leNat bytes)
      else if chunkIdAt wav pos = dataId then
        some (if sampleRate = 0 then none
          else some ⟨((wav.drop (pos + 8)).take (chunkSizeAt wav pos)), sampleRate⟩)
      else parseChunks wav next sampleRate) := by
  have id : slice wav pos (pos + 4) = some (chunkIdAt wav pos) := by
    rw [slice_within (by omega) (by omega), Nat.add_sub_cancel_left, chunkIdAt]
  have size : slice wav (pos + 4) (pos + 8) = some ((wav.drop (pos + 4)).take 4) := by
    rw [slice_within (by omega) (by omega), Nat.add_sub_add_left]
  have four : ((wav.drop (pos + 4)).take 4).length = 4 := by
    rw [List.length_take, List.length_drop]
    omega
  rw [parseChunks, if_pos header, id, size]
  simp only [Option.bind_eq_bind, Option.bind_some, fromLeBytes_of_length four, Option.pure_def]
  rw [← chunkSizeAt]
  split
  · -- The rate is a range of four bytes, if there is one.
    by_cases within : pos + 16 ≤ wav.length
    · have rate : ((wav.drop (pos + 12)).take 4).length = 4 := by
        rw [List.length_take, List.length_drop]
        omega
      rw [slice_within (by omega) within, Nat.add_sub_add_left]
      simp only [Option.bind_some, fromLeBytes_of_length rate]
    · rw [(slice_eq_none (by omega)).2 (Nat.lt_of_not_le within)]
      rfl
  · split
    · split
      · rfl
      · rw [slice_within (by omega) (by omega), Option.bind_some]
        congr 3
        rw [List.take_eq_take_iff, List.length_drop]
        omega
    · rfl

/-- **The loop panics if and only if it comes to a format chunk that is cut off.** -/
theorem parseChunks_eq_none (wav : Bytes) (pos sampleRate : ℕ) :
    parseChunks wav pos sampleRate = none ↔ ∃ last, ChunkWalk wav pos last ∧ CutFormat wav last := by
  induction left : wav.length - pos using Nat.strongRecOn generalizing pos sampleRate with
  | ind left ih =>
      by_cases header : pos + 8 ≤ wav.length
      · rw [parseChunks_step sampleRate header]
        dsimp only
        have later (rate : ℕ) := ih _ (by omega)
          (pos + (8 + chunkSizeAt wav pos) + chunkSizeAt wav pos % 2) rate rfl
        split
        · rename_i fmt
          have other : chunkIdAt wav pos ≠ dataId := by
            rw [fmt.1]
            decide
          by_cases within : pos + 16 ≤ wav.length
          · rw [slice_within (by omega) within, Option.bind_some, later]
            constructor
            · rintro ⟨last, walk, cut⟩
              exact ⟨last, walk.next header other, cut⟩
            · rintro ⟨last, walk, cut⟩
              cases walk with
              | here => exact absurd within (Nat.not_le.2 cut.cut)
              | next _ _ rest => exact ⟨last, rest, cut⟩
          · rw [(slice_eq_none (by omega)).2 (Nat.lt_of_not_le within), Option.bind_none]
            exact iff_of_true rfl ⟨pos, .here pos, header, Nat.lt_of_not_le within, fmt.1, fmt.2⟩
        · rename_i notFmt
          split
          · rename_i data
            -- The walk ends here.
            refine iff_of_false (Option.some_ne_none _) ?_
            rintro ⟨last, walk, cut⟩
            cases walk with
            | here => exact notFmt ⟨cut.fmt, cut.long⟩
            | next _ other _ => exact other data
          · rename_i other
            rw [later]
            constructor
            · rintro ⟨last, walk, cut⟩
              exact ⟨last, walk.next header other, cut⟩
            · rintro ⟨last, walk, cut⟩
              cases walk with
              | here => exact absurd ⟨cut.fmt, cut.long⟩ notFmt
              | next _ _ rest => exact ⟨last, rest, cut⟩
      · rw [parseChunks, if_neg header]
        refine iff_of_false (Option.some_ne_none _) ?_
        rintro ⟨last, walk, cut⟩
        cases walk with
        | here => exact header cut.header
        | next within _ _ => exact header within

/-- The bytes begin with the header of a WAV. -/
def IsWav (raw : Bytes) : Prop := 44 ≤ raw.length ∧ raw.take 4 = riffId ∧ (raw.drop 8).take 4 = waveId

/-- The bytes are a WAV with a format chunk that is cut off. -/
def HasCutFormat (raw : Bytes) : Prop := IsWav raw ∧ ∃ last, ChunkWalk raw 12 last ∧ CutFormat raw last

/-- What `parse_wav` does with a WAV. -/
theorem parseWav_of_isWav {raw : Bytes} (wav : IsWav raw) : parseWav raw = parseChunks raw 12 0 := by
  have long := wav.1
  unfold parseWav
  rw [if_neg (by omega), slice_within (by omega) (by omega), slice_within (by omega) (by omega)]
  simp only [Option.bind_eq_bind, Option.bind_some, List.drop_zero]
  rw [if_neg (not_not_intro wav.2.1), if_neg (not_not_intro wav.2.2)]

/-- What is no WAV file is taken as it is. -/
theorem parseWav_of_not_isWav {raw : Bytes} (other : ¬ IsWav raw) : parseWav raw = some none := by
  unfold parseWav
  by_cases short : raw.length < 44
  · exact if_pos short
  · rw [if_neg short, slice_within (by omega) (by omega), slice_within (by omega) (by omega)]
    simp only [Option.bind_eq_bind, Option.bind_some, List.drop_zero]
    by_cases riff : raw.take 4 = riffId
    · by_cases wave : (raw.drop 8).take 4 = waveId
      · exact absurd ⟨Nat.le_of_not_lt short, riff, wave⟩ other
      · rw [if_neg (not_not_intro riff), if_pos wave]
        rfl
    · rw [if_pos riff]
      rfl

/-- What the decoder does with a WAV that is longer than its header. -/
theorem decodeAudio_of_isWav {raw : Bytes} (wav : IsWav raw) (long : 44 < raw.length) (assumedRate : ℕ) :
    decodeAudio raw assumedRate = parseChunks raw 12 0 := by
  rw [← parseWav_of_isWav wav]
  unfold decodeAudio
  rw [if_pos long, slice_within (by omega) (by omega), slice_within (by omega) (by omega)]
  simp only [Option.bind_eq_bind, Option.bind_some, List.drop_zero]
  rw [if_neg (not_not_intro wav.2.1), if_neg (not_not_intro wav.2.2)]

/-- Other bytes are raw PCM. -/
theorem decodeAudio_raw {raw : Bytes} (other : ¬ (IsWav raw ∧ 44 < raw.length)) (assumedRate : ℕ) :
    decodeAudio raw assumedRate = some (if raw.isEmpty then none else some ⟨raw, assumedRate⟩) := by
  unfold decodeAudio
  by_cases long : 44 < raw.length
  · rw [if_pos long, slice_within (by omega) (by omega), slice_within (by omega) (by omega)]
    simp only [Option.bind_eq_bind, Option.bind_some, List.drop_zero]
    by_cases riff : raw.take 4 = riffId
    · by_cases wave : (raw.drop 8).take 4 = waveId
      · exact absurd ⟨⟨long.le, riff, wave⟩, long⟩ other
      · rw [if_neg (not_not_intro riff), if_pos wave]
        rfl
    · rw [if_pos riff]
      rfl
  · rw [if_neg long]
    rfl

/-- Parsing panics exactly at a format chunk that is cut off. -/
theorem parseWav_eq_none (raw : Bytes) : parseWav raw = none ↔ HasCutFormat raw := by
  by_cases wav : IsWav raw
  · rw [parseWav_of_isWav wav, parseChunks_eq_none, HasCutFormat, and_iff_right wav]
  · rw [parseWav_of_not_isWav wav]
    exact iff_of_false (Option.some_ne_none _) fun cut => wav cut.1

/-- **Decoding panics** exactly at a format chunk that is cut off, behind 44 bytes. -/
theorem decodeAudio_eq_none (raw : Bytes) (assumedRate : ℕ) :
    decodeAudio raw assumedRate = none ↔ 44 < raw.length ∧ HasCutFormat raw := by
  by_cases long : IsWav raw ∧ 44 < raw.length
  · rw [decodeAudio_of_isWav long.1 long.2, parseChunks_eq_none, HasCutFormat, and_iff_right long.1,
      and_iff_right long.2]
  · rw [decodeAudio_raw long]
    exact iff_of_false (Option.some_ne_none _) fun cut => long ⟨cut.2.1, cut.1⟩

/-! ## WAV files -/

/-- **A chunk**: an identifier, a body, and a byte behind a body of odd length. -/
structure WavChunk where
  id : Bytes
  body : Bytes
  pad : UInt8
  length_id : id.length = 4
  bound : body.length < 2 ^ 32

namespace WavChunk

/-- The padding. -/
def padding (chunk : WavChunk) : Bytes := if chunk.body.length % 2 = 1 then [chunk.pad] else []

/-- The chunk without its padding. -/
def unpadded (chunk : WavChunk) : Bytes := chunk.id ++ (u32Bytes chunk.body.length ++ chunk.body)

def bytes (chunk : WavChunk) : Bytes := chunk.unpadded ++ chunk.padding

/-- The chunk is a format chunk with a rate. -/
def IsFormat (chunk : WavChunk) : Prop := chunk.id = fmtId ∧ 16 ≤ chunk.body.length

/-- The rate of a format chunk. -/
def sampleRate (chunk : WavChunk) : ℕ := leNat ((chunk.body.drop 4).take 4)

instance (chunk : WavChunk) : Decidable chunk.IsFormat := inferInstanceAs (Decidable (_ ∧ _))

/-- The length of a chunk without its padding. -/
theorem length_unpadded (chunk : WavChunk) : chunk.unpadded.length = 8 + chunk.body.length := by
  have id := chunk.length_id
  simp only [unpadded, List.length_append, length_u32Bytes]
  omega

/-- The length of a chunk. -/
theorem length_bytes (chunk : WavChunk) :
    chunk.bytes.length = 8 + chunk.body.length + chunk.body.length % 2 := by
  unfold bytes padding
  rw [List.length_append, length_unpadded]
  split
  · rename_i odd
    rw [odd]
    rfl
  · rename_i even
    rw [Nat.mod_two_ne_one.1 even]
    rfl

variable (chunk : WavChunk) {front back : Bytes} {pos : ℕ}

/-- The padding comes behind the body. -/
theorem bytes_append : chunk.bytes ++ back = chunk.unpadded ++ (chunk.padding ++ back) := List.append_assoc ..

/-- The identifier of the chunk at a position. -/
theorem chunkIdAt_append (first : front.length = pos) :
    chunkIdAt (front ++ (chunk.unpadded ++ back)) pos = chunk.id := by
  rw [chunkIdAt, ← first, List.drop_left, unpadded, List.append_assoc, ← chunk.length_id, List.take_left]

/-- The size of the chunk at a position. -/
theorem chunkSizeAt_append (first : front.length = pos) :
    chunkSizeAt (front ++ (chunk.unpadded ++ back)) pos = chunk.body.length := by
  rw [chunkSizeAt, ← List.drop_drop, ← first, List.drop_left, unpadded, List.append_assoc, List.append_assoc]
  have size : 4 = (u32Bytes chunk.body.length).length := rfl
  have skip : (chunk.id ++ (u32Bytes chunk.body.length ++ (chunk.body ++ back))).drop 4 =
      u32Bytes chunk.body.length ++ (chunk.body ++ back) := by
    rw [← chunk.length_id, List.drop_left]
  rw [skip, size, List.take_left, leNat_u32Bytes _ chunk.bound]

/-- What is behind the head of a chunk. -/
theorem drop_append (first : front.length = pos) :
    (front ++ (chunk.unpadded ++ back)).drop (pos + 8) = chunk.body ++ back := by
  have header : (chunk.id ++ u32Bytes chunk.body.length).length = 8 := by
    rw [List.length_append, chunk.length_id, length_u32Bytes]
  rw [← List.drop_drop, ← first, List.drop_left, unpadded, ← List.append_assoc, List.append_assoc, ← header,
    List.drop_left]

/-- The loop takes the rate of a format chunk. -/
theorem parseChunks_format (fmt : chunk.IsFormat) (first : front.length = pos) (sampleRate : ℕ) :
    parseChunks (front ++ (chunk.bytes ++ back)) pos sampleRate =
      parseChunks (front ++ (chunk.bytes ++ back)) (pos + chunk.bytes.length) chunk.sampleRate := by
  have length := chunk.length_bytes
  have shorter := chunk.length_unpadded
  have long := fmt.2
  rw [chunk.bytes_append]
  have rate : ((front ++ (chunk.unpadded ++ (chunk.padding ++ back))).drop (pos + 12)).take 4 =
      (chunk.body.drop 4).take 4 := by
    rw [← List.drop_drop (i := 4), chunk.drop_append first, List.drop_append_of_le_length (by omega),
      List.take_append_of_le_length]
    rw [List.length_drop]
    omega
  rw [parseChunks_step sampleRate (by simp only [List.length_append]; omega),
    chunk.chunkIdAt_append first, chunk.chunkSizeAt_append first, length]
  dsimp only
  rw [if_pos (show chunk.id = fmtId ∧ 16 ≤ chunk.body.length from fmt),
    slice_within (by omega) (by simp only [List.length_append]; omega), Nat.add_sub_add_left, rate,
    Nat.add_assoc pos]
  rfl

/-- The loop skips a chunk that is neither format nor data. -/
theorem parseChunks_other (notFmt : ¬ chunk.IsFormat) (notData : chunk.id ≠ dataId)
    (first : front.length = pos) (sampleRate : ℕ) :
    parseChunks (front ++ (chunk.bytes ++ back)) pos sampleRate =
      parseChunks (front ++ (chunk.bytes ++ back)) (pos + chunk.bytes.length) sampleRate := by
  have length := chunk.length_bytes
  have shorter := chunk.length_unpadded
  rw [chunk.bytes_append, parseChunks_step sampleRate (by simp only [List.length_append]; omega),
    chunk.chunkIdAt_append first, chunk.chunkSizeAt_append first, length]
  dsimp only
  rw [if_neg (show ¬ (chunk.id = fmtId ∧ 16 ≤ chunk.body.length) from notFmt), if_neg notData, Nat.add_assoc pos]

/-- The loop ends at a data chunk, padded or not. -/
theorem parseChunks_data (data : chunk.id = dataId) (first : front.length = pos) (sampleRate : ℕ) :
    parseChunks (front ++ (chunk.unpadded ++ back)) pos sampleRate =
      some (if sampleRate = 0 then none else some ⟨chunk.body, sampleRate⟩) := by
  have length := chunk.length_unpadded
  have notFmt : ¬ (dataId = fmtId ∧ 16 ≤ chunk.body.length) := fun fmt => absurd fmt.1 (by decide)
  rw [parseChunks_step sampleRate (by simp only [List.length_append]; omega),
    chunk.chunkIdAt_append first, chunk.chunkSizeAt_append first, data]
  dsimp only
  rw [if_neg notFmt, if_pos rfl, chunk.drop_append first, List.take_left]

/-! ### Lists of chunks -/

/-- The bytes of chunks. -/
def listBytes (chunks : List WavChunk) : Bytes := (chunks.map bytes).flatten

/-- The bytes of a list of chunks. -/
theorem listBytes_cons (chunks : List WavChunk) : listBytes (chunk :: chunks) = chunk.bytes ++ listBytes chunks :=
  rfl

/-- The bytes of one list after the other. -/
theorem listBytes_append (chunks others : List WavChunk) :
    listBytes (chunks ++ others) = listBytes chunks ++ listBytes others := by
  rw [listBytes, List.map_append, List.flatten_append]
  rfl

/-- The rate in force behind chunks. -/
def rateAfter (sampleRate : ℕ) : List WavChunk → ℕ
  | [] => sampleRate
  | chunk :: chunks => rateAfter (if chunk.IsFormat then chunk.sampleRate else sampleRate) chunks

/-- **The loop comes through chunks that are no data.** -/
theorem parseChunks_list (chunks : List WavChunk) (noData : ∀ chunk ∈ chunks, chunk.id ≠ dataId)
    (first : front.length = pos) (sampleRate : ℕ) :
    parseChunks (front ++ (listBytes chunks ++ back)) pos sampleRate =
      parseChunks (front ++ (listBytes chunks ++ back)) (pos + (listBytes chunks).length)
        (rateAfter sampleRate chunks) := by
  induction chunks generalizing front pos sampleRate with
  | nil => rfl
  | cons chunk chunks ih =>
      have next : (front ++ chunk.bytes).length = (front ++ chunk.bytes).length := rfl
      have rest := ih (fun other member => noData other (.tail _ member)) next
      rw [List.length_append, first, List.append_assoc] at rest
      rw [listBytes_cons, List.append_assoc, List.length_append, ← Nat.add_assoc, rateAfter]
      split
      · rename_i fmt
        rw [chunk.parseChunks_format fmt first, rest]
      · rename_i notFmt
        rw [chunk.parseChunks_other notFmt (noData chunk (.head _)) first, rest]

/-- The rate after one list and the other. -/
theorem rateAfter_append (chunks others : List WavChunk) (sampleRate : ℕ) :
    rateAfter sampleRate (chunks ++ others) = rateAfter (rateAfter sampleRate chunks) others := by
  induction chunks generalizing sampleRate with
  | nil => rfl
  | cons chunk chunks ih => exact ih _

/-- Without a format chunk the rate stays. -/
theorem rateAfter_of_noFormat (chunks : List WavChunk) (noFormat : ∀ chunk ∈ chunks, ¬ chunk.IsFormat)
    (sampleRate : ℕ) : rateAfter sampleRate chunks = sampleRate := by
  induction chunks with
  | nil => rfl
  | cons chunk chunks ih =>
      rw [rateAfter, if_neg (noFormat chunk (.head _))]
      exact ih fun other member => noFormat other (.tail _ member)

end WavChunk

/-- **A WAV file**: a header, and chunks among which the last complete format chunk in front of the first
data chunk is `fmt`. -/
structure WavFile where
  riffSize : Bytes
  front : List WavChunk
  fmt : WavChunk
  middle : List WavChunk
  data : WavChunk
  back : List WavChunk
  length_riffSize : riffSize.length = 4
  front_noData : ∀ chunk ∈ front, chunk.id ≠ dataId
  isFormat : fmt.IsFormat
  middle_noData : ∀ chunk ∈ middle, chunk.id ≠ dataId
  middle_noFormat : ∀ chunk ∈ middle, ¬ chunk.IsFormat
  isData : data.id = dataId

namespace WavFile

/-- The first twelve bytes. -/
def header (file : WavFile) : Bytes := riffId ++ file.riffSize ++ waveId

/-- The bytes of a file. -/
def bytes (file : WavFile) : Bytes :=
  file.header ++ WavChunk.listBytes (file.front ++ file.fmt :: file.middle ++ file.data :: file.back)

variable (file : WavFile)

/-- The header has twelve bytes. -/
theorem length_header : file.header.length = 12 := by
  unfold header
  simp only [List.length_append, file.length_riffSize]
  rfl

/-- A file of chunks is a WAV file. -/
theorem isWav : IsWav file.bytes := by
  have length := file.length_header
  have fmt := file.fmt.length_bytes
  have data := file.data.length_bytes
  have long := file.isFormat.2
  refine ⟨?_, ?_, ?_⟩
  · simp only [bytes, List.length_append, WavChunk.listBytes_append, WavChunk.listBytes_cons]
    omega
  · unfold bytes header
    rw [List.append_assoc, List.append_assoc]
    rfl
  · have size : (riffId ++ file.riffSize).length = 8 := by
      rw [List.length_append, file.length_riffSize]
      rfl
    unfold bytes header
    rw [List.append_assoc, ← size, List.drop_left]
    rfl

/-- **The loop finds the data and the rate.** -/
theorem parseChunks_bytes : parseChunks file.bytes 12 0 =
    some (if file.fmt.sampleRate = 0 then none else some ⟨file.data.body, file.fmt.sampleRate⟩) := by
  have noData : ∀ chunk ∈ file.front ++ file.fmt :: file.middle, chunk.id ≠ dataId := by
    intro chunk member
    rcases List.mem_append.1 member with member | member
    · exact file.front_noData chunk member
    · cases member with
      | head =>
          rw [file.isFormat.1]
          decide
      | tail _ member => exact file.middle_noData chunk member
  have rate : WavChunk.rateAfter 0 (file.front ++ file.fmt :: file.middle) = file.fmt.sampleRate := by
    rw [WavChunk.rateAfter_append, WavChunk.rateAfter, if_pos file.isFormat]
    exact WavChunk.rateAfter_of_noFormat _ file.middle_noFormat _
  unfold bytes
  rw [WavChunk.listBytes_append, WavChunk.parseChunks_list _ noData file.length_header, rate,
    WavChunk.listBytes_cons, file.data.bytes_append, ← List.append_assoc]
  apply WavChunk.parseChunks_data _ file.isData
  rw [List.length_append, file.length_header]

/-- A file is decoded if it is longer than 44 bytes and has a rate. -/
theorem decodeAudio_bytes (assumedRate : ℕ) :
    decodeAudio file.bytes assumedRate = some (some ⟨file.data.body, file.fmt.sampleRate⟩) ↔
      file.fmt.sampleRate ≠ 0 ∧ 44 < file.bytes.length := by
  by_cases long : 44 < file.bytes.length
  · rw [decodeAudio_of_isWav file.isWav long, file.parseChunks_bytes, and_iff_left long]
    split
    · rename_i zero
      exact iff_of_false (by rintro ⟨⟩) (not_not_intro zero)
    · rename_i rate
      exact iff_of_true rfl rate
  · rw [decodeAudio_raw fun wav => long wav.2]
    refine iff_of_false ?_ fun wav => long wav.2
    -- The bytes of the file are more than its data.
    intro same
    have shorter : file.data.body.length < file.bytes.length := by
      have length := file.length_header
      have data := file.data.length_bytes
      simp only [bytes, List.length_append, WavChunk.listBytes_append, WavChunk.listBytes_cons]
      omega
    split at same
    · cases same
    · injection same with same
      injection same with same
      injection same with same
      rw [← same] at shorter
      exact lt_irrefl _ shorter

end WavFile

/-! ## The WAV of `pcmToWav` -/

/-- The format chunk of `pcmToWav`. -/
def pcmFormat : WavChunk where
  id := fmtId
  body := u16Bytes 1 ++ u16Bytes 1 ++ u32Bytes 16000 ++ u32Bytes 32000 ++ u16Bytes 2 ++ u16Bytes 16
  pad := 0
  length_id := rfl
  bound := by decide

/-- The data chunk of `pcmToWav`; what is sent ends behind its body. -/
def pcmData (pcm : Bytes) (short : pcm.length < 2 ^ 32 - 36) : WavChunk where
  id := dataId
  body := pcm
  pad := 0
  length_id := rfl
  bound := by omega

/-- What is encoded is a header and two chunks. -/
theorem pcmToWav_eq {pcm : Bytes} (short : pcm.length < 2 ^ 32 - 36) :
    pcmToWav pcm = riffId ++ u32Bytes (pcm.length + 36) ++ waveId ++
      (pcmFormat.bytes ++ ((pcmData pcm short).unpadded ++ [])) := by
  have wraps : pcm.length % 2 ^ 32 = pcm.length := Nat.mod_eq_of_lt (by omega)
  rw [pcmToWav, wraps, List.append_nil]
  simp only [wavHeader, WavChunk.unpadded, pcmData, List.append_assoc]
  rfl

/-- The length of what is encoded. -/
theorem length_pcmToWav (pcm : Bytes) : (pcmToWav pcm).length = 44 + pcm.length := by
  rw [pcmToWav, List.length_append, length_wavHeader]

/-- **The audio comes back**, if there is any. -/
theorem decodeAudio_pcmToWav {pcm : Bytes} (short : pcm.length < 2 ^ 32 - 36) (assumedRate : ℕ) :
    decodeAudio (pcmToWav pcm) assumedRate = some (some ⟨pcm, 16000⟩) ↔ pcm ≠ [] := by
  have length := length_pcmToWav pcm
  by_cases empty : pcm = []
  · subst empty
    refine iff_of_false ?_ (not_not_intro rfl)
    rw [decodeAudio_raw fun wav => absurd wav.2 (by decide)]
    intro same
    cases same
  · refine iff_of_true ?_ empty
    have some := List.length_pos_of_ne_nil empty
    have header : (riffId ++ u32Bytes (pcm.length + 36) ++ waveId).length = 12 := rfl
    have wav : IsWav (pcmToWav pcm) := by
      refine ⟨by omega, ?_, ?_⟩
      · rw [pcmToWav_eq short]
        rfl
      · rw [pcmToWav_eq short]
        rfl
    rw [decodeAudio_of_isWav wav (by omega), pcmToWav_eq short,
      pcmFormat.parseChunks_format ⟨rfl, by decide⟩ header, ← List.append_assoc]
    exact (pcmData pcm short).parseChunks_data rfl rfl _

/-! ## The decoder -/

/-- **WAV decoding.**  The decoders panic if and only if the bytes have a format chunk that is cut off; a
WAV file is decoded to its data and its rate if and only if it has a rate and more than 44 bytes; and what
`pcmToWav` makes of audio is decoded to the audio if and only if there is some. -/
theorem wav_decoding (raw : Bytes) (pcm : Bytes) (assumedRate : ℕ) :
    (parseWav raw ≠ none ↔ ¬ HasCutFormat raw) ∧
    (decodeAudio raw assumedRate ≠ none ↔ ¬ (44 < raw.length ∧ HasCutFormat raw)) ∧
    (∀ file : WavFile, decodeAudio file.bytes assumedRate = some (some ⟨file.data.body, file.fmt.sampleRate⟩) ↔
      file.fmt.sampleRate ≠ 0 ∧ 44 < file.bytes.length) ∧
    (pcm.length < 2 ^ 32 - 36 →
      (decodeAudio (pcmToWav pcm) assumedRate = some (some ⟨pcm, 16000⟩) ↔ pcm ≠ [])) := by
  refine ⟨?_, ?_, ?_, ?_⟩
  · exact not_congr (parseWav_eq_none raw)
  · exact not_congr (decodeAudio_eq_none raw assumedRate)
  · intro file
    exact file.decodeAudio_bytes assumedRate
  · intro short
    exact decodeAudio_pcmToWav short assumedRate

/-- Two bytes of audio come back. -/
theorem decodeAudio_pcmToWav_two : decodeAudio (pcmToWav [1, 2]) 24000 = some (some ⟨[1, 2], 16000⟩) :=
  ((wav_decoding [] [1, 2] 24000).2.2.2 (by decide)).2 (by decide)

/-- A junk chunk of seventeen bytes, and the header of a format chunk behind which the bytes end. -/
def cutWav : Bytes :=
  riffId ++ u32Bytes 36 ++ waveId ++ ([106, 117, 110, 107] ++ u32Bytes 17 ++ List.replicate 18 0) ++
    (fmtId ++ u32Bytes 16)

/-- A WAV without audio is taken for raw PCM, and a WAV that ends behind the header of a format chunk makes
the decoder panic. -/
theorem decodeAudio_pcmToWav_nil :
    decodeAudio (pcmToWav []) 24000 = some (some ⟨pcmToWav [], 24000⟩) ∧ parseWav cutWav = none ∧
      decodeAudio cutWav 24000 = none := by
  have wav : HasCutFormat cutWav := by
    refine ⟨⟨by decide, by decide, by decide⟩, 38, .next (by decide) (by decide) ?_, ?_⟩
    · exact .here 38
    · exact ⟨by decide, by decide, by decide, by decide⟩
  exact ⟨by decide, (parseWav_eq_none _).2 wav, (decodeAudio_eq_none _ _).2 ⟨by decide, wav⟩⟩

end Feros
