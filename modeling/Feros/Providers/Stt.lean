import Feros.Types
import Feros.Providers.Ws
/-! # STT providers

Seven backends behind one interface: `feedAudio` and `finalize` are called by the reactor, and events
come back through a channel.  Streaming providers write to a WebSocket and have a task that reads it;
segmented ones keep the audio in a buffer, and spawn a task for each upload.  Tasks wait while the
channel of the events is full, which delays them and changes nothing else; a poisoned mutex, a MIME
type that is no MIME type, and calls before `connect` or after the end of the session lie outside. -/

namespace Feros

/-! ## What is sent -/

/-- A message to an STT service; audio is a binary frame, or Base64 in an `append` message. -/
inductive SttMessage where
  | audio (pcm : Bytes)
  /-- `Finalize`, `finalize` or `input_audio_buffer.commit`: recognise what was sent. -/
  | finalize
  | keepAlive
  | ping
  /-- The answer to the `session.created` of OpenAI. -/
  | sessionUpdate (model language : String)
  | close
  deriving DecidableEq, Repr

/-- What the reactor calls. -/
inductive SttCall where
  | feedAudio (pcm : Bytes)
  | finalize
  deriving DecidableEq, Repr

/-! ## Builtin -/

/-- A transcript of the builtin service. -/
structure TranscriptResult where
  isFinal : Bool
  text : String
  deriving DecidableEq, Repr

/-- A message of the builtin service that can be read. -/
abbrev SttResponseMsg := Option TranscriptResult

/-- **The builtin provider**: audio and control messages go through two channels to one writer. -/
structure BuiltinSttProvider where
  audioRx : List Bytes := []
  controlRx : List SttMessage := []
  wire : List SttMessage := []
  sentFirstText : Bool := false
  results : List SttEvent := []
  deriving DecidableEq, Repr

namespace BuiltinSttProvider

def feedAudio (audio : Bytes) (p : BuiltinSttProvider) : BuiltinSttProvider :=
  { p with audioRx := p.audioRx ++ [audio] }

def finalize (p : BuiltinSttProvider) : BuiltinSttProvider :=
  { p with controlRx := p.controlRx ++ [.finalize] }

/-- The end of the session, which goes behind the control messages before it. -/
def close (p : BuiltinSttProvider) : BuiltinSttProvider :=
  { p with controlRx := p.controlRx ++ [.close] }

/-- The writer takes audio. -/
def writeAudio (p : BuiltinSttProvider) : BuiltinSttProvider :=
  match p.audioRx with
  | audio :: rest => { p with audioRx := rest, wire := p.wire ++ [.audio audio] }
  | [] => p

/-- The writer takes a control message; the `select!` is fair, so it may do so while there is audio. -/
def writeControl (p : BuiltinSttProvider) : BuiltinSttProvider :=
  match p.controlRx with
  | message :: rest => { p with controlRx := rest, wire := p.wire ++ [message] }
  | [] => p

/-- The reader gets a message. -/
def read (msg : Except String SttResponseMsg) (p : BuiltinSttProvider) : BuiltinSttProvider :=
  match msg with
  | .ok (some tr) =>
    let transcript := trim tr.text
    let starts := !p.sentFirstText && !transcript.isEmpty
    let ends := tr.isFinal && !transcript.isEmpty
    { p with
      sentFirstText := (p.sentFirstText || starts) && !ends
      results := p.results ++ (if starts then [.firstTextReceived] else []) ++
        (if ends then [.transcript transcript] else []) }
  | .ok none | .error _ => p

end BuiltinSttProvider

/-! ## Deepgram -/

/-- A result of Deepgram. -/
structure DeepgramResult where
  msgType : String
  /-- The transcripts of the alternatives. -/
  channel : Option (List String) := none
  fromFinalize : Bool := false
  isFinal : Bool := false
  speechFinal : Bool := false
  deriving DecidableEq, Repr

/-- **The Deepgram provider.** -/
structure DeepgramSttProvider where
  conn : ManagedWs SttMessage := { keepalive := some .keepAlive }
  sentFirstText : Bool := false
  accumulatedSegments : List String := []
  results : List SttEvent := []
  deriving DecidableEq, Repr

namespace DeepgramSttProvider

def feedAudio (audio : Bytes) (p : DeepgramSttProvider) : DeepgramSttProvider :=
  { p with conn := p.conn.send (.audio audio) }

def finalize (p : DeepgramSttProvider) : DeepgramSttProvider :=
  { p with conn := p.conn.send .finalize }

/-- The text of a result. -/
def transcript (res : DeepgramResult) : String :=
  ((res.channel.bind (·.head?)).map trim).getD ""

/-- The end of an utterance: the accumulated text is emitted, also if it is empty and was asked for. -/
def endUtterance (res : DeepgramResult) (p : DeepgramSttProvider) : DeepgramSttProvider :=
  let segments := if !res.isFinal && !(transcript res).isEmpty then
      p.accumulatedSegments ++ [transcript res]
    else p.accumulatedSegments
  let full := trim (String.intercalate " " segments)
  let p := { p with accumulatedSegments := [], sentFirstText := false }
  if full.isEmpty && !res.fromFinalize then p else { p with results := p.results ++ [.transcript full] }

/-- The reader gets a result with a transcript. -/
def readResult (res : DeepgramResult) (p : DeepgramSttProvider) : DeepgramSttProvider :=
  let text := transcript res
  if text.isEmpty && !res.speechFinal && !res.fromFinalize then p
  else
    let p := if !text.isEmpty && !p.sentFirstText then
        { p with sentFirstText := true, results := p.results ++ [.firstTextReceived] }
      else p
    let p := if res.isFinal && !text.isEmpty then
        { p with accumulatedSegments := p.accumulatedSegments ++ [text] }
      else p
    if res.speechFinal || res.fromFinalize then p.endUtterance res
    else if !res.isFinal && !text.isEmpty then
      { p with results := p.results ++ [.partialTranscript text] }
    else p

/-- The reader gets a message. -/
def read (msg : Except String DeepgramResult) (p : DeepgramSttProvider) : DeepgramSttProvider :=
  match msg with
  | .ok res => if res.msgType = "Results" then p.readResult res else p
  | .error _ => p

end DeepgramSttProvider

/-! ## Cartesia -/

/-- A message of Cartesia. -/
structure CartesiaTranscriptMsg where
  msgType : String
  text : String := ""
  isFinal : Bool := false
  deriving DecidableEq, Repr

/-- 100 ms of silence. -/
def silenceChunk : Bytes := List.replicate 3200 0

/-- **The Cartesia provider**; its keepalive is silence. -/
structure CartesiaSttProvider where
  conn : ManagedWs SttMessage := { keepalive := some (.audio silenceChunk) }
  sentFirstText : Bool := false
  results : List SttEvent := []
  deriving DecidableEq, Repr

namespace CartesiaSttProvider

def feedAudio (audio : Bytes) (p : CartesiaSttProvider) : CartesiaSttProvider :=
  { p with conn := p.conn.send (.audio audio) }

def finalize (p : CartesiaSttProvider) : CartesiaSttProvider :=
  { p with conn := p.conn.send .finalize }

/-- The reader gets a transcript. -/
def readTranscript (msg : CartesiaTranscriptMsg) (p : CartesiaSttProvider) : CartesiaSttProvider :=
  if msg.text.isEmpty && !msg.isFinal then p
  else
    let p := if !msg.text.isEmpty && !p.sentFirstText then
        { p with sentFirstText := true, results := p.results ++ [.firstTextReceived] }
      else p
    if msg.isFinal then
      { p with sentFirstText := false, results := p.results ++ [.transcript (trim msg.text)] }
    else if !msg.text.isEmpty then { p with results := p.results ++ [.partialTranscript msg.text] }
    else p

/-- The reader gets a message. -/
def read (msg : Except String CartesiaTranscriptMsg) (p : CartesiaSttProvider) :
    CartesiaSttProvider :=
  match msg with
  | .ok msg => if msg.msgType = "transcript" then p.readTranscript msg else p
  | .error _ => p

end CartesiaSttProvider

/-! ## OpenAI Realtime -/

/-- An event of OpenAI. -/
inductive OpenAIEvent where
  /-- `session.created` or `transcription_session.created`. -/
  | sessionCreated
  | delta (delta : Option String)
  | completed (transcript : Option String)
  /-- `conversation.item.input_audio_transcription.failed`. -/
  | failed
  | error
  /-- Any other event. -/
  | ignored
  deriving DecidableEq, Repr

/-- **The OpenAI Realtime provider**: audio goes through a task that resamples it to the channel of the
connection, and control messages go there at once.  Resampling is taken as the identity. -/
structure OpenAIRealtimeSttProvider where
  model : String
  language : String
  conn : ManagedWs SttMessage := { keepalive := some .ping }
  audioRx : List Bytes := []
  /-- What the resampler task has taken, and not passed on yet. -/
  resampling : Option Bytes := none
  sentFirstText : Bool := false
  results : List SttEvent := []
  deriving DecidableEq, Repr

namespace OpenAIRealtimeSttProvider

def new (model language : String) : OpenAIRealtimeSttProvider where
  model := if model.isEmpty then "gpt-4o-transcribe" else model
  language := if language.isEmpty then "en" else language

def feedAudio (audio : Bytes) (p : OpenAIRealtimeSttProvider) : OpenAIRealtimeSttProvider :=
  if audio.isEmpty then p else { p with audioRx := p.audioRx ++ [audio] }

/-- Commit the audio buffer; the message does not go through the resampler task. -/
def finalize (p : OpenAIRealtimeSttProvider) : OpenAIRealtimeSttProvider :=
  { p with conn := p.conn.send .finalize }

/-- The resampler task takes audio. -/
def resample (p : OpenAIRealtimeSttProvider) : OpenAIRealtimeSttProvider :=
  match p.resampling, p.audioRx with
  | none, audio :: rest =>
    { p with audioRx := rest, resampling := if audio.isEmpty then none else some audio }
  | _, _ => p

/-- The resampler task passes audio on. -/
def append (p : OpenAIRealtimeSttProvider) : OpenAIRealtimeSttProvider :=
  match p.resampling with
  | some audio => { p with resampling := none, conn := p.conn.send (.audio audio) }
  | none => p

/-- The reader gets an event. -/
def readEvent (event : OpenAIEvent) (p : OpenAIRealtimeSttProvider) : OpenAIRealtimeSttProvider :=
  match event with
  | .sessionCreated => { p with conn := p.conn.send (.sessionUpdate p.model p.language) }
  | .delta delta =>
    let text := delta.getD ""
    if text.isEmpty then p
    else { p with
      sentFirstText := true
      results := p.results ++ (if p.sentFirstText then [] else [.firstTextReceived]) ++
        [.partialTranscript text] }
  | .completed transcript =>
    let text := trim (transcript.getD "")
    if text.isEmpty then p
    else { p with
      sentFirstText := false
      results := p.results ++ (if p.sentFirstText then [] else [.firstTextReceived]) ++
        [.transcript text] }
  | .failed | .error | .ignored => p

/-- The reader gets a message. -/
def read (msg : Except String OpenAIEvent) (p : OpenAIRealtimeSttProvider) :
    OpenAIRealtimeSttProvider :=
  match msg with
  | .ok event => p.readEvent event
  | .error _ => p

end OpenAIRealtimeSttProvider

/-! ## Segmented providers -/

/-- Little-endian bytes of a `u32`. -/
def u32Bytes (n : ℕ) : Bytes :=
  [UInt8.ofNat n, UInt8.ofNat (n / 2 ^ 8), UInt8.ofNat (n / 2 ^ 16), UInt8.ofNat (n / 2 ^ 24)]

/-- Little-endian bytes of a `u16`. -/
def u16Bytes (n : ℕ) : Bytes := [UInt8.ofNat n, UInt8.ofNat (n / 2 ^ 8)]

/-- The header of a WAV with PCM at 16 kHz. -/
def wavHeader (dataLen : ℕ) : Bytes :=
  let sampleRate := 16000
  let channels := 1
  let bitsPerSample := 16
  [82, 73, 70, 70] ++ u32Bytes (dataLen + 36) ++ [87, 65, 86, 69] ++
    [102, 109, 116, 32] ++ u32Bytes 16 ++ u16Bytes 1 ++ u16Bytes channels ++ u32Bytes sampleRate ++
    u32Bytes (sampleRate * channels * bitsPerSample / 8) ++
    u16Bytes (channels * bitsPerSample / 8) ++ u16Bytes bitsPerSample ++
    [100, 97, 116, 97] ++ u32Bytes dataLen

/-- A WAV header is forty-four bytes. -/
theorem length_wavHeader (dataLen : ℕ) : (wavHeader dataLen).length = 44 := by
  simp [wavHeader, u32Bytes, u16Bytes]

/-- Wrap PCM in a WAV. -/
def pcmToWav (pcm : Bytes) : Bytes := wavHeader (pcm.length % 2 ^ 32) ++ pcm

/-- A multipart upload. -/
structure SttUpload where
  url : String
  /-- The header that authenticates it. -/
  header : String × String
  file : Bytes
  fields : List (String × String)
  deriving DecidableEq, Repr

/-- What comes of an upload. -/
inductive SttOutcome where
  | requestFailed (reason : String)
  | status (code : ℕ)
  /-- Success, with the `text` of the body if the body can be read. -/
  | body (text : Except String (Option String))

namespace SttOutcome

/-- What a task sends when its upload is answered. -/
def events : SttOutcome → List SttEvent
  | .requestFailed _ | .status _ => [.transcript ""]
  | .body (.error _) => []
  | .body (.ok text) =>
    let text := trim (text.getD "")
    (if text.isEmpty then [] else [.firstTextReceived]) ++ [.transcript text]

end SttOutcome

/-- A task of a segmented provider. -/
inductive SttTask where
  /-- It has not run yet. -/
  | spawned (upload : SttUpload)
  /-- Its upload is on its way. -/
  | posted
  /-- It has events to send. -/
  | sending (events : List SttEvent)
  deriving DecidableEq, Repr

/-- **A segmented provider.** -/
structure SegmentedSttProvider where
  url : String
  header : String × String
  fields : List (String × String)
  pcmBuffer : Bytes := []
  tasks : List SttTask := []
  uploads : List SttUpload := []
  results : List SttEvent := []
  deriving DecidableEq, Repr

namespace SegmentedSttProvider

def feedAudio (audio : Bytes) (p : SegmentedSttProvider) : SegmentedSttProvider :=
  { p with pcmBuffer := p.pcmBuffer ++ audio }

/-- The upload of a segment. -/
def upload (pcm : Bytes) (p : SegmentedSttProvider) : SttUpload :=
  ⟨p.url, p.header, pcmToWav pcm, p.fields⟩

/-- Drain the buffer into a task of its own; without audio there is nothing to upload, and the answer
is empty. -/
def finalize (p : SegmentedSttProvider) : SegmentedSttProvider :=
  let task : SttTask := if p.pcmBuffer.isEmpty then .sending [.transcript ""]
    else .spawned (p.upload p.pcmBuffer)
  { p with pcmBuffer := [], tasks := p.tasks ++ [task] }

/-- The `i`-th task posts its upload. -/
def post (i : ℕ) (p : SegmentedSttProvider) : SegmentedSttProvider :=
  match p.tasks[i]? with
  | some (.spawned upload) =>
    { p with tasks := p.tasks.set i .posted, uploads := p.uploads ++ [upload] }
  | _ => p

/-- The upload of the `i`-th task is answered. -/
def respond (i : ℕ) (outcome : SttOutcome) (p : SegmentedSttProvider) : SegmentedSttProvider :=
  match p.tasks[i]? with
  | some .posted => { p with tasks := p.tasks.set i (.sending outcome.events) }
  | _ => p

/-- The `i`-th task sends an event. -/
def sendNext (i : ℕ) (p : SegmentedSttProvider) : SegmentedSttProvider :=
  match p.tasks[i]? with
  | some (.sending (event :: events)) =>
    { p with tasks := p.tasks.set i (.sending events), results := p.results ++ [event] }
  | _ => p

end SegmentedSttProvider

/-- The field of a language, which is left out if it is empty. -/
def languageField (name language : String) : List (String × String) :=
  if language.isEmpty then [] else [(name, language)]

/-- The Groq Whisper provider. -/
def GroqWhisperSttProvider.new (apiKey model language : String) : SegmentedSttProvider where
  url := "https://api.groq.com/openai/v1/audio/transcriptions"
  header := ("Authorization", "Bearer " ++ apiKey)
  fields := [("model", if model.isEmpty then "whisper-large-v3-turbo" else model),
    ("response_format", "json")] ++ languageField "language" language

/-- The OpenAI Whisper provider. -/
def OpenAiWhisperSttProvider.new (apiKey model language : String) : SegmentedSttProvider where
  url := "https://api.openai.com/v1/audio/transcriptions"
  header := ("Authorization", "Bearer " ++ apiKey)
  fields := [("model", if model.isEmpty then "gpt-4o-transcribe" else model),
    ("response_format", "json")] ++ languageField "language" language

/-- The ISO 639-3 codes of ElevenLabs. -/
def elevenlabsLanguages : List (String × String) :=
  [("en", "eng"), ("zh", "zho"), ("es", "spa"), ("hi", "hin"), ("ar", "ara"), ("pt", "por"),
    ("bn", "ben"), ("ru", "rus"), ("ja", "jpn"), ("de", "deu"), ("fr", "fra"), ("it", "ita"),
    ("ko", "kor"), ("nl", "nld"), ("pl", "pol"), ("tr", "tur"), ("vi", "vie"), ("th", "tha"),
    ("sv", "swe"), ("da", "dan"), ("fi", "fin"), ("no", "nor"), ("el", "ell"), ("cs", "ces"),
    ("ro", "ron"), ("hu", "hun"), ("uk", "ukr"), ("id", "ind"), ("ms", "msa"), ("he", "heb"),
    ("fa", "fas"), ("ta", "tam"), ("ur", "urd"), ("sw", "swa"), ("af", "afr"), ("hr", "hrv"),
    ("bg", "bul"), ("sk", "slk"), ("sl", "slv"), ("sr", "srp"), ("ca", "cat"), ("ga", "gle"),
    ("cy", "cym"), ("et", "est"), ("lv", "lav"), ("lt", "lit"), ("mt", "mlt"), ("ka", "kat"),
    ("hy", "hye"), ("pa", "pan"), ("gu", "guj"), ("kn", "kan"), ("ml", "mal"), ("te", "tel"),
    ("mr", "mar"), ("ne", "nep"), ("km", "khm"), ("lo", "lao"), ("my", "mya"), ("mn", "mon"),
    ("am", "amh"), ("sd", "snd")]

/-- Convert ISO 639-1 codes; others are passed through. -/
def toElevenlabsLanguage (lang : String) : String := (elevenlabsLanguages.lookup lang).getD lang

/-- The ElevenLabs provider. -/
def ElevenLabsSttProvider.new (apiKey model language : String) : SegmentedSttProvider where
  url := "https://api.elevenlabs.io/v1/speech-to-text"
  header := ("xi-api-key", apiKey)
  fields := [("model_id", if model.isEmpty then "scribe_v2" else model)] ++
    languageField "language_code" (toElevenlabsLanguage language)

/-! ## The factory -/

/-- Configuration for building a provider. -/
structure SttProviderConfig where
  provider : String
  apiKey : String
  language : String
  model : String
  deriving DecidableEq, Repr

/-- Strip the region of a language code. -/
def normalizeToBaseCode (code : String) : String :=
  String.ofList (code.toList.takeWhile (· != '-'))

/-- **A provider.** -/
inductive SttProvider where
  | builtin (p : BuiltinSttProvider)
  | deepgram (p : DeepgramSttProvider)
  | cartesia (p : CartesiaSttProvider)
  | openaiRealtime (p : OpenAIRealtimeSttProvider)
  | segmented (p : SegmentedSttProvider)
  deriving DecidableEq, Repr

/-- Build the provider of a configuration; the streaming providers but one put their model and language
into the URL. -/
def buildSttProvider (cfg : SttProviderConfig) : SttProvider :=
  let baseLang := normalizeToBaseCode cfg.language
  match cfg.provider with
  | "deepgram" => .deepgram {}
  | "cartesia" => .cartesia {}
  | "openai-realtime" => .openaiRealtime (.new cfg.model baseLang)
  | "groq" => .segmented (GroqWhisperSttProvider.new cfg.apiKey cfg.model baseLang)
  | "openai-whisper" => .segmented (OpenAiWhisperSttProvider.new cfg.apiKey cfg.model baseLang)
  | "elevenlabs" => .segmented (ElevenLabsSttProvider.new cfg.apiKey cfg.model baseLang)
  -- An unrecognised tag is the builtin provider.
  | _ => .builtin {}

/-- What a service says to its provider. -/
inductive SttIncoming where
  | builtin (msg : Except String SttResponseMsg)
  | deepgram (msg : Except String DeepgramResult)
  | cartesia (msg : Except String CartesiaTranscriptMsg)
  | openai (msg : Except String OpenAIEvent)

/-- **What the background tasks do.** -/
inductive SttTaskStep where
  /-- The connection loop, or the writer of the builtin provider, writes a message. -/
  | write
  /-- The writer of the builtin provider takes a control message. -/
  | writeControl
  /-- The keepalive of a connection is due. -/
  | tick
  /-- The resampler task takes audio, and passes it on. -/
  | resample
  | append
  /-- The reader gets a message. -/
  | read (msg : SttIncoming)
  /-- A task of a segmented provider goes on. -/
  | post (i : ℕ)
  | respond (i : ℕ) (outcome : SttOutcome)
  | sendNext (i : ℕ)

/-- What can happen. -/
inductive SttAction where
  | call (c : SttCall)
  | task (t : SttTaskStep)

namespace SttProvider

/-- A call of the reactor. -/
def call : SttCall → SttProvider → SttProvider
  | .feedAudio pcm, .builtin p => .builtin (p.feedAudio pcm)
  | .feedAudio pcm, .deepgram p => .deepgram (p.feedAudio pcm)
  | .feedAudio pcm, .cartesia p => .cartesia (p.feedAudio pcm)
  | .feedAudio pcm, .openaiRealtime p => .openaiRealtime (p.feedAudio pcm)
  | .feedAudio pcm, .segmented p => .segmented (p.feedAudio pcm)
  | .finalize, .builtin p => .builtin p.finalize
  | .finalize, .deepgram p => .deepgram p.finalize
  | .finalize, .cartesia p => .cartesia p.finalize
  | .finalize, .openaiRealtime p => .openaiRealtime p.finalize
  | .finalize, .segmented p => .segmented p.finalize

/-- **A background task takes a step**, if the provider has such a task. -/
def taskStep : SttTaskStep → SttProvider → SttProvider
  | .write, .builtin p => .builtin p.writeAudio
  | .write, .deepgram p => .deepgram { p with conn := p.conn.write }
  | .write, .cartesia p => .cartesia { p with conn := p.conn.write }
  | .write, .openaiRealtime p => .openaiRealtime { p with conn := p.conn.write }
  | .writeControl, .builtin p => .builtin p.writeControl
  | .tick, .deepgram p => .deepgram { p with conn := p.conn.tick }
  | .tick, .cartesia p => .cartesia { p with conn := p.conn.tick }
  | .tick, .openaiRealtime p => .openaiRealtime { p with conn := p.conn.tick }
  | .resample, .openaiRealtime p => .openaiRealtime p.resample
  | .append, .openaiRealtime p => .openaiRealtime p.append
  | .read (.builtin msg), .builtin p => .builtin (p.read msg)
  | .read (.deepgram msg), .deepgram p => .deepgram (p.read msg)
  | .read (.cartesia msg), .cartesia p => .cartesia (p.read msg)
  | .read (.openai msg), .openaiRealtime p => .openaiRealtime (p.read msg)
  | .post i, .segmented p => .segmented (p.post i)
  | .respond i outcome, .segmented p => .segmented (p.respond i outcome)
  | .sendNext i, .segmented p => .segmented (p.sendNext i)
  | _, p => p

/-- The provider takes a step: it is called, or a task goes on. -/
def step (p : SttProvider) : SttAction → SttProvider
  | .call c => p.call c
  | .task t => p.taskStep t

/-- The messages on the wire. -/
def wire : SttProvider → List SttMessage
  | .builtin p => p.wire
  | .deepgram p => p.conn.wire
  | .cartesia p => p.conn.wire
  | .openaiRealtime p => p.conn.wire
  | .segmented _ => []

/-- The events the reactor gets. -/
def results : SttProvider → List SttEvent
  | .builtin p => p.results
  | .deepgram p => p.results
  | .cartesia p => p.results
  | .openaiRealtime p => p.results
  | .segmented p => p.results

end SttProvider

end Feros
