import Feros.Recording
import Feros.Library.Segments
/-! # Outgoing audio

Both outgoing audio loops queue the samples of the agent and take one frame of 20 ms from the queue at
each tick of a clock; an interrupt clears the queue.

* **`telephonyForward`** is one turn of the telephony loop.
* **`rtcTurn`** is one turn of the WebRTC loop, as far as outgoing audio goes.
* **`Outgoing`** is what the two have in common.

Nothing is lost to lag, and sending and encoding succeed; the codecs are left out. -/

namespace Feros

open Segments

/-- `i16::to_le_bytes`. -/
def i16ToLeBytes (sample : Sample) : Bytes :=
  let n := (sample % 65536).toNat
  [.ofNat n, .ofNat (n / 256)]

/-- Samples as raw PCM16 bytes. -/
def i16ToBytes (samples : List Sample) : Bytes := samples.flatMap i16ToLeBytes

/-! ## Telephony -/

def pacingIntervalMs : ℕ := 20

/-- The samples in a frame: samples a second, times seconds a frame. -/
def telephonyFrameSamples (sampleRate : ℕ) : ℕ := sampleRate * pacingIntervalMs / 1000

/-- A turn of the telephony loop. -/
inductive TelephonyInput where
  | event (event : Event)
  | paceTick
  deriving DecidableEq, Repr

/-- What the telephony loop sends on the web socket. -/
inductive TelephonyMessage where
  /-- A frame of audio, here before it is encoded. -/
  | media (pcmBytes : Bytes)
  | clear
  deriving DecidableEq, Repr

/-- **One turn of `telephony_forward_loop`**: what it sends, and `audio_pace_buf`. -/
def telephonyForward (frameSamples : ℕ) (audioPaceBuf : List Sample) :
    TelephonyInput → List TelephonyMessage × List Sample
  -- The sample rate of the event is only asserted in debug builds.
  | .event (.agentAudio pcm _ _) => ([], audioPaceBuf ++ bytesToI16 pcm)
  | .event .interrupt => ([.clear], [])
  | .event _ => ([], audioPaceBuf)
  | .paceTick =>
    if frameSamples ≤ audioPaceBuf.length then
      ([.media (i16ToBytes (audioPaceBuf.take frameSamples))], audioPaceBuf.drop frameSamples)
    else ([], audioPaceBuf)

/-! ## WebRTC -/

/-- The samples in a frame of 20 ms at 48 kHz. -/
def opusFrameSamples : ℕ := 960

inductive MediaKind where
  | audio
  | video
  deriving DecidableEq, Repr

inductive Direction where
  | recvOnly
  | sendOnly
  | sendRecv
  | inactive
  deriving DecidableEq, Repr

/-- **The local state of `run_rtc_loop`** that outgoing audio depends on. -/
structure RtcLoop where
  audioPaceBuf : List Sample
  sendMid : Option ℕ
  /-- In clock ticks at 48 kHz. -/
  mediaTime : ℕ
  deriving DecidableEq, Repr

/-- A turn of the WebRTC loop that outgoing audio depends on. -/
inductive RtcInput where
  | mediaAdded (mid : ℕ) (kind : MediaKind) (direction : Direction)
  | sendAudio (pcm : Bytes)
  | clearAudio
  | paceTick
  deriving DecidableEq, Repr

/-- A frame that is encoded and written. -/
structure RtcFrame where
  mid : ℕ
  mediaTime : ℕ
  frame : List Sample
  deriving DecidableEq, Repr

/-- **One turn of `run_rtc_loop`**: the frame it writes, and its state. -/
def rtcTurn (r : RtcLoop) : RtcInput → List RtcFrame × RtcLoop
  | .mediaAdded mid .audio .sendOnly => ([], { r with sendMid := some mid })
  | .mediaAdded mid .audio .sendRecv => ([], { r with sendMid := some mid })
  | .mediaAdded _ _ _ => ([], r)
  | .sendAudio pcm => ([], { r with audioPaceBuf := r.audioPaceBuf ++ bytesToI16 pcm })
  | .clearAudio => ([], { r with audioPaceBuf := [] })
  | .paceTick =>
    if opusFrameSamples ≤ r.audioPaceBuf.length then
      let rest := r.audioPaceBuf.drop opusFrameSamples
      match r.sendMid with
      | some mid =>
        ([⟨mid, r.mediaTime, r.audioPaceBuf.take opusFrameSamples⟩],
          { r with audioPaceBuf := rest, mediaTime := r.mediaTime + opusFrameSamples })
      -- A frame is dropped as long as there is nowhere to send it.
      | none => ([], { r with audioPaceBuf := rest })
    else ([], r)

/-! ## What they have in common -/

/-- **An outgoing audio loop**, seen from outside. -/
structure Outgoing (σ ι : Type) where
  step : σ → ι → σ
  audioPaceBuf : σ → List Sample
  frameSamples : ℕ
  tick : ι
  /-- The agent audio that comes in, as raw bytes, and the interrupts. -/
  heard : ι → List (Item UInt8)
  /-- The audio that is put into frames, and the interrupts. -/
  played : σ → ι → List (Item UInt8)

def telephonyHeard : TelephonyInput → List (Item UInt8)
  | .event (.agentAudio pcm _ _) => [.piece pcm]
  | .event .interrupt => [.mark]
  | _ => []

/-- A clear message goes out at each interrupt. -/
def TelephonyMessage.played : TelephonyMessage → Item UInt8
  | .media pcmBytes => .piece pcmBytes
  | .clear => .mark

/-- The telephony loop at a sample rate. -/
def telephonyForwardLoop (sampleRate : ℕ) : Outgoing (List Sample) TelephonyInput where
  step audioPaceBuf input := (telephonyForward (telephonyFrameSamples sampleRate) audioPaceBuf input).2
  audioPaceBuf := id
  frameSamples := telephonyFrameSamples sampleRate
  tick := .paceTick
  heard := telephonyHeard
  played audioPaceBuf input :=
    (telephonyForward (telephonyFrameSamples sampleRate) audioPaceBuf input).1.map TelephonyMessage.played

def rtcHeard : RtcInput → List (Item UInt8)
  | .sendAudio pcm => [.piece pcm]
  | .clearAudio => [.mark]
  | _ => []

/-- Nothing goes out at an interrupt, so its mark is put in. -/
def rtcPlayed (r : RtcLoop) (input : RtcInput) : List (Item UInt8) :=
  (if input = .clearAudio then [.mark] else []) ++
    (rtcTurn r input).1.map fun sent => .piece (i16ToBytes sent.frame)

/-- The WebRTC loop. -/
def runRtcLoop : Outgoing RtcLoop RtcInput where
  step r input := (rtcTurn r input).2
  audioPaceBuf := RtcLoop.audioPaceBuf
  frameSamples := opusFrameSamples
  tick := .paceTick
  heard := rtcHeard
  played := rtcPlayed

end Feros
