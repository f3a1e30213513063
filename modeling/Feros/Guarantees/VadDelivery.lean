import Feros.Audio.SileroVad
import Feros.Guarantees.FrameAlignment
/-! # VAD events and packets

`AudioFront.onAudio` is what the handler of audio packets does up to the VAD event: the ring buffer cuts
the packets into frames, and the last event of the frames of a packet is passed on.

The frames do not depend on the packets as long as these fit in the buffer, and so do the events of the
VAD.  A packet with two of them passes on the second only. -/

namespace Feros

open Frames

/-- The bytes of a frame. -/
def frameBytes : ℕ := 1024

/-- The bytes of the ring buffer of a session. -/
def ringCapacity : ℕ := 65536

/-- **A model**: what it infers for the last of the frames it was given. -/
abbrev VadModel (env : VadEnv) := List Bytes → Option env.F32

/-- The VAD, and the frames the model was given. -/
structure Listener (env : VadEnv) where
  vad : VadStage env
  heard : List Bytes

/-- **Where audio comes in.** -/
structure AudioFront (env : VadEnv) where
  ringBuffer : AudioRingBuffer
  listener : Listener env

variable {env : VadEnv}

namespace Listener

/-- Before the first frame. -/
def new (config : VadConfig env) : Listener env := ⟨⟨SileroVad.new config⟩, []⟩

/-- The threshold of a packet. -/
def setThreshold (threshold : env.F32) (l : Listener env) : Listener env :=
  { l with vad := l.vad.setThreshold threshold }

variable (model : VadModel env)

/-- A frame. -/
def frame (frame : Bytes) (l : Listener env) : Option VadEvent × Listener env :=
  let heard := l.heard ++ [frame]
  let (event, vad) := l.vad.process (model heard) frame
  (event, ⟨vad, heard⟩)

/-- The events of some frames, all of them. -/
def events : List Bytes → Listener env → List VadEvent × Listener env
  | [], l => ([], l)
  | first :: frames, l =>
    let (event, l) := l.frame model first
    let (later, l) := l.events frames
    (event.toList ++ later, l)

end Listener

namespace AudioFront

/-- Before the first packet. -/
def new (config : VadConfig env) : AudioFront env :=
  ⟨AudioRingBuffer.new ringCapacity frameBytes, .new config⟩

variable (model : VadModel env) (threshold : env.F32)

/-- **`Reactor::on_audio`**, and the event it passes to `on_vad_event`. -/
def onAudio (raw : Bytes) (a : AudioFront env) : Option VadEvent × AudioFront env :=
  let (frames, ringBuffer) := a.ringBuffer.processFrames raw
  let (vadEvent, listener) := frames.foldl (fun (vadEvent, l) frame =>
    match l.frame model frame with
    | (some event, l) => (some event, l)
    | (none, l) => (vadEvent, l)) (none, a.listener.setThreshold threshold)
  (vadEvent, ⟨ringBuffer, listener⟩)

/-- The events that reach `on_vad_event`. -/
def delivered : List Bytes → AudioFront env → List VadEvent
  | [], _ => []
  | raw :: packets, a =>
    let (event, a) := a.onAudio model threshold raw
    event.toList ++ a.delivered packets

/-- All events of the frames that each packet completes. -/
def packetEvents : List Bytes → AudioFront env → List (List VadEvent)
  | [], _ => []
  | raw :: packets, a =>
    let (frames, ringBuffer) := a.ringBuffer.processFrames raw
    let (events, listener) := (a.listener.setThreshold threshold).events model frames
    events :: (AudioFront.mk ringBuffer listener).packetEvents packets

end AudioFront

/-- **Start and end take turns**; `speaking` if an end is next. -/
inductive Alternates : (speaking : Bool) → List VadEvent → Prop
  | nil (speaking : Bool) : Alternates speaking []
  | start {events : List VadEvent} : Alternates true events → Alternates false (.speechStarted :: events)
  | stop {events : List VadEvent} (audio : Bytes) : Alternates false events →
      Alternates true (.speechEnded audio :: events)

/-! ## The frames of a listener -/

namespace Listener

variable {model : VadModel env} {threshold : env.F32}

/-- The events of one list of frames after the other. -/
theorem events_append (first second : List Bytes) (l : Listener env) :
    l.events model (first ++ second) = ((l.events model first).1 ++
      ((l.events model first).2.events model second).1, ((l.events model first).2.events model second).2) := by
  induction first generalizing l with
  | nil => rfl
  | cons frame first ih =>
      rw [List.cons_append, events, events]
      dsimp only
      rw [ih, List.append_assoc]

/-- **The last event is kept.** -/
theorem foldl_frame (frames : List Bytes) (vadEvent : Option VadEvent) (l : Listener env) :
    frames.foldl (fun (vadEvent, l) frame =>
      match Listener.frame model frame l with
      | (some event, l) => (some event, l)
      | (none, l) => (vadEvent, l)) (vadEvent, l) =
        ((l.events model frames).1.getLast?.or vadEvent, (l.events model frames).2) := by
  induction frames generalizing vadEvent l with
  | nil => rfl
  | cons frame frames ih =>
      rw [List.foldl_cons, events]
      dsimp only
      rcases Listener.frame model frame l with ⟨_ | event, next⟩
      · exact ih vadEvent next
      · dsimp only
        rw [ih, Option.toList_some, List.getLast?_append]
        rcases (next.events model frames).1.getLast? with _ | last <;> rfl

/-- The threshold is set. -/
def Set (threshold : env.F32) (l : Listener env) : Prop := l.vad.inner.config.threshold = threshold

/-- A threshold that is set need not be set again. -/
theorem Set.setThreshold {l : Listener env} (set : l.Set threshold) : l.setThreshold threshold = l := by
  rcases l with ⟨⟨⟨⟨old, minVolume, silence, speech, lookback⟩, isSpeaking, count, count', buffer, audio,
    volume⟩⟩, heard⟩
  cases set
  rfl

/-- A frame leaves the settings. -/
theorem config_process (inferred : Option env.F32) (frame : Bytes) (s : VadStage env) :
    (s.process inferred frame).2.inner.config = s.inner.config := by
  have same : (s.inner.processFrame inferred frame).2.config = s.inner.config := by
    cases inferred with
    | none => rfl
    | some prob => exact SileroVad.config_advance
  unfold VadStage.process
  rcases result : s.inner.processFrame inferred frame with ⟨_ | _ | _, inner⟩
  all_goals
    rw [result] at same
  · exact same
  · exact same
  · exact same

/-- Frames leave the threshold. -/
theorem Set.events {l : Listener env} (set : l.Set threshold) (frames : List Bytes) :
    (l.events model frames).2.Set threshold := by
  induction frames generalizing l with
  | nil => exact set
  | cons frame frames ih =>
      rw [Listener.events]
      apply ih
      unfold Set at set ⊢
      rw [Listener.frame, config_process]
      exact set

/-- **A listener is sound**: there are not too many frames in the lookback buffer, and in speech there is
audio. -/
structure Sound (l : Listener env) : Prop where
  few : l.vad.inner.lookbackBuffer.length ≤ l.vad.inner.config.lookbackFrames
  audio : l.vad.inner.isSpeaking = true → l.vad.inner.speechAudio ≠ []

/-- A new listener is sound. -/
theorem sound_new (config : VadConfig env) : (new config).Sound :=
  ⟨Nat.zero_le _, fun speaking => Bool.noConfusion speaking⟩

/-- The threshold does not matter to the rest. -/
theorem Sound.setThreshold {l : Listener env} (sound : l.Sound) : (l.setThreshold threshold).Sound :=
  ⟨sound.few, sound.audio⟩

/-- **What a frame can lead to**: start and end take turns. -/
theorem Sound.frame {l : Listener env} (sound : l.Sound) {frame : Bytes} (some : frame ≠ []) :
    (l.frame model frame).2.Sound ∧
      ((l.frame model frame).1 = none ∧
          (l.frame model frame).2.vad.inner.isSpeaking = l.vad.inner.isSpeaking ∨
        (l.frame model frame).1 = Option.some .speechStarted ∧ l.vad.inner.isSpeaking = false ∧
          (l.frame model frame).2.vad.inner.isSpeaking = true ∨
        (∃ audio, (l.frame model frame).1 = Option.some (.speechEnded audio)) ∧
          l.vad.inner.isSpeaking = true ∧ (l.frame model frame).2.vad.inner.isSpeaking = false) := by
  rw [Listener.frame, VadStage.process]
  rcases model (l.heard ++ [frame]) with _ | prob
  -- The model gives no probability: the frame changes nothing.
  · exact ⟨⟨sound.few, sound.audio⟩, .inl ⟨rfl, rfl⟩⟩
  rw [SileroVad.processFrame_some, SileroVad.processWithProb]
  dsimp only
  generalize heard : { l.vad.inner with volume := env.smooth l.vad.inner.volume frame } = v
  have few : v.lookbackBuffer.length ≤ v.config.lookbackFrames := heard ▸ sound.few
  have speaks : v.isSpeaking = l.vad.inner.isSpeaking := heard ▸ rfl
  have config := @SileroVad.config_advance env (v.predicts prob) frame v
  rw [← speaks]
  rcases speaking : v.isSpeaking with _ | _
  -- Outside speech the frame begins an utterance, or it goes to the lookback buffer.
  · rcases @SileroVad.advance_quiet env (v.predicts prob) frame v speaking few with
      ⟨event, speaking', audio, buffer⟩ | ⟨event, speaking', buffer⟩
    · generalize v.advance (v.predicts prob) frame = result at config event speaking' audio buffer ⊢
      obtain ⟨outcome, inner⟩ := result
      obtain rfl : outcome = _ := event
      refine ⟨⟨?_, fun _ => ?_⟩, .inr (.inl ⟨rfl, rfl, speaking'⟩)⟩
      · show inner.lookbackBuffer.length ≤ inner.config.lookbackFrames
        rw [buffer, config]
        exact few
      · show inner.speechAudio ≠ []
        rw [audio]
        exact List.append_ne_nil_of_right_ne_nil _ some
    · generalize v.advance (v.predicts prob) frame = result at config event speaking' buffer ⊢
      obtain ⟨outcome, inner⟩ := result
      obtain rfl : outcome = _ := event
      refine ⟨⟨?_, ?_⟩, .inl ⟨rfl, speaking'⟩⟩
      · show inner.lookbackBuffer.length ≤ inner.config.lookbackFrames
        rw [buffer, config, List.rtake, List.length_drop]
        omega
      · intro still
        exact Bool.noConfusion (speaking'.symm.trans still)
  · obtain ⟨events, audio, buffer⟩ := @SileroVad.advance_speaking env (v.predicts prob) frame v speaking
    have bytes : v.speechAudio ++ frame ≠ [] := List.append_ne_nil_of_right_ne_nil _ some
    generalize v.advance (v.predicts prob) frame = result at config events audio buffer ⊢
    obtain ⟨outcome, inner⟩ := result
    dsimp only at config events audio buffer
    -- Inside speech it ends the utterance, whose audio is not empty, or it goes on with it.
    rcases events with ⟨rfl, speaking'⟩ | ⟨rfl, speaking'⟩
    · have nonempty : inner.speechAudio.isEmpty = false := by
        rw [audio, List.isEmpty_eq_false_iff]
        exact bytes
      refine ⟨⟨?_, ?_⟩, .inr (.inr ⟨⟨inner.speechAudio, ?_⟩, rfl, speaking'⟩)⟩
      · show inner.lookbackBuffer.length ≤ inner.config.lookbackFrames
        rw [buffer, config]
        exact few
      · intro still
        exact Bool.noConfusion (speaking'.symm.trans still)
      · show (if inner.speechAudio.isEmpty = true then none else Option.some (VadEvent.speechEnded _)) = _
        rw [nonempty]
        rfl
    · refine ⟨⟨?_, fun _ => ?_⟩, .inl ⟨rfl, speaking'⟩⟩
      · show inner.lookbackBuffer.length ≤ inner.config.lookbackFrames
        rw [buffer, config]
        exact few
      · show inner.speechAudio ≠ []
        rw [audio]
        exact bytes

/-- **The events of some frames take turns.** -/
theorem Sound.alternates {l : Listener env} (sound : l.Sound) {frames : List Bytes}
    (some : ∀ frame ∈ frames, frame ≠ []) : Alternates l.vad.inner.isSpeaking (l.events model frames).1 := by
  induction frames generalizing l with
  | nil =>
      rw [events]
      exact .nil _
  | cons frame frames ih =>
      obtain ⟨sound', events⟩ := @Sound.frame _ model _ sound frame (some frame (List.mem_cons_self ..))
      have later := ih sound' fun other held => some other (List.mem_cons_of_mem _ held)
      rw [Listener.events]
      dsimp only
      rcases events with ⟨event, same⟩ | ⟨event, before, speaking⟩ | ⟨⟨audio, event⟩, before, speaking⟩
      · rw [event, ← same]
        exact later
      · rw [event, before]
        rw [speaking] at later
        exact .start later
      · rw [event, before]
        rw [speaking] at later
        exact .stop audio later

/-- A frame has one event at most. -/
theorem length_events_le (model : VadModel env) (frames : List Bytes) (l : Listener env) :
    (l.events model frames).1.length ≤ frames.length := by
  induction frames generalizing l with
  | nil => exact le_rfl
  | cons frame frames ih =>
      rw [events]
      dsimp only
      have later := ih (l.frame model frame).2
      have here : (l.frame model frame).1.toList.length ≤ 1 := by
        rcases (l.frame model frame).1 with _ | event
        · exact Nat.zero_le _
        · exact le_rfl
      rw [List.length_append, List.length_cons]
      omega

end Listener

/-! ## Packets -/

/-- The chunks fit behind what the buffer holds. -/
def AudioRingBuffer.Fits (rb : AudioRingBuffer) (chunks : List Bytes) : Prop :=
  ChunksFit rb.buf.length rb.frameBytes rb.buffered.length chunks

namespace AudioFront

section Packets

variable {model : VadModel env} {threshold : env.F32} {packets : List Bytes}

/-- **A packet passes on its last event.** -/
theorem delivered_eq (model : VadModel env) (threshold : env.F32) (packets : List Bytes) (a : AudioFront env) :
    a.delivered model threshold packets =
      (a.packetEvents model threshold packets).flatMap fun events => events.getLast?.toList := by
  induction packets generalizing a with
  | nil => rfl
  | cons raw packets ih =>
      rw [delivered, packetEvents, onAudio]
      dsimp only
      rw [Listener.foldl_frame, Option.or_none, ih, List.flatMap_cons]

/-- A single packet passes on the last event of all. -/
theorem delivered_singleton (model : VadModel env) (threshold : env.F32) (raw : Bytes) (a : AudioFront env) :
    a.delivered model threshold [raw] =
      (a.packetEvents model threshold [raw]).flatten.getLast?.toList := by
  rw [delivered_eq, packetEvents]
  dsimp only [packetEvents]
  rw [List.flatMap_singleton, List.flatten_singleton]

/-- **The events do not depend on the packets** if these fit: they are those of the frames. -/
theorem flatten_packetEvents {a : AudioFront env} (sound : a.ringBuffer.Sound)
    (fits : a.ringBuffer.Fits packets) :
    ∃ frames rest, Framed a.ringBuffer.frameBytes (a.ringBuffer.buffered ++ packets.flatten) frames rest ∧
      (a.packetEvents model threshold packets).flatten =
        ((a.listener.setThreshold threshold).events model frames).1 := by
  have short : a.ringBuffer.buffered.length < a.ringBuffer.frameBytes :=
    (AudioRingBuffer.length_buffered sound.inside).trans_lt sound.short
  induction packets generalizing a with
  | nil =>
      refine ⟨[], a.ringBuffer.buffered, ?_, rfl⟩
      rw [List.flatten_nil, List.append_nil]
      exact Framed.of_short short
  | cons raw packets ih =>
      obtain ⟨room, fits⟩ := (AudioRingBuffer.chunksFit_cons short raw packets).1 fits
      rcases processed : a.ringBuffer.processFrames raw with ⟨frames, ringBuffer⟩
      obtain ⟨framed, sound', bytes, capacity⟩ := AudioRingBuffer.processFrames_framed sound room processed
      have set : ((a.listener.setThreshold threshold).events model frames).2.Set threshold :=
        Listener.Set.events rfl frames
      have length : ringBuffer.buffered.length =
          (a.ringBuffer.buffered.length + raw.length) % a.ringBuffer.frameBytes := by
        rw [framed.length_rest, List.length_append]
      obtain ⟨later, rest, framed', events⟩ := @ih
        ⟨ringBuffer, ((a.listener.setThreshold threshold).events model frames).2⟩ sound'
        (by rw [AudioRingBuffer.Fits, capacity, bytes, length]; exact fits)
        ((AudioRingBuffer.length_buffered sound'.inside).trans_lt sound'.short)
      refine ⟨frames ++ later, rest, ?_, ?_⟩
      · rw [List.flatten_cons, ← List.append_assoc]
        exact framed.append (bytes ▸ framed')
      · rw [packetEvents, processed]
        dsimp only
        rw [List.flatten_cons, events, set.setThreshold, Listener.events_append]

/-- **Packets of one frame at most** fit, and have one event at most. -/
theorem single_of_short {a : AudioFront env} (sound : a.ringBuffer.Sound)
    (room : 2 * a.ringBuffer.frameBytes ≤ a.ringBuffer.buf.length)
    (short : ∀ raw ∈ packets, raw.length ≤ a.ringBuffer.frameBytes) :
    a.ringBuffer.Fits packets ∧
      ∀ events ∈ a.packetEvents model threshold packets, events.length ≤ 1 := by
  have less : a.ringBuffer.buffered.length < a.ringBuffer.frameBytes :=
    (AudioRingBuffer.length_buffered sound.inside).trans_lt sound.short
  induction packets generalizing a with
  | nil =>
      refine ⟨?_, nofun⟩
      intro front chunk back split
      cases front <;> cases split
  | cons raw packets ih =>
      have here := short raw (List.mem_cons_self ..)
      have fits : a.ringBuffer.buffered.length + raw.length ≤ a.ringBuffer.buf.length := by omega
      rcases processed : a.ringBuffer.processFrames raw with ⟨frames, ringBuffer⟩
      obtain ⟨framed, sound', bytes, capacity⟩ := AudioRingBuffer.processFrames_framed sound fits processed
      have length : ringBuffer.buffered.length =
          (a.ringBuffer.buffered.length + raw.length) % a.ringBuffer.frameBytes := by
        rw [framed.length_rest, List.length_append]
      obtain ⟨fit, single⟩ := @ih
        ⟨ringBuffer, ((a.listener.setThreshold threshold).events model frames).2⟩ sound'
        (by rw [bytes, capacity]; exact room)
        (fun other held => (short other (List.mem_cons_of_mem _ held)).trans_eq bytes.symm)
        ((AudioRingBuffer.length_buffered sound'.inside).trans_lt sound'.short)
      rw [AudioRingBuffer.Fits, capacity, bytes, length] at fit
      refine ⟨(AudioRingBuffer.chunksFit_cons less raw packets).2 ⟨fits, fit⟩, ?_⟩
      rw [packetEvents, processed]
      intro events held
      rcases List.mem_cons.1 held with rfl | held
      · refine (Listener.length_events_le model frames _).trans ?_
        -- Two frames do not fit in what is there.
        have total := congrArg List.length framed.whole
        rw [List.length_append, length_flatten framed.length_eq, List.length_append] at total
        by_contra many
        have two : a.ringBuffer.frameBytes * 2 ≤ a.ringBuffer.frameBytes * frames.length :=
          Nat.mul_le_mul_left _ (by omega)
        omega
      · exact single events held

end Packets

variable (model : VadModel env) (threshold : env.F32) (config : VadConfig env)

/-- A new buffer is sound. -/
theorem sound_new : (new config).ringBuffer.Sound := AudioRingBuffer.sound_new (by decide)

/-- Packets of a new session that fit. -/
theorem events_new {packets : List Bytes}
    (fits : AudioRingBuffer.ChunksFit ringCapacity frameBytes 0 packets) :
    ∃ frames rest, Framed frameBytes packets.flatten frames rest ∧
      ((new config).packetEvents model threshold packets).flatten =
        (((Listener.new config).setThreshold threshold).events model frames).1 := by
  have room : (new config).ringBuffer.buf.length = ringCapacity := List.length_replicate
  have all := @flatten_packetEvents env model threshold packets (new config) (sound_new config)
    (by rw [AudioRingBuffer.Fits, room]; exact fits)
  exact all

/-- One event at most in each packet: the last is all. -/
theorem flatMap_getLast? {events : List (List VadEvent)} (single : ∀ of ∈ events, of.length ≤ 1) :
    (events.flatMap fun of => of.getLast?.toList) = events.flatten := by
  induction events with
  | nil => rfl
  | cons first events ih =>
      have few := single first (List.mem_cons_self ..)
      rw [List.flatMap_cons, List.flatten_cons, ih fun other held => single other (List.mem_cons_of_mem _ held)]
      rcases first with _ | ⟨event, _ | ⟨other, rest⟩⟩
      · rfl
      · rfl
      · simp only [List.length_cons] at few
        omega

variable {model threshold config} {packets packets' : List Bytes}

/-- **VAD events do not depend on the packets** in which the audio comes, as long as each packet fits in
the ring buffer and completes one event at most: none is lost, and start and end take turns.  In any
case a packet passes on the last of its events. -/
theorem delivery_independent (same : packets.flatten = packets'.flatten)
    (fits : AudioRingBuffer.ChunksFit ringCapacity frameBytes 0 packets)
    (fits' : AudioRingBuffer.ChunksFit ringCapacity frameBytes 0 packets')
    (single : ∀ events ∈ (new config).packetEvents model threshold packets, events.length ≤ 1)
    (single' : ∀ events ∈ (new config).packetEvents model threshold packets', events.length ≤ 1) :
    (new config).delivered model threshold packets = (new config).delivered model threshold packets' ∧
      (new config).delivered model threshold packets =
        ((new config).packetEvents model threshold packets).flatten ∧
      Alternates false ((new config).delivered model threshold packets) ∧
      ∀ stream, (new config).delivered model threshold stream =
        ((new config).packetEvents model threshold stream).flatMap fun events => events.getLast?.toList := by
  obtain ⟨frames, rest, framed, events⟩ := events_new model threshold config fits
  obtain ⟨frames', rest', framed', events'⟩ := events_new model threshold config fits'
  rw [← same] at framed'
  obtain ⟨rfl, -⟩ := framed.unique framed'
  have all : (new config).delivered model threshold packets =
      ((new config).packetEvents model threshold packets).flatten := by
    rw [delivered_eq, flatMap_getLast? single]
  refine ⟨?_, all, ?_, fun stream => delivered_eq model threshold stream (new config)⟩
  · rw [all, delivered_eq, flatMap_getLast? single', events, events']
  · rw [all, events]
    have some : ∀ frame ∈ frames, frame ≠ [] := by
      rintro frame held rfl
      have length := framed.length_eq _ held
      cases length
    exact (Listener.sound_new config).setThreshold.alternates some

/-! ## An utterance of six frames -/

/-- Six speech frames, and then silence. -/
def sixFrames : VadModel .percent := fun heard => some (if heard.length ≤ 6 then (90 : ℕ) else (10 : ℕ))

/-- Twelve frames, one in each packet. -/
def singleFrames : List Bytes := List.replicate 12 (List.replicate 1024 0)

/-- The same in packets of half a frame. -/
def halfFrames : List Bytes := List.replicate 24 (List.replicate 512 0)

/-- The same in one packet. -/
def wholePacket : Bytes := List.replicate 12288 0

/-- The frames of one packet are the packet. -/
theorem flatten_singleFrames : singleFrames.flatten = wholePacket := by
  have length : 12 * 1024 = 12288 := by decide
  rw [singleFrames, List.flatten_replicate_replicate, length, wholePacket]

/-- The halves are the packet. -/
theorem flatten_halfFrames : halfFrames.flatten = wholePacket := by
  have length : 24 * 512 = 12288 := by decide
  rw [halfFrames, List.flatten_replicate_replicate, length, wholePacket]

/-- A frame is not longer than a frame. -/
theorem length_singleFrames : ∀ raw ∈ singleFrames, raw.length ≤ frameBytes := by
  intro raw held
  rw [(List.mem_replicate.1 held).2, List.length_replicate]
  exact le_rfl

/-- A half is not longer than a frame. -/
theorem length_halfFrames : ∀ raw ∈ halfFrames, raw.length ≤ frameBytes := by
  intro raw held
  rw [(List.mem_replicate.1 held).2, List.length_replicate]
  decide

/-- Packets of one frame at most, in a new session. -/
theorem single_new {env : VadEnv} {model : VadModel env} {threshold : env.F32} {config : VadConfig env}
    {packets : List Bytes} (short : ∀ raw ∈ packets, raw.length ≤ frameBytes) :
    AudioRingBuffer.ChunksFit ringCapacity frameBytes 0 packets ∧
      ∀ events ∈ (new config).packetEvents model threshold packets, events.length ≤ 1 := by
  have room : (new config).ringBuffer.buf.length = ringCapacity := List.length_replicate
  have all := @single_of_short env model threshold packets (new config) (sound_new config)
    (by rw [room]; exact (by decide : 2 * frameBytes ≤ ringCapacity)) short
  rwa [AudioRingBuffer.Fits, room] at all

/-- The events of the frames are those of the halves. -/
theorem delivery_independent_halves :
    (new .defaults).delivered sixFrames vadThresholdIdle singleFrames =
        (new .defaults).delivered sixFrames vadThresholdIdle halfFrames ∧
      Alternates false ((new .defaults).delivered sixFrames vadThresholdIdle singleFrames) := by
  have same := flatten_singleFrames.trans flatten_halfFrames.symm
  obtain ⟨fit, single⟩ := @single_new _ sixFrames vadThresholdIdle .defaults _ length_singleFrames
  obtain ⟨fit', single'⟩ := @single_new _ sixFrames vadThresholdIdle .defaults _ length_halfFrames
  have delivery := delivery_independent same fit fit' single single'
  exact ⟨delivery.1, delivery.2.2.1⟩

/-- Speech starts. -/
def IsStart : VadEvent → Bool
  | .speechStarted => true
  | .speechEnded _ => false

/-- The events of the utterance. -/
theorem events_singleFrames : ∃ audio,
    (((Listener.new .defaults).setThreshold vadThresholdIdle).events sixFrames singleFrames).1 =
      [.speechStarted, .speechEnded audio] := by
  have kinds : (((Listener.new .defaults).setThreshold vadThresholdIdle).events sixFrames
      singleFrames).1.map IsStart = [true, false] := by
    decide +kernel
  generalize (((Listener.new .defaults).setThreshold vadThresholdIdle).events sixFrames singleFrames).1 =
    events at kinds ⊢
  rcases events with _ | ⟨_ | audio, _ | ⟨_ | audio, _ | ⟨event, events⟩⟩⟩ <;> cases kinds
  exact ⟨audio, rfl⟩

/-- **In one packet the start is lost.** -/
theorem start_lost : singleFrames.flatten = [wholePacket].flatten ∧ ∃ audio,
    (new .defaults).delivered sixFrames vadThresholdIdle singleFrames = [.speechStarted, .speechEnded audio] ∧
      (new .defaults).delivered sixFrames vadThresholdIdle [wholePacket] = [.speechEnded audio] := by
  have packet : [wholePacket].flatten = wholePacket := by
    rw [List.flatten_singleton]
  refine ⟨flatten_singleFrames.trans packet.symm, ?_⟩
  obtain ⟨audio, utterance⟩ := events_singleFrames
  have cut : Framed frameBytes wholePacket singleFrames [] := by
    refine ⟨?_, ?_, by decide⟩
    · rw [flatten_singleFrames, List.append_nil]
    · intro frame held
      rw [(List.mem_replicate.1 held).2, List.length_replicate]
      rfl
  -- Both have the events of the twelve frames.
  have all {packets : List Bytes} (same : packets.flatten = wholePacket)
      (fits : AudioRingBuffer.ChunksFit ringCapacity frameBytes 0 packets) :
      ((new .defaults).packetEvents sixFrames vadThresholdIdle packets).flatten =
        [.speechStarted, .speechEnded audio] := by
    obtain ⟨frames, rest, framed, events⟩ := events_new sixFrames vadThresholdIdle .defaults fits
    rw [same] at framed
    rw [events, (framed.unique cut).1]
    exact utterance
  have fits : AudioRingBuffer.ChunksFit ringCapacity frameBytes 0 [wholePacket] := by
    rw [AudioRingBuffer.chunksFit_cons (by decide)]
    refine ⟨?_, ?_⟩
    · rw [wholePacket, List.length_replicate]
      decide
    · intro front chunk back split
      cases front <;> cases split
  obtain ⟨fit, single⟩ := @single_new _ sixFrames vadThresholdIdle .defaults _ length_singleFrames
  refine ⟨audio, ?_, ?_⟩
  · rw [delivered_eq, flatMap_getLast? single]
    exact all flatten_singleFrames fit
  · rw [delivered_singleton, all packet fits]
    rfl

end AudioFront

end Feros
