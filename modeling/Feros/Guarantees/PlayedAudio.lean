import Feros.Transport.Playout
import Feros.Library.BigEndian
import Feros.Library.Pacing
/-! # Every sample is played

* **`Paces`**: an outgoing loop is a paced queue.
* **`playout_iff`**: nothing is lost or played twice, and what is queued when the agent falls silent has
  been played if and only if it was a whole number of frames. -/

namespace Feros

open Segments Run

/-! ## Samples and bytes -/

/-- Two bytes as a number. -/
theorem toNat_i16FromLeBytes (low high : UInt8) :
    (i16FromLeBytes low high % 65536).toNat = low.toNat + 256 * high.toNat := by
  have low' := low.toNat_lt
  have high' := high.toNat_lt
  unfold i16FromLeBytes
  dsimp only
  split
  · omega
  · omega

/-- Two bytes that are read as a sample are written back. -/
theorem i16ToLeBytes_i16FromLeBytes (low high : UInt8) :
    i16ToLeBytes (i16FromLeBytes low high) = [low, high] := by
  have low' := low.toNat_lt
  have high' := high.toNat_lt
  have first : UInt8.ofNat (low.toNat + 256 * high.toNat) = low := BigEndian.ofNat_eq (by omega)
  have second : UInt8.ofNat ((low.toNat + 256 * high.toNat) / 256) = high :=
    BigEndian.ofNat_eq (by omega)
  unfold i16ToLeBytes
  dsimp only
  rw [toNat_i16FromLeBytes, first, second]

/-- **Whole samples survive decoding.** -/
theorem i16ToBytes_bytesToI16 {pcm : Bytes} (even : 2 ∣ pcm.length) :
    i16ToBytes (bytesToI16 pcm) = pcm := by
  -- Two bytes at a time, as the decoder goes.
  induction pcm using bytesToI16.induct with
  | case1 low high rest ih =>
      have rest' := ih (by simpa [Nat.add_assoc] using even)
      rw [bytesToI16, i16ToBytes, List.flatMap_cons, i16ToLeBytes_i16FromLeBytes]
      exact congrArg (low :: high :: ·) rest'
  | case2 pcm short =>
      match pcm, short, even with
      | [], _, _ => rfl
      | [_], _, even => simp at even
      | low :: high :: rest, short, _ => exact absurd rfl (short low high rest)

/-- A sample is two bytes. -/
theorem length_i16ToBytes (samples : List Sample) : (i16ToBytes samples).length = 2 * samples.length := by
  induction samples with
  | nil => rfl
  | cons sample samples ih =>
      simp only [i16ToBytes, List.flatMap_cons, List.length_append, List.length_cons] at ih ⊢
      rw [ih, i16ToLeBytes]
      simp
      omega

/-! ## Outgoing loops -/

namespace Outgoing

variable {σ ι : Type} (loop : Outgoing σ ι)

/-- The chunks of agent audio are whole samples. -/
def EvenChunks (inputs : List ι) : Prop :=
  ∀ i ∈ inputs, ∀ pcm, .piece pcm ∈ loop.heard i → 2 ∣ pcm.length

/-- **The agent audio received since the last interrupt**, behind what was queued at first. -/
def received (s : σ) (inputs : List ι) : Bytes :=
  unclosed (.piece (i16ToBytes (loop.audioPaceBuf s)) :: inputs.flatMap loop.heard)

/-- **The audio put into frames since the last interrupt.** -/
def framed (s : σ) (inputs : List ι) : Bytes := unclosed (outputs loop.step loop.played s inputs)

/-- **What was put into frames and what is queued is what was received.** -/
def Delivers (s : σ) (inputs : List ι) : Prop :=
  loop.framed s inputs ++ i16ToBytes (loop.audioPaceBuf (run loop.step s inputs)) = loop.received s inputs

/-- **A tick that sends nothing leaves nothing queued.** -/
def Drains (s : σ) (inputs : List ι) : Prop :=
  ∀ front, front ++ [loop.tick] <+: inputs → loop.played (run loop.step s front) loop.tick = [] →
    loop.audioPaceBuf (run loop.step s (front ++ [loop.tick])) = []

/-- **A tick that finds less than a frame comes when a whole number of frames was received.** -/
def WholeFrames (s : σ) (inputs : List ι) : Prop :=
  ∀ front, front ++ [loop.tick] <+: inputs →
    (loop.audioPaceBuf (run loop.step s front)).length < loop.frameSamples →
    2 * loop.frameSamples ∣ (loop.received s front).length

/-- **The loop is a paced queue**, in the states with a property. -/
structure Paces (inv : σ → Prop) (input : ι → Pacing.Input Sample) : Prop where
  preserved : ∀ s i, inv s → inv (loop.step s i)
  step_eq : ∀ s i, inv s →
    loop.audioPaceBuf (loop.step s i) = Pacing.step loop.frameSamples (loop.audioPaceBuf s) (input i)
  played_eq : ∀ s i, inv s → loop.played s i =
    (Pacing.out loop.frameSamples (loop.audioPaceBuf s) (input i)).map (Item.flatMap i16ToLeBytes)
  heard_eq : ∀ i, (∀ pcm, .piece pcm ∈ loop.heard i → 2 ∣ pcm.length) →
    loop.heard i = (input i).arrives.map (Item.flatMap i16ToLeBytes)
  tick_eq : input loop.tick = .tick

variable {loop} {inv : σ → Prop} {input : ι → Pacing.Input Sample}

/-- **The pace of the loop is the pace of the library.** -/
theorem Paces.run_eq (paces : loop.Paces inv input) {s : σ} (start : inv s) (inputs : List ι) :
    loop.audioPaceBuf (run loop.step s inputs) =
      run (Pacing.step loop.frameSamples) (loop.audioPaceBuf s) (inputs.map input) :=
  run_simulates paces.preserved paces.step_eq start inputs

/-- What the loop has framed is what the library sent out. -/
theorem Paces.framed_eq (paces : loop.Paces inv input) {s : σ} (start : inv s) (inputs : List ι) :
    loop.framed s inputs = i16ToBytes (unclosed (outputs (Pacing.step loop.frameSamples)
      (Pacing.out loop.frameSamples) (loop.audioPaceBuf s) (inputs.map input))) := by
  have puts : outputs loop.step loop.played s inputs = outputs (Pacing.step loop.frameSamples)
      (fun queue i => (Pacing.out loop.frameSamples queue i).map (Item.flatMap i16ToLeBytes))
      (loop.audioPaceBuf s) (inputs.map input) :=
    outputs_simulates paces.preserved paces.step_eq paces.played_eq start inputs
  have written : ∀ (queue : List Sample) (inputs : List (Pacing.Input Sample)),
      outputs (Pacing.step loop.frameSamples)
        (fun queue i => (Pacing.out loop.frameSamples queue i).map (Item.flatMap i16ToLeBytes)) queue inputs =
      (outputs (Pacing.step loop.frameSamples) (Pacing.out loop.frameSamples) queue inputs).map
        (Item.flatMap i16ToLeBytes) := by
    intro queue inputs
    induction inputs generalizing queue with
    | nil => rfl
    | cons i inputs ih => simp only [outputs, ih, List.map_append]
  rw [framed, puts, written, unclosed_flatMap, i16ToBytes]

/-- What the loop has received is what arrived. -/
theorem Paces.received_eq (paces : loop.Paces inv input) (s : σ) {inputs : List ι}
    (even : loop.EvenChunks inputs) :
    loop.received s inputs =
      i16ToBytes (unclosed (Pacing.arrived (loop.audioPaceBuf s) (inputs.map input))) := by
  have arrives : inputs.flatMap loop.heard =
      ((inputs.map input).flatMap Pacing.Input.arrives).map (Item.flatMap i16ToLeBytes) := by
    induction inputs with
    | nil => rfl
    | cons i inputs ih =>
        have here := paces.heard_eq i (even i List.mem_cons_self)
        have rest := ih fun j held => even j (List.mem_cons_of_mem i held)
        simp only [List.flatMap_cons, List.map_cons, List.map_append, here, rest]
  rw [received, arrives, i16ToBytes, i16ToBytes, ← unclosed_flatMap]
  rfl

/-- **Nothing is lost.** -/
theorem Paces.delivers (paces : loop.Paces inv input) {s : σ} (start : inv s) {inputs : List ι}
    (even : loop.EvenChunks inputs) : loop.Delivers s inputs := by
  rw [Delivers, paces.framed_eq start, paces.run_eq start, paces.received_eq s even,
    ← Pacing.delivered loop.frameSamples]
  exact List.flatMap_append.symm

/-- **The last samples are played if and only if they fill a frame.** -/
theorem Paces.drains_iff (paces : loop.Paces inv input) {s : σ} (start : inv s) {inputs : List ι}
    (even : loop.EvenChunks inputs) : loop.Drains s inputs ↔ loop.WholeFrames s inputs := by
  refine forall_congr' fun front => forall_congr' fun here => ?_
  have even' : loop.EvenChunks front := fun i held =>
    even i ((List.IsPrefix.trans (List.prefix_append _ _) here).subset held)
  have now := paces.run_eq start front
  have reached : inv (run loop.step s front) := invariant_of_step paces.preserved start front
  have sends := paces.played_eq (run loop.step s front) loop.tick reached
  have goes := paces.step_eq (run loop.step s front) loop.tick reached
  rw [paces.tick_eq] at sends goes
  by_cases short : (loop.audioPaceBuf (run loop.step s front)).length < loop.frameSamples
  · have less : ¬ loop.frameSamples ≤ (loop.audioPaceBuf (run loop.step s front)).length :=
      Nat.not_le.2 short
    have nothing : loop.played (run loop.step s front) loop.tick = [] := by
      simpa [Pacing.out, Pacing.take, less] using sends
    have stays : loop.audioPaceBuf (run loop.step s (front ++ [loop.tick])) =
        loop.audioPaceBuf (run loop.step s front) := by
      rw [run_append]
      simpa [Pacing.step, Pacing.take, less] using goes
    have drained := Pacing.drained_iff (n := loop.frameSamples) (now ▸ short)
    rw [stays, paces.received_eq s even', length_i16ToBytes, Nat.mul_dvd_mul_iff_left (by decide), now]
    simp only [nothing, now ▸ short, true_imp_iff, drained]
  · have sent : loop.played (run loop.step s front) loop.tick ≠ [] := by
      rw [sends]
      simp [Pacing.out, Pacing.take, Nat.not_lt.1 short]
    simp only [sent, short, false_imp_iff]

end Outgoing

/-! ## The two loops -/

/-- What a turn of the telephony loop is for the queue. -/
def TelephonyInput.paced : TelephonyInput → Pacing.Input Sample
  | .event (.agentAudio pcm _ _) => .piece (bytesToI16 pcm)
  | .event .interrupt => .mark
  | .event _ => .other
  | .paceTick => .tick

/-- The telephony loop paces its audio. -/
theorem telephony_paces (sampleRate : ℕ) :
    (telephonyForwardLoop sampleRate).Paces (fun _ => True) TelephonyInput.paced where
  preserved _ _ _ := trivial
  step_eq audioPaceBuf i _ := by
    cases i with
    | event event => cases event <;> rfl
    | paceTick =>
        by_cases enough : telephonyFrameSamples sampleRate ≤ audioPaceBuf.length
        · simp [telephonyForwardLoop, telephonyForward, TelephonyInput.paced, Pacing.step, Pacing.take, enough]
        · simp [telephonyForwardLoop, telephonyForward, TelephonyInput.paced, Pacing.step, Pacing.take, enough]
  played_eq audioPaceBuf i _ := by
    cases i with
    | event event => cases event <;> rfl
    | paceTick =>
        by_cases enough : telephonyFrameSamples sampleRate ≤ audioPaceBuf.length
        · simp [telephonyForwardLoop, telephonyForward, TelephonyInput.paced, Pacing.out, Pacing.take, enough,
            TelephonyMessage.played, Item.flatMap, i16ToBytes]
        · simp [telephonyForwardLoop, telephonyForward, TelephonyInput.paced, Pacing.out, Pacing.take, enough]
  heard_eq i even := by
    cases i with
    | event event =>
        cases event with
        | agentAudio pcm sampleRate offset =>
            have whole := i16ToBytes_bytesToI16 (even pcm List.mem_cons_self)
            exact congrArg (fun bytes => [Item.piece bytes]) whole.symm
        | _ => rfl
    | paceTick => rfl
  tick_eq := rfl

/-- What a turn of the WebRTC loop is for the queue. -/
def RtcInput.paced : RtcInput → Pacing.Input Sample
  | .mediaAdded _ _ _ => .other
  | .sendAudio pcm => .piece (bytesToI16 pcm)
  | .clearAudio => .mark
  | .paceTick => .tick

/-- Once there is somewhere to send frames, none is dropped. -/
theorem rtc_paces : runRtcLoop.Paces (fun r => r.sendMid.isSome) RtcInput.paced where
  preserved r i known := by
    cases i with
    | mediaAdded mid kind direction => cases kind <;> cases direction <;> first | exact known | rfl
    | sendAudio pcm => exact known
    | clearAudio => exact known
    | paceTick =>
        simp only [runRtcLoop, rtcTurn]
        split
        · split
          · assumption
          · assumption
        · exact known
  step_eq r i known := by
    cases i with
    | mediaAdded mid kind direction => cases kind <;> cases direction <;> rfl
    | sendAudio pcm => rfl
    | clearAudio => rfl
    | paceTick =>
        obtain ⟨mid, found⟩ := Option.isSome_iff_exists.1 known
        by_cases enough : opusFrameSamples ≤ r.audioPaceBuf.length
        · simp [runRtcLoop, rtcTurn, RtcInput.paced, Pacing.step, Pacing.take, enough, found]
        · simp [runRtcLoop, rtcTurn, RtcInput.paced, Pacing.step, Pacing.take, enough]
  played_eq r i known := by
    cases i with
    | mediaAdded mid kind direction => cases kind <;> cases direction <;> rfl
    | sendAudio pcm => rfl
    | clearAudio => rfl
    | paceTick =>
        obtain ⟨mid, found⟩ := Option.isSome_iff_exists.1 known
        by_cases enough : opusFrameSamples ≤ r.audioPaceBuf.length
        · simp [runRtcLoop, rtcPlayed, rtcTurn, RtcInput.paced, Pacing.out, Pacing.take, enough, found,
            Item.flatMap, i16ToBytes]
        · simp [runRtcLoop, rtcPlayed, rtcTurn, RtcInput.paced, Pacing.out, Pacing.take, enough]
  heard_eq i even := by
    cases i with
    | sendAudio pcm =>
        have whole := i16ToBytes_bytesToI16 (even pcm List.mem_cons_self)
        exact congrArg (fun bytes => [Item.piece bytes]) whole.symm
    | _ => rfl
  tick_eq := rfl

/-! ## The guarantee -/

/-- **No sample is lost, and none is held back if and only if each time the queue has less than a frame
the audio received was a whole number of frames.** -/
theorem playout_iff (sampleRate : ℕ) {events : List TelephonyInput}
    (even : (telephonyForwardLoop sampleRate).EvenChunks events) {r : RtcLoop} (known : r.sendMid.isSome)
    {turns : List RtcInput} (even' : runRtcLoop.EvenChunks turns) :
    ((telephonyForwardLoop sampleRate).Delivers [] events ∧
      ((telephonyForwardLoop sampleRate).Drains [] events ↔
        (telephonyForwardLoop sampleRate).WholeFrames [] events)) ∧
    (runRtcLoop.Delivers r turns ∧ (runRtcLoop.Drains r turns ↔ runRtcLoop.WholeFrames r turns)) :=
  ⟨⟨(telephony_paces sampleRate).delivers trivial even, (telephony_paces sampleRate).drains_iff trivial even⟩,
    rtc_paces.delivers known even', rtc_paces.drains_iff known even'⟩

/-- A chunk that fills a frame, and two ticks. -/
def wholeFrameEvents : List TelephonyInput :=
  [.event (.agentAudio (List.replicate 320 0) 8000 0), .paceTick, .paceTick]

/-- A chunk that fills a frame. -/
def wholeFrameTurns : List RtcInput := [.sendAudio (List.replicate 1920 0), .paceTick]

/-- Frames of 160 and of 960 samples. -/
theorem playout_iff_whole :
    ((telephonyForwardLoop 8000).Delivers [] wholeFrameEvents ∧
      ((telephonyForwardLoop 8000).Drains [] wholeFrameEvents ↔
        (telephonyForwardLoop 8000).WholeFrames [] wholeFrameEvents)) ∧
    (runRtcLoop.Delivers ⟨[], some 1, 0⟩ wholeFrameTurns ∧
      (runRtcLoop.Drains ⟨[], some 1, 0⟩ wholeFrameTurns ↔
        runRtcLoop.WholeFrames ⟨[], some 1, 0⟩ wholeFrameTurns)) := by
  refine playout_iff 8000 ?_ rfl ?_
  · intro i held pcm piece
    simp only [wholeFrameEvents, List.mem_cons, List.not_mem_nil, or_false] at held
    rcases held with rfl | rfl | rfl
    · rw [Item.piece.inj (List.mem_singleton.1 piece), List.length_replicate]
      decide
    · cases piece
    · cases piece
  · intro i held pcm piece
    simp only [wholeFrameTurns, List.mem_cons, List.not_mem_nil, or_false] at held
    rcases held with rfl | rfl
    · rw [Item.piece.inj (List.mem_singleton.1 piece), List.length_replicate]
      decide
    · cases piece

/-- **A single sample stays queued**, in both loops. -/
theorem sample_held_back :
    ¬ (telephonyForwardLoop 8000).Drains [] [.event (.agentAudio [1, 0] 8000 0), .paceTick] ∧
    ¬ runRtcLoop.Drains ⟨[], some 1, 0⟩ [.sendAudio [1, 0], .paceTick] := by
  constructor
  · intro drains
    have left := drains [.event (.agentAudio [1, 0] 8000 0)] (List.prefix_refl _) rfl
    cases left
  · intro drains
    have left := drains [.sendAudio [1, 0]] (List.prefix_refl _) rfl
    cases left

end Feros
