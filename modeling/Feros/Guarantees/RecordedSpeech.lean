import Feros.Library.Run
import Feros.Recording
/-! # Bot speech in the recording

What becomes of a chunk of agent audio in the recording.

* **Muting**: the loop is muted exactly if some interrupt was not followed by a `TurnStarted`.
* **Cursors**: fed by an `AgentAudioCursor` at its own rate, the write cursor of the loop stays
  between the end of the agent timeline and the cursor of the reactor.  An interrupt pulls back the
  first two and not the third. -/

namespace Feros

open Run

/-- Exact conversions, and nothing to resample. -/
def AudioEnv.exact : AudioEnv where
  Resampler := Unit
  resampler := fun _ _ => ()
  process := fun used pcm => (pcm, used)
  convertOffset := fun offset rate target => (2 * offset * target + rate) / (2 * rate)
  cutoffSamples := fun elapsed rate =>
    (2 * (elapsed + Duration.fromMillis 200) * rate + 1000000000) / 2000000000

/-- A recording at 8 kHz without limit. -/
def RecordingConfig.telephone : RecordingConfig := ⟨8000, 0, false, false⟩

/-! ## Where samples go -/

/-- Two bytes make one sample, an odd byte makes none. -/
@[simp] theorem length_bytesToI16 (pcm : Bytes) : (bytesToI16 pcm).length = pcm.length / 2 := by
  fun_induction bytesToI16 pcm with
  | case1 low high rest ih =>
    rw [List.length_cons, ih, List.length_cons, List.length_cons]
    omega
  | case2 pcm short =>
    have : pcm.length < 2 := by
      by_contra long
      obtain ⟨low, high, rest, eq⟩ : ∃ low high rest, pcm = low :: high :: rest := by
        rcases pcm with - | ⟨low, - | ⟨high, rest⟩⟩
        · simp at long
        · simp at long
        · exact ⟨low, high, rest, rfl⟩
      exact short low high rest eq
    rw [List.length_nil]
    omega

/-- Samples go where they are to start, but not too far behind the end, if they end below the
ceiling. -/
theorem placement_eq (length count start : ℕ) : placement length count start =
    if min start (maxGapSamples + length) + count ≤ maxTimelineSamples then
      some (min start (maxGapSamples + length)) else none := by
  have cut : (if start > maxGapSamples + length then maxGapSamples + length else start) =
      min start (maxGapSamples + length) := by
    by_cases far : start > maxGapSamples + length
    · rw [if_pos far, min_eq_right far.le]
    · rw [if_neg far, min_eq_left (Nat.le_of_not_lt far)]
  rw [placement, cut]
  by_cases fits : min start (maxGapSamples + length) + count ≤ maxTimelineSamples
  · rw [if_pos fits, if_neg (Nat.not_lt.2 fits)]
  · rw [if_neg fits, if_pos (Nat.lt_of_not_le fits)]

/-- A placement is made where the chunk fits into the timeline. -/
theorem placement_isSome_iff (length count start : ℕ) :
    (placement length count start).isSome = true ↔
      min start (maxGapSamples + length) + count ≤ maxTimelineSamples := by
  rw [placement_eq]
  by_cases fits : min start (maxGapSamples + length) + count ≤ maxTimelineSamples
  · rw [if_pos fits]
    exact iff_of_true rfl fits
  · rw [if_neg fits]
    exact iff_of_false Bool.false_ne_true fits

/-- A placement is where the chunk begins, a long gap at most behind the end. -/
theorem placement_eq_some_iff (length count start position : ℕ) :
    placement length count start = some position ↔
      min start (maxGapSamples + length) = position ∧ position + count ≤ maxTimelineSamples := by
  rw [placement_eq]
  by_cases fits : min start (maxGapSamples + length) + count ≤ maxTimelineSamples
  · rw [if_pos fits, Option.some_inj]
    constructor
    · rintro rfl
      exact ⟨rfl, fits⟩
    · exact fun h => h.1
  · rw [if_neg fits]
    refine iff_of_false (by simp) ?_
    rintro ⟨rfl, h⟩
    exact fits h

/-- A timeline grows to where the samples placed in it end. -/
theorem length_mixAt (timeline samples : List Sample) (start : ℕ) :
    (mixAt timeline samples start).length = max timeline.length (start + samples.length) := by
  simp only [mixAt, List.length_append, List.length_take, List.length_zipWith, List.length_drop,
    List.length_replicate]
  omega

/-- A placement leaves the timeline within its bound. -/
theorem length_placeSamples_le {timeline samples : List Sample} {start bound : ℕ}
    (old : timeline.length ≤ bound) (added : start + samples.length ≤ bound) :
    (placeSamples timeline samples start).1.length ≤ bound := by
  unfold placeSamples
  split
  · rename_i position placed
    have early : position ≤ start := by
      rw [← ((placement_eq_some_iff _ _ _ _).1 placed).1]
      exact min_le_left start _
    rw [length_mixAt]
    exact max_le old ((Nat.add_le_add_right early _).trans added)
  · exact old

namespace RecordingLoop

variable {env : AudioEnv} {options : RecordingConfig}

/-- **What the loop does with a chunk**: nothing if it is capped or muted, and otherwise it writes
the samples at the cursor. -/
theorem agentAudio_eq (options : RecordingConfig) (pcm : Bytes) (rate offset : ℕ) (r : RecordingLoop env) :
    ((r.durationCapped = true ∨ r.agentMuted = true) ∧
      r.agentAudio options pcm rate offset = (r, none)) ∨
    (r.durationCapped = false ∧ r.agentMuted = false ∧ ∃ resamplers,
      r.agentAudio options pcm rate offset =
        let samples := (r.resampleAgent options pcm rate).1
        let start := max r.agentWriteCursor (convertedOffset env options rate offset)
        let placed := placeSamples r.tlAgent samples start
        ({ r with
            tlAgent := placed.1
            agentResamplers := resamplers
            agentWriteCursor := start + samples.length
            durationCapped := options.maxSamples > 0 &&
              max r.tlUser.length placed.1.length ≥ options.maxSamples }, placed.2)) := by
  by_cases capped : r.durationCapped = true
  · exact .inl ⟨.inl capped, by rw [agentAudio, if_pos capped]⟩
  by_cases muted : r.agentMuted = true
  · exact .inl ⟨.inr muted, by rw [agentAudio, if_neg capped, if_pos muted]⟩
  rw [Bool.not_eq_true] at capped muted
  refine .inr ⟨capped, muted, (r.resampleAgent options pcm rate).2, ?_⟩
  simp only [agentAudio, capped, muted, Bool.false_eq_true, if_false]
  by_cases ahead : convertedOffset env options rate offset > r.agentWriteCursor
  · simp only [if_pos ahead, max_eq_right ahead.le]
  · simp only [if_neg ahead, max_eq_left (Nat.le_of_not_lt ahead)]

/-- Where the samples of a chunk were placed, and the timeline afterwards. -/
theorem agentAudio_placed (pcm : Bytes) (rate offset : ℕ) (r : RecordingLoop env) :
    (r.agentAudio options pcm rate offset).1.tlAgent =
      (r.agentAudio options pcm rate offset).2.elim r.tlAgent
        (mixAt r.tlAgent (r.resampleAgent options pcm rate).1) := by
  rcases r.agentAudio_eq options pcm rate offset with ⟨-, eq⟩ | ⟨-, -, _, eq⟩
  · rw [eq]
    rfl
  · rw [eq]
    dsimp only [placeSamples]
    split <;> rfl

/-! ## Muting -/

end RecordingLoop

namespace Received

def isTurnStarted : Received → Bool
  | .event (.turnStarted _) _ => true
  | _ => false

def isInterrupt : Received → Bool
  | .event .interrupt _ => true
  | _ => false

/-- **Every interrupt was followed by the start of a turn.** -/
def Unmuted : List Received → Prop
  | [] => True
  | received :: rest =>
    (received.isInterrupt = true → rest.any isTurnStarted = true) ∧ Unmuted rest

end Received

namespace RecordingLoop

open Received

variable {env : AudioEnv} {options : RecordingConfig}

/-- Audio of the agent does not mute it. -/
theorem agentMuted_agentAudio (pcm : Bytes) (rate offset : ℕ) (r : RecordingLoop env) :
    (r.agentAudio options pcm rate offset).1.agentMuted = r.agentMuted := by
  rcases r.agentAudio_eq options pcm rate offset with ⟨-, eq⟩ | ⟨-, -, _, eq⟩ <;> rw [eq]

/-- Only interrupts mute and only the starts of turns unmute. -/
theorem agentMuted_receive {r : RecordingLoop env} (running : r.ended = false) (received : Received) :
    (r.receive options received).agentMuted =
      if received.isTurnStarted then false else if received.isInterrupt then true else r.agentMuted := by
  unfold receive
  rw [if_neg (by rw [running]; exact Bool.false_ne_true)]
  cases received with
  | userAudio pcm rate =>
    dsimp only [isTurnStarted, isInterrupt, userAudio]
    by_cases capped : r.durationCapped = true
    · rw [if_pos capped]
      rfl
    · rw [if_neg capped]
      rfl
  | event event elapsed =>
    dsimp only
    cases event <;> try rfl
    case agentAudio pcm rate offset => exact r.agentMuted_agentAudio pcm rate offset
    case turnEnded turnNumber interrupted =>
      dsimp only [turnEnded, isTurnStarted, isInterrupt]
      split <;> rfl
    case toolActivity id name status message =>
      dsimp only [isTurnStarted, isInterrupt]
      split <;> rfl
    case llmComplete data =>
      dsimp only [isTurnStarted, isInterrupt]
      split <;> rfl
    case interrupt =>
      dsimp only [interrupt, isTurnStarted, isInterrupt]
      split <;> rfl

/-- The loop that was left receives nothing any more. -/
theorem run_of_ended {r : RecordingLoop env} (ended : r.ended = true) (received : List Received) :
    run (receive options) r received = r := by
  induction received with
  | nil => rfl
  | cons first rest ih =>
    have idle : r.receive options first = r := by
      unfold receive
      rw [if_pos ended]
    rw [run_cons, idle, ih]

/-- While the loop runs, it is muted by what it has received. -/
theorem agentMuted_run {r : RecordingLoop env} (received : List Received)
    (running : (run (receive options) r received).ended = false) :
    (run (receive options) r received).agentMuted = false ↔
      (r.agentMuted = false ∨ received.any isTurnStarted = true) ∧ Unmuted received := by
  induction received generalizing r with
  | nil => simp [Unmuted]
  | cons first rest ih =>
    have here : r.ended = false := by
      by_contra ended
      rw [Bool.not_eq_false] at ended
      rw [run_of_ended ended, ended] at running
      cases running
    rw [run_cons] at running ⊢
    rw [ih running, agentMuted_receive here, List.any_cons, Unmuted]
    by_cases started : first.isTurnStarted = true
    · have silent : first.isInterrupt = false := by
        rcases first with _ | ⟨event, _⟩
        · rfl
        · cases event <;> first | rfl | cases started
      simp [started, silent]
    · by_cases interrupts : first.isInterrupt = true
      · simp only [started, interrupts, Bool.false_eq_true, if_false, if_true, Bool.true_eq_false,
          false_or, Bool.or_eq_true, forall_const]
        exact ⟨fun h => ⟨.inr h.1, h⟩, fun h => h.2⟩
      · simp [started, interrupts]

/-- Where a chunk goes, if the loop is neither capped nor muted. -/
theorem agentAudio_open (options : RecordingConfig) {r : RecordingLoop env} (uncapped : r.durationCapped = false)
    (unmuted : r.agentMuted = false) (pcm : Bytes) (rate offset : ℕ) :
    (r.agentAudio options pcm rate offset).2 =
      placement r.tlAgent.length (r.resampleAgent options pcm rate).1.length
        (max r.agentWriteCursor (convertedOffset env options rate offset)) := by
  rcases r.agentAudio_eq options pcm rate offset with ⟨closed, -⟩ | ⟨-, -, _, eq⟩
  · rw [uncapped, unmuted] at closed
    rcases closed with h | h <;> cases h
  · rw [eq]
    dsimp only [placeSamples]
    split
    · rename_i found
      rw [found]
    · rename_i found
      rw [found]

/-- A chunk is not placed while the loop is capped or muted. -/
theorem agentAudio_closed {r : RecordingLoop env}
    (closed : r.durationCapped = true ∨ r.agentMuted = true) (pcm : Bytes) (rate offset : ℕ) :
    (r.agentAudio options pcm rate offset).2 = none := by
  rcases r.agentAudio_eq options pcm rate offset with ⟨-, eq⟩ | ⟨uncapped, unmuted, -⟩
  · rw [eq]
  · rw [uncapped, unmuted] at closed
    rcases closed with h | h <;> cases h

/-- **When a later turn is recorded**: whatever the loop has received, a chunk that starts behind the
write cursor is written into the agent timeline exactly if every interrupt was followed by the start
of a turn, and the chunk ends below the ceiling. -/
theorem later_turn_recorded_iff (received : List Received) (pcm : Bytes) (rate offset : ℕ)
    (elapsed : Duration)
    (running : (run (receive options) (new env) received).ended = false)
    (uncapped : (run (receive options) (new env) received).durationCapped = false)
    (later : (run (receive options) (new env) received).agentWriteCursor <
      convertedOffset env options rate offset) :
    let r := run (receive options) (new env) received
    let samples := (r.resampleAgent options pcm rate).1
    (∃ position, (r.agentAudio options pcm rate offset).2 = some position ∧
      (r.receive options (.event (.agentAudio pcm rate offset) elapsed)).tlAgent =
        mixAt r.tlAgent samples position) ↔
    Unmuted received ∧
      min (convertedOffset env options rate offset) (maxGapSamples + r.tlAgent.length) +
        samples.length ≤ maxTimelineSamples := by
  intro r samples
  have open' : r.agentMuted = false ↔ Unmuted received := by
    rw [agentMuted_run received running]
    exact and_iff_right (.inl rfl)
  have written : (r.receive options (.event (.agentAudio pcm rate offset) elapsed)).tlAgent =
      (r.agentAudio options pcm rate offset).2.elim r.tlAgent (mixAt r.tlAgent samples) := by
    rw [← agentAudio_placed]
    unfold receive
    rw [if_neg (by rw [running]; exact Bool.false_ne_true)]
  constructor
  · rintro ⟨position, placed, -⟩
    have unmuted : r.agentMuted = false := by
      by_contra muted
      rw [Bool.not_eq_false] at muted
      rw [agentAudio_closed (.inr muted)] at placed
      cases placed
    refine ⟨open'.1 unmuted, ?_⟩
    rw [agentAudio_open options uncapped unmuted, max_eq_right later.le] at placed
    exact (placement_isSome_iff _ _ _).1 (by rw [placed]; rfl)
  · rintro ⟨settled, fits⟩
    have unmuted := open'.2 settled
    have placed := agentAudio_open options uncapped unmuted pcm rate offset
    rw [max_eq_right later.le, placement_eq, if_pos fits] at placed
    refine ⟨_, placed, ?_⟩
    rw [written, placed]
    rfl

/-- Bot speech that is interrupted after a second. -/
def interruptedSpeech : List Received :=
  [.event (.agentAudio [1, 0, 2, 0] 8000 0) 0, .event .interrupt (Duration.fromSecs 1)]

/-- Speech of a turn that was announced is recorded. -/
theorem later_turn_recorded_announced :
    ∃ position, ((run (receive .telephone) (new .exact)
      (interruptedSpeech ++ [.event (.turnStarted 2) (Duration.fromSecs 2)])).agentAudio .telephone
        [3, 0] 8000 24000).2 = some position := by
  obtain ⟨position, placed, -⟩ := (@later_turn_recorded_iff .exact .telephone
    (interruptedSpeech ++ [.event (.turnStarted 2) (Duration.fromSecs 2)]) [3, 0] 8000 24000 0
    (by decide +kernel) (by decide +kernel) (by decide +kernel)).2
    ⟨by simp [interruptedSpeech, Unmuted, isInterrupt, isTurnStarted], by decide +kernel⟩
  exact ⟨position, placed⟩

/-- **A nudge after an interrupt is lost**: its speech starts at 3 s, no `TurnStarted` came before
it, and no sample of it is placed. -/
theorem nudge_not_recorded :
    let r := run (receive .telephone) (new .exact) interruptedSpeech
    r.durationCapped = false ∧ r.agentWriteCursor < convertedOffset .exact .telephone 8000 24000 ∧
      (r.agentAudio .telephone [3, 0] 8000 24000).2 = none ∧
      (r.receive .telephone (.event (.agentAudio [3, 0] 8000 24000) 0)).tlAgent = [1, 2] := by
  decide +kernel

end RecordingLoop

/-! ## Fed by the reactor's cursor -/

/-- The chunk is stamped and received. -/
def Received.isAgentAudio : Received → Bool
  | .event (.agentAudio ..) _ => true
  | _ => false

/-- The cursor of the reactor, and the loop it feeds. -/
structure RecordedCall (env : AudioEnv) where
  cursor : AgentAudioCursor
  loop : RecordingLoop env

/-- What happens in a recorded call. -/
inductive CallMove where
  | beginTurn
  | resetOrigin (now : Instant)
  /-- A chunk is stamped, and received by the loop. -/
  | chunk (now : Instant) (pcm : Bytes) (elapsed : Duration)
  /-- The loop receives something else. -/
  | bus (received : Received) (other : received.isAgentAudio = false)

/-- The move leaves the recorded bot speech alone. -/
def CallMove.isQuiet : CallMove → Bool
  | chunk .. => false
  | bus received _ => !received.isInterrupt
  | _ => true

namespace RecordedCall

variable {env : AudioEnv}

/-- A call in which nothing was said. -/
def new (env : AudioEnv) (options : RecordingConfig) (now : Instant) : RecordedCall env where
  cursor := .new now options.sampleRate
  loop := .new env

/-- One move of a call. -/
def step (options : RecordingConfig) (s : RecordedCall env) : CallMove → RecordedCall env
  | .beginTurn => { s with cursor := s.cursor.beginTurn }
  | .resetOrigin now => { s with cursor := s.cursor.resetOrigin now }
  | .chunk now pcm elapsed =>
    let (offset, cursor) := s.cursor.stamp now pcm.length
    { cursor := cursor
      loop := s.loop.receive options (.event (.agentAudio pcm s.cursor.sampleRate offset) elapsed) }
  | .bus received _ => { s with loop := s.loop.receive options received }

/-- **The cursors are in order**: the end of the timeline, the write cursor, the reactor's cursor. -/
structure InOrder (options : RecordingConfig) (s : RecordedCall env) : Prop where
  rate : s.cursor.sampleRate = options.sampleRate
  written : s.loop.tlAgent.length ≤ s.loop.agentWriteCursor
  stamped : s.loop.agentWriteCursor ≤ s.cursor.cursor

end RecordedCall

namespace RecordingLoop

variable {env : AudioEnv} {options : RecordingConfig}

/-- Besides agent audio, only an interrupt touches the recorded bot speech. -/
theorem receive_quiet (options : RecordingConfig) {received : Received} (other : received.isAgentAudio = false)
    (silent : received.isInterrupt = false) (r : RecordingLoop env) :
    (r.receive options received).tlAgent = r.tlAgent ∧
      (r.receive options received).agentWriteCursor = r.agentWriteCursor := by
  unfold receive
  by_cases ended : r.ended = true
  · rw [if_pos ended]
    exact ⟨rfl, rfl⟩
  rw [if_neg ended]
  cases received with
  | userAudio pcm rate =>
    dsimp only [userAudio]
    by_cases capped : r.durationCapped = true
    · rw [if_pos capped]
      exact ⟨rfl, rfl⟩
    · rw [if_neg capped]
      exact ⟨rfl, rfl⟩
  | event event elapsed =>
    dsimp only
    cases event <;> try exact ⟨rfl, rfl⟩
    case agentAudio pcm rate offset => cases other
    case interrupt => cases silent
    case turnEnded turnNumber interrupted =>
      dsimp only [turnEnded]
      split <;> exact ⟨rfl, rfl⟩
    case toolActivity id name status message =>
      dsimp only
      split <;> exact ⟨rfl, rfl⟩
    case llmComplete data =>
      dsimp only
      split <;> exact ⟨rfl, rfl⟩

/-- At the rate of the recording there is nothing to resample. -/
theorem length_resampleAgent (pcm : Bytes) (r : RecordingLoop env) :
    (r.resampleAgent options pcm options.sampleRate).1.length = pcm.length / 2 := by
  rw [resampleAgent, if_neg (not_not.2 rfl)]
  exact length_bytesToI16 pcm

/-- A chunk at the rate of the recording, starting behind the write cursor. -/
theorem agentAudio_inOrder (options : RecordingConfig) {r : RecordingLoop env} {offset : ℕ} (pcm : Bytes)
    (written : r.tlAgent.length ≤ r.agentWriteCursor) (ahead : r.agentWriteCursor ≤ offset) :
    let after := (r.agentAudio options pcm options.sampleRate offset).1
    after.tlAgent.length ≤ after.agentWriteCursor ∧
      after.agentWriteCursor ≤ offset + pcm.length / 2 := by
  intro after
  rcases r.agentAudio_eq options pcm options.sampleRate offset with
    ⟨-, eq⟩ | ⟨-, -, _, eq⟩
  · have same : after = r := congrArg Prod.fst eq
    rw [same]
    exact ⟨written, ahead.trans (Nat.le_add_right _ _)⟩
  · have start : max r.agentWriteCursor (convertedOffset env options options.sampleRate offset) =
        offset := by
      rw [convertedOffset, if_pos rfl, max_eq_right ahead]
    have cursor : after.agentWriteCursor = offset + pcm.length / 2 := by
      have := congrArg (fun result => result.1.agentWriteCursor) eq
      rw [← length_resampleAgent pcm r, ← start]
      exact this
    have timeline : after.tlAgent =
        (placeSamples r.tlAgent (r.resampleAgent options pcm options.sampleRate).1 offset).1 := by
      have := congrArg (fun result => result.1.tlAgent) eq
      rw [← start]
      exact this
    refine ⟨?_, cursor.le⟩
    rw [cursor, timeline]
    refine length_placeSamples_le (written.trans (ahead.trans (Nat.le_add_right _ _))) ?_
    rw [length_resampleAgent]

/-- An interrupt does not write beyond the write cursor. -/
theorem interrupt_inOrder (options : RecordingConfig) {r : RecordingLoop env} (written : r.tlAgent.length ≤ r.agentWriteCursor)
    (elapsed : Duration) :
    (r.interrupt options elapsed).tlAgent.length ≤ (r.interrupt options elapsed).agentWriteCursor ∧
      (r.interrupt options elapsed).agentWriteCursor ≤ r.agentWriteCursor := by
  unfold interrupt
  dsimp only
  split
  · rename_i cut
    refine ⟨?_, cut.le.trans written⟩
    rw [List.length_take]
    exact min_le_left _ _
  · exact ⟨written, le_refl _⟩

end RecordingLoop

namespace RecordedCall

variable {env : AudioEnv} {options : RecordingConfig}

/-- The offset of a chunk is not before the cursor. -/
theorem le_stamp (cursor : AgentAudioCursor) (now : Instant) (bytes : ℕ) :
    cursor.cursor ≤ (cursor.stamp now bytes).1 := by
  unfold AgentAudioCursor.stamp
  split
  · exact le_max_left _ _
  · exact le_refl _

/-- **Every move keeps the cursors in order.** -/
theorem inOrder_step (s : RecordedCall env) (move : CallMove) (order : InOrder options s) :
    InOrder options (s.step options move) := by
  obtain ⟨rate, written, stamped⟩ := order
  cases move with
  | beginTurn => exact ⟨rate, written, stamped⟩
  | resetOrigin now => exact ⟨rate, written, stamped⟩
  | chunk now pcm elapsed =>
    -- A stamp is never behind the cursor.
    have ahead := stamped.trans (le_stamp s.cursor now pcm.length)
    by_cases ended : s.loop.ended = true
    -- A loop that has ended writes nothing.
    · have idle : (s.step options (.chunk now pcm elapsed)).loop = s.loop := by
        dsimp only [step, RecordingLoop.receive]
        rw [if_pos ended]
      refine ⟨rate, ?_, ?_⟩ <;> rw [idle]
      · exact written
      · exact ahead.trans (Nat.le_add_right _ _)
    · have received : (s.step options (.chunk now pcm elapsed)).loop =
          (s.loop.agentAudio options pcm options.sampleRate (s.cursor.stamp now pcm.length).1).1 := by
        dsimp only [step, RecordingLoop.receive]
        rw [if_neg ended, rate]
      have kept := RecordingLoop.agentAudio_inOrder options pcm written ahead
      refine ⟨rate, ?_, ?_⟩ <;> rw [received]
      · exact kept.1
      · exact kept.2
  | bus received other =>
    by_cases interrupts : received.isInterrupt = true
    · obtain ⟨elapsed, rfl⟩ : ∃ elapsed, received = .event .interrupt elapsed := by
        rcases received with _ | ⟨event, elapsed⟩
        · cases interrupts
        · cases event <;> first | exact ⟨elapsed, rfl⟩ | cases interrupts
      by_cases ended : s.loop.ended = true
      · have idle : (s.step options (.bus (.event .interrupt elapsed) other)).loop = s.loop := by
          dsimp only [step, RecordingLoop.receive]
          rw [if_pos ended]
        refine ⟨rate, ?_, ?_⟩ <;> rw [idle]
        · exact written
        · exact stamped
      · have cut : (s.step options (.bus (.event .interrupt elapsed) other)).loop =
            s.loop.interrupt options elapsed := by
          dsimp only [step, RecordingLoop.receive]
          rw [if_neg ended]
        have kept := RecordingLoop.interrupt_inOrder options written elapsed
        refine ⟨rate, ?_, ?_⟩ <;> rw [cut]
        · exact kept.1
        · exact kept.2.trans stamped
    · rw [Bool.not_eq_true] at interrupts
      -- Any other event leaves the timeline and the cursor.
      obtain ⟨timeline, cursor⟩ := s.loop.receive_quiet options other interrupts
      refine ⟨rate, ?_, ?_⟩ <;> dsimp only [step] <;> rw [cursor]
      · rw [timeline]
        exact written
      · exact stamped

/-- Quiet moves keep the recorded bot speech. -/
theorem tlAgent_run {s : RecordedCall env} {moves : List CallMove}
    (quiet : ∀ move ∈ moves, move.isQuiet = true) :
    (run (step options) s moves).loop.tlAgent = s.loop.tlAgent := by
  induction moves generalizing s with
  | nil => rfl
  | cons move moves ih =>
    rw [run_cons, ih fun later held => quiet later (List.mem_cons_of_mem move held)]
    have here := quiet move List.mem_cons_self
    cases move with
    | beginTurn => rfl
    | resetOrigin now => rfl
    | chunk now pcm elapsed => cases here
    | bus received other =>
      rw [CallMove.isQuiet, Bool.not_eq_true'] at here
      exact (s.loop.receive_quiet options other here).1

/-- When a start, limited by the gap, is the later one of the wall clock and the end. -/
theorem limited_eq_iff {gap cursor wall kept : ℕ} (positive : 0 < gap) (behind : kept ≤ cursor) :
    min (max cursor wall) (gap + kept) = max wall kept ↔
      wall ≤ gap + kept ∧ (cursor ≤ max wall kept ∨ wall = gap + kept) := by
  omega

/-- **When the next turn is aligned**: after an interrupt, the first chunk of the next turn is placed at
the later one of the wall clock and the end of what was kept, exactly if the loop is neither capped
nor muted, the reactor's cursor is not ahead of both, and no limit of the timeline is reached. -/
theorem next_turn_aligned_iff (began : Instant) (before between : List CallMove) (cut : Duration)
    (quiet : ∀ move ∈ between, move.isQuiet = true) (now : Instant) (pcm : Bytes)
    (elapsed : Duration) :
    let interrupted :=
      (run (step options) (new env options began) before).step options
        (.bus (.event .interrupt cut) rfl)
    let s := run (step options) interrupted between
    let kept := interrupted.loop.tlAgent
    let wall := s.cursor.elapsedSamples now
    let samples := bytesToI16 pcm
    s.loop.ended = false → s.cursor.pendingTurnSnap = true →
      ((s.loop.agentAudio options pcm s.cursor.sampleRate (s.cursor.stamp now pcm.length).1).2 =
          some (max wall kept.length) ∧
        (s.step options (.chunk now pcm elapsed)).loop.tlAgent =
          mixAt kept samples (max wall kept.length) ↔
      s.loop.durationCapped = false ∧ s.loop.agentMuted = false ∧
        wall ≤ maxGapSamples + kept.length ∧
        (s.cursor.cursor ≤ max wall kept.length ∨ wall = maxGapSamples + kept.length) ∧
        max wall kept.length + samples.length ≤ maxTimelineSamples) := by
  intro interrupted s kept wall samples running begun
  -- The cursors are in order from the start of the call on.
  have order : InOrder options s := by
    have fresh : InOrder options (new env options began) := ⟨rfl, le_refl _, le_refl _⟩
    have until' := invariant_of_step inOrder_step fresh before
    have here := inOrder_step _ (.bus (.event .interrupt cut) rfl) until'
    exact invariant_of_step inOrder_step here between
  -- Nothing was written to the agent's timeline since the interruption.
  have timeline : s.loop.tlAgent = kept := tlAgent_run quiet
  -- The turn begins, so the stamp is the later one of the cursor and the wall clock.
  have offset : (s.cursor.stamp now pcm.length).1 = max s.cursor.cursor wall := by
    rw [AgentAudioCursor.stamp, if_pos begun]
  have target : max s.loop.agentWriteCursor
      (RecordingLoop.convertedOffset env options options.sampleRate (max s.cursor.cursor wall)) =
        max s.cursor.cursor wall := by
    rw [RecordingLoop.convertedOffset, if_pos rfl]
    exact max_eq_right (order.stamped.trans (le_max_left _ _))
  have gap : 0 < maxGapSamples := by decide
  have behind : kept.length ≤ s.cursor.cursor := by
    rw [← timeline]
    exact order.written.trans order.stamped
  -- The chunk is placed there, but for a long gap and for the end of the timeline.
  have goes : s.loop.durationCapped = false → s.loop.agentMuted = false →
      (s.loop.agentAudio options pcm s.cursor.sampleRate (s.cursor.stamp now pcm.length).1).2 =
        placement kept.length samples.length (max s.cursor.cursor wall) := by
    intro uncapped unmuted
    rw [order.rate, RecordingLoop.agentAudio_open options uncapped unmuted, offset, target, timeline,
      RecordingLoop.length_resampleAgent, length_bytesToI16]
  constructor
  · rintro ⟨placed, -⟩
    -- A loop that is muted or at its cap places nothing.
    have open' : s.loop.durationCapped = false ∧ s.loop.agentMuted = false := by
      by_contra closed
      have : s.loop.durationCapped = true ∨ s.loop.agentMuted = true := by
        rw [not_and_or, Bool.not_eq_false, Bool.not_eq_false] at closed
        exact closed
      rw [RecordingLoop.agentAudio_closed this] at placed
      cases placed
    rw [goes open'.1 open'.2, placement_eq_some_iff, limited_eq_iff gap behind] at placed
    exact ⟨open'.1, open'.2, placed.1.1, placed.1.2, placed.2⟩
  · rintro ⟨uncapped, unmuted, near, caught, fits⟩
    have placed := goes uncapped unmuted
    rw [(placement_eq_some_iff _ _ _ (max wall kept.length)).2
      ⟨(limited_eq_iff gap behind).2 ⟨near, caught⟩, fits⟩] at placed
    refine ⟨placed, ?_⟩
    have written : (s.step options (.chunk now pcm elapsed)).loop.tlAgent =
        (s.loop.agentAudio options pcm s.cursor.sampleRate (s.cursor.stamp now pcm.length).1).1.tlAgent := by
      dsimp only [step, RecordingLoop.receive]
      rw [if_neg (by rw [running]; exact Bool.false_ne_true)]
    have decoded : (s.loop.resampleAgent options pcm s.cursor.sampleRate).1 = samples := by
      rw [RecordingLoop.resampleAgent, if_neg (not_not.2 order.rate)]
    rw [written, RecordingLoop.agentAudio_placed, placed, decoded, timeline]
    rfl

/-- A turn that is synthesised at once. -/
def turnOf (pcm : Bytes) : List CallMove := [.beginTurn, .chunk 0 pcm 0]

/-- The next turn begins. -/
def nextTurn : List CallMove := [.bus (.event (.turnStarted 2) 0) rfl, .beginTurn]

/-- A turn shorter than the grace is not cut, and the next one is aligned. -/
theorem next_turn_aligned_uncut :
    let s := run (step .telephone) ((run (step .telephone) (new .exact .telephone 0)
      (turnOf [1, 0, 2, 0])).step .telephone (.bus (.event .interrupt 0) rfl)) nextTurn
    (s.loop.agentAudio .telephone [3, 0] s.cursor.sampleRate
      (s.cursor.stamp (Duration.fromMillis 100) 2).1).2 = some 800 := by
  refine ((@next_turn_aligned_iff .exact .telephone 0 (turnOf [1, 0, 2, 0])
    nextTurn 0 ?_ (Duration.fromMillis 100) [3, 0] 0 ?_ ?_).2 ⟨?_, ?_, ?_, ?_, ?_⟩).1
  · intro move held
    simp only [nextTurn, List.mem_cons, List.not_mem_nil, or_false] at held
    rcases held with rfl | rfl <;> rfl
  all_goals decide +kernel

/-- **Silence for speech that was cut**: a turn of 0.3 s is cut to 0.2 s, and the next one, stamped at
0.1 s, starts at 0.3 s. -/
theorem next_turn_late :
    let interrupted := (run (step .telephone) (new .exact .telephone 0)
      (turnOf (List.replicate 4800 0))).step .telephone (.bus (.event .interrupt 0) rfl)
    let s := run (step .telephone) interrupted nextTurn
    max (s.cursor.elapsedSamples (Duration.fromMillis 100)) interrupted.loop.tlAgent.length = 1600 ∧
      (s.loop.agentAudio .telephone [3, 0] s.cursor.sampleRate
        (s.cursor.stamp (Duration.fromMillis 100) 2).1).2 = some 2400 := by
  decide +kernel

end RecordedCall

end Feros
