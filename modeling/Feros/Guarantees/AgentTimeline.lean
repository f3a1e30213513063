import Feros.Guarantees.RecordedSpeech
/-! # Bot speech without gaps

Without interrupts the write cursor of the recording loop is the reactor's, and every chunk is appended
to the agent timeline, behind some silence.  So no sample is written twice, and the samples are those of
the chunk.

The silence is limited, and the write cursor is not: when it was too long, the chunks behind are not
where the cursor is.  `timeline_kept_iff` says what that means for the chunks of a turn. -/

namespace Feros

open Run

/-! ## Appending to a timeline -/

/-- The range of a sample. -/
def InRange (sample : Sample) : Prop := -32768 ≤ sample ∧ sample ≤ 32767

/-- A sample of two bytes is in range. -/
theorem inRange_i16FromLeBytes (low high : UInt8) : InRange (i16FromLeBytes low high) := by
  have hl := low.toNat_lt
  have hh := high.toNat_lt
  unfold InRange i16FromLeBytes
  dsimp only
  split
  · constructor <;> simp only [Sample] at * <;> omega
  · constructor <;> simp only [Sample] at * <;> omega

/-- The samples of bytes are in range. -/
theorem inRange_bytesToI16 (pcm : Bytes) : ∀ sample ∈ bytesToI16 pcm, InRange sample := by
  fun_induction bytesToI16 pcm with
  | case1 low high rest ih =>
      intro sample held
      rcases List.mem_cons.1 held with first | held
      · rw [first]
        exact inRange_i16FromLeBytes low high
      · exact ih sample held
  | case2 pcm short =>
      intro sample held
      cases held

/-- **Mixing behind the end appends** the samples, behind silence. -/
theorem mixAt_behind {timeline samples : List Sample} {start : ℕ} (behind : timeline.length ≤ start)
    (inRange : ∀ sample ∈ samples, InRange sample) :
    mixAt timeline samples start = timeline ++ List.replicate (start - timeline.length) 0 ++ samples := by
  have grown : timeline ++ List.replicate (start + samples.length - timeline.length) 0 =
      (timeline ++ List.replicate (start - timeline.length) 0) ++ List.replicate samples.length 0 := by
    rw [List.append_assoc, List.replicate_append_replicate]
    refine congrArg (fun count => timeline ++ List.replicate count 0) ?_
    omega
  have length : (timeline ++ List.replicate (start - timeline.length) (0 : Sample)).length = start := by
    rw [List.length_append, List.length_replicate, Nat.add_sub_cancel' behind]
  have silent : List.zipWith mixSample (List.replicate samples.length 0) samples = samples := by
    clear grown
    induction samples with
    | nil => rfl
    | cons sample samples ih =>
        obtain ⟨low, high⟩ := inRange sample (List.mem_cons_self ..)
        have same : mixSample 0 sample = sample := by
          rw [mixSample, Int.zero_add, Int.min_eq_right high, Int.max_eq_right low]
        rw [List.length_cons, List.replicate_succ, List.zipWith_cons_cons, same,
          ih fun other held => inRange other (List.mem_cons_of_mem _ held)]
  have rest : (timeline ++ List.replicate (start - timeline.length) 0 ++
      List.replicate samples.length (0 : Sample)).drop (start + samples.length) = [] := by
    rw [List.drop_eq_nil_iff, List.length_append, length, List.length_replicate]
  unfold mixAt
  dsimp only
  rw [grown, rest, List.append_nil, List.take_left' length, List.drop_left' length, silent]

/-- A recording at 48 kHz without limit. -/
def RecordingConfig.webrtc : RecordingConfig := ⟨48000, 0, false, false⟩

/-- No chunk is stamped, and no turn begins. -/
def CallMove.Inside : CallMove → Prop
  | .beginTurn => False
  | .chunk .. => False
  | _ => True

namespace RecordingLoop

variable {env : AudioEnv} {options : RecordingConfig}

/-- The loop takes chunks of audio. -/
def Taking (r : RecordingLoop env) : Prop := r.ended = false ∧ r.durationCapped = false

/-- What the loop receives besides agent audio and interrupts does not mute it, and does not make it
take chunks again. -/
theorem receive_other (options : RecordingConfig) {received : Received} (other : received.isAgentAudio = false)
    (silent : received.isInterrupt = false) (r : RecordingLoop env) :
    (r.agentMuted = false → (r.receive options received).agentMuted = false) ∧
      ((r.receive options received).Taking → r.Taking) := by
  unfold receive
  by_cases ended : r.ended = true
  · rw [if_pos ended]
    exact ⟨id, id⟩
  rw [if_neg ended]
  have running : r.ended = false := eq_false_of_ne_true ended
  cases received with
  | userAudio pcm rate =>
      dsimp only [userAudio]
      by_cases capped : r.durationCapped = true
      · rw [if_pos capped]
        exact ⟨id, id⟩
      · rw [if_neg capped]
        exact ⟨id, fun _ => ⟨running, eq_false_of_ne_true capped⟩⟩
  | event event elapsed =>
      dsimp only
      cases event <;> try exact ⟨id, id⟩
      case agentAudio pcm rate offset => cases other
      case interrupt => cases silent
      case turnStarted number => exact ⟨fun _ => rfl, id⟩
      case sessionEnded => exact ⟨id, fun taking => Bool.noConfusion taking.1⟩
      case turnEnded number interrupted =>
        dsimp only [turnEnded]
        split <;> exact ⟨id, id⟩
      case toolActivity id' name status message =>
        dsimp only
        split <;> exact ⟨id, id⟩
      case llmComplete data =>
        dsimp only
        split <;> exact ⟨id, id⟩

end RecordingLoop

namespace RecordedCall

variable {env : AudioEnv} {options : RecordingConfig}

/-! ## A chunk -/

/-- The offset with which a chunk is stamped. -/
def offset (s : RecordedCall env) (now : Instant) (pcm : Bytes) : ℕ := (s.cursor.stamp now pcm.length).1

/-- **Where a chunk is placed**, if it is. -/
def placed (options : RecordingConfig) (s : RecordedCall env) (now : Instant) (pcm : Bytes) : Option ℕ :=
  if s.loop.ended then none
  else (s.loop.agentAudio options pcm s.cursor.sampleRate (s.offset now pcm)).2

/-- Where a chunk goes that starts at some offset: not too far behind the end. -/
def limited (s : RecordedCall env) (offset : ℕ) : ℕ := min offset (maxGapSamples + s.loop.tlAgent.length)

/-- **No interrupt, and a chunk that is taken ends below the ceiling.** -/
def Plain (_ : RecordingConfig) (s : RecordedCall env) : CallMove → Prop
  | .chunk now pcm _ =>
    s.loop.Taking → s.limited (s.offset now pcm) + pcm.length / 2 ≤ maxTimelineSamples
  | .bus received _ => received.isInterrupt = false
  | _ => True

/-- **The cursors agree** as long as the loop takes chunks. -/
structure InStep (options : RecordingConfig) (s : RecordedCall env) : Prop extends InOrder options s where
  unmuted : s.loop.agentMuted = false
  same : s.loop.Taking → s.loop.agentWriteCursor = s.cursor.cursor

/-- A call that begins is in step. -/
theorem inStep_new (began : Instant) : InStep options (new env options began) :=
  ⟨⟨rfl, le_refl _, le_refl _⟩, rfl, fun _ => rfl⟩

/-- **A chunk that is taken** is appended behind some silence. -/
structure Appended (options : RecordingConfig) (s : RecordedCall env) (now : Instant) (pcm : Bytes)
    (elapsed : Duration) : Prop where
  placed : s.placed options now pcm = some (s.limited (s.offset now pcm))
  behind : s.loop.tlAgent.length ≤ s.limited (s.offset now pcm)
  timeline : (s.step options (.chunk now pcm elapsed)).loop.tlAgent =
    s.loop.tlAgent ++ List.replicate (s.limited (s.offset now pcm) - s.loop.tlAgent.length) 0 ++
      bytesToI16 pcm
  cursor : (s.step options (.chunk now pcm elapsed)).loop.agentWriteCursor = s.offset now pcm + pcm.length / 2
  unmuted : (s.step options (.chunk now pcm elapsed)).loop.agentMuted = false

variable {s : RecordedCall env} {now : Instant} {pcm : Bytes} {elapsed : Duration}

/-- **A chunk is appended to the timeline.** -/
theorem InStep.appended (inv : InStep options s) (taking : s.loop.Taking)
    (plain : Plain options s (.chunk now pcm elapsed)) : Appended options s now pcm elapsed := by
  have ahead : s.loop.agentWriteCursor ≤ s.offset now pcm := inv.stamped.trans (le_stamp s.cursor now pcm.length)
  have start : max s.loop.agentWriteCursor
      (RecordingLoop.convertedOffset env options options.sampleRate (s.offset now pcm)) = s.offset now pcm := by
    rw [RecordingLoop.convertedOffset, if_pos rfl, max_eq_right ahead]
  have decoded : (s.loop.resampleAgent options pcm options.sampleRate).1 = bytesToI16 pcm := by
    rw [RecordingLoop.resampleAgent, if_neg (not_not.2 rfl)]
  have position : placement s.loop.tlAgent.length (bytesToI16 pcm).length (s.offset now pcm) =
      some (s.limited (s.offset now pcm)) := by
    rw [placement_eq_some_iff, length_bytesToI16]
    exact ⟨rfl, plain taking⟩
  have behind : s.loop.tlAgent.length ≤ s.limited (s.offset now pcm) :=
    le_min (inv.written.trans ahead) (Nat.le_add_left _ _)
  have received : (s.step options (.chunk now pcm elapsed)).loop =
      (s.loop.agentAudio options pcm options.sampleRate (s.offset now pcm)).1 := by
    dsimp only [step, RecordingLoop.receive]
    rw [if_neg (by rw [taking.1]; exact Bool.false_ne_true), inv.rate]
    rfl
  rcases s.loop.agentAudio_eq options pcm options.sampleRate (s.offset now pcm) with
    ⟨closed, -⟩ | ⟨-, -, resamplers, result⟩
  · rw [taking.2, inv.unmuted] at closed
    rcases closed with closed | closed <;> cases closed
  dsimp only at result
  rw [start, decoded, placeSamples, position] at result
  refine ⟨?_, behind, ?_, ?_, ?_⟩
  · rw [RecordedCall.placed, if_neg (by rw [taking.1]; exact Bool.false_ne_true), inv.rate, result]
  · rw [received, result]
    exact mixAt_behind behind (inRange_bytesToI16 pcm)
  · rw [received, result, ← length_bytesToI16]
  · rw [received, result]
    exact inv.unmuted

/-- A chunk that is not taken changes nothing. -/
theorem dropped (closed : ¬ s.loop.Taking) (now : Instant) (pcm : Bytes)
    (elapsed : Duration) : (s.step options (.chunk now pcm elapsed)).loop = s.loop ∧
      s.placed options now pcm = none := by
  dsimp only [step, RecordingLoop.receive, RecordedCall.placed]
  by_cases ended : s.loop.ended = true
  · rw [if_pos ended, if_pos ended]
    exact ⟨rfl, rfl⟩
  · have capped : s.loop.durationCapped = true := by
      by_contra uncapped
      exact closed ⟨eq_false_of_ne_true ended, eq_false_of_ne_true uncapped⟩
    rw [if_neg ended, if_neg ended, RecordingLoop.agentAudio, if_pos capped, RecordingLoop.agentAudio,
      if_pos capped]
    exact ⟨rfl, rfl⟩

/-- **Every move keeps the cursors together.** -/
theorem inStep_step (s : RecordedCall env) (move : CallMove) (inv : InStep options s)
    (plain : Plain options s move) : InStep options (s.step options move) := by
  have order := inOrder_step s move inv.toInOrder
  cases move with
  | beginTurn => exact ⟨order, inv.unmuted, inv.same⟩
  | resetOrigin now => exact ⟨order, inv.unmuted, inv.same⟩
  | chunk now pcm elapsed =>
      by_cases taking : s.loop.Taking
      · have appended := inv.appended taking plain
        exact ⟨order, appended.unmuted, fun _ => appended.cursor⟩
      · obtain ⟨same, -⟩ := dropped taking now pcm elapsed
        refine ⟨order, ?_, ?_⟩
        · rw [same]
          exact inv.unmuted
        · rw [same]
          exact fun taken => absurd taken taking
  | bus received other =>
      obtain ⟨unmuted, taking⟩ := s.loop.receive_other options other plain
      obtain ⟨-, cursor⟩ := s.loop.receive_quiet options other plain
      refine ⟨order, unmuted inv.unmuted, ?_⟩
      intro taken
      exact cursor.trans (inv.same (taking taken))

/-- **The timeline only grows.** -/
theorem prefix_step (inv : InStep options s) {move : CallMove} (plain : Plain options s move) :
    s.loop.tlAgent <+: (s.step options move).loop.tlAgent := by
  cases move with
  | beginTurn => exact List.prefix_rfl
  | resetOrigin now => exact List.prefix_rfl
  | chunk now pcm elapsed =>
      by_cases taking : s.loop.Taking
      · rw [(inv.appended taking plain).timeline, List.append_assoc]
        exact List.prefix_append _ _
      · obtain ⟨same, -⟩ : (s.step options (.chunk now pcm elapsed)).loop = s.loop ∧ _ := dropped taking now pcm elapsed
        exact same.symm ▸ List.prefix_rfl
  | bus received other =>
      have same := (s.loop.receive_quiet options other plain).1
      show s.loop.tlAgent <+: (s.loop.receive options received).tlAgent
      exact same ▸ List.prefix_rfl

/-- The timeline only grows. -/
theorem prefix_run {moves : List CallMove} (inv : InStep options s)
    (plain : Along (step options) (Plain options) s moves) :
    s.loop.tlAgent <+: (run (step options) s moves).loop.tlAgent := by
  induction moves generalizing s with
  | nil => exact List.prefix_rfl
  | cons move moves ih =>
      exact (prefix_step inv plain.1).trans (ih (inStep_step s move inv plain.1) plain.2)

/-- A chunk that is placed was taken. -/
theorem taking_of_placed {position : ℕ} (here : s.placed options now pcm = some position) : s.loop.Taking := by
  by_contra closed
  rw [(dropped closed now pcm 0).2] at here
  cases here

/-- A loop that stopped taking chunks takes none again. -/
theorem taking_step (options : RecordingConfig) {move : CallMove} (plain : Plain options s move)
    (taking : (s.step options move).loop.Taking) : s.loop.Taking := by
  cases move with
  | beginTurn => exact taking
  | resetOrigin now => exact taking
  | chunk now pcm elapsed =>
      by_contra closed
      rw [(dropped closed now pcm elapsed).1] at taking
      exact closed taking
  | bus received other => exact (s.loop.receive_other options other plain).2 taking

/-- A loop that takes audio took it all along. -/
theorem taking_run {moves : List CallMove} (plain : Along (step options) (Plain options) s moves)
    (taking : (run (step options) s moves).loop.Taking) : s.loop.Taking := by
  induction moves generalizing s with
  | nil => exact taking
  | cons move moves ih => exact taking_step options plain.1 (ih plain.2 taking)

/-! ## Runs -/

/-- The call after some moves. -/
def after (env : AudioEnv) (options : RecordingConfig) (began : Instant) (moves : List CallMove) :
    RecordedCall env := run (step options) (new env options began) moves

/-- Between two chunks of a turn the cursor stays. -/
theorem cursor_inside {moves : List CallMove} (inside : ∀ move ∈ moves, CallMove.Inside move)
    (s : RecordedCall env) : (run (step options) s moves).cursor.cursor = s.cursor.cursor ∧
      (run (step options) s moves).cursor.pendingTurnSnap = s.cursor.pendingTurnSnap := by
  induction moves generalizing s with
  | nil => exact ⟨rfl, rfl⟩
  | cons move moves ih =>
      obtain ⟨cursor, snap⟩ := ih (fun other held => inside other (List.mem_cons_of_mem _ held))
        (s.step options move)
      rw [run_cons, cursor, snap]
      have here := inside move (List.mem_cons_self ..)
      cases move with
      | beginTurn => cases here
      | chunk now pcm elapsed => cases here
      | resetOrigin now => exact ⟨rfl, rfl⟩
      | bus received other => exact ⟨rfl, rfl⟩

/-- **Two chunks of a turn**: the cursor puts the second one behind the first, and it is placed behind
where the first one ends. -/
structure Follows (options : RecordingConfig) (s later : RecordedCall env) (now now' : Instant)
    (pcm pcm' : Bytes) : Prop where
  first : s.placed options now pcm = some (s.limited (s.offset now pcm))
  second : later.placed options now' pcm' = some (later.limited (s.offset now pcm + pcm.length / 2))
  behind : s.limited (s.offset now pcm) + pcm.length / 2 ≤ later.loop.tlAgent.length

/-- **A chunk follows the one before it.** -/
theorem InStep.follows (inv : InStep options s) {between : List CallMove}
    (inside : ∀ move ∈ between, CallMove.Inside move)
    (plain : Along (step options) (Plain options) s (.chunk now pcm elapsed :: between))
    {now' : Instant} {pcm' : Bytes} {elapsed' : Duration}
    (plain' : Plain options (run (step options) s (.chunk now pcm elapsed :: between)) (.chunk now' pcm' elapsed'))
    (taking : (run (step options) s (.chunk now pcm elapsed :: between)).loop.Taking) :
    Follows options s (run (step options) s (.chunk now pcm elapsed :: between)) now now' pcm pcm' := by
  have first := inv.appended (taking_run plain taking) plain.1
  have next := inStep_step s _ inv plain.1
  have second := (invariant inStep_step inv plain).appended taking plain'
  obtain ⟨cursor, snap⟩ := cursor_inside inside (s.step options (.chunk now pcm elapsed))
  have stamped : (run (step options) s (.chunk now pcm elapsed :: between)).offset now' pcm' =
      s.offset now pcm + pcm.length / 2 := by
    rw [offset, AgentAudioCursor.stamp, run_cons, snap, cursor]
    rfl
  refine ⟨first.placed, ?_, ?_⟩
  · rw [← stamped]
    exact second.placed
  · -- the timeline grows from where the first chunk ended
    have grown := (prefix_run next plain.2).length_le
    rw [first.timeline, List.length_append, List.length_append, List.length_replicate, length_bytesToI16,
      Nat.add_sub_cancel' first.behind] at grown
    exact grown

/-- When two chunks of a turn are adjacent. -/
theorem Follows.adjacent_iff {later : RecordedCall env} {now' : Instant} {pcm' : Bytes}
    (follows : Follows options s later now now' pcm pcm') :
    later.limited (s.offset now pcm + pcm.length / 2) = s.limited (s.offset now pcm) + pcm.length / 2 ↔
      s.offset now pcm ≤ maxGapSamples + s.loop.tlAgent.length := by
  have gap : 0 < maxGapSamples := by decide
  have behind := follows.behind
  unfold limited at behind ⊢
  omega

section Timeline

variable (env) (options : RecordingConfig) (began : Instant) (moves : List CallMove)

/-- **The agent timeline is kept**: the chunks of a turn are adjacent, no sample is written by two
chunks, and the samples are those of the chunk. -/
structure TimelineKept : Prop where
  adjacent : ∀ front now pcm elapsed between now' pcm' elapsed' back position position',
    moves = front ++ .chunk now pcm elapsed :: (between ++ .chunk now' pcm' elapsed' :: back) →
      (∀ move ∈ between, CallMove.Inside move) →
        (after env options began front).placed options now pcm = some position →
          (after env options began (front ++ .chunk now pcm elapsed :: between)).placed options now' pcm' =
              some position' →
            position' = position + pcm.length / 2
  disjoint : ∀ front now pcm elapsed between now' pcm' elapsed' back position position',
    moves = front ++ .chunk now pcm elapsed :: (between ++ .chunk now' pcm' elapsed' :: back) →
      (after env options began front).placed options now pcm = some position →
        (after env options began (front ++ .chunk now pcm elapsed :: between)).placed options now' pcm' =
            some position' →
          position + pcm.length / 2 ≤ position'
  samples : ∀ front now pcm elapsed back position,
    moves = front ++ .chunk now pcm elapsed :: back →
      (after env options began front).placed options now pcm = some position →
        ((after env options began moves).loop.tlAgent.drop position).take (pcm.length / 2) = bytesToI16 pcm

/-- **The silence is short** in front of a chunk that another chunk of its turn follows: it starts five
minutes behind the end of the timeline at most. -/
def ShortSilence : Prop :=
  ∀ front now pcm elapsed between now' pcm' elapsed' back,
    moves = front ++ .chunk now pcm elapsed :: (between ++ .chunk now' pcm' elapsed' :: back) →
      (∀ move ∈ between, CallMove.Inside move) →
        (after env options began (front ++ .chunk now pcm elapsed :: between)).loop.Taking →
          (after env options began front).offset now pcm ≤
            maxGapSamples + (after env options began front).loop.tlAgent.length

variable {env options began moves}

/-- The call after moves that follow. -/
theorem after_append (first second : List CallMove) : after env options began (first ++ second) =
    run (step options) (after env options began first) second := run_append _ _ _ _

/-- A plain call stays in step. -/
theorem inStep_after (plain : Along (step options) (Plain options) (new env options began) moves) :
    InStep options (after env options began moves) :=
  invariant inStep_step (inStep_new began) plain

/-- The samples of a chunk stay where it was placed. -/
theorem samples_kept (plain : Along (step options) (Plain options) (new env options began) moves)
    {front back : List CallMove} {now : Instant} {pcm : Bytes} {elapsed : Duration} {position : ℕ}
    (split : moves = front ++ .chunk now pcm elapsed :: back)
    (here : (after env options began front).placed options now pcm = some position) :
    ∃ before rest, before.length = position ∧
      (after env options began moves).loop.tlAgent = before ++ bytesToI16 pcm ++ rest := by
  rw [split, along_append] at plain
  obtain ⟨plain, later⟩ := plain
  have inv := inStep_after plain
  have appended := inv.appended (taking_of_placed here) later.1
  obtain rfl : (after env options began front).limited ((after env options began front).offset now pcm) =
      position := Option.some_inj.1 (appended.placed.symm.trans here)
  obtain ⟨rest, grown⟩ := prefix_run (inStep_step _ _ inv later.1) later.2
  refine ⟨_, rest, ?_, by rw [split, after_append, run_cons, ← grown, appended.timeline]⟩
  rw [List.length_append, List.length_replicate, Nat.add_sub_cancel' appended.behind]

/-- **The agent timeline is kept** exactly if the silence in front of the turns is short. -/
theorem timeline_kept_iff (plain : Along (step options) (Plain options) (new env options began) moves) :
    TimelineKept env options began moves ↔ ShortSilence env options began moves := by
  -- any two chunks of a turn, in a run that ends with the second one
  have pair : ∀ front now pcm elapsed between now' pcm' elapsed' back,
      moves = front ++ .chunk now pcm elapsed :: (between ++ .chunk now' pcm' elapsed' :: back) →
        (∀ move ∈ between, CallMove.Inside move) →
          (after env options began (front ++ .chunk now pcm elapsed :: between)).loop.Taking →
            Follows options (after env options began front)
              (after env options began (front ++ .chunk now pcm elapsed :: between)) now now' pcm pcm' := by
    intro front now pcm elapsed between now' pcm' elapsed' back split inside taking
    have whole := plain
    rw [split, along_append, ← List.cons_append, along_append] at whole
    obtain ⟨start, first, second, -⟩ := whole
    rw [after_append] at taking ⊢
    exact (inStep_after start).follows inside first second taking
  constructor
  · intro kept front now pcm elapsed between now' pcm' elapsed' back split inside taking
    have follows := pair front now pcm elapsed between now' pcm' elapsed' back split inside taking
    apply follows.adjacent_iff.1
    exact kept.adjacent front now pcm elapsed between now' pcm' elapsed' back _ _ split inside follows.first
      follows.second
  · intro short
    refine ⟨?_, ?_, ?_⟩
    · intro front now pcm elapsed between now' pcm' elapsed' back position position' split inside here there
      have taking := taking_of_placed there
      have follows := pair front now pcm elapsed between now' pcm' elapsed' back split inside taking
      obtain rfl := Option.some_inj.1 (here.symm.trans follows.first)
      obtain rfl := Option.some_inj.1 (there.symm.trans follows.second)
      exact follows.adjacent_iff.2
        (short front now pcm elapsed between now' pcm' elapsed' back split inside taking)
    · intro front now pcm elapsed between now' pcm' elapsed' back position position' split here there
      have whole := plain
      rw [split, ← List.cons_append, ← List.append_assoc, along_append] at whole
      obtain ⟨start, second, -⟩ := whole
      have appended := (inStep_after start).appended (taking_of_placed there) second
      obtain ⟨before, rest, length, grown⟩ := samples_kept start rfl here
      have behind := appended.behind
      rw [grown, List.length_append, List.length_append, length, length_bytesToI16] at behind
      obtain rfl := Option.some_inj.1 (there.symm.trans appended.placed)
      exact (Nat.le_add_right _ _).trans behind
    · intro front now pcm elapsed back position split here
      obtain ⟨before, rest, length, whole⟩ := samples_kept plain split here
      rw [whole, List.append_assoc, List.drop_left' length, List.take_left' (length_bytesToI16 pcm)]

/-- A turn of two chunks. -/
def turnAt (now : Instant) : List CallMove := [.beginTurn, .chunk now [1, 0] 0, .chunk now [2, 0] 0]

/-- The first chunk is put at the wall clock. -/
theorem offset_turnAt {now : Instant} {wall : ℕ} (clock : now * 48000 / 1000000000 = wall) (pcm : Bytes) :
    (after .exact .webrtc 0 [.beginTurn]).offset now pcm = wall := by
  have snap : (after .exact .webrtc 0 [.beginTurn]).cursor = (AgentAudioCursor.new 0 48000).beginTurn := rfl
  have marked : (AgentAudioCursor.new 0 48000).beginTurn.pendingTurnSnap = true := rfl
  rw [offset, snap, AgentAudioCursor.stamp, if_pos marked, ← clock]
  dsimp only [AgentAudioCursor.elapsedSamples, AgentAudioCursor.beginTurn, AgentAudioCursor.new]
  rw [Nat.zero_max, Nat.sub_zero]

/-- The moves of a turn are plain. -/
theorem plain_turnAt {now : Instant} {wall : ℕ} (clock : now * 48000 / 1000000000 = wall)
    (early : wall + 2 ≤ maxTimelineSamples) :
    Along (step .webrtc) (Plain .webrtc) (new .exact .webrtc 0) (turnAt now) := by
  have fits (s : RecordedCall .exact) {offset : ℕ} (low : offset ≤ wall + 1) :
      s.limited offset + 1 ≤ maxTimelineSamples :=
    (Nat.add_le_add_right ((min_le_left _ _).trans low) 1).trans early
  have first := offset_turnAt clock [1, 0]
  have second : (after .exact .webrtc 0 [.beginTurn, .chunk now [1, 0] 0]).offset now [2, 0] ≤ wall + 1 :=
    Nat.add_le_add_right first.le 1
  exact ⟨trivial, fun _ => fits _ (first.le.trans (Nat.le_succ _)), fun _ => fits _ second, trivial⟩

/-- At the start of the call the timeline is kept. -/
theorem timeline_kept_greeting : TimelineKept .exact .webrtc 0 (turnAt 0) := by
  refine (timeline_kept_iff (plain_turnAt rfl (by decide))).2 ?_
  intro front now pcm elapsed between now' pcm' elapsed' back split _ _
  rcases front with _ | ⟨first, _ | ⟨second, _ | ⟨third, front⟩⟩⟩
  · simp [turnAt] at split
  · obtain ⟨rfl, rfl, rfl⟩ : now = 0 ∧ pcm = [1, 0] ∧ first = .beginTurn := by
      simp only [turnAt, List.cons_append, List.cons.injEq, List.nil_append, CallMove.chunk.injEq] at split
      exact ⟨split.2.1.1.symm, split.2.1.2.1.symm, split.1.symm⟩
    rw [offset_turnAt rfl]
    exact Nat.zero_le _
  · simp [turnAt] at split
  · simp [turnAt] at split

/-- **A turn behind 301 seconds of silence is torn**: the first chunk is put five minutes behind the end
of the timeline, the second one where the cursor is. -/
theorem timeline_torn : Along (step .webrtc) (Plain .webrtc) (new .exact .webrtc 0) (turnAt (Duration.fromSecs 301)) ∧
    ¬ TimelineKept .exact .webrtc 0 (turnAt (Duration.fromSecs 301)) := by
  have plain := @plain_turnAt (Duration.fromSecs 301) 14448000 (by decide) (by decide)
  refine ⟨plain, fun kept => ?_⟩
  obtain ⟨_, first, second, -⟩ := plain
  have taking : (run (step .webrtc) (after .exact .webrtc 0 [.beginTurn])
      [.chunk (Duration.fromSecs 301) [1, 0] 0]).loop.Taking := ⟨rfl, rfl⟩
  have alone : Along (step .webrtc) (Plain .webrtc) (after .exact .webrtc 0 [.beginTurn])
      [.chunk (Duration.fromSecs 301) [1, 0] 0] := ⟨first, trivial⟩
  have follows := (inStep_step _ .beginTurn (inStep_new 0) trivial).follows (by simp) alone second taking
  have near := follows.adjacent_iff.1 (kept.adjacent [.beginTurn] _ _ _ [] _ _ _ [] _ _ rfl (by simp)
    follows.first follows.second)
  exact absurd near (by decide)

end Timeline

end RecordedCall

end Feros
