import Feros.Audio.SileroVad
/-! # Speech segments

The audio of an utterance begins with the frames that the lookback buffer holds when speech starts.
They are kept outside speech only, and stay in the buffer while speech goes on: the next utterance
begins with what is left of them.

`segment_contiguous_iff` says when none are left. -/

namespace Feros

namespace SileroVad

variable {env : VadEnv}

/-- A frame, and the probability that it is speech. -/
structure Heard (env : VadEnv) where
  prob : env.F32
  frame : Bytes

/-- The frames heard. -/
def frames (stream : List (Heard env)) : List Bytes := stream.map Heard.frame

/-- One more frame is heard behind the others. -/
theorem frames_concat (stream : List (Heard env)) (last : Heard env) :
    frames (stream ++ [last]) = frames stream ++ [last.frame] := List.map_append

/-- The audio of one more frame comes behind the audio of the others. -/
theorem flatten_frames_concat (stream : List (Heard env)) (last : Heard env) :
    (frames (stream ++ [last])).flatten = (frames stream).flatten ++ last.frame := by
  rw [frames_concat, List.flatten_append, List.flatten_singleton]

/-- A frame is processed. -/
def hear (v : SileroVad env) (heard : Heard env) : Option InnerVadEvent × SileroVad env :=
  v.processWithProb heard.prob heard.frame

/-- The detector after a stream of frames. -/
def after (config : VadConfig env) (stream : List (Heard env)) : SileroVad env :=
  stream.foldl (fun v heard => (v.hear heard).2) (new config)

/-- The event of the next frame. -/
def eventOf (config : VadConfig env) (stream : List (Heard env)) (next : Heard env) : Option InnerVadEvent :=
  ((after config stream).hear next).1

/-! ## Segments -/

/-- **Outside speech**: some frames were heard since speech ended for the last time, or since the
beginning. -/
structure Quiet (config : VadConfig env) (past quiet : List (Heard env)) : Prop where
  ended : past = [] ∨ ∃ before last, past = before ++ [last] ∧ eventOf config before last = some .speechEnd
  noEvent : ∀ front next back, quiet = front ++ next :: back → eventOf config (past ++ front) next = none

/-- **In speech**, which started with a frame. -/
structure Speaking (config : VadConfig env) (past quiet : List (Heard env)) (start : Heard env)
    (more : List (Heard env)) : Prop extends Quiet config past quiet where
  starts : eventOf config (past ++ quiet) start = some .speechStart
  noEvent' : ∀ front next back, more = front ++ next :: back →
    eventOf config (past ++ quiet ++ start :: front) next = none

/-- **The audio is contiguous**: it is a run of the frames since the last end of speech that ends now,
and starts at most `lookback` frames before speech started. -/
def Contiguous (lookback : ℕ) (quiet segment : List Bytes) (audio : Bytes) : Prop :=
  ∃ skipped run, quiet ++ segment = skipped ++ run ∧ quiet.length ≤ skipped.length + lookback ∧
    audio = run.flatten

/-- What is left of the frames in the buffer after some more. -/
def stale (lookback : ℕ) (buffer quiet : List Bytes) : List Bytes :=
  buffer.drop (buffer.length + quiet.length - lookback)

/-- **The window** is made of what is left of the buffer, and of the frames since. -/
theorem rtake_append (lookback : ℕ) (buffer quiet : List Bytes) : (buffer ++ quiet).rtake lookback =
    stale lookback buffer quiet ++ quiet.drop (quiet.length - lookback) := by
  have rest : buffer.length + quiet.length - lookback - buffer.length = quiet.length - lookback := by
    omega
  rw [List.rtake, List.length_append, List.drop_append, rest, stale]

/-- **The audio is contiguous exactly if nothing is left** of the old window. -/
theorem contiguous_iff (lookback : ℕ) (buffer quiet segment : List Bytes) :
    Contiguous lookback quiet segment (((buffer ++ quiet).rtake lookback).flatten ++ segment.flatten) ↔
      ∀ frame ∈ stale lookback buffer quiet, frame = [] := by
  rw [rtake_append, List.flatten_append, List.append_assoc]
  constructor
  · rintro ⟨skipped, run, whole, near, same⟩
    -- The run is not longer than what the window has of the frames since the last end.
    have run_eq : run = (quiet ++ segment).drop skipped.length := by
      rw [whole, List.drop_left]
    have suffix : run <:+ quiet.drop (quiet.length - lookback) ++ segment := by
      rw [← List.drop_append_of_le_length (Nat.sub_le ..), run_eq]
      exact List.drop_suffix_drop_left _ (by omega)
    obtain ⟨before, split⟩ := suffix
    have bytes := congrArg List.length (congrArg List.flatten split)
    have total := congrArg List.length same
    rw [List.flatten_append, List.flatten_append, List.length_append, List.length_append] at bytes
    rw [List.length_append, List.length_append] at total
    have none : (stale lookback buffer quiet).flatten = [] := by
      rw [← List.length_eq_zero_iff]
      omega
    exact List.flatten_eq_nil_iff.1 none
  · intro empty
    rw [List.flatten_eq_nil_iff.2 empty, List.nil_append]
    refine ⟨quiet.take (quiet.length - lookback), quiet.drop (quiet.length - lookback) ++ segment, ?_, ?_, ?_⟩
    · rw [← List.append_assoc, List.take_append_drop]
    · rw [List.length_take]
      omega
    · rw [List.flatten_append]

/-! ## Runs -/

section Runs

variable {config : VadConfig env} {stream : List (Heard env)}

/-- The state behind one more frame is the state after hearing it. -/
theorem after_concat (config : VadConfig env) (stream : List (Heard env)) (next : Heard env) :
    after config (stream ++ [next]) = ((after config stream).hear next).2 := by
  rw [after, List.foldl_append]
  rfl

/-- The config does not change. -/
@[simp] theorem config_after (config : VadConfig env) (stream : List (Heard env)) :
    (after config stream).config = config := by
  induction stream using List.reverseRecOn with
  | nil => rfl
  | append_singleton stream next ih =>
      rw [after_concat, hear, processWithProb, config_advance]
      exact ih

/-- What a frame does outside speech. -/
theorem hear_quiet (quiet : (after config stream).isSpeaking = false)
    (few : (after config stream).lookbackBuffer.length ≤ config.lookbackFrames) (next : Heard env) :
    (eventOf config stream next = some .speechStart ∧
        (after config (stream ++ [next])).isSpeaking = true ∧
        (after config (stream ++ [next])).speechAudio =
          (after config stream).lookbackBuffer.flatten ++ next.frame ∧
        (after config (stream ++ [next])).lookbackBuffer = (after config stream).lookbackBuffer) ∨
      (eventOf config stream next = none ∧
        (after config (stream ++ [next])).isSpeaking = false ∧
        (after config (stream ++ [next])).lookbackBuffer =
          ((after config stream).lookbackBuffer ++ [next.frame]).rtake config.lookbackFrames) := by
  rw [after_concat]
  have same : (after config stream).config.lookbackFrames = config.lookbackFrames := by
    rw [config_after]
  rcases @advance_quiet env
    (predicts next.prob { after config stream with volume := env.smooth (after config stream).volume next.frame })
    next.frame { after config stream with volume := env.smooth (after config stream).volume next.frame } quiet
    (few.trans same.ge) with starts | ⟨none, idle, buffer⟩
  · exact .inl starts
  · exact .inr ⟨none, idle, buffer.trans (congrArg _ same)⟩

/-- What a frame does in speech. -/
theorem hear_speaking (speaking : (after config stream).isSpeaking = true) (next : Heard env) :
    (eventOf config stream next = some .speechEnd ∧ (after config (stream ++ [next])).isSpeaking = false ∨
      eventOf config stream next = none ∧ (after config (stream ++ [next])).isSpeaking = true) ∧
      (after config (stream ++ [next])).speechAudio = (after config stream).speechAudio ++ next.frame ∧
      (after config (stream ++ [next])).lookbackBuffer = (after config stream).lookbackBuffer := by
  rw [after_concat]
  exact @advance_speaking env _ next.frame
    { after config stream with volume := env.smooth (after config stream).volume next.frame } speaking

/-- What is taken from the back is at most as long as asked. -/
theorem length_rtake_le {α : Type*} (items : List α) (n : ℕ) : (items.rtake n).length ≤ n := by
  rw [List.rtake, List.length_drop]
  omega

/-- The buffer never holds too many frames. -/
theorem few_after (config : VadConfig env) (stream : List (Heard env)) :
    (after config stream).lookbackBuffer.length ≤ config.lookbackFrames := by
  induction stream using List.reverseRecOn with
  | nil => exact Nat.zero_le _
  | append_singleton stream next ih =>
      rcases speaking : (after config stream).isSpeaking with _ | _
      · rcases hear_quiet speaking ih next with ⟨-, -, -, same⟩ | ⟨-, -, kept⟩
        · rwa [same]
        · rw [kept]
          exact length_rtake_le _ _
      · rwa [(hear_speaking speaking next).2.2]

/-- **Taking from the back one item at a time** takes what taking from the whole takes. -/
theorem rtake_rtake_concat {α : Type*} (items : List α) (last : α) (n : ℕ) :
    (items.rtake n ++ [last]).rtake n = (items ++ [last]).rtake n := by
  have shorter : items.rtake n ++ [last] = (items ++ [last]).drop (items.length - n) := by
    rw [List.rtake, List.drop_append_of_le_length (Nat.sub_le ..)]
  rw [shorter, List.rtake, List.rtake, List.drop_drop, List.length_drop, List.length_append]
  refine congrArg (fun count => (items ++ [last]).drop count) ?_
  rw [List.length_singleton]
  omega

/-- No event in one more frame. -/
theorem noEvent_concat {event : List (Heard env) → Heard env → Option InnerVadEvent}
    {heard : List (Heard env)} {last : Heard env}
    (before : ∀ front next back, heard = front ++ next :: back → event front next = none)
    (here : event heard last = none) :
    ∀ front next back, heard ++ [last] = front ++ next :: back → event front next = none := by
  intro front next back split
  rcases List.eq_nil_or_concat back with rfl | ⟨back, c, rfl⟩
  · obtain ⟨rfl, same⟩ := List.append_inj' split rfl
    cases same
    exact here
  · apply before front next back
    rw [List.concat_eq_append, ← List.cons_append, ← List.append_assoc] at split
    exact List.append_inj_left' split rfl

/-- **Where the detector is in a stream**: outside speech, with the last frames in the buffer, or in
speech, with the audio since some frames before the start. -/
theorem phase_after (config : VadConfig env) (stream : List (Heard env)) :
    (∃ past quiet, stream = past ++ quiet ∧ Quiet config past quiet ∧
      (after config stream).isSpeaking = false ∧ (after config stream).lookbackBuffer =
        ((after config past).lookbackBuffer ++ frames quiet).rtake config.lookbackFrames) ∨
    ∃ past quiet start more, stream = past ++ quiet ++ start :: more ∧
      Speaking config past quiet start more ∧ (after config stream).isSpeaking = true ∧
      (after config stream).speechAudio =
        (((after config past).lookbackBuffer ++ frames quiet).rtake config.lookbackFrames).flatten ++
          (frames (start :: more)).flatten := by
  induction stream using List.reverseRecOn with
  | nil =>
      refine .inl ⟨[], [], rfl, ⟨.inl rfl, ?_⟩, rfl, ?_⟩
      · intro front next back split
        cases front <;> cases split
      · exact (List.rtake_nil _).symm
  | append_singleton stream next ih =>
      rcases ih with ⟨past, quiet, split, isQuiet, idle, buffer⟩ |
        ⟨past, quiet, start, more, split, speaks, speaking, audio⟩
      · rcases hear_quiet idle (few_after config stream) next with
          ⟨starts, speaking, audio, -⟩ | ⟨none, idle', buffer'⟩
        · refine .inr ⟨past, quiet, next, [], by rw [split], ⟨isQuiet, ?_, ?_⟩, speaking, ?_⟩
          · rwa [← split]
          · intro front other back split'
            cases front <;> cases split'
          · rw [audio, buffer]
            exact congrArg _ (List.append_nil _).symm
        · refine .inl ⟨past, quiet ++ [next], by rw [split, List.append_assoc], ⟨isQuiet.ended, ?_⟩,
            idle', ?_⟩
          · exact noEvent_concat isQuiet.noEvent (split ▸ none)
          · rw [buffer', buffer, rtake_rtake_concat, List.append_assoc, frames_concat]
      · obtain ⟨events, audio', buffer⟩ := hear_speaking speaking next
        rcases events with ⟨ends, idle⟩ | ⟨none, speaking'⟩
        · refine .inl ⟨stream ++ [next], [], (List.append_nil _).symm, ⟨.inr ⟨stream, next, rfl, ends⟩, ?_⟩,
            idle, ?_⟩
          · intro front other back split'
            cases front <;> cases split'
          · have few := few_after config (stream ++ [next])
            rw [frames, List.map_nil, List.append_nil, List.rtake, Nat.sub_eq_zero_of_le few,
              List.drop_zero]
        · refine .inr ⟨past, quiet, start, more ++ [next], ?_, ⟨speaks.toQuiet, speaks.starts, ?_⟩,
            speaking', ?_⟩
          · rw [split, List.append_assoc, List.cons_append]
          · exact noEvent_concat speaks.noEvent' (split ▸ none)
          · rw [audio', audio, List.append_assoc, ← List.cons_append, flatten_frames_concat]

end Runs

/-- **The audio at the end of speech is contiguous exactly if no bytes from before the last end of
speech are left** in the lookback buffer when speech starts. -/
theorem segment_contiguous_iff (config : VadConfig env) (stream : List (Heard env)) (last : Heard env)
    (ends : eventOf config stream last = some .speechEnd) :
    ∃ past quiet start more, stream = past ++ quiet ++ start :: more ∧
      Speaking config past quiet start more ∧
      (Contiguous config.lookbackFrames (frames quiet) (frames (start :: more ++ [last]))
          (after config (stream ++ [last])).speechAudio ↔
        ∀ frame ∈ stale config.lookbackFrames (after config past).lookbackBuffer (frames quiet),
          frame = []) := by
  rcases phase_after config stream with ⟨past, quiet, -, -, idle, -⟩ |
    ⟨past, quiet, start, more, split, speaks, speaking, audio⟩
  · exfalso
    rcases hear_quiet idle (few_after config stream) last with ⟨starts, -⟩ | ⟨none, -⟩
    · rw [ends] at starts
      cases starts
    · rw [ends] at none
      cases none
  · refine ⟨past, quiet, start, more, split, speaks, ?_⟩
    have whole : (after config (stream ++ [last])).speechAudio =
        (((after config past).lookbackBuffer ++ frames quiet).rtake config.lookbackFrames).flatten ++
          (frames (start :: more ++ [last])).flatten := by
      rw [(hear_speaking speaking last).2.1, audio, List.append_assoc, flatten_frames_concat]
    rw [whole]
    exact contiguous_iff _ _ _ _

/-! ## Two utterances -/

/-- Twenty silent frames, and two utterances of six speech frames, with six silent frames behind each. -/
def utterances : List (Heard VadEnv.percent) :=
  (List.range 43).map fun i =>
    ⟨if (20 ≤ i ∧ i < 26) ∨ (32 ≤ i ∧ i < 38) then (90 : ℕ) else (10 : ℕ), [UInt8.ofNat i]⟩

/-- The last frame. -/
def lastFrame : Heard VadEnv.percent := ⟨(10 : ℕ), [43]⟩

/-- Two utterances of six speech frames each. -/
theorem segment_contiguous_iff_utterances : ∃ past quiet start more, utterances = past ++ quiet ++ start :: more ∧
    Speaking VadConfig.defaults past quiet start more ∧
    (Contiguous 20 (frames quiet) (frames (start :: more ++ [lastFrame]))
        (after VadConfig.defaults (utterances ++ [lastFrame])).speechAudio ↔
      ∀ frame ∈ stale 20 (after VadConfig.defaults past).lookbackBuffer (frames quiet), frame = []) :=
  segment_contiguous_iff VadConfig.defaults utterances lastFrame (by decide +kernel)

/-- **The second utterance begins with frames from before the first**: fifteen of them, which were still
in the buffer. -/
theorem window_left : eventOf VadConfig.defaults (utterances.take 31) ⟨(10 : ℕ), [31]⟩ = some .speechEnd ∧
    eventOf VadConfig.defaults utterances lastFrame = some .speechEnd ∧
    (after VadConfig.defaults (utterances ++ [lastFrame])).speechAudio =
      [10, 11, 12, 13, 14, 15, 16, 17, 18, 19, 20, 21, 22, 23, 24, 32, 33, 34, 35, 36, 37, 38, 39, 40, 41, 42,
        43] ∧
    ∀ skipped run, frames (utterances.drop 32 ++ [lastFrame]) = skipped ++ run →
      (after VadConfig.defaults (utterances ++ [lastFrame])).speechAudio ≠ run.flatten := by
  have audio : (after VadConfig.defaults (utterances ++ [lastFrame])).speechAudio =
      [10, 11, 12, 13, 14, 15, 16, 17, 18, 19, 20, 21, 22, 23, 24, 32, 33, 34, 35, 36, 37, 38, 39, 40, 41, 42,
        43] := by
    decide +kernel
  refine ⟨by decide +kernel, by decide +kernel, audio, ?_⟩
  intro skipped run split same
  -- There are not as many bytes since the first utterance.
  have bytes := congrArg (fun heard => heard.flatten.length) split
  have since : (frames (utterances.drop 32 ++ [lastFrame])).flatten.length = 12 := by decide +kernel
  have length := congrArg List.length (audio.symm.trans same)
  rw [since, List.flatten_append, List.length_append, ← length] at bytes
  simp at bytes

end SileroVad

end Feros
