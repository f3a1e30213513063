import Feros.Coordinator.SpanSteps
/-! # The text of a turn's span

`TtsComplete` reports the text that was passed to `append_tts_text` since the last cancelled or finished
turn.  What is spoken outside turns (a nudge, a replay) is not cleared when the next turn starts, and the
greeting may be reported while a turn is open.

In a run without these, the text of a `TtsComplete` is what was spoken in its turn. -/

namespace Feros

namespace Reactor

open Run
open SpanView (MayCancel Speaks Transcribed Synthesised)

variable {β : Type} [AgentBackend β]

/-! ## What a run emits and speaks -/

/-- The span events that an iteration puts on the bus. -/
def emittedAt (r : Reactor β) (m : Moment β) : List Event :=
  (r.step m).spans.events.drop r.spans.events.length

/-- The text that a run passes to `append_tts_text`. -/
def said (r : Reactor β) (moments : List (Moment β)) : String :=
  String.join (outputs step (fun r m => [r.saidAt m]) r moments)

/-- An iteration opens a span, which is still open at its end. -/
def OpensSpan (r : Reactor β) (m : Moment β) : Prop :=
  ∃ number, (r.emittedAt m).getLast? = some (.turnStarted number)

/-- No span is opened or closed. -/
def Within (r : Reactor β) (moments : List (Moment β)) : Prop :=
  ∀ event ∈ outputs step emittedAt r moments, event.isBoundary = false

/-- **The text of a span belongs to its turn**: what a `TtsComplete` reports is the text spoken since the
`TurnStarted` of the turn. -/
def SpanTextsKept (r : Reactor β) (moments : List (Moment β)) : Prop :=
  ∀ front opening between closing back provider model text voice count,
    moments = front ++ opening :: (between ++ closing :: back) →
      (run step r front).OpensSpan opening →
        (run step r (front ++ [opening])).Within between →
          .ttsComplete provider model text voice count ∈
              (run step r (front ++ opening :: between)).emittedAt closing →
            text = (run step r (front ++ [opening])).said (between ++ [closing])

/-- An input is about to be committed as a turn. -/
def commitsTurn (r : Reactor β) : Input β → Bool
  | .stt (.transcript text) => r.commits text
  | _ => false

/-- **Nothing is left over** when a turn starts, and no turn is open when the greeting is reported. -/
def NothingLeft (r : Reactor β) (m : Moment β) : Prop :=
  (r.commitsTurn m.input = true → r.tracer.turnOpen = false → r.tracer.ttsText = "") ∧
    (r.endsGreeting m.input = true → r.tracer.turnOpen = false)

instance (r : Reactor β) (m : Moment β) : Decidable (r.NothingLeft m) :=
  inferInstanceAs (Decidable ((_ → _ → _) ∧ (_ → _)))

/-! ## One iteration -/

/-- The span events that a change of the view has emitted. -/
theorem emittedAt_eq {r : Reactor β} {m : Moment β} {events : List Event}
    (grown : (r.step m).spans.events = r.spans.events ++ events) : r.emittedAt m = events := by
  unfold emittedAt
  rw [grown, List.drop_left]

end Reactor

namespace SpanView

/-- A cancelled turn appends its events. -/
theorem events_cancel (v : SpanView) : v.cancel.events = v.events ++ v.cancelled := rfl

/-- What was not open emits nothing when it is cancelled. -/
theorem cancelled_of_closed {v : SpanView} (closed : v.isOpen = false) : v.cancelled = [] :=
  if_neg (by rw [closed]; exact Bool.false_ne_true)

/-- A cancelled turn that is open ends as cancelled. -/
theorem cancelled_of_open {v : SpanView} (opened : v.isOpen = true) : v.cancelled = [.turnEnded v.number true] :=
  if_pos opened

end SpanView

namespace Reactor

open Run
open SpanView (MayCancel Speaks Transcribed Synthesised)

variable {β : Type} [AgentBackend β] {r : Reactor β} {m : Moment β}

/-- A transcript says nothing. -/
theorem saidAt_stt {event : SttEvent} (input : m.input = .stt event) : r.saidAt m = "" := by
  unfold saidAt
  rw [input]
  split <;> rfl

/-- An event of the speech says nothing of the reply. -/
theorem saidAt_tts {event : TtsEvent} (input : m.input = .tts event) : r.saidAt m = "" := by
  unfold saidAt
  rw [input]
  split <;> rfl

/-- **The span is over** after these events, if there was one. -/
structure Over (v : SpanView) (events : List Event) : Prop where
  boundary : v.isOpen = true → ∃ event ∈ events, event.isBoundary = true
  last : ∀ number, events.getLast? ≠ some (.turnStarted number)
  reports : v.isOpen = true → ∀ provider model text voice count,
    .ttsComplete provider model text voice count ∈ events → text = v.text

/-- The events of a cancelled turn finish it. -/
theorem over_cancelled (v : SpanView) : Over v v.cancelled := by
  unfold SpanView.cancelled
  by_cases opened : v.isOpen = true
  · rw [if_pos opened]
    exact ⟨fun _ => ⟨_, List.mem_singleton_self _, rfl⟩, by simp, by simp⟩
  · rw [if_neg opened]
    exact ⟨fun opened' => absurd opened' opened, by simp, by simp⟩

/-- **What an iteration does to the span**, if nothing was left over: it speaks, it opens a span, or the span
is over. -/
inductive Course (r : Reactor β) (m : Moment β) : Prop
  | speaks (spans : (r.step m).spans = r.spans.say (r.saidAt m)) (emitted : r.emittedAt m = [])
  | opens (opened : (r.step m).spans.isOpen = true) (fresh : (r.step m).spans.text = "") (number : ℕ)
      (emitted : r.emittedAt m = r.spans.cancelled ++ [.turnStarted number])
  | closes (silent : r.saidAt m = "") (ending : Over r.spans (r.emittedAt m))

/-- A step whose spans are known is on course where its events are. -/
theorem course_of_eq {w : SpanView} (next : (r.step m).spans = w) (silent : r.saidAt m = "")
    {events : List Event} (grown : w.events = r.spans.events ++ events) (ending : Over r.spans events) : Course r m := by
  refine .closes silent ?_
  rw [emittedAt_eq (by rw [next]; exact grown)]
  exact ending

/-- A step that leaves the spans alone is on course. -/
theorem course_of_same (next : (r.step m).spans = r.spans) (silent : r.saidAt m = "") : Course r m := by
  refine .speaks ?_ (emittedAt_eq ?_)
  · rw [next, silent, SpanView.say_empty]
  · rw [next, List.append_nil]

/-- What may be cancelled goes its course. -/
theorem course_of_mayCancel {w : SpanView} (next : (r.step m).spans = w) (silent : r.saidAt m = "")
    (may : MayCancel r.spans w) : Course r m := by
  cases may with
  | stays => exact course_of_same next silent
  | cancels => exact course_of_eq next silent r.spans.events_cancel (over_cancelled _)

/-- A span that is closed, and may be cancelled afterwards. -/
theorem course_of_finish {report : Option (String × String × String)} {w : SpanView}
    (next : (r.step m).spans = w) (silent : r.saidAt m = "") (may : MayCancel (r.spans.finish report) w) :
    Course r m := by
  by_cases opened : r.spans.isOpen = true
  · have finished : r.spans.finish report = { r.spans with
        isOpen := false
        text := ""
        events := r.spans.events ++ (report.toList.map fun said =>
          Event.ttsComplete said.1 said.2.1 r.spans.text said.2.2 r.spans.text.length) ++
            [.turnEnded r.spans.number false] } := if_pos opened
    have grown : w.events = r.spans.events ++ ((report.toList.map fun said =>
        Event.ttsComplete said.1 said.2.1 r.spans.text said.2.2 r.spans.text.length) ++
          [.turnEnded r.spans.number false]) := by
      cases may with
      | stays => rw [finished, List.append_assoc]
      | cancels =>
          rw [SpanView.events_cancel, SpanView.cancelled_of_closed (by rw [finished]), List.append_nil, finished,
            List.append_assoc]
    refine course_of_eq next silent grown ⟨?_, ?_, ?_⟩
    · exact fun _ => ⟨_, List.mem_append_right _ (List.mem_singleton_self _), rfl⟩
    · simp
    · intro _ provider model text voice count held
      cases report with
      | none => simp at held
      | some said =>
          simp at held
          exact held.2.2.1
  · have same : r.spans.finish report = r.spans := if_neg opened
    rw [same] at may
    exact course_of_mayCancel next silent may

/-- A span that is opened, and may be cancelled at once. -/
theorem course_of_start (left : r.spans.isOpen = false → r.spans.text = "") {w : SpanView}
    (next : (r.step m).spans = w) (silent : r.saidAt m = "") (may : MayCancel r.spans.start w) : Course r m := by
  cases may with
  | stays =>
      refine .opens (by rw [next]; rfl) ?_ (r.spans.number + 1) (emittedAt_eq ?_)
      · rw [next]
        unfold SpanView.start
        dsimp only
        split
        · rfl
        · rename_i closed
          exact left (eq_false_of_ne_true closed)
      · rw [next, ← List.append_assoc]
        rfl
  | cancels =>
      have grown : r.spans.start.cancel.events = r.spans.events ++ (r.spans.cancelled ++
          [.turnStarted (r.spans.number + 1), .turnEnded (r.spans.number + 1) true]) := by
        rw [SpanView.events_cancel, SpanView.cancelled_of_open rfl]
        unfold SpanView.start
        simp
      refine course_of_eq next silent grown ⟨?_, ?_, ?_⟩
      · exact fun _ => ⟨.turnStarted (r.spans.number + 1), by simp, rfl⟩
      · simp
      · intro opened provider model text voice count held
        rw [SpanView.cancelled_of_open opened] at held
        simp at held

/-- **Every step is on course** where nothing was left from the turn before. -/
theorem course (left : r.NothingLeft m) : Course r m := by
  have step := r.span_step m
  generalize next : (r.step m).spans = w at step
  cases step with
  | speaks speaks =>
      cases speaks with
      | voiced =>
          refine .speaks next (emittedAt_eq ?_)
          rw [next, List.append_nil]
          rfl
      | cancels silent => exact course_of_mayCancel next silent .cancels
  | transcribed input transcribed =>
      cases transcribed with
      | ignored => exact course_of_same next (saidAt_stt input)
      | committed taken may =>
          have commits : r.commitsTurn m.input = true := by
            rw [input]
            exact taken
          exact course_of_start (left.1 commits) next (saidAt_stt input) may
  | synthesised input synthesised =>
      cases synthesised with
      | quiet => exact course_of_same next (saidAt_tts input)
      | dropped => exact course_of_mayCancel next (saidAt_tts input) .cancels
      | closed report may => exact course_of_finish next (saidAt_tts input) may
      | @greeted ends event report =>
          -- no span was open, so that the report is all that is emitted
          have closed : r.spans.isOpen = false := left.2 ends
          have grown : (r.spans.emit [event]).cancel.events = r.spans.events ++ [event] := by
            rw [SpanView.events_cancel, SpanView.cancelled_of_closed (v := r.spans.emit [event]) closed, List.append_nil]
            rfl
          refine course_of_eq next (saidAt_tts input) grown ⟨?_, ?_, ?_⟩
          · intro opened
            rw [closed] at opened
            cases opened
          · intro number last
            rw [List.getLast?_singleton, Option.some_inj] at last
            rw [last] at report
            cases report
          · intro opened
            rw [closed] at opened
            cases opened

/-- **The span that an iteration opens** is empty if nothing was left. -/
theorem opened_of_nothingLeft (left : r.NothingLeft m) (opens : r.OpensSpan m) :
    (r.step m).spans.isOpen = true ∧ (r.step m).spans.text = "" := by
  obtain ⟨number, last⟩ := opens
  cases course left with
  | speaks spans emitted =>
      rw [emitted] at last
      cases last
  | opens opened fresh => exact ⟨opened, fresh⟩
  | closes silent ending => exact absurd last (ending.last number)

/-- **An iteration inside a span** adds the text it speaks. -/
theorem text_within (left : r.NothingLeft m) (opened : r.spans.isOpen = true)
    (inside : ∀ event ∈ r.emittedAt m, event.isBoundary = false) :
    (r.step m).spans.isOpen = true ∧ (r.step m).spans.text = r.spans.text ++ r.saidAt m := by
  cases course left with
  | speaks spans emitted =>
      rw [spans]
      exact ⟨opened, rfl⟩
  | opens _ _ number emitted =>
      have boundary := inside (.turnStarted number) (by rw [emitted]; simp)
      cases boundary
  | closes silent ending =>
      obtain ⟨event, held, boundary⟩ := ending.boundary opened
      rw [inside event held] at boundary
      cases boundary

/-- **What is reported** is the text of the span. -/
theorem text_reported (left : r.NothingLeft m) (opened : r.spans.isOpen = true)
    {provider model text voice : String} {count : ℕ}
    (reported : .ttsComplete provider model text voice count ∈ r.emittedAt m) :
    text = r.spans.text ++ r.saidAt m := by
  cases course left with
  | speaks spans emitted =>
      rw [emitted] at reported
      cases reported
  | opens _ _ number emitted =>
      rw [emitted, SpanView.cancelled_of_open opened] at reported
      simp at reported
  | closes silent ending =>
      rw [silent, String.append_empty]
      exact ending.reports opened _ _ _ _ _ reported

/-! ## Runs -/

/-- What a run says is what its first step says and what the rest says. -/
theorem said_cons (r : Reactor β) (m : Moment β) (moments : List (Moment β)) :
    r.said (m :: moments) = r.saidAt m ++ (r.step m).said moments := by
  unfold said
  rw [outputs, List.singleton_append, String.join_cons]

/-- **Inside a span** the text grows by what is spoken. -/
theorem text_within_run {moments : List (Moment β)} (left : Along step NothingLeft r moments)
    (opened : r.spans.isOpen = true) (inside : r.Within moments) :
    (run step r moments).spans.isOpen = true ∧
      (run step r moments).spans.text = r.spans.text ++ r.said moments := by
  induction moments generalizing r with
  | nil => exact ⟨opened, String.append_empty.symm⟩
  | cons m moments ih =>
      have here := text_within left.1 opened fun event held => inside event (List.mem_append_left _ held)
      have rest := ih left.2 here.1 fun event held => inside event (List.mem_append_right _ held)
      rw [run_cons, said_cons, ← String.append_assoc, ← here.2]
      exact rest

/-- What two runs say is said one after the other. -/
theorem said_append (r : Reactor β) (first second : List (Moment β)) :
    r.said (first ++ second) = r.said first ++ (run step r first).said second := by
  induction first generalizing r with
  | nil => exact String.empty_append.symm
  | cons m first ih => rw [List.cons_append, said_cons, said_cons, ih, String.append_assoc, run_cons]

/-- **The text of a span belongs to its turn**, in every run in which nothing is left over. -/
theorem span_texts_kept (r : Reactor β) (moments : List (Moment β)) (left : Along step NothingLeft r moments) :
    r.SpanTextsKept moments := by
  intro front opening between closing back provider model text voice count split opens inside reported
  rw [split, along_append, ← List.cons_append, along_append] at left
  obtain ⟨-, ⟨leftOpening, leftBetween⟩, leftClosing, -⟩ := left
  have started := opened_of_nothingLeft leftOpening opens
  rw [run_append] at inside ⊢
  have grown := text_within_run leftBetween started.1 inside
  rw [run_append] at reported
  have last := text_reported leftClosing grown.1 reported
  have spoken : (run step ((run step r front).step opening) between).spans.text =
      ((run step r front).step opening).said between := by
    rw [grown.2, started.2, String.empty_append]
  have nothing (s : Reactor β) : s.said [] = "" := rfl
  rw [said_append, said_cons, nothing, String.append_empty, last]
  simp only [run_cons, run_nil]
  rw [spoken]

/-- A turn is answered within three seconds. -/
def answered (secs : ℕ) : List (Moment AnyBackend) :=
  [calmly secs (.stt (.transcript "hello")), calmly (secs + 1) (yields (.token "Welcome.") true),
    calmly (secs + 2) (yields (.finished none) false), calmly (secs + 3) (.tts .finished)]

/-- What is reported of the answer is the answer. -/
theorem span_texts_kept_answered : (session {}).SpanTextsKept (answered 1) :=
  span_texts_kept _ _ (by decide +kernel)

/-- A silent user is nudged. -/
def nudged : List (Moment AnyBackend) :=
  [calmly 5 (.timer 0), calmly 6 (yields (.token "Still there?") true), calmly 6 (yields (.finished none) false),
    calmly 7 (.tts .finished)]

/-- A session with a greeting over a WS voice. -/
def greetedSession : Reactor AnyBackend :=
  ((new { greeting := some "Good day." } ⟨false⟩ .streaming (fun text => [text]) (calm 0)).connect
    calmStart).greet none

/-- **Texts leak into the span of a turn**: a nudge into the turn behind it, and the greeting into the one that
starts while it is spoken. -/
theorem span_texts_leak :
    ¬ (session {}).SpanTextsKept (nudged ++ answered 8) ∧ ¬ greetedSession.SpanTextsKept (answered 1) := by
  constructor
  · intro kept
    have same := kept nudged (calmly 8 (.stt (.transcript "hello"))) [calmly 9 (yields (.token "Welcome.") true),
      calmly 10 (yields (.finished none) false)] (calmly 11 (.tts .finished)) [] "unknown" ""
      "Still there?Welcome." "default" 20 rfl ⟨1, by decide +kernel⟩ (by unfold Within; decide +kernel)
      (by decide +kernel)
    revert same
    decide +kernel
  · intro kept
    have same := kept [] (calmly 1 (.stt (.transcript "hello"))) [calmly 2 (yields (.token "Welcome.") true),
      calmly 3 (yields (.finished none) false)] (calmly 4 (.tts .finished)) [] "unknown" "" "Good day."
      "default" 9 rfl ⟨1, by decide +kernel⟩ (by unfold Within; decide +kernel) (by decide +kernel)
    revert same
    decide +kernel

end Reactor

end Feros
