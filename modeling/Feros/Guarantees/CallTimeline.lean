import Mathlib.Data.List.Infix
import Mathlib.Data.List.Chain
import Feros.Studio.TimelineReducer
/-! # Every utterance once

An utterance is a number of chunks and the canonical text behind them.  Two streams of utterances arrive
interleaved.  The timeline shows each utterance once if and only if no event of the other stream comes
between the events of an utterance: the reducer closes or extends the last bubble only, so a bubble that is
open when another one is put behind it stays open.

* **`Interleaves`**: the events are those of the two streams.
* **`ShowsOnce`**: what the timeline must be.
* **`Unbroken`**: the condition on the order of the events. -/

namespace Feros

namespace CallTimeline

/-- **An utterance**: chunks that are not empty, and the canonical text. -/
structure Utterance where
  chunks : List String
  text : String
  nonempty : ∀ chunk ∈ chunks, chunk ≠ ""

/-- The events of an utterance. -/
def Utterance.events (role : String) (u : Utterance) : List TimelineEvent :=
  u.chunks.map (.transcriptChunk role) ++ [.transcript role u.text]

/-- **The stream of a role.** -/
def stream (role : String) (utterances : List Utterance) : List TimelineEvent :=
  utterances.flatMap (Utterance.events role)

/-- What comes from a role. -/
def said (role : String) (events : List TimelineEvent) : List TimelineEvent :=
  events.filter fun event => event.role == role

/-- **The events are those of the two streams**, in the order of each. -/
structure Interleaves (user assistant : List Utterance) (events : List TimelineEvent) : Prop where
  roles : ∀ event ∈ events, event.role = "user" ∨ event.role = "assistant"
  ofUser : said "user" events = stream "user" user
  ofAssistant : said "assistant" events = stream "assistant" assistant

/-- The bubbles of a role. -/
def bubbles (role : String) (timeline : List TimelineEntry) : List TimelineEntry :=
  timeline.filter fun entry =>
    match entry with
    | .message entryRole _ _ => entryRole == role
    | .tool _ => false

/-- The bubble that shows an utterance. -/
def Utterance.bubble (role : String) (u : Utterance) : TimelineEntry := .message role u.text true

/-- **Each utterance is shown once**: the bubbles of each role are those of its utterances, and there is nothing
else. -/
structure ShowsOnce (user assistant : List Utterance) (timeline : List TimelineEntry) : Prop where
  nothingElse : timeline.length = user.length + assistant.length
  ofUser : bubbles "user" timeline = user.map (Utterance.bubble "user")
  ofAssistant : bubbles "assistant" timeline = assistant.map (Utterance.bubble "assistant")

/-- **No event comes between those of an utterance** of the other role. -/
def Unbroken (events : List TimelineEvent) : Prop :=
  events.IsChain fun event next => event.isChunk = true → next.role = event.role

/-- The bubbles of the canonical texts. -/
def closed (events : List TimelineEvent) : List TimelineEntry :=
  events.filterMap fun event =>
    match event with
    | .transcriptChunk _ _ => none
    | .transcript role text => some (.message role text true)

/-! ## One event -/

section Events

variable {prev : List TimelineEntry} {role text : String}

/-- A chunk opens a bubble, unless the last one is open. -/
theorem applyChunk_append (full : text ≠ "") (blocked : ∀ last ∈ prev.getLast?, isOpenBubble last role = false) :
    applyChunk prev role text = prev ++ [.message role text false] := by
  unfold applyChunk
  rw [if_neg fun empty => full (String.isEmpty_iff.1 empty)]
  cases isLast : prev.getLast? with
  | none => rfl
  | some last =>
      cases last with
      | message lastRole lastText final =>
          dsimp only
          rw [if_neg]
          rw [blocked _ isLast]
          exact Bool.false_ne_true
      | tool toolName => rfl

/-- An open bubble of a role is open for it. -/
theorem isOpenBubble_self (role text : String) : isOpenBubble (.message role text false) role = true := by
  simp [isOpenBubble]

/-- A chunk goes into the open bubble. -/
theorem applyChunk_open (full : text ≠ "") (before : String) :
    applyChunk (prev ++ [.message role before false]) role text =
      prev ++ [.message role (before ++ text) false] := by
  unfold applyChunk
  rw [if_neg fun empty => full (String.isEmpty_iff.1 empty), List.getLast?_concat]
  dsimp only
  rw [if_pos (isOpenBubble_self role before), List.dropLast_concat]

/-- There is an open bubble behind a chunk. -/
theorem applyChunk_opens (full : text ≠ "") (prev : List TimelineEntry) (role : String) :
    ∃ front gathered, applyChunk prev role text = front ++ [.message role gathered false] := by
  by_cases blocked : ∀ last ∈ prev.getLast?, isOpenBubble last role = false
  · exact ⟨prev, text, applyChunk_append full blocked⟩
  · push Not at blocked
    obtain ⟨last, isLast, isOpen⟩ := blocked
    obtain ⟨front, rfl⟩ := List.getLast?_eq_some_iff.1 isLast
    cases last with
    | tool toolName => exact absurd rfl isOpen
    | message lastRole before final =>
        have same : lastRole = role ∧ final = false := by
          simpa [isOpenBubble] using isOpen
        obtain ⟨rfl, rfl⟩ := same
        exact ⟨front, before ++ text, applyChunk_open full before⟩

/-- The canonical text gets a bubble of its own, unless the last one is open. -/
theorem applyTranscript_append (blocked : ∀ last ∈ prev.getLast?, isOpenBubble last role = false) :
    applyTranscript prev role text = prev ++ [.message role text true] := by
  unfold applyTranscript
  cases isLast : prev.getLast? with
  | none => rfl
  | some last =>
      cases last with
      | message lastRole lastText final =>
          dsimp only
          rw [if_neg]
          rw [blocked _ isLast]
          exact Bool.false_ne_true
      | tool toolName => rfl

/-- The canonical text closes the open bubble. -/
theorem applyTranscript_open (before : String) :
    applyTranscript (prev ++ [.message role before false]) role text = prev ++ [.message role text true] := by
  unfold applyTranscript
  rw [List.getLast?_concat]
  dsimp only
  rw [if_pos (isOpenBubble_self role before), List.dropLast_concat]

/-- **Only the last entry is touched.** -/
theorem applyTimelineEvent_front (front : List TimelineEntry) (last : TimelineEntry) (event : TimelineEvent) :
    ∃ back, back ≠ [] ∧ applyTimelineEvent (front ++ [last]) event = front ++ back := by
  cases event with
  | transcriptChunk role text =>
      show ∃ back, back ≠ [] ∧ applyChunk (front ++ [last]) role text = front ++ back
      unfold applyChunk
      split
      · exact ⟨[last], List.cons_ne_nil _ _, rfl⟩
      · rw [List.getLast?_concat]
        cases last with
        | tool toolName => exact ⟨_, List.cons_ne_nil _ _, List.append_assoc _ _ _⟩
        | message lastRole lastText final =>
            dsimp only
            split
            · rw [List.dropLast_concat]
              exact ⟨_, List.cons_ne_nil _ _, rfl⟩
            · exact ⟨_, List.cons_ne_nil _ _, List.append_assoc _ _ _⟩
  | transcript role text =>
      show ∃ back, back ≠ [] ∧ applyTranscript (front ++ [last]) role text = front ++ back
      unfold applyTranscript
      rw [List.getLast?_concat]
      cases last with
      | tool toolName => exact ⟨_, List.cons_ne_nil _ _, List.append_assoc _ _ _⟩
      | message lastRole lastText final =>
          dsimp only
          split
          · rw [List.dropLast_concat]
            exact ⟨_, List.cons_ne_nil _ _, rfl⟩
          · exact ⟨_, List.cons_ne_nil _ _, List.append_assoc _ _ _⟩

/-- What stands before the last entry stays as it is. -/
theorem foldl_front (events : List TimelineEvent) (front back : List TimelineEntry) (more : back ≠ []) :
    ∃ rest, events.foldl applyTimelineEvent (front ++ back) = front ++ rest := by
  induction events generalizing back with
  | nil => exact ⟨back, rfl⟩
  | cons event events ih =>
      obtain ⟨init, last, rfl⟩ := (List.eq_nil_or_concat back).resolve_left more
      obtain ⟨rest, more, applied⟩ := applyTimelineEvent_front (front ++ init) last event
      rw [List.foldl_cons, List.concat_eq_append, ← List.append_assoc, applied, List.append_assoc]
      exact ih (init ++ rest) (List.append_ne_nil_of_right_ne_nil _ more)

end Events

/-! ## Unbroken events -/

/-- **What the timeline is** behind some events: the canonical texts, and an open bubble behind a chunk. -/
def Ends (events : List TimelineEvent) (timeline : List TimelineEntry) : Prop :=
  match events.getLast? with
  | some (.transcriptChunk role _) => ∃ text, timeline = closed events ++ [.message role text false]
  | _ => timeline = closed events

/-- **No bubble that is closed is open.** -/
theorem blocked_closed (events : List TimelineEvent) (role : String) :
    ∀ last ∈ (closed events).getLast?, isOpenBubble last role = false := by
  intro last isLast
  obtain ⟨event, -, bubble⟩ := List.mem_filterMap.1 (List.mem_of_getLast? isLast)
  cases event with
  | transcriptChunk => cases bubble
  | transcript role text =>
      cases bubble
      exact Bool.and_false _

/-- One more event closes the bubbles it closes. -/
theorem closed_concat (events : List TimelineEvent) (event : TimelineEvent) :
    closed (events ++ [event]) = closed events ++ closed [event] := List.filterMap_append

/-- **One more event**, which goes on with an open bubble. -/
theorem ends_concat {events : List TimelineEvent} {timeline : List TimelineEntry} (ends : Ends events timeline)
    {event : TimelineEvent} (nonempty : event.isChunk = true → event.text ≠ "")
    (joined : ∀ last ∈ events.getLast?, last.isChunk = true → event.role = last.role) :
    Ends (events ++ [event]) (applyTimelineEvent timeline event) := by
  have between (closes : timeline = closed events) :
      Ends (events ++ [event]) (applyTimelineEvent timeline event) := by
    have blocked := blocked_closed events event.role
    rw [← closes] at blocked
    unfold Ends
    rw [List.getLast?_concat, closed_concat, ← closes]
    cases event with
    | transcriptChunk role text =>
        refine ⟨text, ?_⟩
        rw [show closed [.transcriptChunk role text] = [] from rfl, List.append_nil]
        exact applyChunk_append (nonempty rfl) blocked
    | transcript role text => exact applyTranscript_append blocked
  unfold Ends at ends
  cases isLast : events.getLast? with
  | none =>
      rw [isLast] at ends
      exact between ends
  | some last =>
      rw [isLast] at ends
      cases last with
      | transcript role text => exact between ends
      | transcriptChunk role before =>
          obtain ⟨gathered, rfl⟩ := ends
          have same : event.role = role := joined _ isLast rfl
          unfold Ends
          rw [List.getLast?_concat, closed_concat]
          cases event with
          | transcriptChunk speaker text =>
              obtain rfl : speaker = role := same
              refine ⟨gathered ++ text, ?_⟩
              rw [show closed [.transcriptChunk speaker text] = [] from rfl, List.append_nil]
              exact applyChunk_open (nonempty rfl) gathered
          | transcript speaker text =>
              obtain rfl : speaker = role := same
              exact applyTranscript_open gathered

/-- **Unbroken events** close each bubble that they open. -/
theorem ends_of_unbroken {events : List TimelineEvent} (unbroken : Unbroken events)
    (nonempty : ∀ event ∈ events, event.isChunk = true → event.text ≠ "") :
    Ends events (events.foldl applyTimelineEvent []) := by
  induction events using List.reverseRecOn with
  | nil => exact rfl
  | append_singleton events event ih =>
      obtain ⟨before, -, joined⟩ := List.isChain_append.1 unbroken
      have ends := ih before fun e held => nonempty e (List.mem_append_left _ held)
      rw [List.foldl_append, List.foldl_cons, List.foldl_nil]
      refine ends_concat ends ?_ ?_
      · exact nonempty event (List.mem_append_right _ (List.mem_singleton_self event))
      · exact fun last isLast => joined last isLast event rfl

/-! ## Streams -/

section Streams

variable {role : String} {utterances : List Utterance}

/-- A chunk of a stream is not empty. -/
theorem nonempty_of_mem_stream {event : TimelineEvent} (held : event ∈ stream role utterances)
    (chunk : event.isChunk = true) : event.text ≠ "" := by
  obtain ⟨u, -, held⟩ := List.mem_flatMap.1 held
  rcases List.mem_append.1 held with inChunks | isText
  · obtain ⟨text, isChunk, rfl⟩ := List.mem_map.1 inChunks
    exact u.nonempty text isChunk
  · obtain rfl := List.mem_singleton.1 isText
    cases chunk

/-- A stream does not end with a chunk. -/
theorem stream_ne_concat (events : List TimelineEvent) (text : String) :
    stream role utterances ≠ events ++ [.transcriptChunk role text] := by
  intro ends
  rcases List.eq_nil_or_concat utterances with rfl | ⟨before, u, rfl⟩
  · exact absurd ends.symm (List.append_ne_nil_of_right_ne_nil _ (List.cons_ne_nil _ _))
  · have lasts : stream role (before ++ [u]) =
        (stream role before ++ u.chunks.map (.transcriptChunk role)) ++ [.transcript role u.text] := by
      unfold stream
      rw [List.flatMap_append, List.flatMap_singleton, List.append_assoc]
      rfl
    rw [List.concat_eq_append, lasts] at ends
    have last := (List.append_inj' ends rfl).2
    cases last

/-- A stream of utterances closes one bubble for each. -/
theorem closed_stream (role : String) (utterances : List Utterance) :
    closed (stream role utterances) = utterances.map (Utterance.bubble role) := by
  induction utterances with
  | nil => rfl
  | cons u utterances ih =>
      have one : closed (u.events role) = [u.bubble role] := by
        have chunks : closed (u.chunks.map (.transcriptChunk role)) = [] := by
          refine List.filterMap_eq_nil_iff.2 fun event held => ?_
          obtain ⟨text, -, rfl⟩ := List.mem_map.1 held
          rfl
        unfold Utterance.events
        rw [closed_concat, chunks]
        rfl
      have both : closed (stream role (u :: utterances)) =
          closed (u.events role) ++ closed (stream role utterances) := List.filterMap_append
      rw [both, one, ih]
      rfl

/-- The closed bubbles of a role are those of what it said. -/
theorem bubbles_closed (role : String) (events : List TimelineEvent) :
    bubbles role (closed events) = closed (said role events) := by
  induction events with
  | nil => rfl
  | cons event events ih =>
      cases event with
      | transcriptChunk speaker text =>
          have skipped : closed (said role (.transcriptChunk speaker text :: events)) = closed (said role events) := by
            unfold said
            rw [List.filter_cons]
            split <;> rfl
          rw [skipped]
          exact ih
      | transcript speaker text =>
          have shown : closed (.transcript speaker text :: events) = .message speaker text true :: closed events := rfl
          rw [shown]
          unfold bubbles said at ih ⊢
          rw [List.filter_cons, List.filter_cons]
          show (if (speaker == role) = true then _ else _) = closed (if (speaker == role) = true then _ else _)
          split
          · rw [ih]
            rfl
          · exact ih

/-- The closed bubbles are those of the two roles. -/
theorem length_closed {events : List TimelineEvent}
    (roles : ∀ event ∈ events, event.role = "user" ∨ event.role = "assistant") :
    (closed events).length = (closed (said "user" events)).length + (closed (said "assistant" events)).length := by
  induction events with
  | nil => rfl
  | cons event events ih =>
      have rest := ih fun e held => roles e (List.mem_cons_of_mem event held)
      have split : (closed (event :: events)).length = (closed [event]).length + (closed events).length := by
        rw [← List.length_append]
        exact congrArg List.length (List.filterMap_append (l := [event]))
      have one (role : String) : (closed (said role (event :: events))).length =
          (if event.role == role then (closed [event]).length else 0) + (closed (said role events)).length := by
        unfold said
        rw [List.filter_cons]
        split
        · rw [← List.length_append]
          exact congrArg List.length (List.filterMap_append (l := [event]))
        · rw [Nat.zero_add]
      rw [split, rest, one, one]
      rcases roles event List.mem_cons_self with isUser | isAssistant
      · rw [isUser]
        simp
        omega
      · rw [isAssistant]
        simp
        omega

end Streams

/-! ## Both directions -/

section Timeline

variable {user assistant : List Utterance} {events : List TimelineEvent}

/-- Each event is one of the stream of its role. -/
theorem Interleaves.mem_stream (interleaves : Interleaves user assistant events) {event : TimelineEvent}
    (held : event ∈ events) : event ∈ stream "user" user ∨ event ∈ stream "assistant" assistant := by
  rcases interleaves.roles event held with isUser | isAssistant
  · left
    rw [← interleaves.ofUser]
    exact List.mem_filter.2 ⟨held, beq_iff_eq.2 isUser⟩
  · right
    rw [← interleaves.ofAssistant]
    exact List.mem_filter.2 ⟨held, beq_iff_eq.2 isAssistant⟩

/-- The chunks that are interleaved have texts. -/
theorem Interleaves.nonempty (interleaves : Interleaves user assistant events) :
    ∀ event ∈ events, event.isChunk = true → event.text ≠ "" := by
  intro event held chunk
  rcases interleaves.mem_stream held with ofUser | ofAssistant
  · exact nonempty_of_mem_stream ofUser chunk
  · exact nonempty_of_mem_stream ofAssistant chunk

/-- The events do not end with a chunk. -/
theorem Interleaves.getLast_ne_chunk (interleaves : Interleaves user assistant events) {role text : String}
    (isLast : events.getLast? = some (.transcriptChunk role text)) : False := by
  obtain ⟨before, rfl⟩ := List.getLast?_eq_some_iff.1 isLast
  have saidLast (speaker : String) (same : role = speaker) :
      said speaker (before ++ [.transcriptChunk role text]) = said speaker before ++ [.transcriptChunk role text] := by
    unfold said
    rw [List.filter_append]
    refine congrArg (_ ++ ·) (List.filter_cons_of_pos ?_)
    exact beq_iff_eq.2 same
  rcases interleaves.roles _ (List.mem_append_right before (List.mem_singleton_self _)) with isUser | isAssistant
  · have ends := interleaves.ofUser
    rw [saidLast "user" isUser] at ends
    obtain rfl : role = "user" := isUser
    exact stream_ne_concat _ text ends.symm
  · have ends := interleaves.ofAssistant
    rw [saidLast "assistant" isAssistant] at ends
    obtain rfl : role = "assistant" := isAssistant
    exact stream_ne_concat _ text ends.symm

/-- **Unbroken utterances are shown once.** -/
theorem showsOnce_of_unbroken (interleaves : Interleaves user assistant events) (unbroken : Unbroken events) :
    ShowsOnce user assistant (events.foldl applyTimelineEvent []) := by
  have ends := ends_of_unbroken unbroken interleaves.nonempty
  have timeline : events.foldl applyTimelineEvent [] = closed events := by
    unfold Ends at ends
    cases isLast : events.getLast? with
    | none =>
        rw [isLast] at ends
        exact ends
    | some last =>
        rw [isLast] at ends
        cases last with
        | transcript role text => exact ends
        | transcriptChunk role text => exact (interleaves.getLast_ne_chunk isLast).elim
  rw [timeline]
  refine ⟨?_, ?_, ?_⟩
  · rw [length_closed interleaves.roles, interleaves.ofUser, interleaves.ofAssistant, closed_stream, closed_stream,
      List.length_map, List.length_map]
  · rw [bubbles_closed, interleaves.ofUser, closed_stream]
  · rw [bubbles_closed, interleaves.ofAssistant, closed_stream]

/-- **A bubble that another one is put behind** stays open. -/
theorem open_of_broken {before after : List TimelineEvent} {role text : String} {next : TimelineEvent}
    (nonempty : ∀ event ∈ before ++ .transcriptChunk role text :: next :: after, event.isChunk = true → event.text ≠ "")
    (other : next.role ≠ role) :
    ∃ gathered, TimelineEntry.message role gathered false ∈
      (before ++ .transcriptChunk role text :: next :: after).foldl applyTimelineEvent [] := by
  have full := nonempty (.transcriptChunk role text) (List.mem_append_right _ List.mem_cons_self) rfl
  have fullNext := nonempty next (List.mem_append_right _ (List.mem_cons_of_mem _ List.mem_cons_self))
  rw [List.foldl_append, List.foldl_cons, List.foldl_cons]
  generalize before.foldl applyTimelineEvent [] = prev
  obtain ⟨front, gathered, opened⟩ := applyChunk_opens full prev role
  have blocked : ∀ last ∈ (front ++ [TimelineEntry.message role gathered false]).getLast?,
      isOpenBubble last next.role = false := by
    intro last isLast
    rw [List.getLast?_concat] at isLast
    obtain rfl := Option.some.inj isLast
    unfold isOpenBubble
    dsimp only
    rw [beq_false_of_ne (Ne.symm other)]
    rfl
  -- The next event puts an entry behind the open bubble, and nothing looks at the bubble any more.
  have behind : ∃ entry, applyTimelineEvent (applyTimelineEvent prev (.transcriptChunk role text)) next =
      (front ++ [.message role gathered false]) ++ [entry] := by
    rw [show applyTimelineEvent prev (.transcriptChunk role text) = _ from opened]
    cases next with
    | transcriptChunk speaker said => exact ⟨_, applyChunk_append (fullNext rfl) blocked⟩
    | transcript speaker said => exact ⟨_, applyTranscript_append blocked⟩
  obtain ⟨entry, appended⟩ := behind
  rw [appended]
  obtain ⟨rest, ends⟩ := foldl_front after (front ++ [.message role gathered false]) [entry] (List.cons_ne_nil _ _)
  rw [ends]
  exact ⟨gathered, List.mem_append_left _ (List.mem_append_right _ (List.mem_singleton_self _))⟩

/-- The bubbles of a role are closed when its utterances are shown. -/
theorem closed_of_shown {role gathered : String} {timeline : List TimelineEntry} {utterances : List Utterance}
    (shown : bubbles role timeline = utterances.map (Utterance.bubble role)) :
    TimelineEntry.message role gathered false ∉ timeline := by
  intro held
  have isBubble : TimelineEntry.message role gathered false ∈ bubbles role timeline :=
    List.mem_filter.2 ⟨held, beq_self_eq_true role⟩
  rw [shown] at isBubble
  obtain ⟨u, -, same⟩ := List.mem_map.1 isBubble
  cases same

/-- **Each utterance is shown once** if and only if no event of the other role comes between its events. -/
theorem shown_once_iff (interleaves : Interleaves user assistant events) :
    ShowsOnce user assistant (events.foldl applyTimelineEvent []) ↔ Unbroken events := by
  refine ⟨fun shows => ?_, showsOnce_of_unbroken interleaves⟩
  refine List.isChain_iff_forall_rel_of_append_cons_cons.2 ?_
  intro event next before after split chunk
  by_contra other
  cases event with
  | transcript => cases chunk
  | transcriptChunk role text =>
      subst split
      obtain ⟨gathered, stays⟩ := open_of_broken interleaves.nonempty other
      have held := List.mem_append_right before (List.mem_cons_self (a := TimelineEvent.transcriptChunk role text)
        (l := next :: after))
      rcases interleaves.roles _ held with isUser | isAssistant
      · obtain rfl : role = "user" := isUser
        exact closed_of_shown shows.ofUser stays
      · obtain rfl : role = "assistant" := isAssistant
        exact closed_of_shown shows.ofAssistant stays

end Timeline

/-- The user says hello in two chunks. -/
def hello : Utterance := ⟨["Hel", "lo"], "Hello", by decide⟩

/-- The assistant welcomes the user. -/
def welcome : Utterance := ⟨["Welcome"], "Welcome!", by decide⟩

/-- One after the other. -/
def inTurn : List TimelineEvent :=
  [.transcriptChunk "user" "Hel", .transcriptChunk "user" "lo", .transcript "user" "Hello",
    .transcriptChunk "assistant" "Welcome", .transcript "assistant" "Welcome!"]

/-- The user speaks while the assistant does. -/
def atOnce : List TimelineEvent :=
  [.transcriptChunk "user" "Hel", .transcriptChunk "assistant" "Welcome", .transcriptChunk "user" "lo",
    .transcript "user" "Hello", .transcript "assistant" "Welcome!"]

/-- One utterance of each side, the chunks of both interleaved. -/
theorem shown_once_inTurn : ShowsOnce [hello] [welcome] (inTurn.foldl applyTimelineEvent []) :=
  (shown_once_iff ⟨by decide, by decide, by decide⟩).2 (by unfold Unbroken; decide)

/-- **A barge-in**: two utterances become four bubbles, of which two stay open. -/
theorem shown_in_pieces :
    Interleaves [hello] [welcome] atOnce ∧
      atOnce.foldl applyTimelineEvent [] =
        [.message "user" "Hel" false, .message "assistant" "Welcome" false, .message "user" "Hello" true,
          .message "assistant" "Welcome!" true] ∧
      ¬ ShowsOnce [hello] [welcome] (atOnce.foldl applyTimelineEvent []) := by
  refine ⟨⟨by decide, by decide, by decide⟩, by decide, ?_⟩
  intro shows
  exact absurd shows.nothingElse (by decide)

end CallTimeline

end Feros
