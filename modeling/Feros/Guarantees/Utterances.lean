import Feros.Inference.SttServer
import Feros.Guarantees.SttAnswers
/-! # From the microphone to the transcript

Through the builtin provider and its server: however the two tasks of the client and the server take turns,
the audio that was fed is cut into consecutive pieces, none of it lost, doubled or reordered; the server
answers with the text of one piece after the other, once for each `finalize`; and the client reports the
texts that are not blank, in their order. -/

namespace Feros

namespace BuiltinLink

open Run SttAnswers

variable {α : Type} [Zero α] {service : SttService α} {l : BuiltinLink}

/-- The audio of messages. -/
def audioOf (messages : List SttMessage) : Bytes :=
  messages.flatMap fun
    | .audio pcm => pcm
    | _ => []

/-- How many messages ask for a transcript. -/
def finalizes (messages : List SttMessage) : ℕ := messages.count .finalize

/-- What is in the pipe to the server. -/
def inFlight (l : BuiltinLink) : List SttMessage := l.client.wire.drop l.received

/-- The audio that was fed. -/
def fed (actions : List LinkAction) : Bytes :=
  actions.flatMap fun
    | .feedAudio audio => audio
    | _ => []

/-- How often a transcript was asked for. -/
def asked (actions : List LinkAction) : ℕ := actions.count .finalize

/-- The audio of two lists of messages is that of the first and of the second. -/
@[simp] theorem audioOf_append (first second : List SttMessage) :
    audioOf (first ++ second) = audioOf first ++ audioOf second := List.flatMap_append

/-- The finalize messages of two lists are counted together. -/
@[simp] theorem finalizes_append (first second : List SttMessage) :
    finalizes (first ++ second) = finalizes first + finalizes second := List.count_append

/-- A control message of the builtin provider. -/
inductive IsControl : SttMessage → Prop where
  | finalize : IsControl .finalize
  | close : IsControl .close

/-- A control message holds no audio. -/
theorem IsControl.audioOf {message : SttMessage} (control : IsControl message) : audioOf [message] = [] := by
  cases control with
  | finalize | close => rfl

/-- **What is conserved** on the way from the reactor to the server and back. -/
structure Conserved (service : SttService α) (audio : Bytes) (calls : ℕ) (l : BuiltinLink) : Prop where
  pieces : ∃ pieces : List Bytes,
    pieces.flatten ++ l.server.session.audioBuffer ++ audioOf l.inFlight ++ l.client.audioRx.flatten = audio ∧
      List.Forall₂ (fun piece result => service.textOf piece = .ok result.text) pieces l.server.sent
  final : ∀ result ∈ l.server.sent, result.isFinal = true
  answers : l.server.running = true →
    l.server.sent.length + finalizes l.inFlight + finalizes l.client.controlRx = calls
  texts : texts l.client.results = (l.server.sent.take l.read).flatMap fun result => spoken result.text
  received : l.received ≤ l.client.wire.length
  read : l.read ≤ l.server.sent.length
  /-- The pipe carries audio, the requests for a transcript and the end of the session, and nothing else. -/
  control : ∀ message ∈ l.client.controlRx, IsControl message
  wire : ∀ message ∈ l.client.wire, IsControl message ∨ ∃ pcm, message = .audio pcm

/-- A link that was just opened has lost nothing. -/
theorem conserved_opened : Conserved service [] 0 opened where
  pieces := ⟨[], rfl, .nil⟩
  final := nofun
  answers _ := rfl
  texts := rfl
  received := Nat.le_refl 0
  read := Nat.le_refl 0
  control := nofun
  wire := nofun

variable {audio : Bytes} {calls : ℕ}

/-- The client takes a message to the pipe. -/
theorem inFlight_write (received : l.received ≤ l.client.wire.length) (message : SttMessage) :
    (l.client.wire ++ [message]).drop l.received = l.inFlight ++ [message] :=
  List.drop_append_of_le_length received

/-- Audio that is fed is queued. -/
theorem Conserved.feedAudio (conserved : Conserved service audio calls l) (pcm : Bytes) :
    Conserved service (audio ++ pcm) calls (l.step service (.feedAudio pcm)) := by
  obtain ⟨pieces, order, answered⟩ := conserved.pieces
  refine { conserved with pieces := ⟨pieces, ?_, answered⟩ }
  change pieces.flatten ++ l.server.session.audioBuffer ++ audioOf l.inFlight ++
    (l.client.audioRx ++ [pcm]).flatten = _
  rw [List.flatten_append, List.flatten_singleton, ← List.append_assoc, order]

/-- A finalize that is asked for is queued. -/
theorem Conserved.finalize (conserved : Conserved service audio calls l) :
    Conserved service audio (calls + 1) (l.step service .finalize) := by
  refine { conserved with answers := fun running => ?_, control := fun message held => ?_ }
  · have sum := conserved.answers running
    change l.server.sent.length + finalizes l.inFlight + finalizes (l.client.controlRx ++ [.finalize]) = _
    rw [finalizes_append, show finalizes [.finalize] = 1 from rfl]
    omega
  · rcases List.mem_append.1 held with before | last
    · exact conserved.control message before
    · rw [List.mem_singleton.1 last]
      exact .finalize

/-- A link that closes keeps what it has. -/
theorem Conserved.close (conserved : Conserved service audio calls l) :
    Conserved service audio calls (l.step service .close) := by
  refine { conserved with answers := fun running => ?_, control := fun message held => ?_ }
  · have sum := conserved.answers running
    change l.server.sent.length + finalizes l.inFlight + finalizes (l.client.controlRx ++ [.close]) = _
    rw [finalizes_append, show finalizes [.close] = 0 from rfl]
    exact sum
  · rcases List.mem_append.1 held with before | last
    · exact conserved.control message before
    · rw [List.mem_singleton.1 last]
      exact .close

/-- Audio that is written is with the service. -/
theorem Conserved.writeAudio (conserved : Conserved service audio calls l) :
    Conserved service audio calls (l.step service .writeAudio) := by
  change Conserved service audio calls { l with client := l.client.writeAudio }
  unfold BuiltinSttProvider.writeAudio
  rcases queued : l.client.audioRx with - | ⟨pcm, rest⟩
  · exact conserved
  · dsimp only
    have pipe := inFlight_write conserved.received (.audio pcm)
    obtain ⟨pieces, order, answered⟩ := conserved.pieces
    refine { conserved with
      pieces := ⟨pieces, ?_, answered⟩, answers := fun running => ?_, received := ?_, wire := ?_ }
    · change pieces.flatten ++ l.server.session.audioBuffer ++
        audioOf ((l.client.wire ++ [SttMessage.audio pcm]).drop l.received) ++ rest.flatten = _
      rw [← order, pipe, audioOf_append, queued, List.flatten_cons]
      simp only [List.append_assoc]
      simp [audioOf]
    · have sum := conserved.answers running
      change l.server.sent.length + finalizes ((l.client.wire ++ [SttMessage.audio pcm]).drop l.received) +
        finalizes l.client.controlRx = _
      rw [pipe, finalizes_append, show finalizes [.audio pcm] = 0 from rfl]
      exact sum
    · dsimp only
      rw [List.length_append]
      exact Nat.le_add_right_of_le conserved.received
    · intro message held
      rcases List.mem_append.1 held with before | last
      · exact conserved.wire message before
      · exact .inr ⟨pcm, List.mem_singleton.1 last⟩

/-- A control message that is written is with the service. -/
theorem Conserved.writeControl (conserved : Conserved service audio calls l) :
    Conserved service audio calls (l.step service .writeControl) := by
  change Conserved service audio calls { l with client := l.client.writeControl }
  unfold BuiltinSttProvider.writeControl
  rcases queued : l.client.controlRx with - | ⟨message, rest⟩
  · exact conserved
  · dsimp only
    have isControl := conserved.control message (by rw [queued]; exact List.mem_cons_self)
    have pipe := inFlight_write conserved.received message
    obtain ⟨pieces, order, answered⟩ := conserved.pieces
    refine { conserved with
      pieces := ⟨pieces, ?_, answered⟩
      answers := fun running => ?_
      received := ?_
      control := fun other held => conserved.control other (by rw [queued]; exact List.mem_cons_of_mem _ held)
      wire := ?_ }
    · change pieces.flatten ++ l.server.session.audioBuffer ++
        audioOf ((l.client.wire ++ [message]).drop l.received) ++ l.client.audioRx.flatten = _
      rw [← order, pipe, audioOf_append, isControl.audioOf, List.append_nil]
    · have sum := conserved.answers running
      change l.server.sent.length + finalizes ((l.client.wire ++ [message]).drop l.received) +
        finalizes rest = _
      rw [queued, ← List.singleton_append, finalizes_append] at sum
      rw [pipe, finalizes_append]
      omega
    · dsimp only
      rw [List.length_append]
      exact Nat.le_add_right_of_le conserved.received
    · intro other held
      rcases List.mem_append.1 held with before | last
      · exact conserved.wire other before
      · rw [List.mem_singleton.1 last]
        exact .inl isControl

/-- A result that is read was the service's. -/
theorem Conserved.readResult (conserved : Conserved service audio calls l) :
    Conserved service audio calls (l.step service .readResult) := by
  unfold step
  dsimp only
  rcases next : l.server.sent[l.read]? with - | result
  · exact conserved
  · have held : result ∈ l.server.sent := List.mem_of_getElem? next
    have same : (l.client.read (.ok (some result))).audioRx = l.client.audioRx ∧
        (l.client.read (.ok (some result))).controlRx = l.client.controlRx ∧
        (l.client.read (.ok (some result))).wire = l.client.wire := ⟨rfl, rfl, rfl⟩
    have more := (List.getElem?_eq_some_iff.1 next).1
    refine { conserved with texts := ?_, read := more }
    change SttAnswers.texts (l.client.read (.ok (some result))).results =
      (l.server.sent.take (l.read + 1)).flatMap _
    rw [texts_read_builtin, conserved.final result held, if_pos rfl, conserved.texts, List.take_add_one, next]
    simp

/-- The server gets audio. -/
theorem receive_audio (service : SttService α) {c : SttConnection} (running : c.running = true) (pcm : Bytes) :
    c.receive service (.binary pcm) = { c with session := ⟨c.session.audioBuffer ++ pcm⟩ } := by
  unfold SttConnection.receive
  rw [if_neg (by simp [running])]
  dsimp only
  split
  · next empty => rw [List.isEmpty_iff.1 empty, List.append_nil]
  · rfl

/-- The server is asked for a transcript. -/
theorem receive_finalize (service : SttService α) {c : SttConnection} (running : c.running = true) :
    (∃ text, service.textOf c.session.audioBuffer = .ok text ∧
      c.receive service (.text (.ok (some .finalize))) =
        { c with session := ⟨[]⟩, sent := c.sent ++ [⟨true, text⟩] }) ∨
    c.receive service (.text (.ok (some .finalize))) = { c with running := false } := by
  unfold SttConnection.receive
  rw [if_neg (by simp [running])]
  dsimp only
  unfold StreamingSession.finalize
  rcases transcribed : service.textOf c.session.audioBuffer with error | text
  · exact .inr rfl
  · exact .inl ⟨text, rfl, rfl⟩

/-- **A message that the server serves is kept or answered.** -/
theorem Conserved.serve (conserved : Conserved service audio calls l) :
    Conserved service audio calls (l.step service .serve) := by
  unfold step
  dsimp only
  cases running : l.server.running with
  | false => exact conserved
  | true =>
    rw [if_pos rfl]
    rcases next : l.client.wire[l.received]? with - | message
    -- The pipe is empty.
    · exact conserved
    · dsimp only
      obtain ⟨inside, at_⟩ := List.getElem?_eq_some_iff.1 next
      have pipe : l.inFlight = message :: l.client.wire.drop (l.received + 1) := by
        rw [inFlight, List.drop_eq_getElem_cons inside, at_]
      obtain ⟨pieces, order, answered⟩ := conserved.pieces
      have sum := conserved.answers running
      rw [pipe] at order sum
      rcases conserved.wire message (List.mem_of_getElem? next) with control | ⟨pcm, rfl⟩
      · cases control with
        | finalize =>
            -- The buffer becomes the next piece, and its text is answered.
            rcases receive_finalize service running with ⟨text, transcribed, answers⟩ | fails
            · change Conserved service audio calls
                { l with server := l.server.receive service (.text (.ok (some .finalize))), received := l.received + 1 }
              rw [answers]
              have kept : (l.server.sent ++ [(⟨true, text⟩ : TranscriptResult)]).take l.read =
                  l.server.sent.take l.read := List.take_append_of_le_length conserved.read
              refine ⟨⟨pieces ++ [l.server.session.audioBuffer], ?_, ?_⟩, ?_, fun _ => ?_, ?_, inside, ?_,
                conserved.control, conserved.wire⟩
              · rw [← order]
                simp [audioOf, inFlight]
              · exact List.rel_append answered (.cons transcribed .nil)
              · intro result held
                rcases List.mem_append.1 held with before | last
                · exact conserved.final result before
                · rw [List.mem_singleton.1 last]
              · rw [← sum]
                simp only [finalizes, inFlight, List.length_append, List.length_singleton, List.count_cons_self]
                omega
              · exact conserved.texts.trans (congrArg _ kept).symm
              · exact conserved.read.trans (by simp)
            · change Conserved service audio calls
                { l with server := l.server.receive service (.text (.ok (some .finalize))), received := l.received + 1 }
              -- A transcription that fails ends the connection: there is no answer left to count.
              rw [fails]
              refine ⟨⟨pieces, ?_, answered⟩, conserved.final, nofun, conserved.texts, inside, conserved.read,
                conserved.control, conserved.wire⟩
              rw [← order]
              simp [audioOf, inFlight]
        | close =>
            -- So does a close.
            have ends : l.server.receive service (.text (.ok (some .close))) = { l.server with running := false } := by
              unfold SttConnection.receive
              rw [if_neg (by simp [running])]
            change Conserved service audio calls
              { l with server := l.server.receive service (.text (.ok (some .close))), received := l.received + 1 }
            rw [ends]
            refine ⟨⟨pieces, ?_, answered⟩, conserved.final, nofun, conserved.texts, inside, conserved.read,
              conserved.control, conserved.wire⟩
            rw [← order]
            simp [audioOf, inFlight]
      -- Audio goes from the pipe to the buffer.
      · change Conserved service audio calls
          { l with server := l.server.receive service (.binary pcm), received := l.received + 1 }
        rw [receive_audio service running]
        refine ⟨⟨pieces, ?_, answered⟩, conserved.final, fun _ => sum, conserved.texts, inside, conserved.read,
          conserved.control, conserved.wire⟩
        rw [← order]
        simp [audioOf, inFlight]

/-- **One step loses nothing**, neither audio nor an utterance. -/
theorem conserved_step (l : BuiltinLink) (action : LinkAction) (conserved : Conserved service audio calls l) :
    Conserved service (audio ++ fed [action]) (calls + asked [action]) (l.step service action) := by
  cases action with
  | feedAudio pcm =>
    rw [show fed [.feedAudio pcm] = pcm from List.append_nil pcm]
    exact conserved.feedAudio pcm
  | finalize =>
    rw [show fed [.finalize] = [] from rfl, List.append_nil]
    exact conserved.finalize
  | close =>
    rw [show fed [.close] = [] from rfl, List.append_nil]
    exact conserved.close
  | writeAudio =>
    rw [show fed [.writeAudio] = [] from rfl, List.append_nil]
    exact conserved.writeAudio
  | writeControl =>
    rw [show fed [.writeControl] = [] from rfl, List.append_nil]
    exact conserved.writeControl
  | serve =>
    rw [show fed [.serve] = [] from rfl, List.append_nil]
    exact conserved.serve
  | readResult =>
    rw [show fed [.readResult] = [] from rfl, List.append_nil]
    exact conserved.readResult

/-- A run of the link loses nothing. -/
theorem conserved_run (actions : List LinkAction) (conserved : Conserved service audio calls l) :
    Conserved service (audio ++ fed actions) (calls + asked actions) (run (step service) l actions) := by
  induction actions generalizing l audio calls with
  | nil =>
      rw [show fed [] = [] from rfl, List.append_nil]
      exact conserved
  | cons action actions ih =>
      have rest := ih (conserved_step l action conserved)
      have counted : asked (action :: actions) = asked [action] + asked actions := by
        rw [asked, ← List.singleton_append, List.count_append]
        rfl
      have whole : fed (action :: actions) = fed [action] ++ fed actions := by
        rw [fed, ← List.singleton_append, List.flatMap_append]
        rfl
      rw [List.append_assoc, ← whole, Nat.add_assoc, ← counted] at rest
      exact rest

/-- **Every utterance is transcribed once, and whole.** -/
theorem utterances_kept (service : SttService α) (actions : List LinkAction) :
    let l := run (step service) opened actions
    (∃ pieces : List Bytes,
      pieces.flatten ++ l.server.session.audioBuffer ++ audioOf l.inFlight ++ l.client.audioRx.flatten = fed actions ∧
        List.Forall₂ (fun piece result => service.textOf piece = .ok result.text) pieces l.server.sent) ∧
      (l.server.running = true →
        l.server.sent.length + finalizes l.inFlight + finalizes l.client.controlRx = asked actions) ∧
      texts l.client.results = (l.server.sent.take l.read).flatMap fun result => spoken result.text := by
  intro l
  have none_ : Conserved service [] 0 opened := conserved_opened
  have conserved := conserved_run actions none_
  rw [List.nil_append, Nat.zero_add] at conserved
  exact ⟨conserved.pieces, conserved.answers, conserved.texts⟩

end BuiltinLink

end Feros
