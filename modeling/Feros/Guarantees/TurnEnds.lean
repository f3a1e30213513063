import Feros.Providers.StreamingTts
import Feros.Guarantees.TtsBatches
import Feros.Library.Run
/-! # The end of a streaming turn

The stage ends a turn itself if it has sent no text; otherwise it waits for the last message of the service,
which comes if the provider has put text and a flush into the channel of its connection.  That the two agree
is a matter of the voice and of the connection at the moment of the flush. -/

namespace Feros

open TtsBatching

namespace ManagedLoop

variable {μ : Type*}

/-- What a message adds to the channel. -/
theorem msgRx_send (config : WsConfig μ) (s : ManagedLoop μ) (message : μ) :
    (s.step config (.send message)).msgRx = s.msgRx ++ s.taken (.send message) ∧
      (s.step config (.send message)).accepts = s.accepts := by
  simp only [step, taken]
  split
  · exact ⟨rfl, rfl⟩
  · exact ⟨(List.append_nil _).symm, rfl⟩

/-- **A channel that takes messages took them before.** -/
theorem accepts_of_step {config : WsConfig μ} {s : ManagedLoop μ} {input : LoopInput μ}
    (later : (s.step config input).accepts = true) : s.accepts = true := by
  have unended {s : ManagedLoop μ} (phase : s.place.phase ≠ .ended) : s.place.isEnded = false := by
    cases place : s.place with
    | ended =>
        rw [place] at phase
        exact absurd rfl phase
    | select | writing frame | delivering message | sleeping number | connecting number => rfl
  have ended {s : ManagedLoop μ} : s.place.isEnded = decide (s.place.phase = .ended) := by
    cases s.place <;> rfl
  unfold accepts at later ⊢
  rw [Bool.not_eq_true', Bool.or_eq_false_iff] at later ⊢
  obtain ⟨sender, running⟩ := later
  cases step_cases config s input with
  | quiet same =>
      rw [same.senderDropped, Bool.or_eq_false_iff] at sender
      rw [ended, same.phase, ← ended] at running
      exact ⟨sender.2, running⟩
  | lost reason ends result =>
      rw [result, (lost_spec config reason s).1.senderDropped] at sender
      exact ⟨sender, unended (by rw [ends.phase]; exact LoopPhase.noConfusion)⟩
  | retry number here nothing result =>
      rw [result, (attempt_spec config (number + 1) s).1.senderDropped] at sender
      exact ⟨sender, unended (by rw [here]; exact LoopPhase.noConfusion)⟩
  | anew number place connects result =>
      rw [result] at sender
      exact ⟨sender, unended (by rw [place]; exact LoopPhase.noConfusion)⟩

end ManagedLoop

/-! ## What the calls put into the channel -/

namespace StreamingTtsProvider

variable (isUuid : String → Bool)

/-- **The provider sends what it is given**: Cartesia needs a voice that is a UUID. -/
def speaks : StreamingTtsProvider → Bool
  | cartesia p => !(p.voiceId.isEmpty || p.voiceId == "default" || !isUuid p.voiceId)
  | deepgram _ | elevenLabs _ => true

/-- The context of the call that is under way. -/
def pending : StreamingTtsProvider → Option String
  | elevenLabs p =>
    match p.call with
    | .idle => none
    | .checked _ contextId | .opened _ contextId => some contextId
  | cartesia _ | deepgram _ => none

/-- A provider that is not busy has nothing pending. -/
theorem pending_of_not_busy {p : StreamingTtsProvider} (idle : p.busy = false) : p.pending = none := by
  cases p with
  | cartesia | deepgram => rfl
  | elevenLabs p =>
      cases call : p.call with
      | idle => simp only [pending, call]
      | checked | opened => simp [busy, call] at idle

end StreamingTtsProvider

namespace TtsTurn

open StreamingTtsProvider

variable {isUuid : String → Bool}

/-- **What a call puts into the channel**: only the messages of its command, and these if the provider speaks
and the channel takes them. -/
structure Puts (isUuid : String → Bool) (cmd : WsCmd) (p q : StreamingTtsProvider) : Prop where
  accepts : q.accepts = p.accepts
  speaks : q.speaks isUuid = p.speaks isUuid
  spoken : ∀ contextId, ∀ message ∈ put p q,
    message.isTextOf contextId = true ∨ message.isFlushOf contextId = true → p.speaks isUuid = true
  flush : ∀ contextId, ∀ message ∈ put p q, message.isFlushOf contextId = true → cmd = .flush contextId
  sendsText : ∀ text contextId, cmd = .sendText text contextId → p.speaks isUuid = true → p.accepts = true →
    (∃ message ∈ put p q, message.isTextOf contextId = true) ∨ q.pending = some contextId
  sendsFlush : ∀ contextId, cmd = .flush contextId → p.speaks isUuid = true → p.accepts = true →
    ∃ message ∈ put p q, message.isFlushOf contextId = true
  closed : p.accepts = false → put p q = []

/-- A call that sends one message. -/
theorem puts_one {cmd : WsCmd} {p q : StreamingTtsProvider} (message : TtsMessage)
    (one : put p q = if p.accepts then [message] else []) (accepts : q.accepts = p.accepts)
    (speaks : q.speaks isUuid = p.speaks isUuid)
    (spoken : ∀ contextId, message.isTextOf contextId = true ∨ message.isFlushOf contextId = true →
      p.speaks isUuid = true)
    (flush : ∀ contextId, message.isFlushOf contextId = true → cmd = .flush contextId)
    (sendsText : ∀ text contextId, cmd = .sendText text contextId → message.isTextOf contextId = true)
    (sendsFlush : ∀ contextId, cmd = .flush contextId → message.isFlushOf contextId = true) :
    Puts isUuid cmd p q := by
  have only (other : TtsMessage) (member : other ∈ put p q) : other = message := by
    rw [one] at member
    split at member
    · exact List.mem_singleton.1 member
    · cases member
  have there (open' : p.accepts = true) : message ∈ put p q := by
    rw [one, if_pos open']
    exact .head _
  refine ⟨accepts, speaks, ?_, ?_, ?_, ?_, ?_⟩
  · intro contextId other member
    rw [only other member]
    exact spoken contextId
  · intro contextId other member
    rw [only other member]
    exact flush contextId
  · intro words contextId is _ open'
    exact .inl ⟨message, there open', sendsText words contextId is⟩
  · intro contextId is _ open'
    exact ⟨message, there open', sendsFlush contextId is⟩
  · intro shut
    rw [one, shut]
    rfl

/-- A call that sends nothing. -/
theorem puts_none {cmd : WsCmd} {p q : StreamingTtsProvider} (none : put p q = []) (accepts : q.accepts = p.accepts)
    (speaks : q.speaks isUuid = p.speaks isUuid)
    (sendsText : ∀ text contextId, cmd = .sendText text contextId → p.speaks isUuid = true →
      q.pending = some contextId)
    (sendsFlush : ∀ contextId, cmd = .flush contextId → p.speaks isUuid = false) : Puts isUuid cmd p q := by
  have nothing (message : TtsMessage) : message ∉ put p q := by
    rw [none]
    exact List.not_mem_nil
  refine ⟨accepts, speaks, ?_, ?_, ?_, ?_, fun _ => none⟩
  · intro _ message member
    exact absurd member (nothing message)
  · intro _ message member
    exact absurd member (nothing message)
  · intro text contextId is loud _
    exact .inr (sendsText text contextId is loud)
  · intro contextId is loud
    rw [sendsFlush contextId is] at loud
    cases loud

/-- A message is taken if the connection still accepts any. -/
theorem map_taken {μ : Type*} (s : ManagedLoop μ) (message : μ) (f : μ → TtsMessage) :
    (s.taken (.send message)).map f = if s.accepts then [f message] else [] := by
  simp only [ManagedLoop.taken]
  split <;> rfl

/-- What Cartesia puts into the channel. -/
theorem put_cartesia (p : CartesiaWsTtsProvider) (message : CartesiaMessage) :
    put (cartesia p) (cartesia (p.send message)) =
      (if (cartesia p).accepts then [.cartesia message] else []) ∧
      (cartesia (p.send message)).accepts = (cartesia p).accepts := by
  obtain ⟨msgRx, accepts⟩ := p.conn.msgRx_send CartesiaWsTtsProvider.config message
  refine ⟨?_, accepts⟩
  simp only [put, StreamingTtsProvider.msgRx, CartesiaWsTtsProvider.send, msgRx, List.map_append, List.drop_left,
    map_taken]
  rfl

/-- What Deepgram puts into the channel. -/
theorem put_deepgram (p : DeepgramTtsSession) (f : DeepgramWsTtsProvider → DeepgramWsTtsProvider)
    (message : DeepgramTtsMessage × String) (one : (f {}).conn.outgoing = [message]) :
    put (deepgram p) (deepgram (p.call f)) =
      (if (deepgram p).accepts then [.deepgram message] else []) ∧
      (deepgram (p.call f)).accepts = (deepgram p).accepts := by
  obtain ⟨msgRx, accepts⟩ := p.conn.msgRx_send DeepgramTtsSession.config message
  have conn : (p.call f).conn = p.conn.step DeepgramTtsSession.config (.send message) := by
    simp only [DeepgramTtsSession.call, one, List.foldl_cons, List.foldl_nil]
  refine ⟨?_, ?_⟩
  · simp only [put, StreamingTtsProvider.msgRx, conn, msgRx, List.map_append, List.drop_left, map_taken]
    rfl
  · rw [StreamingTtsProvider.accepts, conn, accepts]
    rfl

/-- What ElevenLabs puts into the channel. -/
theorem put_elevenLabs {p q : ElevenLabsWsTtsProvider} (message : ElevenLabsMessage)
    (conn : q.conn = p.conn.step ElevenLabsWsTtsProvider.config (.send message)) :
    put (elevenLabs p) (elevenLabs q) =
      (if (elevenLabs p).accepts then [.elevenLabs message] else []) ∧
      (elevenLabs q).accepts = (elevenLabs p).accepts := by
  obtain ⟨msgRx, accepts⟩ := p.conn.msgRx_send ElevenLabsWsTtsProvider.config message
  refine ⟨?_, ?_⟩
  · simp only [put, StreamingTtsProvider.msgRx, conn, msgRx, List.map_append, List.drop_left, map_taken]
    rfl
  · rw [StreamingTtsProvider.accepts, conn, accepts]
    rfl

/-- A provider that sends nothing puts nothing into the channel. -/
theorem put_same {p q : StreamingTtsProvider} (same : q.msgRx = p.msgRx) : put p q = [] := by
  rw [put, same, List.drop_length]

/-- **Cartesia** sends text and flush, or neither. -/
theorem puts_cartesia (cmd : WsCmd) (p : CartesiaWsTtsProvider) :
    Puts isUuid cmd (cartesia p) ((cartesia p).handle isUuid cmd) := by
  cases cmd with
  | sendText text contextId =>
      simp only [handle, CartesiaWsTtsProvider.sendText]
      cases silent : p.voiceId.isEmpty || p.voiceId == "default" with
      | true =>
          rw [if_pos rfl]
          refine puts_none (put_same rfl) rfl rfl (fun _ _ _ loud => ?_) (by rintro _ ⟨⟩)
          simp [speaks, silent] at loud
      | false =>
          rw [if_neg Bool.false_ne_true]
          cases uuid : isUuid p.voiceId with
          | false =>
              rw [Bool.not_false, if_pos rfl]
              refine puts_none (put_same rfl) rfl rfl (fun _ _ _ loud => ?_) (by rintro _ ⟨⟩)
              simp [speaks, uuid] at loud
          | true =>
              rw [Bool.not_true, if_neg Bool.false_ne_true]
              obtain ⟨one, accepts⟩ := put_cartesia p (.generation p.modelId text contextId p.voiceId p.language true)
              refine puts_one _ one accepts rfl (fun _ _ => ?_) ?_ ?_ (by rintro _ ⟨⟩)
              · simp [speaks, silent, uuid]
              · rintro _ ⟨⟩
              · rintro _ _ ⟨⟩
                simp [TtsMessage.isTextOf]
  | flush contextId =>
      simp only [handle, CartesiaWsTtsProvider.flush]
      cases silent : p.voiceId.isEmpty || p.voiceId == "default" || !isUuid p.voiceId with
      | true =>
          rw [if_pos rfl]
          refine puts_none (put_same rfl) rfl rfl (by rintro _ _ ⟨⟩) (fun _ _ => ?_)
          simp only [speaks, silent]
          rfl
      | false =>
          rw [if_neg Bool.false_ne_true]
          obtain ⟨one, accepts⟩ := put_cartesia p (.generation p.modelId "" contextId p.voiceId p.language false)
          refine puts_one _ one accepts rfl (fun _ _ => ?_) ?_ (by rintro _ _ ⟨⟩) ?_
          · simp only [speaks, silent]
            rfl
          · intro other is
            simp [TtsMessage.isFlushOf] at is
            rw [is]
          · rintro _ ⟨⟩
            simp [TtsMessage.isFlushOf]
  | cancel contextId =>
      obtain ⟨one, accepts⟩ := put_cartesia p (.cancel contextId)
      exact puts_one _ one accepts rfl (by rintro _ (⟨⟨⟩⟩ | ⟨⟨⟩⟩)) (by rintro _ ⟨⟩) (by rintro _ _ ⟨⟩)
        (by rintro _ ⟨⟩)

/-- **Deepgram** sends everything. -/
theorem puts_deepgram (cmd : WsCmd) (p : DeepgramTtsSession) :
    Puts isUuid cmd (deepgram p) ((deepgram p).handle isUuid cmd) := by
  cases cmd with
  | sendText text contextId =>
      obtain ⟨one, accepts⟩ := put_deepgram p (·.sendText text contextId) (.speak text, contextId) rfl
      refine puts_one _ one accepts rfl (fun _ _ => rfl) (by rintro _ ⟨⟩) ?_ (by rintro _ ⟨⟩)
      rintro _ _ ⟨⟩
      simp [TtsMessage.isTextOf]
  | flush contextId =>
      obtain ⟨one, accepts⟩ := put_deepgram p (·.flush contextId) (.flush, contextId) rfl
      refine puts_one _ one accepts rfl (fun _ _ => rfl) ?_ (by rintro _ _ ⟨⟩) ?_
      · intro other is
        simp [TtsMessage.isFlushOf] at is
        rw [is]
      · rintro _ ⟨⟩
        simp [TtsMessage.isFlushOf]
  | cancel contextId =>
      obtain ⟨one, accepts⟩ := put_deepgram p (·.cancel contextId) (.clear, contextId) rfl
      exact puts_one _ one accepts rfl (by rintro _ (⟨⟨⟩⟩ | ⟨⟨⟩⟩)) (by rintro _ ⟨⟩) (by rintro _ _ ⟨⟩)
        (by rintro _ ⟨⟩)

/-- **ElevenLabs** sends a flush at once, and begins a call for text. -/
theorem puts_elevenLabs (cmd : WsCmd) {p : ElevenLabsWsTtsProvider} (call : p.call = .idle) :
    Puts isUuid cmd (elevenLabs p) ((elevenLabs p).handle isUuid cmd) := by
  cases cmd with
  | sendText text contextId =>
      have conn : p.checkStatus.conn = p.conn := by
        unfold ElevenLabsWsTtsProvider.checkStatus
        split <;> rfl
      simp only [handle, ElevenLabsWsTtsProvider.step, call]
      refine puts_none (put_same ?_) ?_ rfl ?_ (by rintro _ ⟨⟩)
      · simp only [StreamingTtsProvider.msgRx, conn]
      · simp only [StreamingTtsProvider.accepts, conn]
      · rintro _ _ ⟨⟩ -
        rfl
  | flush contextId =>
      simp only [handle, ElevenLabsWsTtsProvider.step, call]
      obtain ⟨one, accepts⟩ := put_elevenLabs (p := p)
        (q := (p.forget contextId).send (.flush contextId)) (.flush contextId) rfl
      refine puts_one _ one accepts rfl (fun _ _ => rfl) ?_ (by rintro _ _ ⟨⟩) ?_
      · intro other is
        simp [TtsMessage.isFlushOf] at is
        rw [is]
      · rintro _ ⟨⟩
        simp [TtsMessage.isFlushOf]
  | cancel contextId =>
      simp only [handle, ElevenLabsWsTtsProvider.step, call]
      obtain ⟨one, accepts⟩ := put_elevenLabs (p := p)
        (q := (p.forget contextId).send (.cancel contextId)) (.cancel contextId) rfl
      exact puts_one _ one accepts rfl (by rintro _ (⟨⟨⟩⟩ | ⟨⟨⟩⟩)) (by rintro _ ⟨⟩) (by rintro _ _ ⟨⟩)
        (by rintro _ ⟨⟩)

/-- **A call of any provider.** -/
theorem puts_handle (isUuid : String → Bool) (cmd : WsCmd) {p : StreamingTtsProvider} (idle : p.busy = false) :
    Puts isUuid cmd p (p.handle isUuid cmd) := by
  cases p with
  | cartesia p => exact puts_cartesia cmd p
  | deepgram p => exact puts_deepgram cmd p
  | elevenLabs p =>
      apply puts_elevenLabs
      cases call : p.call with
      | idle => rfl
      | checked | opened => simp [busy, call] at idle

/-- A call goes on. -/
structure Proceeds (isUuid : String → Bool) (p q : StreamingTtsProvider) : Prop where
  accepts : q.accepts = p.accepts
  speaks : q.speaks isUuid = p.speaks isUuid
  loud : p.speaks isUuid = true
  flush : ∀ contextId, ∀ message ∈ put p q, message.isFlushOf contextId = false
  sends : ∀ contextId, p.pending = some contextId → p.accepts = true →
    (∃ message ∈ put p q, message.isTextOf contextId = true) ∨ q.pending = some contextId

/-- **A command is carried out** by one provider in one step, by another in two. -/
theorem proceeds (isUuid : String → Bool) {p : StreamingTtsProvider} (busy : p.busy = true) :
    Proceeds isUuid p p.proceed := by
  cases p with
  -- These two carry out a command in one step.
  | cartesia | deepgram => cases busy
  | elevenLabs p =>
      cases call : p.call with
      | idle => simp [StreamingTtsProvider.busy, call] at busy
      | checked text contextId =>
          simp only [proceed, ElevenLabsWsTtsProvider.step, call]
          by_cases opened : p.initializedContexts.contains contextId = true
          -- The context is open, so nothing is put into the channel.
          · have same : p.openContext contextId = p := if_pos opened
            rw [same]
            have nothing : put (elevenLabs p) (elevenLabs { p with call := .opened text contextId }) = [] :=
              put_same rfl
            refine ⟨rfl, rfl, rfl, ?_, ?_⟩
            · intro _ message member
              rw [nothing] at member
              cases member
            · intro other here _
              simp only [StreamingTtsProvider.pending, call] at here
              exact .inr here
          -- The context is opened first, the text is still to come.
          · obtain ⟨one, accepts⟩ := put_elevenLabs (p := p)
              (q := { p.openContext contextId with call := .opened text contextId }) (.init contextId) (by
                unfold ElevenLabsWsTtsProvider.openContext
                rw [if_neg opened]
                rfl)
            refine ⟨accepts, rfl, rfl, ?_, ?_⟩
            · intro _ message member
              rw [one] at member
              split at member
              · rw [List.mem_singleton.1 member]
                rfl
              · cases member
            · intro other here _
              simp only [StreamingTtsProvider.pending, call] at here
              exact .inr here
      | opened text contextId =>
          simp only [proceed, ElevenLabsWsTtsProvider.step, call]
          -- The text is put into the channel.
          obtain ⟨one, accepts⟩ := put_elevenLabs (p := p)
            (q := { p.send (.text text contextId) with call := .idle }) (.text text contextId) rfl
          refine ⟨accepts, rfl, rfl, ?_, ?_⟩
          · intro _ message member
            rw [one] at member
            split at member
            · rw [List.mem_singleton.1 member]
              rfl
            · cases member
          · intro other here open'
            simp only [StreamingTtsProvider.pending, call] at here
            injection here with here
            refine .inl ⟨.elevenLabs (.text text contextId), ?_, ?_⟩
            · rw [one, if_pos open']
              exact .head _
            · rw [here]
              exact beq_self_eq_true other

/-- The connection goes on. -/
theorem connection_spec (isUuid : String → Bool) (input : TtsConnectionInput) (p : StreamingTtsProvider) :
    (p.connection input).speaks isUuid = p.speaks isUuid ∧ (p.connection input).pending = p.pending ∧
      (p.connection input).busy = p.busy ∧ ((p.connection input).accepts = true → p.accepts = true) := by
  cases p with
  | cartesia p =>
      cases input with
      | cartesia input =>
          cases input with
          | send | dropSender => exact ⟨rfl, rfl, rfl, id⟩
          | dropReceiver | take | tick | read | written | delivered | slept | connect =>
              exact ⟨rfl, rfl, rfl, ManagedLoop.accepts_of_step⟩
      | deepgram | elevenLabs | isFinal => exact ⟨rfl, rfl, rfl, id⟩
  | deepgram p =>
      cases input with
      | deepgram input =>
          cases input with
          | send | dropSender => exact ⟨rfl, rfl, rfl, id⟩
          | dropReceiver | take | tick | read | written | delivered | slept | connect =>
              exact ⟨rfl, rfl, rfl, ManagedLoop.accepts_of_step⟩
      | cartesia | elevenLabs | isFinal => exact ⟨rfl, rfl, rfl, id⟩
  | elevenLabs p =>
      cases input with
      | elevenLabs input =>
          cases input with
          | send | dropSender => exact ⟨rfl, rfl, rfl, id⟩
          | dropReceiver | take | tick | read | written | delivered | slept | connect =>
              exact ⟨rfl, rfl, rfl, ManagedLoop.accepts_of_step⟩
      | isFinal contextId =>
          exact ⟨rfl, rfl, rfl, ManagedLoop.accepts_of_step⟩
      | cartesia | deepgram => exact ⟨rfl, rfl, rfl, id⟩

/-! ## What the stage sends -/

/-- The command sends text for the context. -/
def IsText (contextId : String) (cmd : WsCmd) : Prop := ∃ text, cmd = .sendText text contextId

/-- **What the stage has sent**: texts, and at the end a flush, or the event that ends the turn. -/
inductive Sent (contextId : String) (stage : WsTask) : Prop where
  | running (ended : stage.ended = false) (quiet : stage.events = [])
      (texts : ∀ cmd ∈ stage.commands, IsText contextId cmd)
      (count : stage.chunkCount.toNat = stage.commands.length % 2 ^ 32)
  | flushed (ended : stage.ended = true) (quiet : stage.events = []) (texts : List WsCmd)
      (commands : stage.commands = texts ++ [.flush contextId]) (only : ∀ cmd ∈ texts, IsText contextId cmd)
      (some : texts.length % 2 ^ 32 ≠ 0)
  | finished (ended : stage.ended = true) (events : stage.events = [.finished])
      (only : ∀ cmd ∈ stage.commands, IsText contextId cmd) (none : stage.commands.length % 2 ^ 32 = 0)

/-- Another batch is counted. -/
theorem toNat_chunkCount {count : UInt32} {n : ℕ} (here : count.toNat = n % 2 ^ 32) :
    (count + 1).toNat = (n + 1) % 2 ^ 32 := by
  have one : (1 : UInt32).toNat = 1 := rfl
  rw [UInt32.toNat_add, here, one, ← Nat.add_mod_mod]
  omega

/-- A text comes behind the texts before it. -/
theorem isText_concat {contextId : String} {commands : List WsCmd} (texts : ∀ cmd ∈ commands, IsText contextId cmd)
    (text : String) : ∀ cmd ∈ commands ++ [.sendText text contextId], IsText contextId cmd := by
  intro cmd member
  rcases List.mem_append.1 member with before | last
  · exact texts cmd before
  · exact ⟨text, List.mem_singleton.1 last⟩

/-- The end of the send task, after the last batch. -/
def conclude (stage : WsTask) : WsTask :=
  let stage : WsTask :=
    if stage.chunkCount > 0 then { stage with commands := stage.commands ++ [.flush stage.contextId] }
    else { stage with events := stage.events ++ [.finished] }
  { stage with ended := true }

/-- **The commands of a turn end with its flush.** -/
theorem sent_conclude {contextId : String} (stage : WsTask) (context : stage.contextId = contextId)
    (quiet : stage.events = []) (texts : ∀ cmd ∈ stage.commands, IsText contextId cmd)
    (count : stage.chunkCount.toNat = stage.commands.length % 2 ^ 32) :
    Sent contextId (conclude stage) ∧ (conclude stage).contextId = contextId ∧
      stage.commands <+: (conclude stage).commands := by
  unfold conclude
  by_cases some : stage.chunkCount > 0
  · rw [if_pos some, context]
    refine ⟨.flushed rfl quiet stage.commands rfl texts ?_, rfl, List.prefix_append ..⟩
    rw [gt_iff_lt, UInt32.lt_iff_toNat_lt, count] at some
    exact Nat.ne_of_gt some
  · rw [if_neg some]
    refine ⟨.finished rfl ?_ texts ?_, context, List.prefix_refl _⟩
    · rw [quiet]
      rfl
    · rw [gt_iff_lt, UInt32.lt_iff_toNat_lt, count] at some
      exact Nat.eq_zero_of_not_pos some

/-- **The stage sends only more**, and that is of the form. -/
theorem sent_receive {contextId : String} {stage : WsTask} (context : stage.contextId = contextId)
    (sent : Sent contextId stage) (message : Option String) :
    Sent contextId (stage.receive message) ∧ (stage.receive message).contextId = contextId ∧
      stage.commands <+: (stage.receive message).commands := by
  cases sent with
  | flushed ended quiet texts commands only some =>
      unfold WsTask.receive
      -- A stage that has ended ignores what it receives.
      rw [ended, if_pos rfl]
      exact ⟨.flushed ended quiet texts commands only some, context, List.prefix_refl _⟩
  | finished ended events only none =>
      unfold WsTask.receive
      rw [ended, if_pos rfl]
      exact ⟨.finished ended events only none, context, List.prefix_refl _⟩
  | running ended quiet texts count =>
      unfold WsTask.receive
      rw [ended, if_neg Bool.false_ne_true]
      cases message with
      | some token =>
          dsimp only
          unfold WsTask.token
          dsimp only
          split
          -- The batch is sent where it has a text.
          · split
            · refine ⟨.running ended quiet ?_ ?_, context, List.prefix_append ..⟩
              · rw [context]
                exact isText_concat texts _
              · rw [List.length_append, List.length_singleton]
                exact toNat_chunkCount count
            · exact ⟨.running ended quiet texts count, context, List.prefix_refl _⟩
          · exact ⟨.running ended quiet texts count, context, List.prefix_refl _⟩
      | none =>
          dsimp only
          -- The rest of the buffer is the last batch.
          by_cases blank : isBlank stage.buffer = true
          · have finish : stage.finish = conclude stage := by
              unfold WsTask.finish conclude
              rw [blank]
              rfl
            rw [finish]
            exact sent_conclude stage context quiet texts count
          · have finish : stage.finish = conclude { stage with
                commands := stage.commands ++ [.sendText (trim stage.buffer) stage.contextId]
                chunkCount := stage.chunkCount + 1 } := by
              unfold WsTask.finish conclude
              rw [Bool.eq_false_of_not_eq_true blank]
              rfl
            have before : stage.commands <+: stage.commands ++ [.sendText (trim stage.buffer) stage.contextId] :=
              List.prefix_append ..
            rw [finish]
            obtain ⟨form, same, more⟩ := sent_conclude { stage with
                commands := stage.commands ++ [.sendText (trim stage.buffer) stage.contextId]
                chunkCount := stage.chunkCount + 1 } context quiet (by
                  rw [context]
                  exact isText_concat texts _) (by
                  rw [List.length_append, List.length_singleton]
                  exact toNat_chunkCount count)
            exact ⟨form, same, before.trans more⟩

/-! ## The turn -/

/-- Text of the context was put into the channel, and behind it its flush. -/
def Answered (contextId : String) (queued : List TtsMessage) : Prop :=
  ∃ front text middle flush back, queued = front ++ text :: (middle ++ flush :: back) ∧
    text.isTextOf contextId = true ∧ flush.isFlushOf contextId = true

/-- **The turn can end**: the stage has ended it, or the service will. -/
def Ends (contextId : String) (t : TtsTurn) : Prop :=
  TtsEvent.finished ∈ t.stage.events ∨ Answered contextId t.queued

/-- **The condition**: the loop of the connection has not ended when the command task takes the flush. -/
def FlushTaken (contextId : String) (t : TtsTurn) (input : TtsTurnInput) : Prop :=
  input = .command → t.provider.busy = false → t.cmdRx.head? = some (.flush contextId) → t.provider.accepts = true

/-- The flush was taken, and nothing was sent for it. -/
def Missed (contextId : String) (t : TtsTurn) : Prop :=
  .flush contextId ∈ t.handled ∧ ¬ ∃ message ∈ t.queued, message.isFlushOf contextId = true

/-- **What a run keeps.** -/
structure TurnInv (isUuid : String → Bool) (contextId : String) (earlier : List WsCmd) (loud : Bool) (t : TtsTurn) :
    Prop where
  context : t.stage.contextId = contextId
  sent : Sent contextId t.stage
  order : earlier ++ t.stage.commands = t.handled ++ t.cmdRx
  speaks : t.provider.speaks isUuid = loud
  text : ∀ message ∈ t.queued, message.isTextOf contextId = true → loud = true
  flush : ∀ message ∈ t.queued, message.isFlushOf contextId = true → .flush contextId ∈ t.handled
  there : loud = true → t.provider.accepts = true → (∃ cmd ∈ t.handled, IsText contextId cmd) →
    (∃ message ∈ t.queued, message.isTextOf contextId = true) ∨ t.provider.pending = some contextId
  answered : (∃ message ∈ t.queued, message.isFlushOf contextId = true) → Answered contextId t.queued

/-- What was answered stays so. -/
theorem Answered.append {contextId : String} {queued : List TtsMessage} (answered : Answered contextId queued)
    (more : List TtsMessage) : Answered contextId (queued ++ more) := by
  obtain ⟨front, text, middle, flush, back, rfl, isText, isFlush⟩ := answered
  refine ⟨front, text, middle, flush, back ++ more, ?_, isText, isFlush⟩
  simp only [List.append_assoc, List.cons_append]

/-- A turn whose text and flush are there is answered. -/
theorem answered_of_mem {contextId : String} {queued more : List TtsMessage}
    (text : ∃ message ∈ queued, message.isTextOf contextId = true)
    (flush : ∃ message ∈ more, message.isFlushOf contextId = true) : Answered contextId (queued ++ more) := by
  obtain ⟨text, member, isText⟩ := text
  obtain ⟨flush, there, isFlush⟩ := flush
  obtain ⟨front, middle, rfl⟩ := List.append_of_mem member
  obtain ⟨middle', back, rfl⟩ := List.append_of_mem there
  refine ⟨front, text, middle ++ middle', flush, back, ?_, isText, isFlush⟩
  simp only [List.append_assoc, List.cons_append]

section Turn

variable {contextId : String} {earlier : List WsCmd} {loud : Bool} {t : TtsTurn}

/-- The flush of a turn is its last command, and there is text before it. -/
theorem flush_last (fresh : ∀ cmd ∈ earlier, cmd.contextId ≠ contextId)
    (inv : TurnInv isUuid contextId earlier loud t)
    {rest : List WsCmd} (next : t.cmdRx = .flush contextId :: rest) :
    .flush contextId ∉ t.handled ∧ ∃ cmd ∈ t.handled, IsText contextId cmd := by
  have noFlush {texts : List WsCmd} (only : ∀ cmd ∈ texts, IsText contextId cmd) : .flush contextId ∉ texts := by
    intro member
    obtain ⟨text, is⟩ := only _ member
    cases is
  -- The commands before belong to other turns.
  have old : .flush contextId ∉ earlier := fun member => fresh _ member rfl
  have order := inv.order
  rw [next] at order
  -- The flush that comes next was sent in this turn.
  have somewhere : WsCmd.flush contextId ∈ t.stage.commands := by
    have member : WsCmd.flush contextId ∈ t.handled ++ .flush contextId :: rest :=
      List.mem_append_right _ (.head _)
    rw [← order] at member
    exact (List.mem_append.1 member).resolve_left old
  cases inv.sent with
  | running _ _ texts _ => exact absurd somewhere (noFlush texts)
  | finished _ _ texts _ => exact absurd somewhere (noFlush texts)
  | flushed _ _ texts commands only some =>
      -- It was sent once.
      have once : (earlier ++ texts).count (.flush contextId) = 0 := by
        apply List.count_eq_zero_of_not_mem
        intro member
        rcases List.mem_append.1 member with member | member
        · exact old member
        · exact noFlush only member
      have counts := congrArg (List.count (.flush contextId)) order
      rw [commands, ← List.append_assoc, List.count_append, once, List.count_append, List.count_singleton_self,
        List.count_cons_self] at counts
      have handled : t.handled.count (.flush contextId) = 0 ∧ rest.count (.flush contextId) = 0 := by
        omega
      have notHandled := List.count_eq_zero.1 handled.1
      refine ⟨notHandled, ?_⟩
      -- What was handled is what comes before the flush.
      rcases List.eq_nil_or_concat rest with rfl | ⟨rest, last, rfl⟩
      · rw [commands, ← List.append_assoc] at order
        obtain ⟨same, -⟩ := List.append_inj' order rfl
        cases texts with
        | nil => exact absurd rfl some
        | cons cmd texts =>
            refine ⟨cmd, ?_, only cmd (.head _)⟩
            rw [← same]
            exact List.mem_append_right _ (.head _)
      · rw [commands, ← List.append_assoc, List.concat_eq_append, ← List.cons_append, ← List.append_assoc] at order
        obtain ⟨-, same⟩ := List.append_inj' order rfl
        injection same with same
        rw [List.concat_eq_append, List.count_append, ← same, List.count_singleton_self] at handled
        omega

/-- **What a step keeps**, and when the flush is missed. -/
theorem inv_step (fresh : ∀ cmd ∈ earlier, cmd.contextId ≠ contextId) (input : TtsTurnInput)
    (inv : TurnInv isUuid contextId earlier loud t) : TurnInv isUuid contextId earlier loud (t.step isUuid input) := by
  cases input with
  | receive message =>
      -- What arrives is only queued.
      obtain ⟨sent, context, more⟩ := sent_receive inv.context inv.sent message
      refine ⟨context, sent, ?_, inv.speaks, inv.text, inv.flush, inv.there, inv.answered⟩
      obtain ⟨new, new_eq⟩ := more
      simp only [step]
      rw [← new_eq, List.drop_left, ← List.append_assoc, inv.order, List.append_assoc]
  | connection input =>
      obtain ⟨speaks, pending, -, accepts⟩ := connection_spec isUuid input t.provider
      refine ⟨inv.context, inv.sent, inv.order, speaks.trans inv.speaks, inv.text, inv.flush, ?_, inv.answered⟩
      intro spoken taken handled
      simp only [step] at taken ⊢
      rw [pending]
      exact inv.there spoken (accepts taken) handled
  | command =>
      cases busy : t.provider.busy with
      | true =>
          have next : t.step isUuid .command = { t with
              provider := t.provider.proceed, queued := t.queued ++ put t.provider t.provider.proceed } := by
            simp only [step, busy, if_true]
          rw [next]
          -- A provider that is busy sends the rest of its command.
          have goes := proceeds isUuid busy
          refine ⟨inv.context, inv.sent, inv.order, goes.speaks.trans inv.speaks, ?_, ?_, ?_, ?_⟩
          · intro message _ _
            rw [← inv.speaks]
            exact goes.loud
          · intro message member is
            rcases List.mem_append.1 member with before | new
            · exact inv.flush message before is
            · rw [goes.flush contextId message new] at is
              cases is
          · intro spoken taken handled
            dsimp only at taken
            rw [goes.accepts] at taken
            rcases inv.there spoken taken handled with ⟨message, before, is⟩ | pending
            · exact .inl ⟨message, List.mem_append_left _ before, is⟩
            · rcases goes.sends contextId pending taken with ⟨message, new, is⟩ | pending
              · exact .inl ⟨message, List.mem_append_right _ new, is⟩
              · exact .inr pending
          · rintro ⟨message, member, is⟩
            rcases List.mem_append.1 member with before | new
            · exact (inv.answered ⟨message, before, is⟩).append _
            · rw [goes.flush contextId message new] at is
              cases is
      | false =>
          cases queue : t.cmdRx with
          | nil =>
              have next : t.step isUuid .command = t := by
                simp only [step, busy, queue, if_neg Bool.false_ne_true]
              rw [next]
              exact inv
          | cons cmd rest =>
              have next : t.step isUuid .command = { t with
                  cmdRx := rest, provider := t.provider.handle isUuid cmd, handled := t.handled ++ [cmd],
                  queued := t.queued ++ put t.provider (t.provider.handle isUuid cmd) } := by
                simp only [step, busy, queue, if_neg Bool.false_ne_true]
              rw [next]
              -- An idle provider is handed the next command.
              have puts := puts_handle isUuid cmd busy
              refine ⟨inv.context, inv.sent, ?_, puts.speaks.trans inv.speaks, ?_, ?_, ?_, ?_⟩
              · rw [inv.order, queue, List.append_assoc]
                rfl
              · intro message member is
                rcases List.mem_append.1 member with before | new
                · exact inv.text message before is
                · rw [← inv.speaks]
                  exact puts.spoken contextId message new (.inl is)
              · intro message member is
                rcases List.mem_append.1 member with before | new
                · exact List.mem_append_left _ (inv.flush message before is)
                · rw [puts.flush contextId message new is]
                  exact List.mem_append_right _ (.head _)
              · intro spoken taken handled
                dsimp only at taken
                rw [puts.accepts] at taken
                obtain ⟨text, member, words, rfl⟩ := handled
                -- The text was handled before, or this command is the text.
                rcases List.mem_append.1 member with before | last
                · have here := inv.there spoken taken ⟨_, before, words, rfl⟩
                  rw [pending_of_not_busy busy] at here
                  obtain ⟨message, before, is⟩ := here.resolve_right (by rintro ⟨⟩)
                  exact .inl ⟨message, List.mem_append_left _ before, is⟩
                · have same := (List.mem_singleton.1 last).symm
                  rw [← inv.speaks] at spoken
                  rcases puts.sendsText words contextId same spoken taken with ⟨message, new, is⟩ | pending
                  · exact .inl ⟨message, List.mem_append_right _ new, is⟩
                  · exact .inr pending
              · rintro ⟨message, member, is⟩
                rcases List.mem_append.1 member with before | new
                · exact (inv.answered ⟨message, before, is⟩).append _
                · -- The flush was sent, so there is text before it.
                  have flush := puts.flush contextId message new is
                  rw [flush] at queue
                  have taken : t.provider.accepts = true := by
                    by_contra closed
                    rw [puts.closed (Bool.eq_false_of_not_eq_true closed)] at new
                    cases new
                  have spoken : loud = true := by
                    rw [← inv.speaks]
                    exact puts.spoken contextId message new (.inr is)
                  have here := inv.there spoken taken (flush_last fresh inv queue).2
                  rw [pending_of_not_busy busy] at here
                  exact answered_of_mem (here.resolve_right (by rintro ⟨⟩)) ⟨message, new, is⟩

/-- **When the flush is missed.** -/
theorem missed_step (fresh : ∀ cmd ∈ earlier, cmd.contextId ≠ contextId) (input : TtsTurnInput)
    (inv : TurnInv isUuid contextId earlier true t) :
    Missed contextId (t.step isUuid input) ↔ Missed contextId t ∨ ¬ FlushTaken contextId t input := by
  cases input with
  | receive | connection => exact (or_iff_left (not_not_intro (by rintro ⟨⟩))).symm
  | command =>
      cases busy : t.provider.busy with
      | true =>
          have next : t.step isUuid .command = { t with
              provider := t.provider.proceed, queued := t.queued ++ put t.provider t.provider.proceed } := by
            simp only [step, busy, if_true]
          have goes := proceeds isUuid busy
          -- A provider that is busy takes no command, so no flush is missed here.
          have taken : FlushTaken contextId t .command := by
            intro _ idle
            rw [busy] at idle
            cases idle
          rw [or_iff_left (not_not_intro taken), next]
          refine and_congr_right fun _ => not_congr ⟨?_, ?_⟩
          · rintro ⟨message, member, is⟩
            rcases List.mem_append.1 member with before | new
            · exact ⟨message, before, is⟩
            · rw [goes.flush contextId message new] at is
              cases is
          · rintro ⟨message, before, is⟩
            exact ⟨message, List.mem_append_left _ before, is⟩
      | false =>
          cases queue : t.cmdRx with
          | nil =>
              have next : t.step isUuid .command = t := by
                simp only [step, busy, queue, if_neg Bool.false_ne_true]
              have taken : FlushTaken contextId t .command := by
                intro _ _ head
                rw [queue] at head
                cases head
              rw [or_iff_left (not_not_intro taken), next]
          | cons cmd rest =>
              have next : t.step isUuid .command = { t with
                  cmdRx := rest, provider := t.provider.handle isUuid cmd, handled := t.handled ++ [cmd],
                  queued := t.queued ++ put t.provider (t.provider.handle isUuid cmd) } := by
                simp only [step, busy, queue, if_neg Bool.false_ne_true]
              have puts := puts_handle isUuid cmd busy
              rw [next]
              by_cases flush : cmd = .flush contextId
              · rw [flush] at queue
                -- This is the flush: it is missed exactly if the provider accepts nothing any more.
                have notHandled := (flush_last fresh inv queue).1
                rw [or_iff_right fun missed => notHandled missed.1]
                have condition : FlushTaken contextId t .command ↔ t.provider.accepts = true := by
                  constructor
                  · intro taken
                    apply taken rfl busy
                    rw [queue]
                    rfl
                  · intro taken _ _ _
                    exact taken
                rw [condition]
                constructor
                · rintro ⟨-, nothing⟩ taken
                  obtain ⟨message, new, is⟩ := puts.sendsFlush contextId flush inv.speaks taken
                  exact nothing ⟨message, List.mem_append_right _ new, is⟩
                · intro closed
                  refine ⟨List.mem_append_right _ (by rw [flush]; exact .head _), ?_⟩
                  rintro ⟨message, member, is⟩
                  rw [puts.closed (Bool.eq_false_of_not_eq_true closed), List.append_nil] at member
                  exact notHandled (inv.flush message member is)
              -- Any other command leaves the flush where it is.
              · have taken : FlushTaken contextId t .command := by
                  intro _ _ head
                  rw [queue] at head
                  injection head with head
                  exact absurd head flush
                rw [or_iff_left (not_not_intro taken)]
                refine and_congr ⟨?_, List.mem_append_left _⟩ (not_congr ⟨?_, ?_⟩)
                · intro member
                  rcases List.mem_append.1 member with before | last
                  · exact before
                  · exact absurd (List.mem_singleton.1 last).symm flush
                · rintro ⟨message, member, is⟩
                  rcases List.mem_append.1 member with before | new
                  · exact ⟨message, before, is⟩
                  · exact absurd (puts.flush contextId message new is) flush
                · rintro ⟨message, before, is⟩
                  exact ⟨message, List.mem_append_left _ before, is⟩

end Turn

/-- The flush is missed exactly where a step misses the condition. -/
theorem not_missed_iff {isUuid : String → Bool} {contextId : String} {earlier : List WsCmd}
    {provider : StreamingTtsProvider} (fresh : ∀ cmd ∈ earlier, cmd.contextId ≠ contextId)
    (begins : TurnInv isUuid contextId earlier true (start contextId earlier provider)) (inputs : List TtsTurnInput) :
    ¬ Missed contextId (Run.run (step isUuid) (start contextId earlier provider) inputs) ↔
      Run.Along (step isUuid) (FlushTaken contextId) (start contextId earlier provider) inputs :=
  Run.clear_iff_along (Missed contextId) (fun _ input inv => inv_step fresh input inv)
    (fun _ input inv => missed_step fresh input inv) begins (by rintro ⟨⟨⟩, -⟩) inputs

/-- What the send task has got. -/
def received : TtsTurnInput → Option (Option String)
  | .receive message => some message
  | .command | .connection _ => none

/-- The stage of a run is the stage that has got its messages. -/
theorem stage_run (isUuid : String → Bool) (t : TtsTurn) (inputs : List TtsTurnInput) :
    (Run.run (step isUuid) t inputs).stage = (inputs.filterMap received).foldl WsTask.receive t.stage := by
  induction inputs generalizing t with
  | nil => rfl
  | cons input inputs ih =>
      rw [Run.run_cons, ih]
      cases input with
      | receive message => rfl
      | connection input => rfl
      | command =>
          have same : (t.step isUuid .command).stage = t.stage := by
            simp only [step]
            split
            · rfl
            · split <;> rfl
          rw [same]
          rfl

/-- The stage of a stream has ended. -/
theorem ended_stream (contextId : String) (tokens : List String) :
    ((stream tokens).foldl WsTask.receive (.new contextId)).ended = true := by
  rw [stream, List.foldl_append, List.foldl_cons, List.foldl_nil, WsTask.receive]
  split
  · assumption
  · rfl

/-- Where all commands are texts there are as many texts. -/
theorem isText_text {contextId : String} {commands : List WsCmd} (only : ∀ cmd ∈ commands, IsText contextId cmd) :
    (commands.filterMap WsCmd.text).length = commands.length := by
  induction commands with
  | nil => rfl
  | cons cmd commands ih =>
      obtain ⟨text, rfl⟩ := only cmd (.head _)
      change (text :: commands.filterMap WsCmd.text).length = _
      rw [List.length_cons, List.length_cons, ih fun other member => only other (.tail _ member)]

/-- A stream without text has no batches. -/
theorem wsTexts_eq_nil (contextId : String) (tokens : List String) :
    wsTexts contextId tokens = [] ↔ solid (String.join tokens) = [] := by
  have carried := (Batches.holds_gather tokens).finish
  rw [wsTexts_eq, batchTexts]
  constructor
  · intro none
    rw [← carried.whole, none]
    rfl
  · intro blank
    cases texts : (Batches.gather tokens).finish with
    | nil => rfl
    | cons text texts' =>
        have nonblank := carried.nonblank text (by rw [texts]; exact .head _)
        have whole := carried.whole
        rw [blank, texts, String.join_cons, solid_append, List.append_eq_nil_iff] at whole
        rw [isBlank_of_solid whole.1] at nonblank
        cases nonblank

/-- **The end of a turn.**  A turn that is fed some tokens and flushed, and whose commands have been dealt
with, can end if and only if the stage has sent no text, or the provider speaks and the connection has not
been given up when the flush comes; the stage sends no text exactly for blank tokens. -/
theorem turn_ends (isUuid : String → Bool) (contextId : String) (tokens : List String)
    (provider : StreamingTtsProvider) (earlier : List WsCmd) (fresh : ∀ cmd ∈ earlier, cmd.contextId ≠ contextId)
    (inputs : List TtsTurnInput) (fed : inputs.filterMap received = stream tokens)
    (dealt : (Run.run (step isUuid) (start contextId earlier provider) inputs).cmdRx = []) :
    (Ends contextId (Run.run (step isUuid) (start contextId earlier provider) inputs) ↔
      (wsTexts contextId tokens).length % 2 ^ 32 = 0 ∨ provider.speaks isUuid = true ∧
        Run.Along (step isUuid) (FlushTaken contextId) (start contextId earlier provider) inputs) ∧
    (wsTexts contextId tokens = [] ↔ solid (String.join tokens) = []) := by
  refine ⟨?_, wsTexts_eq_nil contextId tokens⟩
  -- Before the turn nothing was sent.
  have begins : TurnInv isUuid contextId earlier (provider.speaks isUuid) (start contextId earlier provider) := by
    refine ⟨rfl, .running rfl rfl (by rintro _ ⟨⟩) rfl, List.append_nil _, rfl, by rintro _ ⟨⟩, by rintro _ ⟨⟩,
      ?_, ?_⟩
    · rintro _ _ ⟨_, ⟨⟩, _⟩
    · rintro ⟨_, ⟨⟩, _⟩
  have inv := Run.invariant_of_step (fun t input inv => inv_step fresh input inv) begins inputs
  have texts : (Run.run (step isUuid) (start contextId earlier provider) inputs).stage =
      (stream tokens).foldl WsTask.receive (.new contextId) := by
    rw [stage_run, fed]
    rfl
  -- The stage has sent one command for each text of the tokens.
  have count : ((Run.run (step isUuid) (start contextId earlier provider) inputs).stage.commands.filterMap
      WsCmd.text).length = (wsTexts contextId tokens).length := by
    rw [texts]
    rfl
  have ended := ended_stream contextId tokens
  rw [← texts] at ended
  have taken (loud : provider.speaks isUuid = true) := not_missed_iff fresh (by rw [← loud]; exact begins) inputs
  generalize Run.run (step isUuid) (start contextId earlier provider) inputs = t at *
  cases inv.sent with
  | running running => exact absurd (ended.symm.trans running) (by rintro ⟨⟩)
  | finished _ events only none =>
      -- A turn without texts is finished by the stage itself.
      rw [isText_text only] at count
      refine iff_of_true (.inl ?_) (.inl ?_)
      · rw [events]
        exact .head _
      · rw [← count]
        exact none
  | flushed _ quiet cmds commands only some =>
      have batches : cmds.length = (wsTexts contextId tokens).length := by
        rw [← count, commands, List.filterMap_append, List.length_append, isText_text only]
        rfl
      -- The flush was handled, with everything before it.
      have handled : .flush contextId ∈ t.handled := by
        have order := inv.order
        rw [dealt, List.append_nil, commands] at order
        rw [← order]
        exact List.mem_append_right _ (List.mem_append_right _ (.head _))
      rw [or_iff_right (by rw [← batches]; exact some)]
      constructor
      · rintro (finished | answered)
        · rw [quiet] at finished
          cases finished
        -- An answer comes from a text, and only a provider that speaks sends one.
        · obtain ⟨front, text, middle, flush, back, queued, isText, isFlush⟩ := answered
          have loud : provider.speaks isUuid = true :=
            inv.text text (by rw [queued]; exact List.mem_append_right _ (.head _)) isText
          refine ⟨loud, (taken loud).1 fun missed => missed.2 ⟨flush, ?_, isFlush⟩⟩
          rw [queued]
          exact List.mem_append_right _ (.tail _ (List.mem_append_right _ (.head _)))
      · rintro ⟨loud, along⟩
        refine .inr (inv.answered ?_)
        by_contra nothing
        exact (taken loud).2 along ⟨handled, nothing⟩

/-- A sentence for Cartesia with a voice of the right length: the text and the flush are sent. -/
theorem turn_ends_cartesia : Ends "turn" (Run.run (step fun voice => voice.length == 36)
    (start "turn" [] (.cartesia ⟨"sonic-2", "", "694f9389-aac1-45b6-b726-9d9369183238", {}⟩))
    [.receive (some "One."), .receive none, .command, .command]) := by
  refine (turn_ends (fun voice => voice.length == 36) "turn" ["One."]
    (.cartesia ⟨"sonic-2", "", "694f9389-aac1-45b6-b726-9d9369183238", {}⟩) [] (by rintro _ ⟨⟩)
    [.receive (some "One."), .receive none, .command, .command] rfl (by decide)).1.2 (.inr ⟨by decide, ?_⟩)
  exact ⟨by rintro ⟨⟩, by rintro ⟨⟩, fun _ _ _ => rfl, fun _ _ _ => rfl, trivial⟩

/-- With the voice that stands for none, Cartesia sends nothing, and the stage waits. -/
theorem not_ends_of_default : ¬ Ends "turn" (Run.run (step fun voice => voice.length == 36)
    (start "turn" [] (.cartesia ⟨"sonic-2", "", "default", {}⟩))
    [.receive (some "One."), .receive none, .command, .command]) := by
  rintro (finished | ⟨front, text, middle, flush, back, queued, -⟩)
  · exact absurd finished (by decide)
  · have nothing : ([] : List TtsMessage) = front ++ text :: (middle ++ flush :: back) := queued
    cases front <;> cases nothing

end TtsTurn

end Feros
