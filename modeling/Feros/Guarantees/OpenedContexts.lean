import Feros.Providers.ElevenLabsWs
import Feros.Guarantees.Reconnects
/-! # ElevenLabs contexts

On every connection the text of a context comes behind the message that opens it, and that is written once
before the context is flushed or cancelled, as long as no text waits when a connection is made anew and the
set of opened contexts does not overflow.  The invariant compares the set with the messages of the connection:
those that were written and those that wait. -/

namespace Feros

/-! ## What is written for a context -/

/-- **A context is opened first**, and once before it is closed. -/
structure OpenedFirst (written : List ElevenLabsMessage) (contextId : String) : Prop where
  first : ∀ front text back, written = front ++ .text text contextId :: back → .init contextId ∈ front
  once : ∀ front back, written = front ++ back → (∀ message ∈ front, message.closes contextId = false) →
    front.count (.init contextId) ≤ 1

/-- Every context is opened first. -/
def Proper (written : List ElevenLabsMessage) : Prop := ∀ contextId, OpenedFirst written contextId

/-- Whether a context is open after a message. -/
def openAfter (contextId : String) (before : Bool) (message : ElevenLabsMessage) : Bool :=
  if message = .init contextId then true else before && !message.closes contextId

/-- **Whether a context is open** after messages. -/
def isOpen (contextId : String) (messages : List ElevenLabsMessage) : Bool :=
  messages.foldl (openAfter contextId) false

/-- A context is open behind one more message where that message leaves it so. -/
theorem isOpen_concat (contextId : String) (messages : List ElevenLabsMessage) (message : ElevenLabsMessage) :
    isOpen contextId (messages ++ [message]) = openAfter contextId (isOpen contextId messages) message :=
  List.foldl_append

/-- An open context was opened. -/
theorem mem_of_isOpen {contextId : String} {messages : List ElevenLabsMessage}
    (here : isOpen contextId messages = true) : .init contextId ∈ messages := by
  induction messages using List.reverseRecOn with
  | nil => cases here
  | append_singleton messages message ih =>
      rw [isOpen_concat, openAfter] at here
      split at here
      · rename_i opens
        rw [opens]
        exact List.mem_append_right _ (.head _)
      · rw [Bool.and_eq_true] at here
        exact List.mem_append_left _ (ih here.1)

/-- A context that was opened and not closed is open. -/
theorem isOpen_of_mem {contextId : String} {messages : List ElevenLabsMessage}
    (opened : .init contextId ∈ messages) (kept : ∀ message ∈ messages, message.closes contextId = false) :
    isOpen contextId messages = true := by
  induction messages using List.reverseRecOn with
  | nil => cases opened
  | append_singleton messages message ih =>
      rw [isOpen_concat, openAfter]
      split
      · rfl
      · rename_i other
        rw [kept message (List.mem_append_right _ (.head _)), Bool.not_false, Bool.and_true]
        apply ih
        · rcases List.mem_append.1 opened with before | last
          · exact before
          · exact absurd (List.mem_singleton.1 last).symm other
        · intro earlier member
          exact kept earlier (List.mem_append_left _ member)

/-- No context is open while no text was sent. -/
theorem isOpen_of_noText (contextId : String) {messages : List ElevenLabsMessage}
    (noText : ∀ message ∈ messages, message.isText = false) : isOpen contextId messages = false := by
  by_contra here
  have opened := mem_of_isOpen (Bool.eq_true_of_not_eq_false here)
  exact absurd (noText _ opened) (by rintro ⟨⟩)

/-- What was proper before is proper with what was written up to some point. -/
theorem Proper.of_prefix {front written : List ElevenLabsMessage} (proper : Proper written)
    (before : front <+: written) : Proper front := by
  obtain ⟨rest, rfl⟩ := before
  intro contextId
  constructor
  · rintro earlier text back rfl
    apply (proper contextId).first earlier text (back ++ rest)
    rw [List.append_assoc, List.cons_append]
  · rintro earlier back rfl
    apply (proper contextId).once earlier (back ++ rest)
    rw [List.append_assoc]

/-- **Messages without texts are proper.** -/
theorem proper_of_noText {messages : List ElevenLabsMessage}
    (noText : ∀ message ∈ messages, message.isText = false) : Proper messages := by
  intro contextId
  constructor
  · rintro front text back rfl
    exact absurd (noText (.text text contextId) (List.mem_append_right _ (.head _))) (by rintro ⟨⟩)
  · rintro front back rfl -
    rw [List.count_eq_zero_of_not_mem]
    · exact Nat.zero_le _
    · intro opened
      exact absurd (noText _ (List.mem_append_left _ opened)) (by rintro ⟨⟩)

/-- **One message more**: text needs an opened context, and a context is opened only if it is not open. -/
theorem Proper.concat {messages : List ElevenLabsMessage} {message : ElevenLabsMessage} (proper : Proper messages)
    (text : ∀ text contextId, message = .text text contextId → isOpen contextId messages = true)
    (init : ∀ contextId, message = .init contextId → isOpen contextId messages = false) :
    Proper (messages ++ [message]) := by
  intro contextId
  constructor
  · intro front text' back split
    rcases List.eq_nil_or_concat back with rfl | ⟨back, last, rfl⟩
    · obtain ⟨rfl, same⟩ := List.append_inj' split rfl
      injection same with same
      exact mem_of_isOpen (text text' contextId same)
    · rw [List.concat_eq_append, ← List.cons_append, ← List.append_assoc] at split
      obtain ⟨rfl, -⟩ := List.append_inj' split rfl
      exact (proper contextId).first front text' back rfl
  · intro front back split kept
    rcases List.eq_nil_or_concat back with rfl | ⟨back, last, rfl⟩
    · rw [List.append_nil] at split
      subst split
      have before := (proper contextId).once messages [] (List.append_nil _).symm
        fun earlier member => kept earlier (List.mem_append_left _ member)
      rw [List.count_append, List.count_singleton]
      split
      · rename_i opens
        have closed := init contextId (eq_of_beq opens)
        rw [List.count_eq_zero_of_not_mem]
        intro opened
        rw [isOpen_of_mem opened fun earlier member => kept earlier (List.mem_append_left _ member)] at closed
        cases closed
      · exact before
    · rw [List.concat_eq_append, ← List.append_assoc] at split
      obtain ⟨rfl, -⟩ := List.append_inj' split rfl
      exact (proper contextId).once front back rfl kept

/-! ## The set and the connection -/

namespace ElevenLabsWsTtsProvider

open ManagedLoop

/-- The messages of the application on a connection. -/
def messages (wire : List (LoopFrame ElevenLabsMessage)) : List ElevenLabsMessage :=
  wire.filterMap LoopFrame.sentMessage

/-- **On every connection every context is opened first.** -/
structure ContextsOpened (p : ElevenLabsWsTtsProvider) : Prop where
  past : ∀ wire ∈ p.conn.past, Proper (messages wire)
  wire : Proper (messages p.conn.wire)

/-- **The condition**: when a connection is made anew, no text waits in the channel and no call of `send_text`
is under way, and no context is opened when the set has a hundred entries. -/
def Unbroken (p : ElevenLabsWsTtsProvider) : ElevenLabsInput → Prop
  | .loop (.connect true) => (∃ number, p.conn.place = .connecting number) →
      p.call = .idle ∧ ∀ message ∈ p.conn.msgRx, message.isText = false
  | .proceed => ∀ text contextId, p.call = .checked text contextId →
      contextId ∈ p.initializedContexts ∨ p.initializedContexts.length < 100
  | _ => True

/-- The set as the next message will see it: it is cleared if the connection is a new one. -/
def effective (p : ElevenLabsWsTtsProvider) : List String :=
  if p.call = .idle ∧ p.conn.version ≠ p.seen then [] else p.initializedContexts

/-- **The set agrees with the connection.** -/
structure Agrees (p : ElevenLabsWsTtsProvider) : Prop where
  flow : Proper p.conn.flow
  set : ∀ contextId, contextId ∈ p.effective ↔ isOpen contextId p.conn.flow = true
  busy : p.call ≠ .idle → p.conn.version = p.seen
  opened : ∀ text contextId, p.call = .opened text contextId → contextId ∈ p.initializedContexts

/-- What a run keeps. -/
structure Sound (p : ElevenLabsWsTtsProvider) : Prop where
  contexts : ContextsOpened p
  seen : p.seen ≤ p.conn.version
  sender : p.conn.senderDropped = false
  truthful : Truthful p.conn
  agrees : p.conn.place.phase = .connection → Agrees p

variable {p : ElevenLabsWsTtsProvider}

/-- A connection takes messages. -/
theorem accepts_of_connection (sender : p.conn.senderDropped = false)
    (connection : p.conn.place.phase = .connection) : p.conn.accepts = true := by
  rw [accepts, sender]
  cases place : p.conn.place with
  | select | writing frame | delivering message => rfl
  | sleeping number | connecting number | ended =>
      rw [place] at connection
      cases connection

/-- **A message is sent**: what has to be shown is that the set agrees with the messages and this one. -/
theorem sound_send {q : ElevenLabsWsTtsProvider} (message : ElevenLabsMessage) (sound : Sound p)
    (conn : q.conn = p.conn.step config (.send message)) (seen : q.seen = p.seen)
    (agrees : p.conn.place.phase = .connection → q.conn.version = p.conn.version →
      q.conn.flow = p.conn.flow ++ [message] → Agrees q) : Sound q := by
  have same := step_send config p.conn message
  rw [← conn] at same
  have wire : q.conn.wire = p.conn.wire := by
    rw [conn]
    unfold ManagedLoop.step
    dsimp only
    split <;> rfl
  refine ⟨⟨?_, ?_⟩, ?_, ?_, ?_, ?_⟩
  · rw [same.past]
    exact sound.contexts.past
  · rw [wire]
    exact sound.contexts.wire
  · rw [seen, same.version]
    exact sound.seen
  · rw [same.senderDropped]
    exact sound.sender
  · rw [conn]
    exact truthful_step config p.conn _ sound.truthful
  · intro connection
    rw [same.phase] at connection
    apply agrees connection same.version
    rw [same.flow, taken, accepts_of_connection sound.sender connection, if_pos rfl]

/-- A message that neither opens nor closes a context. -/
theorem openAfter_of_other {contextId : String} {before : Bool} {message : ElevenLabsMessage}
    (noInit : message ≠ .init contextId) (noClose : message.closes contextId = false) :
    openAfter contextId before message = before := by
  rw [openAfter, if_neg noInit, noClose, Bool.not_false, Bool.and_true]

/-- A call begins. -/
theorem sound_sendText (text contextId : String) (sound : Sound p) : Sound (p.step (.sendText text contextId)) := by
  cases call : p.call with
  | checked | opened =>
      simp only [step, call]
      exact sound
  | idle =>
      have next : p.step (.sendText text contextId) = { p.checkStatus with call := .checked text contextId } := by
        simp only [step, call]
      rw [next]
      have conn : p.checkStatus.conn = p.conn := by
        unfold checkStatus
        split <;> rfl
      refine ⟨⟨?_, ?_⟩, ?_, ?_, ?_, ?_⟩
      · simp only [conn]
        exact sound.contexts.past
      · simp only [conn]
        exact sound.contexts.wire
      · unfold checkStatus
        split
        · exact le_rfl
        · exact sound.seen
      · simp only [conn]
        exact sound.sender
      · simp only [conn]
        exact sound.truthful
      · simp only [conn]
        intro connection
        have agrees := sound.agrees connection
        -- On a connection the status is connected, so a change of it is seen.
        have status : p.conn.status = .connected := by
          have truthful := sound.truthful
          rw [Truthful, connection] at truthful
          exact truthful.1
        have running : p.conn.place.isEnded = false := by
          cases place : p.conn.place with
          | ended =>
              rw [place] at connection
              cases connection
          | select | writing frame | delivering message | sleeping number | connecting number => rfl
        -- The status is looked at, and then the set is the one that counts.
        have looked : p.checkStatus.seen = p.conn.version ∧ p.checkStatus.initializedContexts = p.effective := by
          unfold checkStatus hasChanged effective
          rw [running]
          by_cases changed : p.conn.version = p.seen
          · simp [changed]
          · simp [changed, status, call]
        refine ⟨agrees.flow, ?_, ?_, ?_⟩
        · intro other
          rw [effective, if_neg (by rintro ⟨⟨⟩, -⟩), looked.2]
          exact agrees.set other
        · intro _
          exact looked.1.symm
        · rintro _ _ ⟨⟩

/-- The context of a call is opened. -/
theorem sound_openContext {text contextId : String} (call : p.call = .checked text contextId)
    (room : contextId ∈ p.initializedContexts ∨ p.initializedContexts.length < 100) (sound : Sound p) :
    Sound { p.openContext contextId with call := .opened text contextId } := by
  -- A call is under way, so the set of contexts is the one in force.
  have counts : p.effective = p.initializedContexts := by
    rw [effective, if_neg]
    rintro ⟨idle, -⟩
    rw [call] at idle
    cases idle
  by_cases opened : contextId ∈ p.initializedContexts
  -- The context is open already, and nothing is sent.
  · have same : p.openContext contextId = p := if_pos (List.contains_iff_mem.2 opened)
    rw [same]
    refine ⟨⟨sound.contexts.past, sound.contexts.wire⟩, sound.seen, sound.sender, sound.truthful,
      fun connection => ?_⟩
    have agrees := sound.agrees connection
    refine ⟨agrees.flow, ?_, ?_, ?_⟩
    · intro other
      rw [effective, if_neg (by rintro ⟨⟨⟩, -⟩), ← counts]
      exact agrees.set other
    · intro _
      apply agrees.busy
      rw [call]
      rintro ⟨⟩
    · rintro text' other same
      injection same with _ same
      rw [← same]
      exact opened
  · have few := room.resolve_left opened
    have next : p.openContext contextId =
        { p with initializedContexts := contextId :: p.initializedContexts }.send (.init contextId) := by
      unfold openContext
      rw [if_neg fun here => opened (List.contains_iff_mem.1 here), if_neg (Nat.not_le.2 few)]
    rw [next]
    refine sound_send (.init contextId) sound rfl rfl fun connection version flow => ?_
    have agrees := sound.agrees connection
    -- The context is not open on the wire either.
    have closed : isOpen contextId p.conn.flow = false := by
      by_contra here
      apply opened
      rw [← counts, agrees.set contextId]
      exact Bool.eq_true_of_not_eq_false here
    refine ⟨?_, ?_, ?_, ?_⟩
    · rw [flow]
      apply agrees.flow.concat
      · rintro _ _ ⟨⟩
      · rintro other same
        injection same with same
        rw [← same]
        exact closed
    · intro other
      rw [effective, if_neg (by rintro ⟨⟨⟩, -⟩), flow, isOpen_concat, openAfter]
      change other ∈ contextId :: p.initializedContexts ↔ _
      rw [List.mem_cons, ← counts, agrees.set other]
      by_cases same : other = contextId
      · subst same
        simp
      · simp [same, ElevenLabsMessage.closes, Ne.symm same]
    · intro _
      rw [version]
      apply agrees.busy
      rw [call]
      rintro ⟨⟩
    · rintro text' other same
      injection same with _ same
      rw [← same]
      exact List.mem_cons_self

/-- The text of a call is sent. -/
theorem sound_text {text contextId : String} (call : p.call = .opened text contextId) (sound : Sound p) :
    Sound { p.send (.text text contextId) with call := .idle } := by
  refine sound_send (.text text contextId) sound rfl rfl fun connection version flow => ?_
  have agrees := sound.agrees connection
  have busy : p.conn.version = p.seen := by
    apply agrees.busy
    rw [call]
    rintro ⟨⟩
  have counts : p.effective = p.initializedContexts := by
    rw [effective, if_neg]
    rintro ⟨idle, -⟩
    rw [call] at idle
    cases idle
  refine ⟨?_, ?_, fun idle => absurd rfl idle, by rintro _ _ ⟨⟩⟩
  · rw [flow]
    apply agrees.flow.concat
    · rintro _ other same
      injection same with _ same
      rw [← same, ← agrees.set contextId, counts]
      exact agrees.opened text contextId call
    · rintro _ ⟨⟩
  · intro other
    have later : ({ p.send (.text text contextId) with call := .idle } : ElevenLabsWsTtsProvider).effective =
        p.initializedContexts := by
      rw [effective, if_neg]
      · rfl
      · rintro ⟨-, changed⟩
        exact changed (version.trans busy)
    rw [later, flow, isOpen_concat, openAfter_of_other (by rintro ⟨⟩) rfl, ← counts]
    exact agrees.set other

/-- A context is flushed or cancelled. -/
theorem sound_close {contextId : String} {message : ElevenLabsMessage} (call : p.call = .idle)
    (closes : ∀ other, message.closes other = (contextId == other)) (noText : message.isText = false)
    (sound : Sound p) : Sound ((p.forget contextId).send message) := by
  refine sound_send message sound rfl rfl fun connection version flow => ?_
  have agrees := sound.agrees connection
  refine ⟨?_, ?_, ?_, ?_⟩
  · rw [flow]
    apply agrees.flow.concat
    · rintro text other rfl
      cases noText
    · rintro other rfl
      cases noText
  · intro other
    have later : ((p.forget contextId).send message).effective = p.effective.filter (· != contextId) := by
      unfold effective
      rw [version]
      change (if p.call = .idle ∧ p.conn.version ≠ p.seen then [] else
        p.initializedContexts.filter (· != contextId)) = _
      split <;> rfl
    have noInit : message ≠ .init other := by
      rintro rfl
      cases noText
    rw [later, flow, isOpen_concat, openAfter, if_neg noInit, closes other, List.mem_filter, agrees.set other,
      Bool.and_eq_true]
    by_cases same : other = contextId
    · subst same
      simp
    · simp [same, Ne.symm same]
  · intro busy
    exact absurd call busy
  · rintro text other opened
    change p.call = _ at opened
    rw [call] at opened
    cases opened

/-- The reader closes a context. -/
theorem sound_isFinal (contextId : String) (sound : Sound p) : Sound (p.send (.closeContext contextId)) := by
  refine sound_send (.closeContext contextId) sound rfl rfl fun connection version flow => ?_
  have agrees := sound.agrees connection
  refine ⟨?_, ?_, ?_, agrees.opened⟩
  · rw [flow]
    apply agrees.flow.concat
    · rintro _ _ ⟨⟩
    · rintro _ ⟨⟩
  · intro other
    have later : (p.send (.closeContext contextId)).effective = p.effective := by
      unfold effective
      rw [version]
      rfl
    rw [later, flow, isOpen_concat, openAfter_of_other (by rintro ⟨⟩) rfl]
    exact agrees.set other
  · intro busy
    rw [version]
    exact agrees.busy busy

/-- The loop goes on. -/
theorem sound_loop {input : LoopInput ElevenLabsMessage} (nothing : p.conn.taken input = [])
    (sender : input.isDropSender = false)
    (unbroken : input = .connect true → (∃ number, p.conn.place = .connecting number) →
      p.call = .idle ∧ ∀ message ∈ p.conn.msgRx, message.isText = false) (sound : Sound p) :
    Sound { p with conn := p.conn.step config input } := by
  have truthful := truthful_step config p.conn input sound.truthful
  -- A connection that is lost agrees with nothing, but leaves what was sent.
  have lostContexts (t : ManagedLoop ElevenLabsMessage) (same : SameMessages p.conn t)
      (phase : t.place.phase ≠ .connection) (truthful : Truthful t) : Sound { p with conn := t } := by
    refine ⟨⟨?_, ?_⟩, ?_, ?_, truthful, fun connection => absurd connection phase⟩
    · rw [same.past]
      exact sound.contexts.past
    · rw [same.wire]
      exact sound.contexts.wire
    · exact sound.seen.trans same.version
    · rw [same.senderDropped]
      exact sound.sender
  cases step_cases config p.conn input with
  | quiet same =>
      -- What is on its way stays the same, and so does what the provider makes of it.
      have flow : (p.conn.step config input).flow = p.conn.flow := by
        rw [same.flow, nothing, List.append_nil]
      have agrees : p.conn.place.phase = .connection → Agrees { p with conn := p.conn.step config input } := by
        intro connection
        have agrees := sound.agrees connection
        refine ⟨?_, ?_, ?_, agrees.opened⟩
        · rw [flow]
          exact agrees.flow
        · intro other
          have later : ({ p with conn := p.conn.step config input } : ElevenLabsWsTtsProvider).effective =
              p.effective := by
            unfold effective
            rw [same.version]
          rw [later, flow]
          exact agrees.set other
        · intro busy
          rw [same.version]
          exact agrees.busy busy
      refine ⟨⟨?_, ?_⟩, ?_, ?_, truthful, ?_⟩
      · rw [same.past]
        exact sound.contexts.past
      · by_cases connection : p.conn.place.phase = .connection
        · exact (agrees connection).flow.of_prefix ⟨_, rfl⟩
        · rw [same.wire connection]
          exact sound.contexts.wire
      · rw [same.version]
        exact sound.seen
      · rw [same.senderDropped, sender, sound.sender]
        rfl
      · rw [same.phase]
        exact agrees
  | lost reason ends result =>
      rw [result] at truthful ⊢
      exact lostContexts _ (lost_spec config reason p.conn).1 (phase_lost config reason p.conn) truthful
  | retry number here nothing result =>
      rw [result] at truthful ⊢
      exact lostContexts _ (attempt_spec config (number + 1) p.conn).1 (phase_attempt config (number + 1) p.conn)
        truthful
  | anew number place connects result =>
      -- A new connection is told of no context yet, and no call is under way.
      obtain ⟨idle, noText⟩ := unbroken connects ⟨number, place⟩
      rw [result] at truthful ⊢
      have flow : p.conn.connectedAnew.flow = p.conn.msgRx := rfl
      refine ⟨⟨?_, ?_⟩, ?_, sound.sender, truthful, fun _ => ⟨?_, ?_, ?_, ?_⟩⟩
      · intro wire member
        rcases List.mem_append.1 member with before | last
        · exact sound.contexts.past wire before
        · rw [List.mem_singleton.1 last]
          exact sound.contexts.wire
      · exact proper_of_noText (by rintro _ ⟨⟩)
      · exact sound.seen.trans (Nat.le_succ _)
      · rw [flow]
        exact proper_of_noText noText
      · intro other
        -- The next call clears the set.
        have cleared : ({ p with conn := p.conn.connectedAnew } : ElevenLabsWsTtsProvider).effective = [] := by
          rw [effective, if_pos]
          refine ⟨idle, ?_⟩
          have seen := sound.seen
          change p.conn.version + 1 ≠ p.seen
          omega
        rw [cleared, flow, isOpen_of_noText other noText]
        exact iff_of_false List.not_mem_nil Bool.false_ne_true
      · intro busy
        exact absurd idle busy
      · rintro text other opened
        change p.call = _ at opened
        rw [idle] at opened
        cases opened

/-- **What a step keeps.** -/
theorem sound_step (p : ElevenLabsWsTtsProvider) (input : ElevenLabsInput) (sound : Sound p)
    (unbroken : Unbroken p input) : Sound (p.step input) := by
  cases input with
  | sendText text contextId => exact sound_sendText text contextId sound
  | proceed =>
      cases call : p.call with
      | idle =>
          simp only [step, call]
          exact sound
      | checked text contextId =>
          simp only [step, call]
          exact sound_openContext call (unbroken text contextId call) sound
      | opened text contextId =>
          simp only [step, call]
          exact sound_text call sound
  | flush contextId =>
      cases call : p.call with
      | idle =>
          simp only [step, call]
          exact sound_close call (fun _ => rfl) rfl sound
      | checked | opened =>
          simp only [step, call]
          exact sound
  | cancel contextId =>
      cases call : p.call with
      | idle =>
          simp only [step, call]
          exact sound_close call (fun _ => rfl) rfl sound
      | checked | opened =>
          simp only [step, call]
          exact sound
  | isFinal contextId => exact sound_isFinal contextId sound
  | loop input =>
      cases input with
      | send | dropSender => exact sound
      | connect ok =>
          refine sound_loop rfl rfl (fun connects => ?_) sound
          injection connects with connects
          rw [connects] at unbroken
          exact unbroken
      | dropReceiver | take | tick | read | written | delivered | slept =>
          exact sound_loop rfl rfl (by rintro ⟨⟩) sound

/-- **ElevenLabs contexts are opened first**, in every state of every run whose steps meet the condition. -/
theorem contexts_opened (inputs : List ElevenLabsInput) (unbroken : Run.Along step Unbroken {} inputs) :
    ContextsOpened (Run.run step {} inputs) := by
  have nothing : Proper [] := proper_of_noText (by rintro _ ⟨⟩)
  have start : Sound ({} : ElevenLabsWsTtsProvider) := by
    refine ⟨⟨by rintro _ ⟨⟩, nothing⟩, le_rfl, rfl, ⟨rfl, rfl⟩, fun _ => ⟨nothing, ?_, ?_, ?_⟩⟩
    · intro contextId
      exact iff_of_false List.not_mem_nil Bool.false_ne_true
    · intro busy
      exact absurd rfl busy
    · rintro _ _ ⟨⟩
  exact (Run.invariant sound_step start unbroken).contexts

/-- A text, a reconnect, and another text for the same context, which is opened anew. -/
theorem contexts_opened_anew : ContextsOpened (Run.run step {} [.sendText "a" "context", .proceed, .proceed,
    .loop .take, .loop (.written true), .loop .take, .loop (.written true), .loop (.read .closed),
    .loop (.slept true), .loop (.connect true), .sendText "b" "context", .proceed, .proceed]) := by
  apply contexts_opened
  refine ⟨trivial, ?_, ?_, trivial, trivial, trivial, trivial, trivial, trivial, ?_, trivial, ?_, ?_, trivial⟩
  · intro text contextId _
    exact .inr (by decide)
  · intro text contextId call
    cases call
  · intro _
    exact ⟨rfl, by decide⟩
  · intro text contextId _
    exact .inr (by decide)
  · intro text contextId call
    cases call

/-- Text that is sent during a reconnect comes to a connection on which its context was not opened. -/
theorem not_contextsOpened_of_reconnect : ¬ ∀ inputs, ContextsOpened (Run.run step {} inputs) := by
  intro all
  have opened := (all [.sendText "a" "context", .proceed, .proceed, .loop .take, .loop (.written true), .loop .take,
    .loop (.written true), .loop (.read .closed), .sendText "b" "context", .proceed, .proceed, .loop (.slept true),
    .loop (.connect true), .loop .take, .loop (.written true)]).wire "context"
  exact absurd (opened.first [] "b" [] (by decide)) (by rintro ⟨⟩)

end ElevenLabsWsTtsProvider

end Feros
