import Feros.Library.Run
import Feros.Providers.DeepgramWs
/-! # Whose turn audio belongs to

An **`Observer`** of the Deepgram TTS provider knows for which turn a reply is, and notes what the
reader made of it.  **`Belongs`** says that no turn gets the audio of another, and that a turn that is
not cancelled gets all of its own.

* **`Safe`** says what has to hold of all that is on its way for that to come out.
* **`Proper`** is what a step has to meet to keep it so. -/

namespace Feros

open Run

namespace SpeechContexts

/-! ## What is on its way -/

/-- What matters of a message or of its answer. -/
inductive Kind where
  | audio
  | flush
  | clear
  | quiet
  deriving DecidableEq, Repr

/-- A message will be answered by something of the same kind. -/
def Kind.ofMessage : DeepgramTtsMessage → Kind
  | .speak _ => .audio
  | .flush => .flush
  | .clear => .clear
  | .ping => .quiet

def Kind.ofReply : DeepgramTtsReply → Kind
  | .audio _ => .audio
  | .flushed => .flush
  | .cleared => .clear
  | .other => .quiet

/-- A kind, and the turn it is for. -/
abbrev Item := Kind × String

/-- **What the reader will make of an item is right**: audio is dropped while it is clearing, which is
for turns that were cancelled, and otherwise goes to the active context. -/
def Fits (ctx : String) (cancelled : List String) (clearing : Bool) : Item → Prop
  | (.audio, turn) => if clearing = true then turn ∈ cancelled else turn = ctx
  | (.flush, turn) => turn = ctx ∨ turn ∈ cancelled
  | _ => True

/-- The reader stops clearing when a `Clear` is answered. -/
def clearingAfter (clearing : Bool) (item : Item) : Bool :=
  if item.1 = .clear then false else clearing

/-- **What is on its way is safe** while the active context stays the same. -/
def Safe (ctx : String) (cancelled : List String) : (clearing : Bool) → List Item → Prop
  | _, [] => True
  | clearing, item :: rest =>
    Fits ctx cancelled clearing item ∧ Safe ctx cancelled (clearingAfter clearing item) rest

instance decidableFits (ctx : String) (cancelled : List String) (clearing : Bool) (item : Item) :
    Decidable (Fits ctx cancelled clearing item) := by
  obtain ⟨kind, turn⟩ := item
  cases kind <;> unfold Fits <;> infer_instance

instance decidableSafe (ctx : String) (cancelled : List String) :
    (clearing : Bool) → (path : List Item) → Decidable (Safe ctx cancelled clearing path)
  | _, [] => inferInstanceAs (Decidable True)
  | clearing, item :: rest =>
    have := decidableSafe ctx cancelled (clearingAfter clearing item) rest
    inferInstanceAs (Decidable (Fits ctx cancelled clearing item ∧
      Safe ctx cancelled (clearingAfter clearing item) rest))

/-- A `Clear` is on its way, or its answer. -/
def Clears (path : List Item) : Prop := ∃ item ∈ path, item.1 = .clear

section Safe

variable {ctx : String} {cancelled : List String} {clearing : Bool} {first second path : List Item}

/-- Clearing after all items. -/
theorem safe_append : Safe ctx cancelled clearing (first ++ second) ↔
    Safe ctx cancelled clearing first ∧
      Safe ctx cancelled (first.foldl clearingAfter clearing) second := by
  induction first generalizing clearing with
  | nil => exact (and_iff_right trivial).symm
  | cons item first ih =>
    show _ ∧ Safe _ _ _ (first ++ second) ↔ (_ ∧ _) ∧ _
    rw [ih, and_assoc]
    rfl

/-- The reader does not clear any more after a `Clear`. -/
theorem foldl_clearingAfter_false (path : List Item) : path.foldl clearingAfter false = false := by
  induction path with
  | nil => rfl
  | cons item path ih =>
    have still : clearingAfter false item = false := ite_self _
    rw [List.foldl_cons, still]
    exact ih

/-- A path that clears ends without clearing. -/
theorem foldl_clearingAfter (comes : clearing = true → Clears path) :
    path.foldl clearingAfter clearing = false := by
  induction path generalizing clearing with
  | nil =>
    cases clearing with
    | false => rfl
    | true =>
      obtain ⟨item, held, -⟩ := comes rfl
      cases held
  | cons item path ih =>
    rw [List.foldl_cons]
    by_cases isClear : item.1 = .clear
    · have stops : clearingAfter clearing item = false := if_pos isClear
      rw [stops]
      exact foldl_clearingAfter_false path
    · have goesOn : clearingAfter clearing item = clearing := if_neg isClear
      rw [goesOn]
      refine ih fun isClearing => ?_
      obtain ⟨other, held, same⟩ := comes isClearing
      rcases List.mem_cons.1 held with rfl | held
      · exact absurd same isClear
      · exact ⟨other, held, same⟩

/-- More turns are cancelled. -/
theorem fits_mono {more : List String} (sub : cancelled ⊆ more) {item : Item}
    (fits : Fits ctx cancelled clearing item) : Fits ctx more clearing item := by
  obtain ⟨kind, turn⟩ := item
  cases kind with
  | audio =>
    cases clearing with
    | true => exact sub fits
    | false => exact fits
  | flush => exact fits.imp_right fun held => sub held
  | clear => trivial
  | quiet => trivial

/-- What is safe with few cancelled contexts is safe with more. -/
theorem Safe.mono {more : List String} (sub : cancelled ⊆ more)
    (safe : Safe ctx cancelled clearing path) : Safe ctx more clearing path := by
  induction path generalizing clearing with
  | nil => trivial
  | cons item path ih => exact ⟨fits_mono sub safe.1, ih safe.2⟩

/-- **The active context is cancelled**: what is on its way may be dropped from now on. -/
theorem Safe.cancel (safe : Safe ctx cancelled clearing path) :
    Safe ctx (cancelled ++ [ctx]) true path := by
  have sub : cancelled ⊆ cancelled ++ [ctx] := List.subset_append_left _ _
  have now : ctx ∈ cancelled ++ [ctx] := List.mem_append_right _ List.mem_cons_self
  induction path generalizing clearing with
  | nil => trivial
  | cons item path ih =>
    obtain ⟨fits, rest⟩ := safe
    obtain ⟨kind, turn⟩ := item
    cases kind with
    | audio =>
      refine ⟨?_, ih rest⟩
      cases clearing with
      | true => exact sub fits
      | false =>
        obtain rfl : turn = ctx := fits
        exact now
    | flush => exact ⟨fits.imp_right fun held => sub held, ih rest⟩
    | clear => exact ⟨trivial, rest.mono sub⟩
    | quiet => exact ⟨trivial, ih rest⟩

/-- **Part of what is on its way becomes something else**, that does as little harm, and clears as
much. -/
theorem Safe.replace {part other : List Item}
    (harmless : ∀ clearing, Safe ctx cancelled clearing part → Safe ctx cancelled clearing other)
    (same : ∀ clearing, part.foldl clearingAfter clearing = other.foldl clearingAfter clearing)
    (safe : Safe ctx cancelled clearing (first ++ (part ++ second))) :
    Safe ctx cancelled clearing (first ++ (other ++ second)) := by
  rw [safe_append, safe_append] at safe ⊢
  obtain ⟨before, here, after⟩ := safe
  rw [same] at after
  exact ⟨before, harmless _ here, after⟩

/-- Only a `Clear` changes whether the reader clears. -/
theorem foldl_clearingAfter_of_unclear (unclear : ∀ item ∈ path, item.1 ≠ .clear) (clearing : Bool) :
    path.foldl clearingAfter clearing = clearing := by
  induction path with
  | nil => rfl
  | cons item path ih =>
    have goesOn : clearingAfter clearing item = clearing := if_neg (unclear item List.mem_cons_self)
    rw [List.foldl_cons, goesOn]
    exact ih fun other held => unclear other (List.mem_cons_of_mem _ held)

/-- What is not there any more does no harm, unless it is a `Clear`. -/
theorem Safe.drop {lost : List Item} (unclear : ∀ item ∈ lost, item.1 ≠ .clear)
    (safe : Safe ctx cancelled clearing (first ++ (lost ++ second))) :
    Safe ctx cancelled clearing (first ++ second) := by
  have nothing : Safe ctx cancelled clearing (first ++ ([] ++ second)) := by
    apply safe.replace
    · intro clearing here
      trivial
    · exact foldl_clearingAfter_of_unclear unclear
  exact nothing

/-- Audio for a text comes in any number of frames. -/
theorem Safe.frames {turn : String} (frames : List Bytes)
    (safe : Safe ctx cancelled clearing (first ++ ([(.audio, turn)] ++ second))) :
    Safe ctx cancelled clearing
      (first ++ (frames.map (fun _ => (Kind.audio, turn)) ++ second)) := by
  have still (clearing : Bool) : clearingAfter clearing (.audio, turn) = clearing := if_neg nofun
  apply safe.replace
  · rintro clearing ⟨fits, -⟩
    induction frames with
    | nil => trivial
    | cons frame frames ih =>
      refine ⟨fits, ?_⟩
      rw [still]
      exact ih
  · intro clearing
    rw [foldl_clearingAfter_of_unclear, foldl_clearingAfter_of_unclear]
    · intro item held
      obtain ⟨frame, -, rfl⟩ := List.mem_map.1 held
      nofun
    · intro item held
      rw [List.mem_singleton.1 held]
      nofun

/-- A path clears where one of its parts does. -/
theorem clears_append : Clears (first ++ second) ↔ Clears first ∨ Clears second := by
  simp only [Clears, List.mem_append, or_and_right, exists_or]

/-- What is not a `Clear` does not clear. -/
theorem Clears.drop {lost : List Item} (unclear : ∀ item ∈ lost, item.1 ≠ .clear)
    (clears : Clears (first ++ (lost ++ second))) : Clears (first ++ second) := by
  rw [clears_append, clears_append] at clears
  rw [clears_append]
  obtain before | ⟨item, held, isClear⟩ | after := clears
  · exact .inl before
  · exact absurd isClear (unclear item held)
  · exact .inr after

/-- What is said last is safe as well. -/
theorem Safe.snoc {item : Item} (safe : Safe ctx cancelled clearing path)
    (comes : clearing = true → Clears path) (fits : Fits ctx cancelled false item) :
    Safe ctx cancelled clearing (path ++ [item]) := by
  rw [safe_append, foldl_clearingAfter comes]
  exact ⟨safe, fits, trivial⟩

end Safe

/-! ## The observer -/

/-- What the reader made of a reply for a turn. -/
structure Reading where
  reply : DeepgramTtsReply
  turn : String
  chunk : Option TtsAudioChunk
  deriving DecidableEq, Repr

/-- **A provider under observation.** -/
structure Observer where
  provider : DeepgramWsTtsProvider := {}
  /-- How many of the messages on the wire the server has dealt with. -/
  answered : Nat := 0
  /-- What the server has said, and for which turn. -/
  served : List (DeepgramTtsReply × String) := []
  /-- The turns that were cancelled. -/
  cancelled : List String := []
  readings : List Reading := []
  deriving DecidableEq, Repr

/-- What can happen: a call, a step of a task, or something the server does. -/
inductive Action where
  | sendText (text contextId : String)
  | flush (contextId : String)
  | cancel (contextId : String)
  | receive
  | handle
  | write
  | tick
  | reconnect
  /-- The server answers the next message, a text with these frames. -/
  | serve (frames : List Bytes)
  /-- The server says something that is not an answer. -/
  | remark
  /-- The server closes the connection, after a `Flushed`. -/
  | close
  deriving DecidableEq, Repr

/-- **How the server answers a message.** -/
def answers (frames : List Bytes) : DeepgramTtsMessage → List DeepgramTtsReply
  | .speak _ => frames.map .audio
  | .flush => [.flushed]
  | .clear => [.cleared]
  | .ping => []

def ofReply (said : DeepgramTtsReply × String) : Item := (.ofReply said.1, said.2)

def ofMessage (said : DeepgramTtsMessage × String) : Item := (.ofMessage said.1, said.2)

namespace Observer

/-- The messages that the server has got, and not answered. -/
def unanswered (o : Observer) : List (DeepgramTtsMessage × String) :=
  o.provider.conn.wire.drop o.answered

/-- The server says something. -/
def hear (said : List (DeepgramTtsReply × String)) (o : Observer) : Observer :=
  { o with
    provider := { o.provider with incoming := o.provider.incoming ++ said }
    served := o.served ++ said }

/-- The server answers the next message. -/
def serve (frames : List Bytes) (o : Observer) : Observer :=
  match o.unanswered with
  | (message, turn) :: _ =>
    { o.hear ((answers frames message).map fun reply => (reply, turn)) with answered := o.answered + 1 }
  | [] => o

/-- The last answer of the server is `Flushed`. -/
def flushedLast (o : Observer) : Bool :=
  ((o.served.filter (·.1 ≠ .other)).getLast?.map (·.1)) = some .flushed

/-- The server closes the connection: what it has not answered is lost. -/
def close (o : Observer) : Observer :=
  if o.flushedLast = true then
    { o with
      provider := { o.provider with conn := { o.provider.conn with closing := true } }
      answered := o.provider.conn.wire.length }
  else o

/-- The reader deals with a reply, and it is noted what it makes of it. -/
def handle (o : Observer) : Observer :=
  { o with
    provider := o.provider.handle
    readings := o.readings ++
      o.provider.held.toList.map fun said => ⟨said.1, said.2, o.provider.chunk said.1⟩ }

/-- **A step of the observed provider.** -/
def step (o : Observer) : Action → Observer
  | .sendText text contextId => { o with provider := o.provider.sendText text contextId }
  | .flush contextId => { o with provider := o.provider.flush contextId }
  | .cancel contextId =>
    { o with
      provider := o.provider.cancel contextId
      cancelled := o.cancelled ++ [contextId] }
  | .receive => { o with provider := o.provider.receive }
  | .handle => o.handle
  | .write => { o with provider := { o.provider with conn := o.provider.conn.write } }
  | .tick => { o with provider := { o.provider with conn := o.provider.conn.tick } }
  | .reconnect => { o with provider := { o.provider with conn := o.provider.conn.reconnect } }
  | .serve frames => o.serve frames
  | .remark => o.hear [(.other, "")]
  | .close => o.close

/-! ## What is wanted -/

/-- **A reading is right**: audio of a turn is never given to another, and what a turn that is not
cancelled gets, it gets whole. -/
def Right (cancelled : List String) (reading : Reading) : Prop :=
  match reading.reply with
  | .audio pcm =>
    (∀ chunk ∈ reading.chunk, chunk.contextId = reading.turn) ∧
      (reading.turn ∉ cancelled → reading.chunk = some ⟨pcm, false, reading.turn⟩)
  | .flushed => reading.turn ∉ cancelled → reading.chunk = some ⟨[], true, reading.turn⟩
  | _ => True

/-- **Audio belongs to its turn**: all that the server has said is read or still waits to be, the
reactor gets what was made of it, and every reading is right. -/
structure Belongs (o : Observer) : Prop where
  arrives : o.served = o.readings.map (fun reading => (reading.reply, reading.turn)) ++
    (o.provider.held.toList ++ o.provider.incoming)
  delivered : o.provider.chunks = o.readings.filterMap (·.chunk)
  right : ∀ reading ∈ o.readings, Right o.cancelled reading

/-- All that is on its way to the reader, or will be the answer to what is on its way to the server. -/
def path (o : Observer) : List Item :=
  o.provider.incoming.map ofReply ++
    (o.unanswered.map ofMessage ++ o.provider.conn.outgoing.map ofMessage)

/-- Whether the reader will be clearing when it gets its next reply. -/
def armed (o : Observer) : Bool :=
  if o.provider.clearChanged then o.provider.clear
  else (o.provider.held.toList.map ofReply).foldl clearingAfter o.provider.isClearing

/-- **The active context may change**: neither what the reader has got nor what is on its way needs it
any more. -/
def MayTurn (turn : String) (o : Observer) : Prop :=
  (∀ item ∈ o.provider.held.toList.map ofReply, Fits turn o.cancelled o.provider.isClearing item) ∧
    Safe turn o.cancelled o.armed o.path

/-- **What a step has to meet**: a turn begins when nothing on its way needs the one before, only the
active turn is flushed, only the active turn is cancelled unless nothing of it is on its way, and no
`Clear` is lost. -/
def Proper (o : Observer) : Action → Prop
  | .sendText _ turn => turn = o.provider.contextId ∨ o.MayTurn turn
  | .flush turn => turn = o.provider.contextId ∨ turn ∈ o.cancelled
  | .cancel turn =>
    turn = o.provider.contextId ∨ Safe o.provider.contextId (o.cancelled ++ [turn]) true o.path
  | .write => o.provider.conn.closing = true →
      ∀ said ∈ o.provider.conn.outgoing.head?, said.1 ≠ .clear
  | .close => ∀ said ∈ o.unanswered, said.1 ≠ .clear
  | _ => True

end Observer

/-! ## What is kept -/

/-- **What every proper step keeps**: what the reader has got and what is on its way will be dealt with
rightly, and a `Clear` is on its way while the reader clears. -/
structure Ready (o : Observer) : Prop where
  belongs : o.Belongs
  fits : ∀ item ∈ o.provider.held.toList.map ofReply,
    Fits o.provider.contextId o.cancelled o.provider.isClearing item
  safe : Safe o.provider.contextId o.cancelled o.armed o.path
  clears : o.armed = true → Clears o.path
  /-- The clear flag is only ever set. -/
  sets : o.provider.clearChanged = true → o.provider.clear = true
  counted : o.answered ≤ o.provider.conn.wire.length
  pings : o.provider.conn.keepalive = some (.ping, "")

section Steps

variable {o : Observer}

/-- More turns are cancelled. -/
theorem right_mono {more cancelled : List String} (sub : cancelled ⊆ more) {reading : Reading}
    (right : Observer.Right cancelled reading) : Observer.Right more reading := by
  obtain ⟨reply, turn, chunk⟩ := reading
  cases reply with
  | audio pcm => exact ⟨right.1, fun kept => right.2 fun held => kept (sub held)⟩
  | flushed => exact fun kept => right fun held => kept (sub held)
  | cleared => trivial
  | other => trivial

/-- **What the reader makes of a reply that fits is right.** -/
theorem right_chunk {p : DeepgramWsTtsProvider} {cancelled : List String}
    {said : DeepgramTtsReply × String}
    (fits : Fits p.contextId cancelled p.isClearing (ofReply said)) :
    Observer.Right cancelled ⟨said.1, said.2, p.chunk said.1⟩ := by
  obtain ⟨reply, turn⟩ := said
  cases reply with
  | audio pcm =>
    show (∀ chunk ∈ p.chunk (.audio pcm), chunk.contextId = turn) ∧
      (turn ∉ cancelled → p.chunk (.audio pcm) = some ⟨pcm, false, turn⟩)
    unfold DeepgramWsTtsProvider.chunk
    cases clearing : p.isClearing with
    | true =>
      rw [clearing] at fits
      exact ⟨nofun, fun kept => absurd fits kept⟩
    | false =>
      rw [clearing] at fits
      obtain rfl : turn = p.contextId := fits
      refine ⟨?_, fun _ => rfl⟩
      rintro chunk ⟨⟩
      rfl
  | flushed =>
    intro kept
    obtain rfl | held := fits
    · rfl
    · exact absurd held kept
  | cleared => trivial
  | other => trivial

/-- A message that is put into the channel comes last. -/
theorem path_send {o next : Observer} (message : DeepgramTtsMessage × String)
    (incoming : next.provider.incoming = o.provider.incoming)
    (conn : next.provider.conn = o.provider.conn.send message) (answered : next.answered = o.answered) :
    next.path = o.path ++ [ofMessage message] := by
  unfold Observer.path Observer.unanswered
  rw [incoming, conn, answered]
  simp only [ManagedWs.send, List.map_append, List.append_assoc, List.map_cons, List.map_nil]

/-- **A text that is sent leaves the observer ready.** -/
theorem ready_sendText (ready : Ready o) (text turn : String)
    (proper : o.Proper (.sendText text turn)) : Ready (o.step (.sendText text turn)) := by
  have may : o.MayTurn turn := by
    obtain rfl | may := proper
    · exact ⟨ready.fits, ready.safe⟩
    · exact may
  have longer : (o.step (.sendText text turn)).path = o.path ++ [(.audio, turn)] :=
    path_send (.speak text, turn) rfl rfl rfl
  refine ⟨⟨ready.belongs.arrives, ready.belongs.delivered, ready.belongs.right⟩, may.1, ?_, ?_,
    ready.sets, ready.counted, ready.pings⟩
  · rw [longer]
    have fits : Fits turn o.cancelled false (.audio, turn) := rfl
    exact may.2.snoc ready.clears fits
  · intro armed
    rw [longer, clears_append]
    exact .inl (ready.clears armed)

/-- A flush leaves the observer ready. -/
theorem ready_flush (ready : Ready o) (turn : String) (proper : o.Proper (.flush turn)) :
    Ready (o.step (.flush turn)) := by
  have longer : (o.step (.flush turn)).path = o.path ++ [(.flush, turn)] :=
    path_send (.flush, turn) rfl rfl rfl
  refine ⟨⟨ready.belongs.arrives, ready.belongs.delivered, ready.belongs.right⟩, ready.fits, ?_, ?_,
    ready.sets, ready.counted, ready.pings⟩
  · rw [longer]
    exact ready.safe.snoc ready.clears proper
  · intro armed
    rw [longer, clears_append]
    exact .inl (ready.clears armed)

/-- A cancel leaves the observer ready. -/
theorem ready_cancel (ready : Ready o) (turn : String) (proper : o.Proper (.cancel turn)) :
    Ready (o.step (.cancel turn)) := by
  have longer : (o.step (.cancel turn)).path = o.path ++ [(.clear, turn)] :=
    path_send (.clear, turn) rfl rfl rfl
  have sub : o.cancelled ⊆ o.cancelled ++ [turn] := List.subset_append_left _ _
  have safe : Safe o.provider.contextId (o.cancelled ++ [turn]) true o.path := by
    obtain rfl | safe := proper
    · exact ready.safe.cancel
    · exact safe
  refine ⟨⟨ready.belongs.arrives, ready.belongs.delivered, ?_⟩, ?_, ?_, ?_, fun _ => rfl,
    ready.counted, ready.pings⟩
  · intro reading held
    exact right_mono sub (ready.belongs.right reading held)
  · intro item held
    exact fits_mono sub (ready.fits item held)
  · rw [longer]
    exact safe_append.2 ⟨safe, trivial, trivial⟩
  · intro armed
    rw [longer]
    exact ⟨_, List.mem_append_right _ List.mem_cons_self, rfl⟩

/-- The reader gets the first reply that waits. -/
theorem ready_receive (ready : Ready o) : Ready (o.step .receive) := by
  cases holding : o.provider.held with
  | some said =>
    -- What is held is not lost for what comes.
    have same : o.provider.receive = o.provider := by
      unfold DeepgramWsTtsProvider.receive
      rw [holding]
    have stays : o.step .receive = o := congrArg (fun p => { o with provider := p }) same
    rwa [stays]
  | none =>
    cases waiting : o.provider.incoming with
    | nil =>
      have same : o.provider.receive = o.provider := by
        unfold DeepgramWsTtsProvider.receive
        rw [holding, waiting]
      have stays : o.step .receive = o := congrArg (fun p => { o with provider := p }) same
      rwa [stays]
    | cons said rest =>
      have clearing : o.armed =
          if o.provider.clearChanged then o.provider.clear else o.provider.isClearing := by
        unfold Observer.armed
        rw [holding]
        rfl
      have gets : o.step .receive = { o with provider := { o.provider with
          incoming := rest, held := some said, isClearing := o.armed, clearChanged := false } } := by
        rw [clearing]
        show { o with provider := o.provider.receive } = _
        unfold DeepgramWsTtsProvider.receive
        rw [holding, waiting]
      -- What comes is the first thing on the path, so it fits.
      have first : o.path = ofReply said ::
          (rest.map ofReply ++ (o.unanswered.map ofMessage ++ o.provider.conn.outgoing.map ofMessage)) := by
        unfold Observer.path
        rw [waiting]
        rfl
      rw [gets]
      obtain ⟨fits, safe⟩ := first ▸ ready.safe
      refine ⟨⟨?_, ready.belongs.delivered, ready.belongs.right⟩, ?_, safe, ?_, nofun, ready.counted,
        ready.pings⟩
      · have arrives := ready.belongs.arrives
        rw [holding, waiting] at arrives
        exact arrives
      · intro item held
        rw [List.mem_singleton.1 held]
        exact fits
      · intro (armed : clearingAfter o.armed (ofReply said) = true)
        -- An answer to the clear ends the clearing, and any other item leaves the clear on the path.
        by_cases isClear : (ofReply said).1 = .clear
        · rw [clearingAfter, if_pos isClear] at armed
          cases armed
        · rw [clearingAfter, if_neg isClear] at armed
          obtain ⟨item, held, same⟩ := first ▸ ready.clears armed
          rcases List.mem_cons.1 held with rfl | held
          · exact absurd same isClear
          · exact ⟨item, held, same⟩

/-- The reader deals with what it has got. -/
theorem ready_handle (ready : Ready o) : Ready (o.step .handle) := by
  cases holding : o.provider.held with
  | none =>
    have stays : o.step .handle = o := by
      show o.handle = o
      unfold Observer.handle DeepgramWsTtsProvider.handle
      rw [holding]
      show { o with readings := o.readings ++ [] } = o
      rw [List.append_nil]
    rwa [stays]
  | some said =>
    have gives : o.step .handle = { o with
        provider := { o.provider with
          held := none
          isClearing := clearingAfter o.provider.isClearing (ofReply said)
          chunks := o.provider.chunks ++ (o.provider.chunk said.1).toList }
        readings := o.readings ++ [⟨said.1, said.2, o.provider.chunk said.1⟩] } := by
      show o.handle = _
      unfold Observer.handle DeepgramWsTtsProvider.handle
      rw [holding]
      obtain ⟨reply, turn⟩ := said
      cases reply <;> rfl
    have armed : (o.step .handle).armed = o.armed := by
      rw [gives]
      unfold Observer.armed
      rw [holding]
      rfl
    have safe := ready.safe
    have clears := ready.clears
    have fits := ready.fits (ofReply said) (by rw [holding]; exact List.mem_cons_self)
    rw [← armed] at safe clears
    rw [gives] at safe clears ⊢
    refine ⟨⟨?_, ?_, ?_⟩, nofun, safe, clears, ready.sets, ready.counted, ready.pings⟩
    · have arrives := ready.belongs.arrives
      rw [holding] at arrives
      rw [List.map_append, List.append_assoc]
      exact arrives
    · rw [List.filterMap_append, ← ready.belongs.delivered]
      cases o.provider.chunk said.1 <;> rfl
    · intro reading held
      rcases List.mem_append.1 held with held | new
      · exact ready.belongs.right reading held
      · rw [List.mem_singleton.1 new]
        exact right_chunk fits

/-- **Something happens on the connection**: only what is on its way changes. -/
theorem Ready.repath (ready : Ready o) {conn : ManagedWs (DeepgramTtsMessage × String)}
    (said : List (DeepgramTtsReply × String)) {answered : Nat} {path : List Item}
    (leads : path = (o.provider.incoming ++ said).map ofReply ++
      ((conn.wire.drop answered).map ofMessage ++ conn.outgoing.map ofMessage))
    (safe : Safe o.provider.contextId o.cancelled o.armed path)
    (clears : o.armed = true → Clears path) (counted : answered ≤ conn.wire.length)
    (pings : conn.keepalive = some (.ping, "")) :
    Ready { o with
      provider := { o.provider with conn := conn, incoming := o.provider.incoming ++ said }
      served := o.served ++ said
      answered := answered } := by
  subst leads
  refine ⟨⟨?_, ready.belongs.delivered, ready.belongs.right⟩, ready.fits, safe, clears, ready.sets,
    counted, pings⟩
  show o.served ++ said = _ ++ (_ ++ (o.provider.incoming ++ said))
  rw [ready.belongs.arrives, List.append_assoc, List.append_assoc]

/-- Something happens on the connection, and the server says nothing. -/
theorem Ready.reconn (ready : Ready o) {conn : ManagedWs (DeepgramTtsMessage × String)}
    {answered : Nat} {path : List Item}
    (leads : path = o.provider.incoming.map ofReply ++
      ((conn.wire.drop answered).map ofMessage ++ conn.outgoing.map ofMessage))
    (safe : Safe o.provider.contextId o.cancelled o.armed path)
    (clears : o.armed = true → Clears path) (counted : answered ≤ conn.wire.length)
    (pings : conn.keepalive = some (.ping, "")) :
    Ready { o with provider := { o.provider with conn := conn }, answered := answered } := by
  have quiet : o.provider.incoming ++ [] = o.provider.incoming := List.append_nil _
  have next := ready.repath [] (by rwa [quiet]) safe clears counted pings
  rwa [quiet, List.append_nil] at next

/-- What the writer writes leaves the observer ready. -/
theorem ready_write (ready : Ready o) (proper : o.Proper .write) : Ready (o.step .write) := by
  show Ready { o with provider := { o.provider with conn := o.provider.conn.write } }
  unfold ManagedWs.write
  cases sending : o.provider.conn.outgoing with
  | nil => exact ready
  | cons message rest =>
    cases closing : o.provider.conn.closing with
    | true =>
      -- The message is lost.
      have unclear : ∀ item ∈ [ofMessage message], item.1 ≠ .clear := by
        intro item held
        rw [List.mem_singleton.1 held]
        have kept := proper closing message (by rw [sending]; rfl)
        obtain ⟨message, turn⟩ := message
        cases message with
        | clear => exact absurd rfl kept
        | _ => nofun
      have split : o.path = (o.provider.incoming.map ofReply ++ o.unanswered.map ofMessage) ++
          ([ofMessage message] ++ rest.map ofMessage) := by
        unfold Observer.path
        rw [sending, List.append_assoc]
        rfl
      have safe := ready.safe
      have clears := ready.clears
      rw [split] at safe clears
      refine ready.reconn ?_ (safe.drop unclear) (fun armed => (clears armed).drop unclear)
        ready.counted ready.pings
      exact List.append_assoc _ _ _
    | false =>
      have same : o.path = o.provider.incoming.map ofReply ++
          (((o.provider.conn.wire ++ [message]).drop o.answered).map ofMessage ++
            rest.map ofMessage) := by
        unfold Observer.path Observer.unanswered
        rw [sending, List.drop_append_of_le_length ready.counted, List.map_append, List.append_assoc]
        rfl
      refine ready.reconn same ready.safe ready.clears ?_ ready.pings
      have counted := ready.counted
      show o.answered ≤ (o.provider.conn.wire ++ [message]).length
      rw [List.length_append]
      omega

/-- What the keepalive writes. -/
theorem tick_eq {conn : ManagedWs (DeepgramTtsMessage × String)}
    (pings : conn.keepalive = some (.ping, "")) :
    conn.tick = { conn with
      wire := if conn.closing then conn.wire else conn.wire ++ [(.ping, "")] } := by
  obtain ⟨keepalive, outgoing, wire, closing⟩ := conn
  obtain rfl : keepalive = some (.ping, "") := pings
  rfl

/-- The keepalive asks for nothing. -/
theorem ready_tick (ready : Ready o) : Ready (o.step .tick) := by
  show Ready { o with provider := { o.provider with conn := o.provider.conn.tick } }
  rw [tick_eq ready.pings]
  cases closing : o.provider.conn.closing with
  | true => exact ready.reconn rfl ready.safe ready.clears ready.counted ready.pings
  | false =>
    have longer : (o.provider.incoming.map ofReply ++ o.unanswered.map ofMessage) ++
        ([(.quiet, "")] ++ o.provider.conn.outgoing.map ofMessage) =
          o.provider.incoming.map ofReply ++
            (((o.provider.conn.wire ++ [(DeepgramTtsMessage.ping, "")]).drop o.answered).map ofMessage ++
              o.provider.conn.outgoing.map ofMessage) := by
      rw [List.drop_append_of_le_length ready.counted, List.map_append, List.append_assoc,
        List.append_assoc]
      rfl
    have split : o.path = (o.provider.incoming.map ofReply ++ o.unanswered.map ofMessage) ++
        ([] ++ o.provider.conn.outgoing.map ofMessage) := (List.append_assoc _ _ _).symm
    have safe := ready.safe
    have clears := ready.clears
    rw [split] at safe clears
    refine ready.reconn longer ?_ ?_ ?_ ready.pings
    · apply safe.replace
      · intro clearing here
        exact ⟨trivial, trivial⟩
      · intro clearing
        rfl
    · intro armed
      have before := clears armed
      rw [clears_append] at before ⊢
      exact before.imp_right fun after => clears_append.2 (.inr after)
    · have counted := ready.counted
      show o.answered ≤ (o.provider.conn.wire ++ [(DeepgramTtsMessage.ping, "")]).length
      rw [List.length_append]
      omega

/-- The server says something that is not an answer. -/
theorem ready_remark (ready : Ready o) : Ready (o.step .remark) := by
  have longer : o.provider.incoming.map ofReply ++ ([(.quiet, "")] ++
      (o.unanswered.map ofMessage ++ o.provider.conn.outgoing.map ofMessage)) =
        (o.provider.incoming ++ [(DeepgramTtsReply.other, "")]).map ofReply ++
          (o.unanswered.map ofMessage ++ o.provider.conn.outgoing.map ofMessage) := by
    rw [List.map_append, List.append_assoc]
    rfl
  have safe : Safe o.provider.contextId o.cancelled o.armed (o.provider.incoming.map ofReply ++
      ([] ++ (o.unanswered.map ofMessage ++ o.provider.conn.outgoing.map ofMessage))) := ready.safe
  refine ready.repath [(.other, "")] longer ?_ ?_ ready.counted ready.pings
  · apply safe.replace
    · intro clearing here
      exact ⟨trivial, trivial⟩
    · intro clearing
      rfl
  · intro armed
    obtain before | after := clears_append.1 (ready.clears armed)
    · exact clears_append.2 (.inl before)
    · exact clears_append.2 (.inr (clears_append.2 (.inr after)))

/-- **The server answers a message**: what was to be the answer is the answer. -/
theorem ready_serve (ready : Ready o) (frames : List Bytes) : Ready (o.step (.serve frames)) := by
  show Ready (o.serve frames)
  unfold Observer.serve
  cases waiting : o.unanswered with
  | nil => exact ready
  | cons said rest =>
    obtain ⟨message, turn⟩ := said
    have counted : o.answered + 1 ≤ o.provider.conn.wire.length := by
      have some : (o.provider.conn.wire.drop o.answered).length = rest.length + 1 :=
        congrArg List.length waiting
      rw [List.length_drop] at some
      omega
    have less : o.provider.conn.wire.drop (o.answered + 1) = rest := by
      rw [← List.drop_drop, show o.provider.conn.wire.drop o.answered = _ from waiting]
      rfl
    -- The message that is answered is the first one behind what has come.
    have split : o.path = o.provider.incoming.map ofReply ++ ([ofMessage (message, turn)] ++
        (rest.map ofMessage ++ o.provider.conn.outgoing.map ofMessage)) := by
      unfold Observer.path
      rw [waiting]
      rfl
    -- Its answers take its place.
    have leads : o.provider.incoming.map ofReply ++
        (((answers frames message).map fun reply => ofReply (reply, turn)) ++
          (rest.map ofMessage ++ o.provider.conn.outgoing.map ofMessage)) =
        (o.provider.incoming ++ (answers frames message).map fun reply => (reply, turn)).map ofReply ++
          ((o.provider.conn.wire.drop (o.answered + 1)).map ofMessage ++
            o.provider.conn.outgoing.map ofMessage) := by
      rw [less, List.map_append, List.append_assoc, List.map_map]
      rfl
    have safe := ready.safe
    have clears := ready.clears
    rw [split] at safe clears
    refine ready.repath _ leads ?_ ?_ counted ready.pings
    · cases message with
      | speak text =>
        have frames := safe.frames frames
        rwa [answers, List.map_map]
      | flush => exact safe
      | clear => exact safe
      -- A ping has no answer, and none is needed.
      | ping => exact safe.drop (by intro item held; rw [List.mem_singleton.1 held]; nofun)
    · intro armed
      have before := clears armed
      cases message with
      | speak text =>
        have rest := before.drop (by intro item held; rw [List.mem_singleton.1 held]; nofun)
        obtain before | after := clears_append.1 rest
        · exact clears_append.2 (.inl before)
        · exact clears_append.2 (.inr (clears_append.2 (.inr after)))
      | flush => exact before
      | clear => exact before
      | ping => exact before.drop (by intro item held; rw [List.mem_singleton.1 held]; nofun)

/-- The server closes the connection. -/
theorem ready_close (ready : Ready o) (proper : o.Proper .close) : Ready (o.step .close) := by
  show Ready o.close
  unfold Observer.close
  split
  · have unclear : ∀ item ∈ o.unanswered.map ofMessage, item.1 ≠ .clear := by
      intro item held
      obtain ⟨⟨message, turn⟩, sent, rfl⟩ := List.mem_map.1 held
      have kept := proper _ sent
      cases message with
      | clear => exact absurd rfl kept
      | _ => nofun
    refine ready.reconn ?_ (ready.safe.drop unclear) (fun armed => (ready.clears armed).drop unclear)
      le_rfl ready.pings
    show _ = _ ++ ((o.provider.conn.wire.drop o.provider.conn.wire.length).map ofMessage ++ _)
    rw [List.drop_length]
    rfl
  · exact ready

/-- **Every proper step keeps what is kept.** -/
theorem ready_step (ready : Ready o) (action : Action) (proper : o.Proper action) :
    Ready (o.step action) := by
  cases action with
  | sendText text turn => exact ready_sendText ready text turn proper
  | flush turn => exact ready_flush ready turn proper
  | cancel turn => exact ready_cancel ready turn proper
  | receive => exact ready_receive ready
  | handle => exact ready_handle ready
  | write => exact ready_write ready proper
  | tick => exact ready_tick ready
  | reconnect => exact ready.reconn rfl ready.safe ready.clears ready.counted ready.pings
  | serve frames => exact ready_serve ready frames
  | remark => exact ready_remark ready
  | close => exact ready_close ready proper

end Steps

/-- **Audio belongs to its turn** in every run of proper steps. -/
theorem belongs_of_proper (actions : List Action)
    (proper : Along Observer.step Observer.Proper {} actions) :
    (run Observer.step {} actions).Belongs := by
  have start : Ready {} :=
    ⟨⟨rfl, rfl, nofun⟩, nofun, trivial, nofun, nofun, le_rfl, rfl⟩
  have keeps (o : Observer) (action : Action) :
      Ready o → o.Proper action → Ready (o.step action) := fun ready => ready_step ready action
  exact (invariant keeps start proper).belongs

instance decidableProper (o : Observer) (action : Action) : Decidable (o.Proper action) := by
  cases action <;> unfold Observer.Proper
  case sendText text turn =>
    unfold Observer.MayTurn
    infer_instance
  all_goals infer_instance

/-- A turn is cancelled while its audio is in flight, and the next one is heard. -/
def interrupts : List Action :=
  [.sendText "Hello" "a", .write, .serve [[1], [2]], .receive, .handle, .cancel "a", .write,
    .sendText "Hello" "b", .flush "b", .write, .write, .serve [], .serve [[3]], .serve [], .receive,
    .handle, .receive, .handle, .receive, .handle, .receive, .handle]

/-- Two turns, the first of them interrupted. -/
theorem belongs_of_proper_interrupts : (run Observer.step {} interrupts).Belongs :=
  belongs_of_proper interrupts (by decide +kernel)

/-- A turn is cancelled while the server closes the connection after it, and the next one is heard. -/
def losesClear : List Action :=
  [.sendText "Hello" "a", .flush "a", .write, .write, .serve [[1]], .serve [], .receive, .handle,
    .receive, .handle, .close, .cancel "a", .write, .reconnect, .sendText "Hello" "b", .flush "b",
    .write, .write, .serve [[2]], .serve [], .receive, .handle, .receive, .handle]

/-- Two turns are cancelled before the reader gets anything, and a third begins. -/
def interruptsTwice : List Action :=
  [.sendText "One" "a", .cancel "a", .sendText "Two" "b", .cancel "b", .sendText "Three" "c", .write,
    .write, .write, .write, .write, .serve [[1]], .serve [], .serve [[2]], .receive, .handle, .receive,
    .handle, .receive, .handle]

/-- **Audio goes astray.**  A turn whose `Flush` is answered is cancelled while the server closes the
connection: the `Clear` is lost, and the reader drops the audio of the next turn.  Two turns are
cancelled before the reader gets anything: after the first `Cleared` it takes the audio of the second
for that of the third. -/
theorem audio_astray :
    let lost := run Observer.step {} losesClear
    let mixed := run Observer.step {} interruptsTwice
    ("b" ∉ lost.cancelled ∧ ⟨.audio [2], "b", none⟩ ∈ lost.readings ∧ ¬ lost.Belongs) ∧
      ⟨.audio [2], "b", some ⟨[2], false, "c"⟩⟩ ∈ mixed.readings ∧ ¬ mixed.Belongs := by
  intro lost mixed
  have kept : "b" ∉ lost.cancelled := by decide +kernel
  have dropped : ⟨.audio [2], "b", none⟩ ∈ lost.readings := by decide +kernel
  have given : ⟨.audio [2], "b", some ⟨[2], false, "c"⟩⟩ ∈ mixed.readings := by decide +kernel
  refine ⟨⟨kept, dropped, ?_⟩, given, ?_⟩
  · intro belongs
    have whole := (belongs.right _ dropped).2 kept
    cases whole
  · intro belongs
    have same : "c" = "b" := (belongs.right _ given).1 _ rfl
    revert same
    decide

end SpeechContexts

end Feros
