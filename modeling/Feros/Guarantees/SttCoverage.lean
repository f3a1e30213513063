import Feros.Library.Run
import Feros.Library.Segments
import Feros.Providers.Stt
/-! # What a finalize covers

The audio that is fed is cut into segments by the calls of `finalize`, and the audio on the wire by
the requests.  **`Covered`** says that these are the same segments.  Where audio and control messages
go through one channel they are; where they go separate ways it depends on the order in which the
tasks run, which is what **`InTurn`** asks for. -/

namespace Feros

open Run Segments

namespace SttCoverage

/-- A call as an item of the stream of audio. -/
def called : SttCall → Item UInt8
  | .feedAudio pcm => .piece pcm
  | .finalize => .mark

/-- A message as an item of the stream of audio. -/
def sent : SttMessage → Item UInt8
  | .audio pcm => .piece pcm
  | .finalize => .mark
  | .keepAlive | .ping | .sessionUpdate _ _ | .close => .piece []

/-- The audio in an upload: what follows the header of the WAV. -/
def audioOf (upload : SttUpload) : Bytes := upload.file.drop 44

/-- An upload is of the audio it was given. -/
theorem audioOf_upload (pcm : Bytes) (p : SegmentedSttProvider) : audioOf (p.upload pcm) = pcm := by
  unfold audioOf SegmentedSttProvider.upload pcmToWav
  exact List.drop_left' (length_wavHeader _)

/-- **The audio of successive requests.** -/
def requests : SttProvider → List Bytes
  | .segmented p => p.uploads.map audioOf
  | p => segments (p.wire.map sent)

/-- The audio that the requests are to carry; a segmented provider makes no request without audio. -/
def expected (p : SttProvider) (calls : List SttCall) : List Bytes :=
  match p with
  | .segmented _ => (segments (calls.map called)).filter fun pcm => !pcm.isEmpty
  | _ => segments (calls.map called)

/-- A provider and what was called so far. -/
structure Observer where
  provider : SttProvider
  calls : List SttCall := []

namespace Observer

/-- One step, observed. -/
def step (o : Observer) (action : SttAction) : Observer where
  provider := o.provider.step action
  calls := match action with
    | .call c => o.calls ++ [c]
    | .task _ => o.calls

/-- **A finalize covers exactly the audio fed before it**: request by request, and over the session each
sample once and in order. -/
def Covered (o : Observer) : Prop :=
  requests o.provider <+: expected o.provider o.calls ∧
    (requests o.provider).flatten <+: carried (o.calls.map called)

/-- **The tasks keep to the order of the calls.** -/
def InTurn (o : Observer) (action : SttAction) : Prop :=
  match o.provider, action with
  -- The writer takes the message of the oldest call that was not written yet.
  | .builtin p, .task .write =>
    p.audioRx ≠ [] → o.calls[p.wire.length]? ≠ some .finalize
  | .builtin p, .task .writeControl =>
    p.controlRx ≠ [] → o.calls[p.wire.length]? = some .finalize
  -- All audio has gone through the resampler task when it is committed.
  | .openaiRealtime p, .call .finalize => p.audioRx = [] ∧ p.resampling = none
  -- The keepalive is audio that nobody has fed.
  | .cartesia _, .task .tick => False
  -- Uploads are posted in the order of their tasks.
  | .segmented p, .task (.post i) => ∀ task ∈ p.tasks.take i, ∀ upload, task ≠ .spawned upload
  | _, _ => True

end Observer

/-! ## Managed connections -/

section Connections

variable {ws : ManagedWs SttMessage}

/-- What is on the wire of a connection, and what will be. -/
def onWire (ws : ManagedWs SttMessage) : List (Item UInt8) := (ws.wire ++ ws.outgoing).map sent

/-- A message goes behind those on the wire. -/
theorem onWire_send (message : SttMessage) :
    onWire (ws.send message) = onWire ws ++ [sent message] := by
  unfold onWire ManagedWs.send
  dsimp only
  rw [← List.append_assoc, List.map_append]
  rfl

/-- Writing a message changes nothing about what will be on the wire. -/
theorem onWire_write (isOpen : ws.closing = false) : onWire ws.write = onWire ws := by
  unfold onWire ManagedWs.write
  cases queue : ws.outgoing with
  | nil =>
    dsimp only
    rw [queue]
  | cons message rest =>
    dsimp only
    rw [isOpen, if_neg Bool.false_ne_true, List.append_assoc]
    rfl

/-- Writing does not close the connection. -/
theorem closing_write : ws.write.closing = ws.closing := by
  unfold ManagedWs.write
  split <;> rfl

/-- Writing keeps the keepalive. -/
theorem keepalive_write : ws.write.keepalive = ws.keepalive := by
  unfold ManagedWs.write
  split <;> rfl

/-- A keepalive without audio makes no difference. -/
theorem cut_tick {message : SttMessage} (isOpen : ws.closing = false)
    (keepalive : ws.keepalive = some message) (silent : sent message = .piece [])
    (later : List (Item UInt8)) : cut (onWire ws.tick ++ later) = cut (onWire ws ++ later) := by
  unfold onWire ManagedWs.tick
  rw [keepalive]
  dsimp only
  rw [isOpen, if_neg Bool.false_ne_true, List.map_append, List.map_append, List.map_append,
    List.append_assoc, List.append_assoc, List.append_assoc]
  have kept : cut (ws.wire.map sent ++ [message].map sent) = cut (ws.wire.map sent) := by
    rw [List.map_singleton, silent]
    exact cut_concat_empty _
  rw [← List.append_assoc]
  exact cut_append_congr kept _

/-- A tick does not close the connection. -/
theorem closing_tick : ws.tick.closing = ws.closing := by
  unfold ManagedWs.tick
  split <;> rfl

/-- A tick keeps the keepalive. -/
theorem keepalive_tick : ws.tick.keepalive = ws.keepalive := by
  unfold ManagedWs.tick
  split <;> rfl

/-- The requests on the wire are those that will be there. -/
theorem segments_wire {stream later : List (Item UInt8)} (same : cut (onWire ws ++ later) = cut stream) :
    segments (ws.wire.map sent) <+: segments stream := by
  have longer : segments (onWire ws ++ later) = segments stream := congrArg Prod.fst same
  rw [← longer]
  unfold onWire
  rw [List.map_append, List.append_assoc]
  exact segments_append _ _

end Connections

/-! ## What is kept -/

/-- The message of a call. -/
def message : SttCall → SttMessage
  | .feedAudio pcm => .audio pcm
  | .finalize => .finalize

/-- The message of a call is sent as the call. -/
theorem sent_message (c : SttCall) : sent (message c) = called c := by
  cases c <;> rfl

/-- The audio of a call. -/
def fed : SttCall → Option Bytes
  | .feedAudio pcm => some pcm
  | .finalize => none

/-- The control message of a call. -/
def control : SttCall → Option SttMessage
  | .feedAudio _ => none
  | .finalize => some .finalize

/-- **The writer has written the messages of the first calls**, and its channels hold the rest. -/
def InOrder (p : BuiltinSttProvider) (calls : List SttCall) : Prop :=
  ∃ done rest, calls = done ++ rest ∧ p.wire = done.map message ∧ p.audioRx = rest.filterMap fed ∧
    p.controlRx = rest.filterMap control

/-- The upload of a task that has not run yet. -/
def waiting : SttTask → Option SttUpload
  | .spawned upload => some upload
  | .posted | .sending _ => none

/-- **What each provider keeps** while its tasks keep to the order of the calls. -/
def Kept (calls : List SttCall) : SttProvider → Prop
  | .builtin p => InOrder p calls
  | .deepgram p => p.conn.closing = false ∧ p.conn.keepalive = some .keepAlive ∧
    cut (onWire p.conn) = cut (calls.map called)
  | .cartesia p => p.conn.closing = false ∧ cut (onWire p.conn) = cut (calls.map called)
  | .openaiRealtime p => p.conn.closing = false ∧ p.conn.keepalive = some .ping ∧
    cut (onWire p.conn ++ (p.resampling.toList ++ p.audioRx).map .piece) = cut (calls.map called)
  | .segmented p => p.pcmBuffer = unclosed (calls.map called) ∧
    p.uploads ++ p.tasks.filterMap waiting =
      ((segments (calls.map called)).filter fun pcm => !pcm.isEmpty).map p.upload

/-! ## The builtin provider -/

section Builtin

variable {p : BuiltinSttProvider} {calls : List SttCall}

/-- The call whose message is next. -/
theorem next_call {done rest : List SttCall} (wire : p.wire = done.map message) :
    (done ++ rest)[p.wire.length]? = rest.head? := by
  rw [wire, List.length_map, List.getElem?_append_right (le_refl _), Nat.sub_self, List.head?_eq_getElem?]

/-- Audio goes behind the calls before it. -/
theorem inOrder_feedAudio (inOrder : InOrder p calls) (pcm : Bytes) :
    InOrder (p.feedAudio pcm) (calls ++ [.feedAudio pcm]) := by
  obtain ⟨done, rest, rfl, wire, audio, controls⟩ := inOrder
  refine ⟨done, rest ++ [.feedAudio pcm], List.append_assoc _ _ _, wire, ?_, ?_⟩
  · rw [List.filterMap_append, ← audio]
    rfl
  · rw [List.filterMap_append, ← controls]
    exact (List.append_nil _).symm

/-- The request for a transcript goes behind the calls before it. -/
theorem inOrder_finalize (inOrder : InOrder p calls) : InOrder p.finalize (calls ++ [.finalize]) := by
  obtain ⟨done, rest, rfl, wire, audio, controls⟩ := inOrder
  refine ⟨done, rest ++ [.finalize], List.append_assoc _ _ _, wire, ?_, ?_⟩
  · rw [List.filterMap_append, ← audio]
    exact (List.append_nil _).symm
  · rw [List.filterMap_append, ← controls]
    rfl

/-- The writer takes the audio of the oldest call. -/
theorem inOrder_writeAudio (inOrder : InOrder p calls)
    (inTurn : p.audioRx ≠ [] → calls[p.wire.length]? ≠ some .finalize) : InOrder p.writeAudio calls := by
  obtain ⟨done, rest, rfl, wire, audio, controls⟩ := inOrder
  unfold BuiltinSttProvider.writeAudio
  cases queue : p.audioRx with
  | nil => exact ⟨done, rest, rfl, wire, audio, controls⟩
  | cons pcm more =>
    have notMark := inTurn (by rw [queue]; exact List.cons_ne_nil _ _)
    rw [next_call wire] at notMark
    cases rest with
    | nil => cases queue.symm.trans audio
    | cons c rest =>
      cases c with
      | finalize => exact absurd rfl notMark
      | feedAudio first =>
        have heads : pcm = first ∧ more = rest.filterMap fed := List.cons.inj (queue.symm.trans audio)
        obtain ⟨rfl, rfl⟩ := heads
        refine ⟨done ++ [.feedAudio pcm], rest, ?_, ?_, rfl, controls⟩
        · exact (List.append_assoc done [_] rest).symm
        · rw [List.map_append, ← wire]
          rfl

/-- The writer takes the control message of the oldest call. -/
theorem inOrder_writeControl (inOrder : InOrder p calls)
    (inTurn : p.controlRx ≠ [] → calls[p.wire.length]? = some .finalize) :
    InOrder p.writeControl calls := by
  obtain ⟨done, rest, rfl, wire, audio, controls⟩ := inOrder
  unfold BuiltinSttProvider.writeControl
  cases queue : p.controlRx with
  | nil => exact ⟨done, rest, rfl, wire, audio, controls⟩
  | cons first more =>
    have isMark := inTurn (by rw [queue]; exact List.cons_ne_nil _ _)
    rw [next_call wire] at isMark
    cases rest with
    | nil => cases isMark
    | cons c rest =>
      obtain rfl : c = .finalize := Option.some.inj isMark
      have heads : first = .finalize ∧ more = rest.filterMap control :=
        List.cons.inj (queue.symm.trans controls)
      obtain ⟨rfl, rfl⟩ := heads
      refine ⟨done ++ [.finalize], rest, ?_, ?_, audio, rfl⟩
      · exact (List.append_assoc done [_] rest).symm
      · rw [List.map_append, ← wire]
        rfl

/-- The reader does not write. -/
theorem inOrder_read (inOrder : InOrder p calls) (msg : Except String SttResponseMsg) :
    InOrder (p.read msg) calls := by
  unfold BuiltinSttProvider.read
  split <;> exact inOrder

end Builtin

/-! ## Readers of managed connections -/

/-- The end of an utterance sends nothing. -/
theorem conn_endUtterance (res : DeepgramResult) (p : DeepgramSttProvider) :
    (p.endUtterance res).conn = p.conn := by
  unfold DeepgramSttProvider.endUtterance
  simp only [apply_ite DeepgramSttProvider.conn, ite_self]

/-- Reading from Deepgram sends nothing. -/
theorem conn_read_deepgram (msg : Except String DeepgramResult) (p : DeepgramSttProvider) :
    (p.read msg).conn = p.conn := by
  unfold DeepgramSttProvider.read DeepgramSttProvider.readResult
  cases msg with
  | error => rfl
  | ok res =>
    simp only [apply_ite DeepgramSttProvider.conn, conn_endUtterance, ite_self]

/-- Reading from Cartesia sends nothing. -/
theorem conn_read_cartesia (msg : Except String CartesiaTranscriptMsg) (p : CartesiaSttProvider) :
    (p.read msg).conn = p.conn := by
  unfold CartesiaSttProvider.read CartesiaSttProvider.readTranscript
  cases msg with
  | error => rfl
  | ok msg => simp only [apply_ite CartesiaSttProvider.conn, ite_self]

section Connected

variable {ws : ManagedWs SttMessage} {stream : List (Item UInt8)}

/-- A message goes to the channel of the connection when its call is made. -/
theorem cut_send (same : cut (onWire ws) = cut stream) (message : SttMessage) :
    cut (onWire (ws.send message)) = cut (stream ++ [sent message]) := by
  rw [onWire_send]
  exact cut_append_congr same _

/-- A message that is no audio overtakes audio that is still to come. -/
theorem cut_send_silent {message : SttMessage} (silent : sent message = .piece [])
    {later : List (Item UInt8)} (same : cut (onWire ws ++ later) = cut stream) :
    cut (onWire (ws.send message) ++ later) = cut stream := by
  rw [← same, onWire_send, silent]
  exact cut_append_congr (cut_concat_empty _) later

end Connected

/-! ## OpenAI Realtime -/

section OpenAI

variable {p : OpenAIRealtimeSttProvider} {calls : List SttCall}

/-- Audio for OpenAI is kept. -/
theorem kept_openai_feedAudio (kept : Kept calls (.openaiRealtime p)) (pcm : Bytes) :
    Kept (calls ++ [.feedAudio pcm]) (.openaiRealtime (p.feedAudio pcm)) := by
  obtain ⟨isOpen, keepalive, same⟩ := kept
  have longer : (calls ++ [SttCall.feedAudio pcm]).map called = calls.map called ++ [.piece pcm] :=
    List.map_append
  unfold OpenAIRealtimeSttProvider.feedAudio
  split
  · rename_i empty
    refine ⟨isOpen, keepalive, ?_⟩
    rw [longer, List.isEmpty_iff.1 empty, cut_concat_empty]
    exact same
  · refine ⟨isOpen, keepalive, ?_⟩
    show cut (onWire p.conn ++ (p.resampling.toList ++ (p.audioRx ++ [pcm])).map Item.piece) = _
    rw [longer, ← List.append_assoc, List.map_append, ← List.append_assoc]
    exact cut_append_congr same _

/-- **Audio is committed** when all of it has gone through the resampler task. -/
theorem kept_openai_finalize (kept : Kept calls (.openaiRealtime p))
    (drained : p.audioRx = [] ∧ p.resampling = none) :
    Kept (calls ++ [.finalize]) (.openaiRealtime p.finalize) := by
  obtain ⟨isOpen, keepalive, same⟩ := kept
  refine ⟨isOpen, keepalive, ?_⟩
  show cut (onWire (p.conn.send .finalize) ++ (p.resampling.toList ++ p.audioRx).map Item.piece) = _
  rw [drained.1, drained.2] at same ⊢
  rw [Option.toList_none, List.append_nil, List.map_nil, List.append_nil] at same ⊢
  rw [List.map_append]
  exact cut_send same .finalize

/-- The resampler task takes audio. -/
theorem kept_openai_resample (kept : Kept calls (.openaiRealtime p)) :
    Kept calls (.openaiRealtime p.resample) := by
  obtain ⟨isOpen, keepalive, same⟩ := kept
  unfold OpenAIRealtimeSttProvider.resample
  split
  · rename_i pcm rest idle queue
    refine ⟨isOpen, keepalive, ?_⟩
    rw [idle, queue] at same
    rw [← same]
    dsimp only
    split
    · rename_i empty
      rw [List.isEmpty_iff.1 empty]
      show cut (onWire p.conn ++ rest.map Item.piece) =
        cut (onWire p.conn ++ (.piece [] :: rest.map Item.piece))
      rw [List.append_cons]
      exact (cut_append_congr (cut_concat_empty _) _).symm
    · rfl
  · exact ⟨isOpen, keepalive, same⟩

/-- The resampler task passes audio on. -/
theorem kept_openai_append (kept : Kept calls (.openaiRealtime p)) :
    Kept calls (.openaiRealtime p.append) := by
  obtain ⟨isOpen, keepalive, same⟩ := kept
  unfold OpenAIRealtimeSttProvider.append
  cases held : p.resampling with
  | none =>
    refine ⟨isOpen, keepalive, ?_⟩
    dsimp only
    rw [held] at same ⊢
    exact same
  | some pcm =>
    refine ⟨isOpen, keepalive, ?_⟩
    show cut (onWire (p.conn.send (.audio pcm)) ++ (none.toList ++ p.audioRx).map Item.piece) = _
    rw [held] at same
    rw [onWire_send, List.append_assoc]
    exact same

/-- Reading from OpenAI loses nothing. -/
theorem kept_openai_read (kept : Kept calls (.openaiRealtime p)) (msg : Except String OpenAIEvent) :
    Kept calls (.openaiRealtime (p.read msg)) := by
  cases msg with
  | error => exact kept
  | ok event =>
    obtain ⟨isOpen, keepalive, same⟩ := kept
    cases event with
    | sessionCreated => exact ⟨isOpen, keepalive, cut_send_silent rfl same⟩
    | delta text =>
      show Kept calls (.openaiRealtime (p.readEvent (.delta text)))
      unfold OpenAIRealtimeSttProvider.readEvent
      dsimp only
      split <;> exact ⟨isOpen, keepalive, same⟩
    | completed text =>
      show Kept calls (.openaiRealtime (p.readEvent (.completed text)))
      unfold OpenAIRealtimeSttProvider.readEvent
      dsimp only
      split <;> exact ⟨isOpen, keepalive, same⟩
    | failed => exact ⟨isOpen, keepalive, same⟩
    | error => exact ⟨isOpen, keepalive, same⟩
    | ignored => exact ⟨isOpen, keepalive, same⟩

end OpenAI

/-! ## Segmented providers -/

section Segmented

variable {p : SegmentedSttProvider} {calls : List SttCall}

/-- Audio of a segment is kept. -/
theorem kept_segmented_feedAudio (kept : Kept calls (.segmented p)) (pcm : Bytes) :
    Kept (calls ++ [.feedAudio pcm]) (.segmented (p.feedAudio pcm)) := by
  obtain ⟨buffer, uploads⟩ := kept
  have longer : (calls ++ [SttCall.feedAudio pcm]).map called = calls.map called ++ [.piece pcm] :=
    List.map_append
  refine ⟨?_, ?_⟩
  · rw [longer, unclosed_concat_piece, ← buffer]
    rfl
  · rw [longer, segments_concat_piece]
    exact uploads

/-- **The buffer is drained into a task**, which holds its upload. -/
theorem kept_segmented_finalize (kept : Kept calls (.segmented p)) :
    Kept (calls ++ [.finalize]) (.segmented p.finalize) := by
  obtain ⟨buffer, uploads⟩ := kept
  have longer : (calls ++ [SttCall.finalize]).map called = calls.map called ++ [.mark] :=
    List.map_append
  refine ⟨?_, ?_⟩
  · rw [longer, unclosed_concat_mark]
    rfl
  · rw [longer, segments_concat_mark, ← buffer]
    show p.uploads ++ (p.tasks ++ [if p.pcmBuffer.isEmpty = true then
      SttTask.sending [.transcript ""] else .spawned (p.upload p.pcmBuffer)]).filterMap waiting = _
    rw [List.filterMap_append, ← List.append_assoc, uploads, List.filter_append, List.map_append]
    cases empty : p.pcmBuffer.isEmpty with
    | true =>
      rw [List.filter_singleton, empty]
      rfl
    | false =>
      rw [List.filter_singleton, empty]
      rfl

/-- A task that does not hold an upload is replaced by another. -/
theorem filterMap_set {tasks : List SttTask} {i : ℕ} {task : SttTask} (task' : SttTask)
    (found : tasks[i]? = some task) (free : waiting task = none) (free' : waiting task' = none) :
    (tasks.set i task').filterMap waiting = tasks.filterMap waiting := by
  induction tasks generalizing i with
  | nil => rfl
  | cons first tasks ih =>
    cases i with
    | zero =>
      obtain rfl : first = task := Option.some.inj found
      rw [List.set_cons_zero, List.filterMap_cons_none free', List.filterMap_cons_none free]
    | succ i =>
      have rest := ih found
      rw [List.set_cons_succ, List.filterMap_cons, List.filterMap_cons, rest]

/-- The first task that holds an upload gives it away. -/
theorem filterMap_post {tasks : List SttTask} {i : ℕ} {upload : SttUpload}
    (found : tasks[i]? = some (.spawned upload))
    (first : ∀ task ∈ tasks.take i, ∀ upload, task ≠ .spawned upload) :
    tasks.filterMap waiting = upload :: (tasks.set i .posted).filterMap waiting := by
  induction tasks generalizing i with
  | nil => cases found
  | cons head tasks ih =>
    cases i with
    | zero =>
      obtain rfl : head = .spawned upload := Option.some.inj found
      rfl
    | succ i =>
      have free : waiting head = none := by
        cases head with
        | spawned other => exact absurd rfl (first _ List.mem_cons_self other)
        | posted => rfl
        | sending => rfl
      rw [List.set_cons_succ, List.filterMap_cons_none free, List.filterMap_cons_none free]
      exact ih found fun task held => first task (List.mem_cons_of_mem _ held)

/-- **Uploads are posted in turn.** -/
theorem kept_segmented_post (kept : Kept calls (.segmented p)) {i : ℕ}
    (inTurn : ∀ task ∈ p.tasks.take i, ∀ upload, task ≠ .spawned upload) :
    Kept calls (.segmented (p.post i)) := by
  obtain ⟨buffer, uploads⟩ := kept
  unfold SegmentedSttProvider.post
  split
  · rename_i upload found
    rw [filterMap_post found inTurn, List.append_cons] at uploads
    exact ⟨buffer, uploads⟩
  · exact ⟨buffer, uploads⟩

/-- An answer to an upload loses nothing. -/
theorem kept_segmented_respond (kept : Kept calls (.segmented p)) (i : ℕ) (outcome : SttOutcome) :
    Kept calls (.segmented (p.respond i outcome)) := by
  obtain ⟨buffer, uploads⟩ := kept
  unfold SegmentedSttProvider.respond
  split
  · rename_i found
    rw [← filterMap_set (.sending outcome.events) found rfl rfl] at uploads
    exact ⟨buffer, uploads⟩
  · exact ⟨buffer, uploads⟩

/-- An event that is sent loses nothing. -/
theorem kept_segmented_sendNext (kept : Kept calls (.segmented p)) (i : ℕ) :
    Kept calls (.segmented (p.sendNext i)) := by
  obtain ⟨buffer, uploads⟩ := kept
  unfold SegmentedSttProvider.sendNext
  split
  · rename_i event events found
    rw [← filterMap_set (.sending events) found rfl rfl] at uploads
    exact ⟨buffer, uploads⟩
  · exact ⟨buffer, uploads⟩

end Segmented

/-! ## Runs -/

/-- **A call keeps what is kept.** -/
theorem kept_call {p : SttProvider} {calls : List SttCall} (kept : Kept calls p) (c : SttCall)
    (inTurn : Observer.InTurn ⟨p, calls⟩ (.call c)) : Kept (calls ++ [c]) (p.call c) := by
  have one (c : SttCall) : (calls ++ [c]).map called = calls.map called ++ [called c] :=
    List.map_append
  cases p with
  | builtin p =>
    cases c with
    | feedAudio pcm => exact inOrder_feedAudio kept pcm
    | finalize => exact inOrder_finalize kept
  | deepgram p =>
    obtain ⟨isOpen, keepalive, same⟩ := kept
    cases c with
    | feedAudio pcm =>
      refine ⟨isOpen, keepalive, ?_⟩
      rw [one]
      exact cut_send same (.audio pcm)
    | finalize =>
      refine ⟨isOpen, keepalive, ?_⟩
      rw [one]
      exact cut_send same .finalize
  | cartesia p =>
    obtain ⟨isOpen, same⟩ := kept
    cases c with
    | feedAudio pcm =>
      refine ⟨isOpen, ?_⟩
      rw [one]
      exact cut_send same (.audio pcm)
    | finalize =>
      refine ⟨isOpen, ?_⟩
      rw [one]
      exact cut_send same .finalize
  | openaiRealtime p =>
    cases c with
    | feedAudio pcm => exact kept_openai_feedAudio kept pcm
    | finalize => exact kept_openai_finalize kept inTurn
  | segmented p =>
    cases c with
    | feedAudio pcm => exact kept_segmented_feedAudio kept pcm
    | finalize => exact kept_segmented_finalize kept

/-- **A task that is in turn keeps what is kept.** -/
theorem kept_taskStep {p : SttProvider} {calls : List SttCall} (kept : Kept calls p) (t : SttTaskStep)
    (inTurn : Observer.InTurn ⟨p, calls⟩ (.task t)) : Kept calls (p.taskStep t) := by
  cases p with
  | builtin p =>
    cases t with
    | write => exact inOrder_writeAudio kept inTurn
    | writeControl => exact inOrder_writeControl kept inTurn
    | read msg =>
      cases msg with
      | builtin msg => exact inOrder_read kept msg
      | _ => exact kept
    | _ => exact kept
  | deepgram p =>
    obtain ⟨isOpen, keepalive, same⟩ := kept
    cases t with
    | write =>
      refine ⟨closing_write.trans isOpen, keepalive_write.trans keepalive, ?_⟩
      show cut (onWire p.conn.write) = _
      -- The writer moves what it holds to the wire.
      rw [onWire_write isOpen]
      exact same
    | tick =>
      refine ⟨closing_tick.trans isOpen, keepalive_tick.trans keepalive, ?_⟩
      -- A keepalive is no piece of the audio.
      have ticked := cut_tick isOpen keepalive rfl []
      rw [List.append_nil, List.append_nil] at ticked
      exact ticked.trans same
    | read msg =>
      cases msg with
      | deepgram msg =>
        show (p.read msg).conn.closing = false ∧ (p.read msg).conn.keepalive = some .keepAlive ∧
          cut (onWire (p.read msg).conn) = _
        rw [conn_read_deepgram]
        exact ⟨isOpen, keepalive, same⟩
      | _ => exact ⟨isOpen, keepalive, same⟩
    | _ => exact ⟨isOpen, keepalive, same⟩
  | cartesia p =>
    obtain ⟨isOpen, same⟩ := kept
    cases t with
    | write =>
      refine ⟨closing_write.trans isOpen, ?_⟩
      show cut (onWire p.conn.write) = _
      rw [onWire_write isOpen]
      exact same
    | tick => exact absurd inTurn id
    | read msg =>
      cases msg with
      | cartesia msg =>
        show (p.read msg).conn.closing = false ∧ cut (onWire (p.read msg).conn) = _
        rw [conn_read_cartesia]
        exact ⟨isOpen, same⟩
      | _ => exact ⟨isOpen, same⟩
    | _ => exact ⟨isOpen, same⟩
  | openaiRealtime p =>
    cases t with
    | write =>
      obtain ⟨isOpen, keepalive, same⟩ := kept
      refine ⟨closing_write.trans isOpen, keepalive_write.trans keepalive, ?_⟩
      show cut (onWire p.conn.write ++ _) = _
      rw [onWire_write isOpen]
      exact same
    | tick =>
      obtain ⟨isOpen, keepalive, same⟩ := kept
      refine ⟨closing_tick.trans isOpen, keepalive_tick.trans keepalive, ?_⟩
      exact (cut_tick isOpen keepalive rfl _).trans same
    | resample => exact kept_openai_resample kept
    | append => exact kept_openai_append kept
    | read msg =>
      cases msg with
      | openai msg => exact kept_openai_read kept msg
      | _ => exact kept
    | _ => exact kept
  | segmented p =>
    cases t with
    | post i => exact kept_segmented_post kept inTurn
    | respond i outcome => exact kept_segmented_respond kept i outcome
    | sendNext i => exact kept_segmented_sendNext kept i
    | read msg => cases msg <;> exact kept
    | _ => exact kept

/-- **What is kept covers what was asked for.** -/
theorem requests_of_kept {p : SttProvider} {calls : List SttCall} (kept : Kept calls p) :
    requests p <+: expected p calls := by
  cases p with
  | builtin p =>
    obtain ⟨done, rest, rfl, wire, -, -⟩ := kept
    show segments (p.wire.map sent) <+: segments ((done ++ rest).map called)
    have same : p.wire.map sent = done.map called := by
      rw [wire, List.map_map]
      exact List.map_congr_left fun c _ => sent_message c
    rw [same, List.map_append]
    exact segments_append _ _
  | deepgram p =>
    have same := kept.2.2
    rw [← List.append_nil (onWire p.conn)] at same
    exact segments_wire same
  | cartesia p =>
    have same := kept.2
    rw [← List.append_nil (onWire p.conn)] at same
    exact segments_wire same
  | openaiRealtime p => exact segments_wire kept.2.2
  | segmented p =>
    have posted := congrArg (List.map audioOf) kept.2
    rw [List.map_append, List.map_map] at posted
    have carries : audioOf ∘ p.upload = id := by
      funext pcm
      rw [Function.comp_apply, audioOf_upload]
      rfl
    rw [carries, List.map_id] at posted
    exact ⟨_, posted⟩

/-- Requests without audio carry nothing. -/
theorem flatten_expected (p : SttProvider) (calls : List SttCall) :
    (expected p calls).flatten = (segments (calls.map called)).flatten := by
  cases p with
  | segmented p =>
    show ((segments (calls.map called)).filter fun pcm => !pcm.isEmpty).flatten = _
    generalize segments (calls.map called) = parts
    induction parts with
    | nil => rfl
    | cons part parts ih =>
      cases part with
      | nil => exact ih
      | cons =>
        rw [List.filter_cons_of_pos rfl, List.flatten_cons, List.flatten_cons, ih]
  | _ => rfl

/-- **Each finalize covers exactly the audio fed before it**, while the tasks of its provider keep to
the order of the calls. -/
theorem covered_of_inTurn (cfg : SttProviderConfig) (actions : List SttAction)
    (inTurn : Along Observer.step Observer.InTurn ⟨buildSttProvider cfg, []⟩ actions) :
    (run Observer.step ⟨buildSttProvider cfg, []⟩ actions).Covered := by
  have start : Kept [] (buildSttProvider cfg) := by
    unfold buildSttProvider
    dsimp only
    split
    · exact ⟨rfl, rfl, rfl⟩
    · exact ⟨rfl, rfl⟩
    · exact ⟨rfl, rfl, rfl⟩
    · exact ⟨rfl, rfl⟩
    · exact ⟨rfl, rfl⟩
    · exact ⟨rfl, rfl⟩
    · exact ⟨[], [], rfl, rfl, rfl, rfl⟩
  have keeps (o : Observer) (action : SttAction) :
      Kept o.calls o.provider → o.InTurn action → Kept (o.step action).calls (o.step action).provider := by
    intro kept inTurn
    cases action with
    | call c => exact kept_call kept c inTurn
    | task t => exact kept_taskStep kept t inTurn
  have kept := invariant keeps start inTurn
  generalize run Observer.step ⟨buildSttProvider cfg, []⟩ actions = o at kept
  have covers := requests_of_kept kept
  refine ⟨covers, ?_⟩
  have carries := flatten_segments (o.calls.map called)
  rw [← flatten_expected o.provider] at carries
  obtain ⟨later, more⟩ := covers
  rw [← more, List.flatten_append, List.append_assoc] at carries
  exact ⟨_, carries⟩

/-- The configuration of a provider. -/
def configured (provider : String) : SttProviderConfig := ⟨provider, "key", "en-US", ""⟩

/-- A syllable is fed, and finalized. -/
def spoken : List SttAction := [.call (.feedAudio [1, 2]), .call .finalize]

instance decidableCovered (o : Observer) : Decidable o.Covered :=
  inferInstanceAs (Decidable (requests o.provider <+: expected o.provider o.calls ∧
    (requests o.provider).flatten <+: carried (o.calls.map called)))

/-- The audio of a turn is on the wire in front of its commit. -/
theorem covered_of_inTurn_realtime :
    (run Observer.step ⟨buildSttProvider (configured "openai-realtime"), []⟩
      [.call (.feedAudio [1, 2]), .task .resample, .task .append, .call .finalize, .task .write,
        .task .write]).Covered :=
  covered_of_inTurn (configured "openai-realtime") _
    ⟨trivial, trivial, trivial, ⟨rfl, rfl⟩, trivial, trivial, trivial⟩

/-- **A finalize overtakes the audio that was fed before it**: at OpenAI it is committed while the audio
waits for the resampler task, and the builtin provider takes the control message first; and the
keepalive of Cartesia becomes part of what is recognised. -/
theorem finalize_overtakes :
    let realtime := run Observer.step ⟨buildSttProvider (configured "openai-realtime"), []⟩
      (spoken ++ [.task .write, .task .resample, .task .append, .task .write])
    let builtin := run Observer.step ⟨buildSttProvider (configured "builtin"), []⟩
      (spoken ++ [.task .writeControl, .task .write])
    let cartesia := run Observer.step ⟨buildSttProvider (configured "cartesia"), []⟩
      (.task .tick :: spoken ++ [.task .write, .task .write])
    (realtime.provider.wire = [.finalize, .audio [1, 2]] ∧ ¬ realtime.Covered) ∧
      (builtin.provider.wire = [.finalize, .audio [1, 2]] ∧ ¬ builtin.Covered) ∧
      cartesia.provider.wire = [.audio silenceChunk, .audio [1, 2], .finalize] ∧
      (requests cartesia.provider).map (·.length) = [3202] := by
  refine ⟨⟨rfl, by decide +kernel⟩, ⟨rfl, by decide +kernel⟩, rfl, by decide +kernel⟩

end SttCoverage

end Feros
