import Feros.Trace.DbAdapter
import Feros.Library.Run
import Mathlib.Data.List.Flatten
/-! # From the event bus to the table `call_events`

Whatever the order in which the two tasks of the adapter, those who emit and the database take their steps:
the table holds rows of events that were on the bus, each at most once and in their order, under the numbers
the subscriber gave them; what is missing was dropped with a warning, or was in a statement that failed, or
is still on its way.  No wake-up of the writer is lost, and once the session is over it takes at most
twelve steps of the writer until it has ended with nothing left. -/

namespace Feros

namespace DbAdapter

open Run

variable {args : DbAdapterArgs} {s t : DbAdapter}

/-! ## Rows on their way -/

/-- What the writer holds besides its batch. -/
def inHand (s : DbAdapter) : List CallEventInsert :=
  match s.writer with
  | .addRest remaining => remaining
  | _ => []

/-- The rows the writer has taken out of the queue. -/
def taken (s : DbAdapter) : List CallEventInsert := s.inserts.flatMap (·.1) ++ s.batch ++ s.inHand

/-- The row the subscriber holds. -/
def atSubscriber (s : DbAdapter) : List CallEventInsert :=
  match s.subscriber with
  | .acquire event _ | .push event _ => [event]
  | _ => []

/-- **The rows that were not dropped**, from the first statement back to the subscriber. -/
def rows (s : DbAdapter) : List CallEventInsert := s.taken ++ s.queue ++ s.atSubscriber

/-- **What the writer does to the rows**: it moves them on. -/
structure Writes (s t : DbAdapter) : Prop where
  bus : t.bus = s.bus
  subscriber : t.subscriber = s.subscriber
  seq : t.seq = s.seq
  issued : t.issued = s.issued
  dropped : t.dropped = s.dropped
  moved : t.taken ++ t.queue = s.taken ++ s.queue

/-- A flush of the batch is a step of the writer. -/
theorem writes_flush (inserted : Bool) (s : DbAdapter) {place : WriterPlace} (free : s.inHand = [])
    (next : ({ s.flushBatch inserted with writer := place } : DbAdapter).inHand = []) :
    Writes s { s.flushBatch inserted with writer := place } := by
  unfold flushBatch at next ⊢
  by_cases empty : s.batch.isEmpty = true
  · rw [if_pos empty] at next ⊢
    exact ⟨rfl, rfl, rfl, rfl, rfl, by rw [taken, taken, free, next]⟩
  · rw [if_neg empty] at next ⊢
    refine ⟨rfl, rfl, rfl, rfl, rfl, ?_⟩
    rw [taken, taken, free, next]
    simp

/-- What comes after the queue was drained is a step of the writer. -/
theorem writes_afterDrain (done : Bool) {t : DbAdapter} (moved : t.inserts.flatMap (·.1) ++ t.batch ++ t.queue =
      s.taken ++ s.queue) (bus : t.bus = s.bus) (subscriber : t.subscriber = s.subscriber)
    (seq : t.seq = s.seq) (issued : t.issued = s.issued) (dropped : t.dropped = s.dropped) :
    Writes s (t.afterDrain args done) := by
  refine ⟨bus, subscriber, seq, issued, dropped, ?_⟩
  rw [← moved]
  unfold taken inHand afterDrain
  dsimp only
  split
  · next held =>
    split at held <;> cases held
  · rw [List.append_nil]

/-- **Every step of the writer moves rows on.** -/
theorem writes_step (tick inserted : Bool) (s : DbAdapter) :
    Writes s (s.writerStep args tick inserted) := by
  unfold writerStep
  rcases at_ : s.writer with - | done | ⟨drained, done⟩ | done | - | - | - | remaining | - | - <;>
    dsimp only
  · have free : s.inHand = [] := by rw [inHand, at_]
    split
    · exact ⟨rfl, rfl, rfl, rfl, rfl, by rw [taken, taken, free]; rfl⟩
    · split
      · exact ⟨rfl, rfl, rfl, rfl, rfl, by rw [taken, taken, free]; rfl⟩
      · split
        · exact ⟨rfl, rfl, rfl, rfl, rfl, by rw [taken, taken, free]; rfl⟩
        · exact ⟨rfl, rfl, rfl, rfl, rfl, rfl⟩
  -- What is taken from the queue goes to the batch.
  · have free : s.inHand = [] := by rw [inHand, at_]
    have moved : s.inserts.flatMap (·.1) ++ (s.batch ++ s.queue.take (min (args.config.batchTarget - s.batch.length)
        s.queue.length)) ++ s.queue.drop (min (args.config.batchTarget - s.batch.length) s.queue.length) =
          s.taken ++ s.queue := by
      rw [taken, free, List.append_nil, ← List.append_assoc, List.append_assoc _ (List.take _ _), List.take_append_drop]
    split
    · refine ⟨rfl, rfl, rfl, rfl, rfl, ?_⟩
      rw [← moved, taken]
      exact congrArg (· ++ _) (List.append_nil _)
    · exact writes_afterDrain done moved rfl rfl rfl rfl rfl
  · have free : s.inHand = [] := by rw [inHand, at_]
    refine writes_afterDrain done ?_ rfl rfl rfl rfl rfl
    rw [taken, free, List.append_nil]
  · have free : s.inHand = [] := by rw [inHand, at_]
    cases done with
    | false => exact writes_flush inserted s free rfl
    | true => exact writes_flush inserted s free rfl
  · have free : s.inHand = [] := by rw [inHand, at_]
    refine ⟨rfl, rfl, rfl, rfl, rfl, ?_⟩
    rw [taken, taken, free]
    split <;> rfl
  · have free : s.inHand = [] := by rw [inHand, at_]
    exact ⟨rfl, rfl, rfl, rfl, rfl, by rw [taken, taken, free]; rfl⟩
  -- What is left in the queue goes to the writer's hand.
  · have free : s.inHand = [] := by rw [inHand, at_]
    split
    · refine ⟨rfl, rfl, rfl, rfl, rfl, ?_⟩
      rw [taken, taken, free, List.append_nil, List.append_nil]
      rfl
    · refine ⟨rfl, rfl, rfl, rfl, rfl, ?_⟩
      rw [taken, taken, free]
      simp only [inHand, List.append_nil, List.append_assoc]
  -- What is in the hand goes to the batch.
  · have held : s.inHand = remaining := by rw [inHand, at_]
    refine ⟨rfl, rfl, rfl, rfl, rfl, ?_⟩
    rw [taken, taken, held]
    simp only [inHand, List.append_nil, List.append_assoc]
  · have free : s.inHand = [] := by rw [inHand, at_]
    exact writes_flush inserted s free rfl
  · exact ⟨rfl, rfl, rfl, rfl, rfl, rfl⟩

/-! ## The order of the rows -/

/-- **The rows come from the bus**, in its order. -/
structure Ordered (args : DbAdapterArgs) (s : DbAdapter) : Prop where
  valid : s.bus.Valid
  /-- What was not dropped is in the order in which it was made. -/
  order : s.rows.Sublist s.issued
  /-- Every row that is missing was dropped with a warning. -/
  count : s.rows.length + s.dropped = s.issued.length
  numbered : s.issued.map (·.seq) = List.range' 1 s.seq
  made : ∀ event ∈ s.issued, ∃ id now, event = row args event.seq id now event.payload
  read : (s.issued.map (·.payload)).Sublist (s.bus.past.filterMap args.stored)
  /-- Who misses nothing reads everything. -/
  all : s.bus.missed = 0 → s.issued.map (·.payload) = s.bus.past.filterMap args.stored

/-- The tasks that are spawned have done nothing. -/
theorem ordered_spawn (args : DbAdapterArgs) : Ordered args (spawn args) :=
  ⟨Broadcast.valid_listen, .slnil, rfl, rfl, nofun, .slnil, fun _ => rfl⟩

/-- A step that leaves the rows alone. -/
theorem Ordered.of_same (ordered : Ordered args s) (bus : t.bus = s.bus) (rows : t.rows = s.rows)
    (seq : t.seq = s.seq) (issued : t.issued = s.issued) (dropped : t.dropped = s.dropped) :
    Ordered args t := by
  refine ⟨?_, ?_, ?_, ?_, ?_, ?_, ?_⟩
  · rw [bus]
    exact ordered.valid
  · rw [rows, issued]
    exact ordered.order
  · rw [rows, issued, dropped]
    exact ordered.count
  · rw [issued, seq]
    exact ordered.numbered
  · rw [issued]
    exact ordered.made
  · rw [issued, bus]
    exact ordered.read
  · rw [issued, bus]
    exact ordered.all

/-- A step of the writer keeps the order. -/
theorem Ordered.writes (ordered : Ordered args s) (writes : Writes s t) : Ordered args t := by
  refine ordered.of_same writes.bus ?_ writes.seq writes.issued writes.dropped
  rw [rows, rows, writes.moved, atSubscriber, writes.subscriber]
  rfl

/-- The bus goes on: what is read stores nothing more, or something is missed. -/
structure Reads (args : DbAdapterArgs) (bus bus' : Broadcast BusEvent) : Prop where
  valid : bus'.Valid
  grown : bus.past <+: bus'.past
  missed : bus'.missed = 0 → bus.missed = 0 ∧
    bus'.past.filterMap args.stored = bus.past.filterMap args.stored

/-- A step that only reads the bus keeps the order. -/
theorem Ordered.reads (ordered : Ordered args s) (reads : Reads args s.bus t.bus) (rows : t.rows = s.rows)
    (seq : t.seq = s.seq) (issued : t.issued = s.issued) (dropped : t.dropped = s.dropped) :
    Ordered args t := by
  refine ⟨reads.valid, ?_, ?_, ?_, ?_, ?_, ?_⟩
  · rw [rows, issued]
    exact ordered.order
  · rw [rows, issued, dropped]
    exact ordered.count
  · rw [issued, seq]
    exact ordered.numbered
  · rw [issued]
    exact ordered.made
  · rw [issued]
    exact ordered.read.trans (reads.grown.sublist.filterMap args.stored)
  · intro none
    obtain ⟨before, same⟩ := reads.missed none
    rw [issued]
    exact (ordered.all before).trans same.symm

/-- What is stored of an event that its category is not filtered for. -/
theorem stored_of_category {raw : BusEvent} (wanted : raw.category ∈ args.config.categoriesSet) :
    args.stored raw = (SinkEvent.fromEvent raw).filter fun dbEv => args.config.wantsType dbEv.eventTypeName :=
  if_pos wanted

/-- **What the subscriber does with an event it received.** -/
theorem handle_cases (args : DbAdapterArgs) (id : ℕ) (now : Instant) {raw : BusEvent} (s : DbAdapter)
    (wanted : raw.category ∈ args.config.categoriesSet) :
    (args.stored raw = none ∧ s.handle args id now raw = s.skip (raw = .event .sessionEnded)) ∨
    ∃ dbEv place, args.stored raw = some dbEv ∧
      (place = .acquire (row args (s.seq + 1) id now dbEv) (raw = .event .sessionEnded) ∧
          args.config.dropPolicy = .block ∨
        place = .push (row args (s.seq + 1) id now dbEv) (raw = .event .sessionEnded) ∧
          args.config.dropPolicy ≠ .block) ∧
      s.handle args id now raw =
        { s with
          seq := s.seq + 1
          issued := s.issued ++ [row args (s.seq + 1) id now dbEv]
          subscriber := place } := by
  rw [stored_of_category wanted]
  unfold handle
  rcases projected : SinkEvent.fromEvent raw with - | dbEv
  · exact .inl ⟨rfl, rfl⟩
  · dsimp only
    by_cases wants : args.config.wantsType dbEv.eventTypeName = true
    · refine .inr ⟨dbEv, _, ?_, ?_, if_pos wants⟩
      · exact Option.filter_some_pos wants
      · by_cases block : args.config.dropPolicy = .block
        · exact .inl ⟨if_pos block, block⟩
        · exact .inr ⟨if_neg block, block⟩
    · refine .inl ⟨?_, if_neg wants⟩
      exact Option.filter_some_neg (Bool.eq_false_iff.2 wants)

/-- **What the subscriber does where it reads the bus**: it goes on, or stops, or leaves the loop behind
`SessionEnded`, or makes a row. -/
theorem receive_cases (args : DbAdapterArgs) (id : ℕ) (now : Instant) (valid : s.bus.Valid)
    (at_ : s.subscriber = .recv) :
    (∃ bus, s.receive args id now = { s with bus := bus } ∧ Reads args s.bus bus) ∨
    (s.receive args id now = { s with subscriber := .ended }) ∨
    (∃ bus, s.receive args id now = { s with bus := bus, subscriber := .notifyOver } ∧ Reads args s.bus bus ∧
      bus.past = s.bus.past ++ [.event .sessionEnded] ∧ EventCategory.session ∈ args.config.categoriesSet) ∨
    ∃ bus raw dbEv place, bus.Valid ∧ bus.past = s.bus.past ++ [raw] ∧ bus.missed = s.bus.missed ∧
      raw.category ∈ args.config.categoriesSet ∧ args.stored raw = some dbEv ∧
      (place = .acquire (row args (s.seq + 1) id now dbEv) (raw = .event .sessionEnded) ∧
          args.config.dropPolicy = .block ∨
        place = .push (row args (s.seq + 1) id now dbEv) (raw = .event .sessionEnded) ∧
          args.config.dropPolicy ≠ .block) ∧
      s.receive args id now =
        { s with
          bus := bus
          seq := s.seq + 1
          issued := s.issued ++ [row args (s.seq + 1) id now dbEv]
          subscriber := place } := by
  have reads {raw : BusEvent} {bus : Broadcast BusEvent} (valid : bus.Valid)
      (past : bus.past = s.bus.past ++ [raw]) (missed : bus.missed = s.bus.missed)
      (nothing : args.stored raw = none) : Reads args s.bus bus := by
    refine ⟨valid, past ▸ List.prefix_append _ _, fun none => ⟨missed ▸ none, ?_⟩⟩
    rw [past, List.filterMap_append, List.filterMap_cons_none nothing, List.filterMap_nil, List.append_nil]
  unfold receive
  rcases s.bus.recv_cases busCapacity with
    ⟨raw, received, valid, past⟩ | ⟨gone, positive, received, inside⟩ | received | received
  -- An event is read: it is stored, it ends the session without being stored, or it is skipped.
  · rw [received]
    generalize next : { s.bus with next := s.bus.next + 1 } = bus at valid past
    have missed : bus.missed = s.bus.missed := next ▸ rfl
    dsimp only
    by_cases wanted : raw.category ∈ args.config.categoriesSet
    · rw [if_pos wanted]
      rcases handle_cases args id now { s with bus := bus } wanted with
        ⟨nothing, skipped⟩ | ⟨dbEv, place, stored, placed, made⟩
      · rw [skipped]
        by_cases isEnd : raw = .event .sessionEnded
        · refine .inr (.inr (.inl ⟨bus, ?_, reads valid past missed nothing, isEnd ▸ past, ?_⟩))
          · rw [skip, decide_eq_true isEnd]
            rfl
          · rw [isEnd] at wanted
            exact wanted
        · refine .inl ⟨bus, ?_, reads valid past missed nothing⟩
          rw [skip, decide_eq_false isEnd, ← at_]
          rfl
      · exact .inr (.inr (.inr ⟨bus, raw, dbEv, place, valid, past, missed, wanted, stored, placed, made⟩))
    · rw [if_neg wanted]
      exact .inl ⟨bus, rfl, reads valid past missed (if_neg wanted)⟩
  -- The receiver lags and skips what it has missed.
  · rw [received]
    refine .inl ⟨_, rfl, inside, List.take_prefix_take_left (Nat.le_add_right _ _), fun none => ?_⟩
    dsimp only at none
    omega
  -- Nothing is there yet.
  · rw [received]
    exact .inl ⟨s.bus, rfl, valid, List.prefix_refl _, fun none => ⟨none, rfl⟩⟩
  -- The channel is closed.
  · rw [received]
    exact .inr (.inl rfl)

/-- A row is made. -/
theorem Ordered.makes (ordered : Ordered args s) (free : s.atSubscriber = []) {raw : BusEvent}
    {dbEv : SinkEvent} (past : t.bus.past = s.bus.past ++ [raw]) (valid : t.bus.Valid)
    (missed : t.bus.missed = s.bus.missed) (stored : args.stored raw = some dbEv) {id : ℕ} {now : Instant}
    (taken : t.taken = s.taken) (queue : t.queue = s.queue) (dropped : t.dropped = s.dropped)
    (seq : t.seq = s.seq + 1) (issued : t.issued = s.issued ++ [row args (s.seq + 1) id now dbEv])
    (held : t.atSubscriber = [row args (s.seq + 1) id now dbEv]) : Ordered args t := by
  have rows : t.rows = s.rows ++ [row args (s.seq + 1) id now dbEv] := by
    rw [DbAdapter.rows, DbAdapter.rows, free, taken, queue, held, List.append_nil]
  have stores : t.bus.past.filterMap args.stored = s.bus.past.filterMap args.stored ++ [dbEv] := by
    rw [past, List.filterMap_append, List.filterMap_cons_some stored]
    rfl
  refine ⟨valid, ?_, ?_, ?_, ?_, ?_, ?_⟩
  · rw [rows, issued]
    exact ordered.order.append_right _
  · have count := ordered.count
    rw [rows, issued, dropped, List.length_append, List.length_append, List.length_singleton]
    omega
  · rw [issued, seq, List.map_append, ordered.numbered, List.range'_concat, Nat.one_mul, Nat.add_comm 1]
    rfl
  · rw [issued]
    intro event made
    rcases List.mem_append.1 made with before | last
    · exact ordered.made event before
    · exact ⟨id, now, List.mem_singleton.1 last ▸ rfl⟩
  · rw [issued, stores, List.map_append]
    exact ordered.read.append_right _
  · intro none
    rw [issued, stores, List.map_append, ordered.all (missed ▸ none)]
    rfl

/-- The row the subscriber holds goes into the queue, or it or the oldest row is dropped. -/
theorem push_cases (args : DbAdapterArgs) (event : CallEventInsert) (isEnd : Bool) (s : DbAdapter) :
    (s.push args event isEnd =
        { s with subscriber := .notifyData isEnd, queue := s.queue ++ [event] } ∧
      (args.config.dropPolicy = .block ∨ s.queue.length < args.config.queueCap)) ∨
    (s.push args event isEnd = { s with subscriber := .notifyData isEnd, dropped := s.dropped + 1 } ∧
      args.config.dropPolicy ≠ .block ∧ args.config.queueCap ≤ s.queue.length) ∨
    (s.push args event isEnd =
        { s with
          subscriber := .notifyData isEnd
          queue := s.queue.tail ++ [event]
          dropped := s.dropped + 1 } ∧
      args.config.dropPolicy = .dropOldest ∧ args.config.queueCap ≤ s.queue.length) := by
  unfold push
  rcases policy : args.config.dropPolicy
  · by_cases room : s.queue.length < args.config.queueCap
    · exact .inl ⟨if_pos room, .inr room⟩
    · exact .inr (.inl ⟨if_neg room, nofun, Nat.le_of_not_lt room⟩)
  · by_cases room : s.queue.length ≥ args.config.queueCap
    · exact .inr (.inr ⟨if_pos room, rfl, room⟩)
    · exact .inl ⟨if_neg room, .inr (Nat.lt_of_not_le room)⟩
  · exact .inl ⟨rfl, .inl rfl⟩
  · by_cases room : s.queue.length < args.config.queueCap
    · exact .inl ⟨if_pos room, .inr room⟩
    · exact .inr (.inl ⟨if_neg room, nofun, Nat.le_of_not_lt room⟩)

/-- The queue has room for a row. -/
theorem queueCap_pos (config : DbAdapterConfig) : 0 < config.queueCap := Nat.le_max_right _ _

/-- The rows, when the subscriber holds none. -/
theorem rows_free (free : t.atSubscriber = []) : t.rows = t.taken ++ t.queue := by
  rw [rows, free, List.append_nil]

/-- **A row that is pushed keeps the order**, also when it makes another one fall out of the queue. -/
theorem Ordered.push (ordered : Ordered args s) {event : CallEventInsert} {isEnd : Bool}
    (at_ : s.subscriber = .push event isEnd) : Ordered args (s.push args event isEnd) := by
  have held : s.rows = s.taken ++ s.queue ++ [event] := by rw [rows, atSubscriber, at_]
  have order := ordered.order
  have count := ordered.count
  rw [held] at order count
  simp only [List.length_append, List.length_singleton] at count
  rcases s.push_cases args event isEnd with ⟨pushed, -⟩ | ⟨pushed, -, -⟩ | ⟨pushed, -, full⟩
  -- The row is queued.
  · rw [pushed]
    refine ordered.of_same rfl ?_ rfl rfl rfl
    rw [held, rows_free rfl, List.append_assoc]
    rfl
  -- The row is dropped, as the newest.
  · have rows : (s.push args event isEnd).rows = s.taken ++ s.queue := by
      rw [pushed, rows_free rfl]
      rfl
    refine ⟨?_, ?_, ?_, ?_, ?_, ?_, ?_⟩
    · rw [pushed]
      exact ordered.valid
    · rw [rows, pushed]
      exact (List.sublist_append_left _ [event]).trans order
    · rw [rows, pushed, List.length_append]
      dsimp only
      omega
    · rw [pushed]
      exact ordered.numbered
    · rw [pushed]
      exact ordered.made
    · rw [pushed]
      exact ordered.read
    · rw [pushed]
      exact ordered.all
  -- The oldest queued row is dropped, so the queue was not empty.
  · have rows : (s.push args event isEnd).rows = s.taken ++ (s.queue.tail ++ [event]) := by
      rw [pushed, rows_free rfl]
      rfl
    have shorter : s.queue.tail.length + 1 = s.queue.length := by
      have positive := (queueCap_pos args.config).trans_le full
      rw [List.length_tail]
      omega
    refine ⟨?_, ?_, ?_, ?_, ?_, ?_, ?_⟩
    · rw [pushed]
      exact ordered.valid
    · rw [rows, pushed, ← List.append_assoc]
      have tail := (List.tail_sublist s.queue).append_left s.taken
      exact (tail.append_right [event]).trans order
    · rw [rows, pushed]
      simp only [List.length_append, List.length_singleton]
      omega
    · rw [pushed]
      exact ordered.numbered
    · rw [pushed]
      exact ordered.made
    · rw [pushed]
      exact ordered.read
    · rw [pushed]
      exact ordered.all

/-- **The order of the rows is kept by every step.** -/
theorem ordered_step (s : DbAdapter) (action : DbAction) (ordered : Ordered args s) :
    Ordered args (s.step args action) := by
  cases action with
  | emit event =>
    have past := Broadcast.past_send ordered.valid event
    have reads : Reads args s.bus (s.bus.send event) := by
      refine ⟨ordered.valid.send event, ?_, fun none => ⟨(s.bus.send_missed event).symm.trans none, ?_⟩⟩
      · exact past ▸ List.prefix_refl _
      · rw [past]
    exact ordered.reads reads rfl rfl rfl rfl
  | close =>
    have reads : Reads args s.bus s.bus.close := ⟨ordered.valid, List.prefix_refl _, fun none => ⟨none, rfl⟩⟩
    exact ordered.reads reads rfl rfl rfl rfl
  | writer tick inserted => exact ordered.writes (s.writes_step tick inserted)
  | subscriber id now =>
    change Ordered args (s.subscriberStep args id now)
    unfold subscriberStep
    rcases at_ : s.subscriber with - | ⟨event, isEnd⟩ | ⟨event, isEnd⟩ | isEnd | - | - <;>
      dsimp only
    -- Receiving: a row is made of the next event, or none.
    · have free : s.atSubscriber = [] := by rw [atSubscriber, at_]
      rcases receive_cases args id now ordered.valid at_ with ⟨bus, received, reads⟩ | received |
          ⟨bus, received, reads, -⟩ |
          ⟨bus, raw, dbEv, place, valid, past, missed, -, stored, placed, received⟩
      · rw [received]
        exact ordered.reads reads rfl rfl rfl rfl
      · rw [received]
        refine ordered.of_same rfl ?_ rfl rfl rfl
        rw [rows_free rfl, rows_free free]
        rfl
      · rw [received]
        refine ordered.reads reads ?_ rfl rfl rfl
        rw [rows_free rfl, rows_free free]
        rfl
      · rw [received]
        refine ordered.makes free past valid missed stored rfl rfl rfl rfl rfl ?_
        rcases placed with ⟨rfl, -⟩ | ⟨rfl, -⟩ <;> rfl
    -- Waiting for a permit: the row in hand stays the newest.
    · have held : s.rows = s.taken ++ s.queue ++ [event] := by rw [rows, atSubscriber, at_]
      unfold acquire
      split
      · exact ordered.of_same rfl (held ▸ rfl) rfl rfl rfl
      · exact ordered
      · exact ordered.of_same rfl (held ▸ rfl) rfl rfl rfl
    · exact ordered.push at_
    -- Notifying: the row is in the queue already.
    · have free : s.atSubscriber = [] := by rw [atSubscriber, at_]
      refine ordered.of_same rfl ?_ rfl rfl rfl
      have freed : ({ s with dataReady := true, subscriber := if isEnd then .notifyOver else .recv } :
          DbAdapter).atSubscriber = [] := by
        cases isEnd <;> rfl
      rw [rows_free freed, rows_free free]
      rfl
    · have free : s.atSubscriber = [] := by rw [atSubscriber, at_]
      refine ordered.of_same rfl ?_ rfl rfl rfl
      rw [rows_free rfl, rows_free free]
      rfl
    · exact ordered

/-! ## Room in the queue -/

/-- A permit that was taken for a row that is not queued yet. -/
def reserved (s : DbAdapter) : ℕ :=
  match s.subscriber with
  | .push _ _ => 1
  | _ => 0

/-- Permits that the writer has yet to give back. -/
def owed (s : DbAdapter) : ℕ :=
  match s.writer with
  | .addPermits drained _ => drained
  | .addRest remaining => remaining.length
  | _ => 0

/-- **The queue stays within its capacity**: by dropping rows, or because of the permits. -/
structure Room (args : DbAdapterArgs) (s : DbAdapter) : Prop where
  permits : args.config.dropPolicy = .block → ∃ permits, s.blockSem = some permits ∧
    permits + s.reserved + s.queue.length + s.owed = args.config.queueCap ∧ s.dropped = 0
  noPermits : args.config.dropPolicy ≠ .block → s.blockSem = none ∧ s.queue.length ≤ args.config.queueCap
  waits : ∀ event isEnd, s.subscriber = .acquire event isEnd → args.config.dropPolicy = .block

/-- At the start all the permits are there. -/
theorem room_spawn (args : DbAdapterArgs) : Room args (spawn args) where
  permits block := ⟨args.config.queueCap, if_pos block, rfl, rfl⟩
  noPermits notBlock := ⟨if_neg notBlock, Nat.zero_le _⟩
  waits _ _ held := by cases held

/-- A step that leaves queue and permits alone leaves the room. -/
theorem Room.of_same (room : Room args s) (blockSem : t.blockSem = s.blockSem) (reserved : t.reserved = s.reserved)
    (queue : t.queue = s.queue) (owed : t.owed = s.owed) (dropped : t.dropped = s.dropped)
    (waits : ∀ event isEnd, t.subscriber = .acquire event isEnd → args.config.dropPolicy = .block) :
    Room args t := by
  refine ⟨?_, ?_, waits⟩
  · rw [blockSem, reserved, queue, owed, dropped]
    exact room.permits
  · rw [blockSem, queue]
    exact room.noPermits

/-- The queue never holds more rows than it may. -/
theorem Room.length_le (room : Room args s) : s.queue.length ≤ args.config.queueCap := by
  by_cases block : args.config.dropPolicy = .block
  · obtain ⟨permits, -, sum, -⟩ := room.permits block
    omega
  · exact (room.noPermits block).2

/-- When the queue was drained, the permits are given back. -/
theorem owed_afterDrain (done : Bool) (s : DbAdapter) : (s.afterDrain args done).owed = 0 := by
  unfold owed afterDrain
  dsimp only
  split
  · next held => split at held <;> cases held
  · next held => split at held <;> cases held
  · rfl

/-- A flush leaves the queue and the permits alone. -/
theorem flushBatch_other (inserted : Bool) (s : DbAdapter) :
    (s.flushBatch inserted).blockSem = s.blockSem ∧ (s.flushBatch inserted).queue = s.queue ∧
      (s.flushBatch inserted).dropped = s.dropped ∧ (s.flushBatch inserted).subscriber = s.subscriber := by
  unfold flushBatch
  split <;> exact ⟨rfl, rfl, rfl, rfl⟩

/-- A flush keeps the room. -/
theorem Room.flush (room : Room args s) (inserted : Bool) {place : WriterPlace}
    (owed : ({ s.flushBatch inserted with writer := place } : DbAdapter).owed = s.owed) :
    Room args { s.flushBatch inserted with writer := place } := by
  obtain ⟨blockSem, queue, dropped, subscriber⟩ := s.flushBatch_other inserted
  refine room.of_same blockSem ?_ queue owed dropped ?_
  · rw [reserved, reserved]
    dsimp only
    rw [subscriber]
  · dsimp only
    rw [subscriber]
    exact room.waits

/-- A step of the writer keeps the room. -/
theorem Room.writer (room : Room args s) (tick inserted : Bool) :
    Room args (s.writerStep args tick inserted) := by
  have waits := room.waits
  unfold writerStep
  rcases at_ : s.writer with - | done | ⟨drained, done⟩ | done | - | - | - | remaining | - | - <;>
    dsimp only
  -- Waiting: no permit is owed, and the queue stays as it is.
  · have none : s.owed = 0 := by rw [owed, at_]
    split
    · exact room.of_same rfl rfl rfl none.symm rfl waits
    · split
      · exact room.of_same rfl rfl rfl none.symm rfl waits
      · split
        · exact room.of_same rfl rfl rfl none.symm rfl waits
        · exact room
  -- Draining: the permits of what is taken are owed from now on.
  · have none : s.owed = 0 := by rw [owed, at_]
    generalize taken : min (args.config.batchTarget - s.batch.length) s.queue.length = k
    have inside : k ≤ s.queue.length := taken ▸ Nat.min_le_right _ _
    refine ⟨fun block => ?_, fun notBlock => ?_, ?_⟩
    · obtain ⟨permits, held, sum, kept⟩ := room.permits block
      rw [held]
      by_cases positive : 0 < k
      · rw [if_pos (by simp [positive])]
        refine ⟨permits, rfl, ?_, kept⟩
        have length := List.length_drop (i := k) (l := s.queue)
        change permits + s.reserved + (s.queue.drop k).length + k = _
        omega
      · rw [if_neg (by simp [positive])]
        refine ⟨permits, rfl, ?_, kept⟩
        rw [owed_afterDrain]
        have length := List.length_drop (i := k) (l := s.queue)
        change permits + s.reserved + (s.queue.drop k).length + 0 = _
        omega
    · obtain ⟨free, fits⟩ := room.noPermits notBlock
      rw [free, if_neg (by simp)]
      refine ⟨rfl, ?_⟩
      have length := List.length_drop (i := k) (l := s.queue)
      change (s.queue.drop k).length ≤ _
      omega
    · split
      · exact waits
      · exact waits
  -- The owed permits are given back.
  · have some : s.owed = drained := by rw [owed, at_]
    refine ⟨fun block => ?_, fun notBlock => ?_, waits⟩
    · obtain ⟨permits, held, sum, kept⟩ := room.permits block
      refine ⟨permits + drained, ?_, ?_, kept⟩
      · change s.blockSem.map _ = _
        rw [held]
        rfl
      · rw [owed_afterDrain]
        change permits + drained + s.reserved + s.queue.length + 0 = _
        omega
    · obtain ⟨free, fits⟩ := room.noPermits notBlock
      refine ⟨?_, fits⟩
      change s.blockSem.map _ = _
      rw [free]
      rfl
  -- A flush touches neither the queue nor its permits.
  · have none : s.owed = 0 := by rw [owed, at_]
    cases done with
    | false => exact room.flush inserted none.symm
    | true => exact room.flush inserted none.symm
  · have none : s.owed = 0 := by rw [owed, at_]
    refine room.of_same rfl rfl rfl ?_ rfl waits
    rw [none, owed]
    dsimp only
    split
    · next held => split at held <;> cases held
    · next held => split at held <;> cases held
    · rfl
  · have none : s.owed = 0 := by rw [owed, at_]
    exact room.of_same rfl rfl rfl none.symm rfl waits
  -- At the end the whole queue is taken at once, its permits are owed.
  · have none : s.owed = 0 := by rw [owed, at_]
    refine ⟨fun block => ?_, fun notBlock => ?_, ?_⟩
    · obtain ⟨permits, held, sum, kept⟩ := room.permits block
      rw [held]
      refine ⟨permits, rfl, ?_, kept⟩
      change permits + s.reserved + 0 + s.queue.length = _
      omega
    · obtain ⟨free, fits⟩ := room.noPermits notBlock
      rw [free]
      exact ⟨rfl, Nat.zero_le _⟩
    · split
      · exact waits
      · exact waits
  -- They are given back as well.
  · have some : s.owed = remaining.length := by rw [owed, at_]
    refine ⟨fun block => ?_, fun notBlock => ?_, waits⟩
    · obtain ⟨permits, held, sum, kept⟩ := room.permits block
      refine ⟨permits + remaining.length, ?_, ?_, kept⟩
      · change s.blockSem.map _ = _
        rw [held]
        rfl
      · change permits + remaining.length + s.reserved + s.queue.length + 0 = _
        omega
    · obtain ⟨free, fits⟩ := room.noPermits notBlock
      refine ⟨?_, fits⟩
      change s.blockSem.map _ = _
      rw [free]
      rfl
  · have none : s.owed = 0 := by rw [owed, at_]
    exact room.flush inserted none.symm
  · exact room

/-- A subscriber that is elsewhere holds no permit and waits for none. -/
theorem Room.moves (room : Room args s) (blockSem : t.blockSem = s.blockSem) (queue : t.queue = s.queue)
    (writer : t.writer = s.writer) (dropped : t.dropped = s.dropped) (before : s.reserved = 0)
    (after : t.reserved = 0)
    (waits : ∀ event isEnd, t.subscriber = .acquire event isEnd → args.config.dropPolicy = .block) :
    Room args t := by
  refine room.of_same blockSem (after.trans before.symm) queue ?_ dropped waits
  rw [owed, owed, writer]

/-- A row that is pushed takes up the room that was reserved for it. -/
theorem Room.push (room : Room args s) {event : CallEventInsert} {isEnd : Bool}
    (at_ : s.subscriber = .push event isEnd) : Room args (s.push args event isEnd) := by
  have reserved : s.reserved = 1 := by rw [DbAdapter.reserved, at_]
  refine ⟨fun block => ?_, fun notBlock => ?_, ?_⟩
  · obtain ⟨permits, held, sum, kept⟩ := room.permits block
    have pushed : s.push args event isEnd =
        { s with subscriber := .notifyData isEnd, queue := s.queue ++ [event] } := by
      unfold DbAdapter.push
      rw [block]
    rw [pushed]
    refine ⟨permits, held, ?_, kept⟩
    have length : (s.queue ++ [event]).length = s.queue.length + [event].length := List.length_append
    rw [List.length_singleton] at length
    change permits + 0 + (s.queue ++ [event]).length + s.owed = _
    omega
  · obtain ⟨free, fits⟩ := room.noPermits notBlock
    have positive := queueCap_pos args.config
    rcases s.push_cases args event isEnd with ⟨pushed, block | short⟩ | ⟨pushed, -, -⟩ | ⟨pushed, -, full⟩
    · exact absurd block notBlock
    · rw [pushed]
      refine ⟨free, ?_⟩
      rw [List.length_append, List.length_singleton]
      exact short
    · rw [pushed]
      exact ⟨free, fits⟩
    · rw [pushed]
      refine ⟨free, ?_⟩
      rw [List.length_append, List.length_singleton, List.length_tail]
      omega
  · rcases s.push_cases args event isEnd with ⟨pushed, -⟩ | ⟨pushed, -, -⟩ | ⟨pushed, -, -⟩
    all_goals
      rw [pushed]
      intro _ _ held
      cases held

/-- **The queue stays within its capacity.** -/
theorem room_step (s : DbAdapter) (action : DbAction) (ordered : Ordered args s) (room : Room args s) :
    Room args (s.step args action) := by
  cases action with
  | emit event => exact room.of_same rfl rfl rfl rfl rfl room.waits
  | close => exact room.of_same rfl rfl rfl rfl rfl room.waits
  | writer tick inserted => exact room.writer tick inserted
  | subscriber id now =>
    change Room args (s.subscriberStep args id now)
    unfold subscriberStep
    rcases at_ : s.subscriber with - | ⟨event, isEnd⟩ | ⟨event, isEnd⟩ | isEnd | - | - <;>
      dsimp only
    · have before : s.reserved = 0 := by rw [reserved, at_]
      rcases receive_cases args id now ordered.valid at_ with ⟨bus, received, -⟩ | received |
          ⟨bus, received, -⟩ | ⟨bus, raw, dbEv, place, -, -, -, -, -, placed, received⟩
      · rw [received]
        exact room.moves rfl rfl rfl rfl before before room.waits
      · rw [received]
        exact room.moves rfl rfl rfl rfl before rfl fun _ _ held => by cases held
      · rw [received]
        exact room.moves rfl rfl rfl rfl before rfl fun _ _ held => by cases held
      · rw [received]
        rcases placed with ⟨rfl, block⟩ | ⟨rfl, notBlock⟩
        · exact room.moves rfl rfl rfl rfl before rfl fun _ _ _ => block
        · exact ⟨fun block => absurd block notBlock, room.noPermits, fun _ _ held => by cases held⟩
    -- With no permit left the subscriber waits, otherwise one is reserved.
    · have block := room.waits event isEnd at_
      have before : s.reserved = 0 := by rw [reserved, at_]
      obtain ⟨permits, held, sum, kept⟩ := room.permits block
      unfold acquire
      rw [held]
      cases permits with
      | zero => exact room
      | succ permits =>
        refine ⟨fun _ => ⟨permits, rfl, ?_, kept⟩, fun notBlock => absurd block notBlock, fun _ _ held => by cases held⟩
        change permits + 1 + s.queue.length + s.owed = _
        omega
    · exact room.push at_
    · have before : s.reserved = 0 := by rw [reserved, at_]
      cases isEnd with
      | false => exact room.moves rfl rfl rfl rfl before rfl fun _ _ held => by cases held
      | true => exact room.moves rfl rfl rfl rfl before rfl fun _ _ held => by cases held
    · have before : s.reserved = 0 := by rw [reserved, at_]
      exact room.moves rfl rfl rfl rfl before rfl fun _ _ held => by cases held
    · exact room

/-! ## The end of the session -/

end DbAdapter

/-- The writer has seen the end of the session. -/
def WriterPlace.ending : WriterPlace → Bool
  | .drain done | .addPermits _ done | .flush done => done
  | .drainRest | .addRest _ | .flushRest | .ended => true
  | .select | .checkQueue | .notifyData => false

/-- How many statements may be short by now: the two that run at the end. -/
def WriterPlace.shortInserts : WriterPlace → ℕ
  | .drainRest | .addRest _ | .flushRest => 1
  | .ended => 2
  | _ => 0

/-- At most two INSERTs are ahead of a place of the writer. -/
theorem WriterPlace.shortInserts_le (place : WriterPlace) : place.shortInserts ≤ 2 := by
  cases place <;> simp [shortInserts]

/-- The writer has taken what was left in the queue. -/
def WriterPlace.emptied : WriterPlace → Bool
  | .addRest _ | .flushRest | .ended => true
  | _ => false

/-- The subscriber handles `SessionEnded`. -/
def SubscriberPlace.closing : SubscriberPlace → Bool
  | .acquire _ isEnd | .push _ isEnd | .notifyData isEnd => isEnd
  | .notifyOver => true
  | .recv | .ended => false

namespace DbAdapter

open Run

variable {args : DbAdapterArgs} {s t : DbAdapter}

/-- The end of the session is known to the writer. -/
def Over (s : DbAdapter) : Prop := s.sessionOver = true ∨ s.writer.ending = true

/-- **What the tasks know of each other.** -/
structure Phase (args : DbAdapterArgs) (s : DbAdapter) : Prop where
  passed : s.Over → s.subscriber = .ended
  last : s.Over ∨ s.subscriber.closing = true →
    s.bus.past.getLast? = some (.event .sessionEnded) ∧ EventCategory.session ∈ args.config.categoriesSet
  /-- No wake-up is lost. -/
  wake : s.queue ≠ [] → s.writer = .select →
    s.dataReady = true ∨ s.sessionOver = true ∨ ∃ isEnd, s.subscriber = .notifyData isEnd
  batch : s.writer ≠ .flushRest → s.batch.length ≤ args.config.batchTarget
  full : s.writer = .flush false → s.batch.length = args.config.batchTarget
  queue : s.writer.emptied = true → s.queue = []
  ended : s.writer = .ended → s.batch = []
  inserts : ∃ full short, s.inserts = full ++ short ∧
    (∀ insert ∈ full, insert.1.length = args.config.batchTarget) ∧ short.length ≤ s.writer.shortInserts

/-- At the start nothing is over. -/
theorem phase_spawn (args : DbAdapterArgs) : Phase args (spawn args) where
  passed := by rintro (passed | passed) <;> cases passed
  last := by rintro ((passed | passed) | closing) <;> contradiction
  wake some := absurd rfl some
  batch _ := Nat.zero_le _
  full := nofun
  queue := nofun
  ended := nofun
  inserts := ⟨[], [], rfl, nofun, Nat.le_refl 0⟩

/-- A step of the subscriber or of the bus. -/
theorem Phase.moves (phase : Phase args s) (writer : t.writer = s.writer) (batch : t.batch = s.batch)
    (inserts : t.inserts = s.inserts) (passed : t.Over → t.subscriber = .ended)
    (last : t.Over ∨ t.subscriber.closing = true →
      t.bus.past.getLast? = some (.event .sessionEnded) ∧ EventCategory.session ∈ args.config.categoriesSet)
    (queue : t.queue = s.queue ∨ s.writer.emptied = false)
    (wake : t.queue ≠ [] → t.writer = .select →
      t.dataReady = true ∨ t.sessionOver = true ∨ ∃ isEnd, t.subscriber = .notifyData isEnd) :
    Phase args t := by
  refine ⟨passed, last, wake, ?_, ?_, ?_, ?_, ?_⟩
  · rw [writer, batch]
    exact phase.batch
  · rw [writer, batch]
    exact phase.full
  · rw [writer]
    intro emptied
    rcases queue with same | notEmptied
    · rw [same]
      exact phase.queue emptied
    · cases notEmptied.symm.trans emptied
  · rw [writer, batch]
    exact phase.ended
  · rw [writer, inserts]
    exact phase.inserts

/-- While the subscriber runs, nothing is over. -/
theorem not_over (phase : Phase args s) (runs : s.subscriber ≠ .ended) :
    ¬ s.Over ∧ s.sessionOver = false ∧ s.writer.emptied = false := by
  have notOver : ¬ s.Over := fun passed => runs (phase.passed passed)
  refine ⟨notOver, Bool.eq_false_iff.2 fun passed => notOver (.inl passed), ?_⟩
  have notEnding : ¬ s.writer.ending = true := fun ending => notOver (.inr ending)
  cases place : s.writer with
  | addRest | flushRest | ended =>
    rw [place] at notEnding
    exact absurd rfl notEnding
  | _ => rfl

/-- A row that is pushed leaves the writer and the bus alone. -/
theorem push_writes (args : DbAdapterArgs) (event : CallEventInsert) (isEnd : Bool) (s : DbAdapter) :
    (s.push args event isEnd).writer = s.writer ∧ (s.push args event isEnd).batch = s.batch ∧
      (s.push args event isEnd).inserts = s.inserts ∧ (s.push args event isEnd).bus = s.bus ∧
      (s.push args event isEnd).sessionOver = s.sessionOver ∧
      (s.push args event isEnd).subscriber = .notifyData isEnd := by
  rcases s.push_cases args event isEnd with ⟨pushed, -⟩ | ⟨pushed, -, -⟩ | ⟨pushed, -, -⟩
  all_goals
    rw [pushed]
    exact ⟨rfl, rfl, rfl, rfl, rfl, rfl⟩

/-- A step of the subscriber keeps the phase. -/
theorem Phase.subscriber (phase : Phase args s) (ordered : Ordered args s) (id : ℕ) (now : Instant) :
    Phase args (s.subscriberStep args id now) := by
  unfold subscriberStep
  rcases at_ : s.subscriber with - | ⟨event, isEnd⟩ | ⟨event, isEnd⟩ | isEnd | - | - <;>
    dsimp only
  -- Receiving: the writer is not over, so queued rows have woken it.
  · obtain ⟨notOver, notSet, notEmptied⟩ := not_over phase (by rw [at_]; nofun)
    have wakes : s.queue ≠ [] → s.writer = .select → s.dataReady = true := by
      intro some waits
      rcases phase.wake some waits with ready | passed | ⟨isEnd, notifies⟩
      · exact ready
      · exact absurd (.inl passed) notOver
      · cases at_.symm.trans notifies
    rcases receive_cases args id now ordered.valid at_ with ⟨bus, received, -⟩ | received |
        ⟨bus, received, -, past, subscribed⟩ | ⟨bus, raw, dbEv, place, -, past, -, wanted, -, placed, received⟩
    -- Nothing is passed on.
    · rw [received]
      refine phase.moves rfl rfl rfl phase.passed ?_ (.inl rfl) fun some waits => .inl (wakes some waits)
      rintro (passed | closing)
      · exact absurd passed notOver
      · dsimp only at closing
        rw [at_] at closing
        cases closing
    -- The channel is closed, there was no event that ends the session.
    · rw [received]
      refine phase.moves rfl rfl rfl (fun _ => rfl) ?_ (.inl rfl) fun some waits => .inl (wakes some waits)
      rintro (passed | closing)
      · exact absurd passed notOver
      · cases closing
    -- The event that ends the session is not stored, but it ends the subscriber.
    · rw [received]
      refine phase.moves rfl rfl rfl (fun passed => absurd passed notOver) ?_ (.inl rfl)
        fun some waits => .inl (wakes some waits)
      intro _
      refine ⟨?_, subscribed⟩
      dsimp only
      rw [past, List.getLast?_concat]
    -- A row is made; if its event ends the session it was the last one that was read.
    · rw [received]
      refine phase.moves rfl rfl rfl (fun passed => absurd passed notOver) ?_ (.inl rfl)
        fun some waits => .inl (wakes some waits)
      rintro (passed | closing)
      · exact absurd passed notOver
      · have isEnd : raw = .event .sessionEnded := by
          rcases placed with ⟨rfl, -⟩ | ⟨rfl, -⟩ <;> exact of_decide_eq_true closing
        rw [isEnd] at past wanted
        refine ⟨?_, wanted⟩
        dsimp only
        rw [past, List.getLast?_concat]
  -- Waiting for a permit: what is held was the last event before.
  · obtain ⟨notOver, notSet, notEmptied⟩ := not_over phase (by rw [at_]; nofun)
    have wakes : s.queue ≠ [] → s.writer = .select → s.dataReady = true := by
      intro some waits
      rcases phase.wake some waits with ready | passed | ⟨isEnd, notifies⟩
      · exact ready
      · exact absurd (.inl passed) notOver
      · cases at_.symm.trans notifies
    have last : isEnd = true → _ := fun closing =>
      phase.last (.inr (by rw [at_]; exact closing))
    unfold acquire
    split
    · refine phase.moves rfl rfl rfl (fun passed => absurd passed notOver) ?_ (.inl rfl)
        fun some waits => .inl (wakes some waits)
      rintro (passed | closing)
      · exact absurd passed notOver
      · exact last closing
    · exact phase
    · refine phase.moves rfl rfl rfl (fun passed => absurd passed notOver) ?_ (.inl rfl)
        fun some waits => .inl (wakes some waits)
      rintro (passed | closing)
      · exact absurd passed notOver
      · exact last closing
  -- Pushing: a notification of the writer follows.
  · obtain ⟨notOver, notSet, notEmptied⟩ := not_over phase (by rw [at_]; nofun)
    obtain ⟨writer, batch, inserts, bus, passed, place⟩ := s.push_writes args event isEnd
    have stillNot : ¬ (s.push args event isEnd).Over := by
      unfold Over
      rw [passed, writer]
      exact notOver
    refine phase.moves writer batch inserts (fun passed => absurd passed stillNot) ?_ (.inr notEmptied)
      fun _ _ => .inr (.inr ⟨isEnd, place⟩)
    rintro (passed | closing)
    · exact absurd passed stillNot
    · rw [place] at closing
      rw [bus]
      exact phase.last (.inr (by rw [at_]; exact closing))
  -- Notifying the writer of data: it will find the queue.
  · obtain ⟨notOver, notSet, notEmptied⟩ := not_over phase (by rw [at_]; nofun)
    refine phase.moves rfl rfl rfl (fun passed => absurd passed notOver) ?_ (.inl rfl) fun _ _ => .inl rfl
    rintro (passed | closing)
    · exact absurd passed notOver
    · cases isEnd with
      | false => cases closing
      | true => exact phase.last (.inr (by rw [at_]; rfl))
  -- Notifying the writer of the end.
  · obtain ⟨notOver, notSet, notEmptied⟩ := not_over phase (by rw [at_]; nofun)
    refine phase.moves rfl rfl rfl (fun _ => rfl) ?_ (.inl rfl) fun _ _ => .inr (.inl rfl)
    intro _
    exact phase.last (.inr (by rw [at_]; rfl))
  · exact phase

/-- A step of the writer that runs no statement. -/
theorem Phase.goes (phase : Phase args s) (bus : t.bus = s.bus) (subscriber : t.subscriber = s.subscriber)
    (passed : t.Over → s.Over) (inserts : t.inserts = s.inserts)
    (short : s.writer.shortInserts ≤ t.writer.shortInserts) (wake : t.writer = .select → t.queue ≠ [] →
      t.dataReady = true) (batch : t.writer ≠ .flushRest → t.batch.length ≤ args.config.batchTarget)
    (full : t.writer = .flush false → t.batch.length = args.config.batchTarget)
    (queue : t.writer.emptied = true → t.queue = []) (ended : t.writer ≠ .ended) : Phase args t := by
  refine ⟨?_, ?_, fun some waits => .inl (wake waits some), batch, full, queue, fun at_ => absurd at_ ended, ?_⟩
  · rw [subscriber]
    exact fun isOver => phase.passed (passed isOver)
  · rw [subscriber, bus]
    exact fun closes => phase.last (closes.imp_left passed)
  · obtain ⟨complete, rest, all, each, few⟩ := phase.inserts
    exact ⟨complete, rest, inserts.trans all, each, few.trans short⟩

/-- **A statement is run**: it is full, or one of the two at the end. -/
theorem Phase.flush (phase : Phase args s) (inserted : Bool) {place : WriterPlace}
    (ending : place.ending = true → s.writer.ending = true) (waits : place ≠ .select)
    (full : place ≠ .flush false) (queue : place.emptied = true → s.queue = [])
    (inserts : s.batch.length = args.config.batchTarget ∧ s.writer.shortInserts = 0 ∨
      s.writer.shortInserts + 1 ≤ place.shortInserts)
    (short : s.writer.shortInserts ≤ place.shortInserts) :
    Phase args { s.flushBatch inserted with writer := place } := by
  obtain ⟨complete, rest, all, each, few⟩ := phase.inserts
  have passed : ({ s with writer := place } : DbAdapter).Over → s.Over := Or.imp_right ending
  unfold flushBatch
  by_cases empty : s.batch.isEmpty = true
  · rw [if_pos empty]
    have nothing : s.batch = [] := List.isEmpty_iff.1 empty
    refine ⟨fun isOver => phase.passed (passed isOver), fun closes => phase.last (closes.imp_left passed),
      fun _ at_ => absurd at_ waits, fun _ => ?_, fun at_ => absurd at_ full, queue, fun _ => nothing, ?_⟩
    · dsimp only
      rw [nothing]
      exact Nat.zero_le _
    · exact ⟨complete, rest, all, each, few.trans short⟩
  · rw [if_neg empty]
    refine ⟨fun isOver => phase.passed (passed isOver), fun closes => phase.last (closes.imp_left passed),
      fun _ at_ => absurd at_ waits, fun _ => Nat.zero_le _, fun at_ => absurd at_ full, queue, fun _ => rfl, ?_⟩
    rcases inserts with ⟨exact_, none⟩ | more
    · have nothing : rest = [] := List.length_eq_zero_iff.1 (Nat.le_zero.1 (none ▸ few))
      refine ⟨complete ++ [(s.batch, inserted)], [], ?_, ?_, Nat.zero_le _⟩
      · dsimp only
        rw [all, nothing, List.append_nil, List.append_nil]
      · intro insert held
        rcases List.mem_append.1 held with before | last
        · exact each insert before
        · rw [List.mem_singleton.1 last]
          exact exact_
    · refine ⟨complete, rest ++ [(s.batch, inserted)], ?_, each, ?_⟩
      · dsimp only
        rw [all, List.append_assoc]
      · rw [List.length_append, List.length_singleton]
        exact (Nat.add_le_add_right few 1).trans more

/-- The permits are given back, and a full batch is flushed. -/
theorem Phase.afterDrain (phase : Phase args s) {done : Bool} (bus : t.bus = s.bus)
    (subscriber : t.subscriber = s.subscriber) (ending : s.writer.ending = done)
    (passed : t.sessionOver = s.sessionOver) (inserts : t.inserts = s.inserts)
    (short : s.writer.shortInserts = 0) (batch : t.batch.length ≤ args.config.batchTarget) :
    Phase args (t.afterDrain args done) := by
  unfold DbAdapter.afterDrain
  by_cases flushes : args.config.batchTarget ≤ t.batch.length ∨ done = true
  · rw [if_pos flushes]
    refine phase.goes bus subscriber ?_ inserts (short.le.trans (Nat.zero_le _)) nofun (fun _ => batch) ?_ nofun nofun
    · exact Or.imp passed.symm.trans ending.trans
    · intro at_
      have notDone : done = false := by
        cases at_
        rfl
      rw [notDone] at flushes
      rcases flushes with enough | isDone
      · exact Nat.le_antisymm batch enough
      · cases isDone
  · rw [if_neg flushes]
    refine phase.goes bus subscriber ?_ inserts (short.le.trans (Nat.zero_le _)) nofun (fun _ => batch) nofun nofun nofun
    exact Or.imp passed.symm.trans nofun

/-- A step of the writer keeps the phase. -/
theorem Phase.writer (phase : Phase args s) (tick inserted : Bool) :
    Phase args (s.writerStep args tick inserted) := by
  have small := phase.batch
  unfold writerStep
  rcases at_ : s.writer with - | done | ⟨drained, done⟩ | done | - | - | - | remaining | - | - <;>
    dsimp only
  -- Waiting: the writer goes on to drain, if anything woke it.
  · have fits := small (by rw [at_]; nofun)
    have short : s.writer.shortInserts = 0 := by rw [at_]; rfl
    split
    · next passed =>
      exact phase.goes rfl rfl (fun _ => .inl passed) rfl (short.le.trans (Nat.zero_le _)) nofun (fun _ => fits) nofun nofun nofun
    · have stays : ∀ dataReady, Phase args { s with dataReady := dataReady, writer := .drain false } := by
        intro dataReady
        refine phase.goes rfl rfl ?_ rfl (short.le.trans (Nat.zero_le _)) nofun (fun _ => fits) nofun nofun nofun
        exact Or.imp_right nofun
      split
      · exact stays false
      · split
        · exact stays s.dataReady
        · exact phase
  -- Draining: the batch is filled up to its target.
  · have fits := small (by rw [at_]; nofun)
    have ending : s.writer.ending = done := by rw [at_]; rfl
    have short : s.writer.shortInserts = 0 := by rw [at_]; rfl
    generalize taken : min (args.config.batchTarget - s.batch.length) s.queue.length = k
    have inside : (s.batch ++ s.queue.take k).length ≤ args.config.batchTarget := by
      have bound : k ≤ args.config.batchTarget - s.batch.length := taken ▸ Nat.min_le_left _ _
      rw [List.length_append, List.length_take]
      omega
    split
    · refine phase.goes rfl rfl ?_ rfl (short.le.trans (Nat.zero_le _)) nofun (fun _ => inside) nofun nofun nofun
      exact Or.imp_right ending.trans
    · exact phase.afterDrain rfl rfl ending rfl rfl short inside
  -- The permits are given back, the batch stays.
  · have fits := small (by rw [at_]; nofun)
    have ending : s.writer.ending = done := by rw [at_]; rfl
    have short : s.writer.shortInserts = 0 := by rw [at_]; rfl
    exact phase.afterDrain rfl rfl ending rfl rfl short fits
  -- Flushing: the batch is full, or the session is over and this is its last short one.
  · have ending : s.writer.ending = done := by rw [at_]; rfl
    have short : s.writer.shortInserts = 0 := by rw [at_]; rfl
    cases done with
    | false =>
      have full := phase.full at_
      exact phase.flush inserted nofun nofun nofun nofun (.inl ⟨full, short⟩) (short.le.trans (Nat.zero_le _))
    | true =>
      refine phase.flush inserted (fun _ => ending) nofun nofun nofun (.inr ?_) (short.le.trans (Nat.zero_le _))
      rw [short]
      exact Nat.le_refl 1
  -- An empty queue sends the writer to wait, a queue with rows to notify itself.
  · have fits := small (by rw [at_]; nofun)
    have short : s.writer.shortInserts = 0 := by rw [at_]; rfl
    by_cases empty : s.queue.isEmpty = true
    · rw [if_pos empty]
      have nothing : s.queue = [] := List.isEmpty_iff.1 empty
      refine phase.goes rfl rfl ?_ rfl (short.le.trans (Nat.zero_le _)) ?_ (fun _ => fits) nofun nofun nofun
      · exact Or.imp_right nofun
      · exact fun _ some => absurd nothing some
    · rw [if_neg empty]
      refine phase.goes rfl rfl ?_ rfl (short.le.trans (Nat.zero_le _)) nofun (fun _ => fits) nofun nofun nofun
      exact Or.imp_right nofun
  · have fits := small (by rw [at_]; nofun)
    have short : s.writer.shortInserts = 0 := by rw [at_]; rfl
    refine phase.goes rfl rfl ?_ rfl (short.le.trans (Nat.zero_le _)) (fun _ _ => rfl) (fun _ => fits) nofun nofun nofun
    exact Or.imp_right nofun
  -- The rest is drained: from here on nothing is queued, and one short batch was inserted.
  · have fits := small (by rw [at_]; nofun)
    have ending : s.writer.ending = true := by rw [at_]; rfl
    have short : s.writer.shortInserts = 1 := by rw [at_]; rfl
    split
    · refine phase.goes rfl rfl ?_ rfl short.le nofun (fun _ => fits) nofun (fun _ => rfl) nofun
      exact fun _ => .inr ending
    · refine phase.goes rfl rfl ?_ rfl short.le nofun (fun notRest => absurd rfl notRest) nofun (fun _ => rfl) nofun
      exact fun _ => .inr ending
  · have ending : s.writer.ending = true := by rw [at_]; rfl
    have short : s.writer.shortInserts = 1 := by rw [at_]; rfl
    have nothing := phase.queue (by rw [at_]; rfl)
    refine phase.goes rfl rfl ?_ rfl short.le nofun (fun notRest => absurd rfl notRest) nofun (fun _ => nothing) nofun
    exact fun _ => .inr ending
  -- The rest is flushed, as the second short batch.
  · have ending : s.writer.ending = true := by rw [at_]; rfl
    have short : s.writer.shortInserts = 1 := by rw [at_]; rfl
    have nothing := phase.queue (by rw [at_]; rfl)
    refine phase.flush inserted (fun _ => ending) nofun nofun (fun _ => nothing) (.inr ?_) ?_
    · rw [short]
      exact Nat.le_refl 2
    · rw [short]
      exact Nat.le_succ 1
  · exact phase

/-- **A step keeps the phase.** -/
theorem phase_step (s : DbAdapter) (action : DbAction) (ordered : Ordered args s) (phase : Phase args s) :
    Phase args (s.step args action) := by
  cases action with
  | emit event =>
    have past := Broadcast.past_send ordered.valid event
    refine phase.moves rfl rfl rfl phase.passed ?_ (.inl rfl) phase.wake
    intro closes
    change (s.bus.send event).past.getLast? = _ ∧ _
    rw [past]
    exact phase.last closes
  | close => exact phase.moves rfl rfl rfl phase.passed phase.last (.inl rfl) phase.wake
  | writer tick inserted => exact phase.writer tick inserted
  | subscriber id now => exact phase.subscriber ordered id now

/-- All that holds in every state. -/
structure Sound (args : DbAdapterArgs) (s : DbAdapter) : Prop where
  ordered : Ordered args s
  room : Room args s
  phase : Phase args s

/-- **A step is sound.** -/
theorem sound_step (s : DbAdapter) (action : DbAction) (sound : Sound args s) :
    Sound args (s.step args action) :=
  ⟨ordered_step s action sound.ordered, room_step s action sound.ordered sound.room,
    phase_step s action sound.ordered sound.phase⟩

/-- **What holds in every state of every run.** -/
theorem sound_run (args : DbAdapterArgs) (actions : List DbAction) :
    Sound args (run (step args) (spawn args) actions) :=
  invariant_of_step sound_step ⟨ordered_spawn args, room_spawn args, phase_spawn args⟩ actions

/-! ## What the table holds -/

/-- The rows of the INSERTs are rows, in their order. -/
theorem flatMap_rows (s : DbAdapter) : (s.inserts.flatMap (·.1)).Sublist s.rows := by
  unfold rows taken
  simp only [List.append_assoc]
  exact List.sublist_append_left _ _

/-- The rows of the table are rows, in their order. -/
theorem table_rows (s : DbAdapter) : s.table.Sublist s.rows := by
  refine List.Sublist.trans ?_ s.flatMap_rows
  exact (List.filter_sublist).flatMap _

/-- When the writer has ended, all that was not dropped is in a statement. -/
theorem rows_ended (phase : Phase args s) (ended : s.writer = .ended) : s.rows = s.inserts.flatMap (·.1) := by
  have passed : s.Over := .inr (by rw [ended]; rfl)
  have free : s.atSubscriber = [] := by rw [atSubscriber, phase.passed passed]
  have emptied : s.queue = [] := phase.queue (by rw [ended]; rfl)
  have hand : s.inHand = [] := by rw [inHand, ended]
  unfold rows taken
  rw [free, emptied, hand, phase.ended ended]
  simp only [List.append_nil]

/-- A row stands where its number says. -/
theorem Ordered.getElem?_seq (ordered : Ordered args s) {event : CallEventInsert} (made : event ∈ s.issued) :
    s.issued[event.seq - 1]? = some event := by
  obtain ⟨i, inside, rfl⟩ := List.getElem_of_mem made
  have numbered : (s.issued.map (·.seq))[i]? = (List.range' 1 s.seq)[i]? := by rw [ordered.numbered]
  have length : s.issued.length = s.seq := by
    have lengths := congrArg List.length ordered.numbered
    rwa [List.length_map, List.length_range'] at lengths
  rw [List.getElem?_map, List.getElem?_eq_getElem inside, List.getElem?_range' (length ▸ inside)] at numbered
  have seq : s.issued[i].seq = 1 + i := by simpa using numbered
  rw [seq, Nat.add_sub_cancel_left]
  exact List.getElem?_eq_getElem inside

/-- **The table holds what was on the bus**, in its order, each event at most once, and each under the number
the subscriber gave it. -/
theorem call_events_in_order (args : DbAdapterArgs) (actions : List DbAction) :
    let s := run (step args) (spawn args) actions
    (s.table.map (·.payload)).Sublist (s.bus.sent.filterMap args.stored) ∧
      s.table.Pairwise (fun first second => first.seq < second.seq) ∧
      ∀ event ∈ s.table, s.issued[event.seq - 1]? = some event ∧
        ∃ id now, event = row args event.seq id now event.payload := by
  intro s
  have ordered := (sound_run args actions).ordered
  have held : s.table.Sublist s.issued := s.table_rows.trans ordered.order
  refine ⟨?_, ?_, ?_⟩
  · have read := (held.map (·.payload)).trans ordered.read
    exact read.trans ((List.take_sublist _ _).filterMap _)
  · have increasing : (s.issued.map (·.seq)).Pairwise (· < ·) := by
      rw [ordered.numbered]
      exact List.pairwise_lt_range'
    exact (List.pairwise_map.1 increasing).sublist held
  · intro event stored
    have made := held.subset stored
    exact ⟨ordered.getElem?_seq made, ordered.made event made⟩

/-- **No row is lost without a trace**: what is in the statements, with the writer, in the queue and at the
subscriber are the rows that were made, in their order and as they were made, but for as many as were dropped with
a warning.  None is under `block`; the queue stays within its capacity, and a statement has the size of a batch,
apart from two at the end of the session. -/
theorem call_events_accounted (args : DbAdapterArgs) (actions : List DbAction) :
    let s := run (step args) (spawn args) actions
    let there := s.inserts.flatMap (·.1) ++ s.batch ++ s.inHand ++ s.queue ++ s.atSubscriber
    there.Sublist s.issued ∧ there.length + s.dropped = s.issued.length ∧
      s.queue.length ≤ args.config.queueCap ∧
      (args.config.dropPolicy = .block → s.dropped = 0) ∧
      ∃ full short, s.inserts = full ++ short ∧
        (∀ insert ∈ full, insert.1.length = args.config.batchTarget) ∧ short.length ≤ 2 ∧
        (short ≠ [] → s.bus.past.getLast? = some (.event .sessionEnded)) := by
  intro s there
  obtain ⟨ordered, room, phase⟩ := sound_run args actions
  refine ⟨ordered.order, ordered.count, room.length_le, ?_, ?_⟩
  · intro block
    obtain ⟨-, -, -, kept⟩ := room.permits block
    exact kept
  · obtain ⟨full, short, all, each, few⟩ := phase.inserts
    refine ⟨full, short, all, each, few.trans ?_, fun some => ?_⟩
    · exact s.writer.shortInserts_le
    · have positive := List.length_pos_iff.2 some
      have ending : s.writer.ending = true := by
        cases at_ : s.writer with
        | drainRest | addRest | flushRest | ended => rfl
        | select | drain | addPermits | flush | checkQueue | notifyData =>
          change short.length ≤ s.writer.shortInserts at few
          rw [at_] at few
          exact absurd (positive.trans_le few) (Nat.lt_irrefl 0)
      exact (phase.last (.inl (.inr ending))).1

/-- **Under `block` the table is complete** when the writer has ended, if the bus was not too fast for the
subscriber and no statement failed: it holds all that is to be stored up to the end of the session, under
consecutive numbers. -/
theorem call_events_complete (args : DbAdapterArgs) (block : args.config.dropPolicy = .block)
    (actions : List DbAction) (ended : (run (step args) (spawn args) actions).writer = .ended)
    (reads : (run (step args) (spawn args) actions).bus.missed = 0)
    (succeed : ∀ insert ∈ (run (step args) (spawn args) actions).inserts, insert.2 = true) :
    let s := run (step args) (spawn args) actions
    s.table.map (·.payload) = s.bus.past.filterMap args.stored ∧
      s.table.map (·.seq) = List.range' 1 s.table.length ∧
      s.bus.past.getLast? = some (.event .sessionEnded) := by
  intro s
  obtain ⟨ordered, room, phase⟩ := sound_run args actions
  have passed : s.Over := .inr (by rw [show s.writer = .ended from ended]; rfl)
  have table : s.table = s.rows := by
    have all : s.inserts.filter (·.2) = s.inserts := List.filter_eq_self.2 succeed
    rw [rows_ended phase ended, DbAdapter.table, all]
  have issued : s.table = s.issued := by
    obtain ⟨-, -, -, kept⟩ := room.permits block
    rw [table]
    refine ordered.order.eq_of_length ?_
    have count := ordered.count
    omega
  refine ⟨?_, ?_, (phase.last (.inl passed)).1⟩
  · rw [issued]
    exact ordered.all reads
  · have length : s.seq = s.issued.length := by
      have lengths := congrArg List.length ordered.numbered
      rw [List.length_map, List.length_range'] at lengths
      exact lengths.symm
    rw [issued, ← length]
    exact ordered.numbered

/-- A call whose rows are never dropped. -/
def blocking : DbAdapterArgs := ⟨7, "call", ⟨[], [], .block, 2, 2⟩⟩

/-- What is said on the bus of a short call: the transcript is not subscribed to. -/
def shortCall : List DbAction :=
  [.emit (.event .sessionReady), .emit (.event (.transcript "user" "no")), .emit (.event (.error "llm" "busy")),
    .emit (.event (.error "tts" "busy")), .emit (.event .sessionEnded)]

/-- The first batch is inserted before the subscriber finds a permit for the rest. -/
def insertedTwice : List DbAction :=
  shortCall ++ List.replicate 8 (.subscriber 1 0) ++ List.replicate 6 (.writer false true) ++
    List.replicate 11 (.subscriber 2 3) ++ List.replicate 9 (.writer false true)

/-- Two batches are inserted, the second one with the end of the session. -/
theorem call_events_complete_ended :
    let s := run (step blocking) (spawn blocking) insertedTwice
    s.inserts.map (fun insert => insert.1.map (·.seq)) = [[1, 2], [3, 4]] ∧
      s.table.map (·.payload) = s.bus.past.filterMap blocking.stored ∧
      s.table.map (·.seq) = List.range' 1 s.table.length ∧
      s.bus.past.getLast? = some (.event .sessionEnded) :=
  ⟨by decide +kernel, call_events_complete blocking rfl insertedTwice (by decide +kernel) (by decide +kernel)
    (by decide +kernel)⟩

/-! ## Waking up -/

/-- The writer waits, and nothing but the ticker wakes it. -/
def WriterWaits (s : DbAdapter) : Prop :=
  s.writer = .select ∧ s.dataReady = false ∧ s.sessionOver = false

/-- The subscriber waits for a permit. -/
def SubscriberWaits (s : DbAdapter) : Prop :=
  s.blockSem = some 0 ∧ ∃ event isEnd, s.subscriber = .acquire event isEnd

/-- **No wake-up is lost**, and the tasks do not wait for each other: while the queue holds a row the writer
waits only if the subscriber is about to notify it, and while the subscriber waits for a permit the writer
neither waits nor has ended. -/
theorem no_wakeup_lost (args : DbAdapterArgs) (actions : List DbAction) :
    let s := run (step args) (spawn args) actions
    (s.WriterWaits → s.queue ≠ [] → ∃ isEnd, s.subscriber = .notifyData isEnd) ∧
      (s.SubscriberWaits → ¬ s.WriterWaits ∧ s.writer ≠ .ended) := by
  intro s
  obtain ⟨-, room, phase⟩ := sound_run args actions
  have notified : s.WriterWaits → s.queue ≠ [] → ∃ isEnd, s.subscriber = .notifyData isEnd := by
    rintro ⟨waits, notReady, notOver⟩ some
    rcases phase.wake some waits with ready | passed | notifies
    · cases notReady.symm.trans ready
    · cases notOver.symm.trans passed
    · exact notifies
  refine ⟨notified, ?_⟩
  rintro ⟨noPermit, event, isEnd, at_⟩
  constructor
  · intro waits
    obtain ⟨permits, held, sum, -⟩ := room.permits (room.waits event isEnd at_)
    have none : permits = 0 := Option.some.inj (held.symm.trans noPermit)
    have reserved : s.reserved = 0 := by rw [DbAdapter.reserved, at_]
    have owed : s.owed = 0 := by rw [DbAdapter.owed, waits.1]
    have positive := queueCap_pos args.config
    have some : s.queue ≠ [] := by
      intro empty
      have length : s.queue.length = 0 := by rw [empty]; rfl
      change permits + s.reserved + s.queue.length + s.owed = _ at sum
      omega
    obtain ⟨isEnd', notifies⟩ := notified waits some
    cases at_.symm.trans notifies
  · intro ended
    have gone := phase.passed (.inr (by rw [show s.writer = .ended from ended]; rfl))
    cases at_.symm.trans gone

/-! ## Shutting down -/

end DbAdapter

/-- A step of the writer. -/
def DbAction.isWriter : DbAction → Bool
  | .writer _ _ => true
  | _ => false

/-- How many steps the writer takes at most from a place until it has ended, once the session is over. -/
def WriterPlace.distance : WriterPlace → ℕ
  | .ended => 0
  | .flushRest => 1
  | .addRest _ => 2
  | .drainRest => 3
  | .flush done => if done then 4 else 10
  | .addPermits _ done => if done then 5 else 11
  | .drain done => if done then 6 else 12
  | .select => 7
  | .notifyData => 8
  | .checkQueue => 9

/-- The writer is at most twelve steps from its end. -/
theorem WriterPlace.distance_le (place : WriterPlace) : place.distance ≤ 12 := by
  cases place <;> simp only [distance] <;> first | decide | (split <;> decide)

/-- Only the end is at no distance. -/
theorem WriterPlace.eq_ended {place : WriterPlace} (there : place.distance = 0) : place = .ended := by
  cases place with
  | ended => rfl
  | drain done | addPermits drained done | flush done => cases done <;> cases there
  | _ => cases there

namespace DbAdapter

open Run

variable {args : DbAdapterArgs} {s t : DbAdapter}

/-- The writer comes a step nearer to its end when the queue was drained. -/
theorem over_afterDrain (args : DbAdapterArgs) {done : Bool} (passed : s.sessionOver = true ∨ done = true)
    (same : t.sessionOver = s.sessionOver) : (t.afterDrain args done).Over ∧
      (t.afterDrain args done).writer.distance ≤ (WriterPlace.addPermits 0 done).distance - 1 := by
  rw [← same] at passed
  unfold afterDrain Over
  dsimp only
  split
  · refine ⟨passed, ?_⟩
    cases done <;> exact Nat.le_refl _
  · next goesOn =>
    have notDone : done = false := Bool.eq_false_iff.2 fun isDone => goesOn (.inr isDone)
    rw [notDone]
    exact ⟨.inl (passed.resolve_right fun isDone => goesOn (.inr isDone)), Nat.le_succ 9⟩

/-- Once the session is over, every step of the writer brings it closer to its end. -/
theorem Over.writer (passed : s.Over) (tick inserted : Bool) :
    (s.writerStep args tick inserted).Over ∧
      (s.writerStep args tick inserted).writer.distance ≤ s.writer.distance - 1 := by
  unfold Over at passed
  unfold writerStep
  rcases at_ : s.writer with - | done | ⟨drained, done⟩ | done | - | - | - | remaining | - | -
  all_goals
    rw [at_] at passed
    dsimp only
  · have isOver : s.sessionOver = true := passed.resolve_right nofun
    rw [if_pos isOver]
    exact ⟨.inr rfl, Nat.le_refl 6⟩
  · split
    · refine ⟨passed, ?_⟩
      cases done <;> exact Nat.le_refl _
    · have isOver : s.sessionOver = true ∨ done = true := passed
      refine And.imp_right (fun closer => Nat.le_trans closer ?_) (over_afterDrain args isOver rfl)
      cases done <;> exact Nat.le_succ _
  · have isOver : s.sessionOver = true ∨ done = true := passed
    refine And.imp_right (fun closer => Nat.le_trans closer ?_) (over_afterDrain args isOver rfl)
    cases done <;> exact Nat.le_refl _
  · have kept : (s.flushBatch inserted).sessionOver = s.sessionOver := by
      unfold flushBatch
      split <;> rfl
    cases done with
    | false => exact ⟨.inl (kept.trans (passed.resolve_right nofun)), Nat.le_refl 9⟩
    | true => exact ⟨.inr rfl, Nat.le_refl 3⟩
  · have isOver : s.sessionOver = true := passed.resolve_right nofun
    refine ⟨.inl isOver, ?_⟩
    split
    · exact Nat.le_succ 7
    · exact Nat.le_refl 8
  · have isOver : s.sessionOver = true := passed.resolve_right nofun
    exact ⟨.inl isOver, Nat.le_refl 7⟩
  · split
    · exact ⟨.inr rfl, Nat.le_refl 2⟩
    · exact ⟨.inr rfl, Nat.le_succ 1⟩
  · exact ⟨.inr rfl, Nat.le_refl 1⟩
  · exact ⟨.inr rfl, Nat.le_refl 0⟩
  · exact ⟨.inr (by rw [at_]; rfl), by rw [at_]; exact Nat.le_refl 0⟩

/-- How many of some steps are the writer's. -/
def writerSteps (actions : List DbAction) : ℕ := actions.countP DbAction.isWriter

/-- What the others do neither reopens the session nor moves the writer. -/
theorem Over.others (passed : s.Over) (phase : Phase args s) {action : DbAction}
    (notWriter : ¬ action.isWriter = true) :
    (s.step args action).Over ∧ (s.step args action).writer = s.writer := by
  cases action with
  | emit | close => exact ⟨passed, rfl⟩
  | writer tick inserted => exact absurd rfl notWriter
  | subscriber id now =>
    have same : s.step args (.subscriber id now) = s := by
      change s.subscriberStep args id now = s
      unfold subscriberStep
      rw [phase.passed passed]
    rw [same]
    exact ⟨passed, rfl⟩

/-- Once the session is over, the steps of the writer count down to its end. -/
theorem over_run (actions : List DbAction) (sound : Sound args s) (passed : s.Over) :
    (run (step args) s actions).writer.distance ≤ s.writer.distance - writerSteps actions := by
  induction actions generalizing s with
  | nil => exact Nat.le_refl _
  | cons action actions ih =>
      have next : Sound args (s.step args action) := sound_step s action sound
      rw [run_cons]
      by_cases isWriter : action.isWriter = true
      · have counted : writerSteps (action :: actions) = writerSteps actions + 1 :=
          List.countP_cons_of_pos isWriter
        have moved : (s.step args action).Over ∧
            (s.step args action).writer.distance ≤ s.writer.distance - 1 := by
          cases action with
          | writer tick inserted => exact passed.writer tick inserted
          | emit | close | subscriber => cases isWriter
        have rest := ih next moved.1
        have closer := moved.2
        omega
      · obtain ⟨stillOver, same⟩ := passed.others sound.phase isWriter
        have rest := ih next stillOver
        rw [same] at rest
        rw [show writerSteps (action :: actions) = writerSteps actions from
          List.countP_cons_of_neg isWriter]
        exact rest

/-- **Shutting down takes at most twelve steps of the writer**, whatever happens meanwhile, and leaves nothing
behind: the statements hold the rows that were made, but for those that were dropped with a warning. -/
theorem shutdown_complete (args : DbAdapterArgs) (actions more : List DbAction)
    (passed : (run (step args) (spawn args) actions).Over) (enough : 12 ≤ writerSteps more) :
    let s := run (step args) (spawn args) (actions ++ more)
    s.writer = .ended ∧ s.rows = s.inserts.flatMap (·.1) ∧ (s.inserts.flatMap (·.1)).Sublist s.issued ∧
      (s.inserts.flatMap (·.1)).length + s.dropped = s.issued.length := by
  intro s
  have sound := sound_run args actions
  have closer := over_run more sound passed
  rw [← run_append] at closer
  have far := (run (step args) (spawn args) actions).writer.distance_le
  have ended : s.writer = .ended := by
    refine WriterPlace.eq_ended ?_
    change s.writer.distance ≤ _ at closer
    omega
  have last : Sound args s := sound_run args (actions ++ more)
  have rows := rows_ended last.phase ended
  refine ⟨ended, rows, ?_, ?_⟩
  · rw [← rows]
    exact last.ordered.order
  · rw [← rows]
    exact last.ordered.count

/-- A call that drops its oldest rows. -/
def dropping : DbAdapterArgs := ⟨7, "call", ⟨[], [], .dropOldest, 3, 2⟩⟩

/-- The writer sleeps all through the call, so that the first of four rows is dropped. -/
def unwritten : List DbAction := shortCall ++ List.replicate 14 (.subscriber 1 0)

/-- What was not written when the session ended is inserted. -/
theorem shutdown_complete_ended :
    let s := run (step dropping) (spawn dropping) (unwritten ++ List.replicate 12 (.writer false true))
    s.inserts.map (fun insert => insert.1.map (·.seq)) = [[2, 3], [4]] ∧
      s.writer = .ended ∧ s.rows = s.inserts.flatMap (·.1) ∧ (s.inserts.flatMap (·.1)).Sublist s.issued ∧
      (s.inserts.flatMap (·.1)).length + s.dropped = s.issued.length := by
  have passed : (run (step dropping) (spawn dropping) unwritten).Over := by
    unfold Over
    exact .inl (by decide +kernel)
  exact ⟨by decide +kernel, shutdown_complete dropping unwritten _ passed (by decide)⟩

/-- **Who does not subscribe to `session` never learns of the end**: the writer never ends, and runs nothing but
full statements, so that the last rows that do not fill a batch stay behind. -/
theorem unsubscribed_never_ends (args : DbAdapterArgs)
    (unsubscribed : EventCategory.session ∉ args.config.categoriesSet) (actions : List DbAction) :
    let s := run (step args) (spawn args) actions
    s.writer ≠ .ended ∧ ∀ insert ∈ s.inserts, insert.1.length = args.config.batchTarget := by
  intro s
  have phase := (sound_run args actions).phase
  have notEnding : ¬ s.writer.ending = true := fun ending => unsubscribed (phase.last (.inl (.inr ending))).2
  refine ⟨fun ended => notEnding (by rw [ended]; rfl), ?_⟩
  obtain ⟨full, short, all, each, few⟩ := phase.inserts
  have none : s.writer.shortInserts = 0 := by
    cases at_ : s.writer with
    | drainRest | addRest | flushRest | ended =>
      rw [at_] at notEnding
      exact absurd rfl notEnding
    | _ => rfl
  have nothing : short = [] := List.length_eq_zero_iff.1 (Nat.le_zero.1 (none ▸ few))
  rw [nothing, List.append_nil] at all
  intro insert held
  exact each insert (all ▸ held)

/-- A call of which only the tools are stored. -/
def toolsOnly : DbAdapterArgs := ⟨7, "call", ⟨["tool"], [], .dropOldest, 4, 2⟩⟩

/-- Three uses of tools, and the end of the session: the third row stays behind. -/
def threeTools : List DbAction :=
  List.replicate 3 (.emit (.event (.toolActivity none "weather" "executing" none))) ++
    [.emit (.event .sessionEnded)] ++ List.replicate 12 (.subscriber 1 0) ++ List.replicate 20 (.writer true true)

/-- The rows of the tools are inserted, and the tasks wait. -/
theorem unsubscribed_never_ends_tools :
    let s := run (step toolsOnly) (spawn toolsOnly) threeTools
    (s.inserts.map (fun insert => insert.1.map (·.seq)), s.batch.map (·.seq)) = ([[1, 2]], [3]) ∧
      s.writer ≠ .ended ∧ ∀ insert ∈ s.inserts, insert.1.length = toolsOnly.config.batchTarget :=
  ⟨by decide +kernel, unsubscribed_never_ends toolsOnly (by decide) threeTools⟩

end DbAdapter

end Feros
