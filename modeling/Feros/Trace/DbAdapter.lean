import Feros.Trace.SinkEvent
import Feros.Library.Broadcast
/-! # The database adapter of the event bus

Two tasks share a bounded queue.  The **subscriber** reads the bus, numbers the events it keeps and puts a
row for each into the queue; the **writer** takes rows out in batches and inserts each batch with one
statement.  Two `Notify` flags wake the writer: `dataReady` after every push, and `sessionOver` when
`SessionEnded` was processed.  With the policy `block` a semaphore holds one permit for each free place.

A step is one access to what the tasks share; between two accesses a task is at one of the places of
`SubscriberPlace` or `WriterPlace`, which hold its local variables.  Left out are the rendering of a payload
as JSON and the texts of the log lines; `dropped` counts the ones that say that the queue is full. -/

namespace Feros

/-- `str::to_ascii_lowercase`. -/
def toAsciiLowercase (v : String) : String := String.ofList (v.toList.map Char.toLower)

/-- What to do when the internal event queue is full. -/
inductive DropPolicy where
  | dropNewest
  | dropOldest
  | block
  | ignore
  deriving DecidableEq, Repr

/-- `DropPolicy::from_str`. -/
def DropPolicy.fromStr (v : String) : DropPolicy :=
  match toAsciiLowercase v with
  | "drop_oldest" => .dropOldest
  | "block" => .block
  | "ignore" => .ignore
  | _ => .dropNewest

/-- The name of a category in the configuration. -/
def EventCategory.parse (c : String) : Option EventCategory :=
  match toAsciiLowercase c with
  | "session" => some .session
  | "transcript" => some .transcript
  | "tool" => some .tool
  | "agent" => some .agent
  | "agent_audio" => some .agentAudio
  | "metrics" => some .metrics
  | "trace" => some .trace
  | "error" => some .error
  | "observability" => some .observability
  | "user_audio" => some .userAudio
  | _ => none

/-- Configuration of the adapter. -/
structure DbAdapterConfig where
  categories : List String
  eventTypes : List String
  dropPolicy : DropPolicy
  queueSize : ℕ
  batchSize : ℕ
  deriving DecidableEq, Repr

namespace DbAdapterConfig

/-- The categories to subscribe to. -/
def categoriesSet (config : DbAdapterConfig) : List EventCategory :=
  let out := config.categories.filterMap EventCategory.parse
  if out.isEmpty then [.session, .metrics, .observability, .tool, .error] else out

/-- `queue_cap`. -/
def queueCap (config : DbAdapterConfig) : ℕ := max config.queueSize 1

/-- `batch_target`. -/
def batchTarget (config : DbAdapterConfig) : ℕ := max config.batchSize 1

/-- An event type that is not filtered out. -/
def wantsType (config : DbAdapterConfig) (eventType : String) : Bool :=
  config.eventTypes.isEmpty || config.eventTypes.contains eventType

end DbAdapterConfig

/-- A row of `call_events`. -/
structure CallEventInsert where
  id : ℕ
  callId : ℕ
  sessionId : String
  seq : ℕ
  eventType : String
  eventCategory : String
  occurredAt : Instant
  /-- The event that `payload_json` renders. -/
  payload : SinkEvent
  deriving DecidableEq, Repr

/-- Where the subscriber task is. -/
inductive SubscriberPlace where
  | recv
  /-- Waits for a permit. -/
  | acquire (row : CallEventInsert) (isEnd : Bool)
  | push (row : CallEventInsert) (isEnd : Bool)
  | notifyData (isEnd : Bool)
  | notifyOver
  | ended
  deriving DecidableEq, Repr

/-- Where the writer task is. -/
inductive WriterPlace where
  /-- Waits for data, a periodic tick, or session end. -/
  | select
  | drain (done : Bool)
  | addPermits (drained : ℕ) (done : Bool)
  | flush (done : Bool)
  /-- Looks whether more is queued. -/
  | checkQueue
  | notifyData
  | drainRest
  | addRest (remaining : List CallEventInsert)
  | flushRest
  | ended
  deriving DecidableEq, Repr

/-- What `spawn_db_adapter` is given besides the tracer and the pool. -/
structure DbAdapterArgs where
  callId : ℕ
  sessionId : String
  config : DbAdapterConfig
  deriving DecidableEq, Repr

/-- **The adapter of one call**, the bus it reads and the statements it has run. -/
structure DbAdapter where
  bus : Broadcast BusEvent
  subscriber : SubscriberPlace
  /-- The number of the last row. -/
  seq : ℕ
  queue : List CallEventInsert
  dataReady : Bool
  sessionOver : Bool
  /-- The permits of the policy `block`. -/
  blockSem : Option ℕ
  writer : WriterPlace
  batch : List CallEventInsert
  /-- The `INSERT` statements that were run, and whether their rows are in the table. -/
  inserts : List (List CallEventInsert × Bool)
  /-- Every row that was made. -/
  issued : List CallEventInsert
  /-- How often the queue was full. -/
  dropped : ℕ

/-- What can happen. -/
inductive DbAction where
  /-- Somebody puts an event on the bus. -/
  | emit (event : BusEvent)
  /-- The last sender of the bus is gone. -/
  | close
  /-- The subscriber runs up to its next shared access; `id` and `now` are what a row it makes is
  stamped with. -/
  | subscriber (id : ℕ) (now : Instant)
  /-- The writer runs up to its next shared access; the ticker may have fired, and a statement it runs
  may leave its rows in the table. -/
  | writer (tick inserted : Bool)
  deriving DecidableEq, Repr

/-- Bounded capacity for the broadcast channel. -/
def busCapacity : ℕ := 2048

namespace DbAdapterArgs

/-- What is stored of an event: nothing if its category is not subscribed to, if it has no projection, or
if its type is filtered out. -/
def stored (args : DbAdapterArgs) (raw : BusEvent) : Option SinkEvent :=
  if raw.category ∈ args.config.categoriesSet then
    (SinkEvent.fromEvent raw).filter fun dbEv => args.config.wantsType dbEv.eventTypeName
  else none

end DbAdapterArgs

namespace DbAdapter

/-- `spawn_db_adapter`. -/
def spawn (args : DbAdapterArgs) : DbAdapter where
  bus := .listen
  subscriber := .recv
  seq := 0
  queue := []
  dataReady := false
  sessionOver := false
  blockSem := if args.config.dropPolicy = .block then some args.config.queueCap else none
  writer := .select
  batch := []
  inserts := []
  issued := []
  dropped := 0

/-- The rows of the table `call_events`. -/
def table (s : DbAdapter) : List CallEventInsert := (s.inserts.filter (·.2)).flatMap (·.1)

/-! ## The subscriber -/

/-- The row of an event. -/
def row (args : DbAdapterArgs) (seq id : ℕ) (now : Instant) (dbEv : SinkEvent) : CallEventInsert where
  id := id
  callId := args.callId
  sessionId := args.sessionId
  seq := seq
  eventType := dbEv.eventTypeName
  eventCategory := dbEv.eventCategoryName
  occurredAt := now
  payload := dbEv

/-- What follows an event that is not stored. -/
def skip (isEnd : Bool) (s : DbAdapter) : DbAdapter :=
  { s with subscriber := if isEnd then .notifyOver else .recv }

/-- An event of a subscribed category was received. -/
def handle (args : DbAdapterArgs) (id : ℕ) (now : Instant) (raw : BusEvent) (s : DbAdapter) : DbAdapter :=
  let isEnd : Bool := raw = .event .sessionEnded
  match SinkEvent.fromEvent raw with
  | none => s.skip isEnd
  | some dbEv =>
    if args.config.wantsType dbEv.eventTypeName then
      let event := row args (s.seq + 1) id now dbEv
      { s with
        seq := s.seq + 1
        issued := s.issued ++ [event]
        subscriber := if args.config.dropPolicy = .block then .acquire event isEnd else .push event isEnd }
    else s.skip isEnd

/-- Wait for a permit, and keep it: the writer gives it back. -/
def acquire (event : CallEventInsert) (isEnd : Bool) (s : DbAdapter) : DbAdapter :=
  match s.blockSem with
  | none => { s with subscriber := .push event isEnd }
  | some 0 => s
  | some (permits + 1) => { s with blockSem := some permits, subscriber := .push event isEnd }

/-- Put a row into the queue. -/
def push (args : DbAdapterArgs) (event : CallEventInsert) (isEnd : Bool) (s : DbAdapter) : DbAdapter :=
  let s := { s with subscriber := .notifyData isEnd }
  match args.config.dropPolicy with
  | .dropNewest | .ignore =>
    if s.queue.length < args.config.queueCap then { s with queue := s.queue ++ [event] }
    else { s with dropped := s.dropped + 1 }
  | .dropOldest =>
    if s.queue.length ≥ args.config.queueCap then
      { s with queue := s.queue.tail ++ [event], dropped := s.dropped + 1 }
    else { s with queue := s.queue ++ [event] }
  | .block => { s with queue := s.queue ++ [event] }

/-- Wait for the next event of a subscribed category. -/
def receive (args : DbAdapterArgs) (id : ℕ) (now : Instant) (s : DbAdapter) : DbAdapter :=
  match s.bus.recv busCapacity with
  | (.message raw, bus) =>
    if raw.category ∈ args.config.categoriesSet then ({ s with bus := bus }).handle args id now raw
    else { s with bus := bus }
  | (.lagged _, bus) => { s with bus := bus }
  | (.empty, _) => s
  | (.closed, _) => { s with subscriber := .ended }

/-- The subscriber's next step. -/
def subscriberStep (args : DbAdapterArgs) (id : ℕ) (now : Instant) (s : DbAdapter) : DbAdapter :=
  match s.subscriber with
  | .recv => s.receive args id now
  | .acquire event isEnd => s.acquire event isEnd
  | .push event isEnd => s.push args event isEnd
  | .notifyData isEnd =>
    { s with dataReady := true, subscriber := if isEnd then .notifyOver else .recv }
  | .notifyOver => { s with sessionOver := true, subscriber := .ended }
  | .ended => s

/-! ## The writer -/

/-- `flush_batch`. -/
def flushBatch (inserted : Bool) (s : DbAdapter) : DbAdapter :=
  if s.batch.isEmpty then s
  else { s with batch := [], inserts := s.inserts ++ [(s.batch, inserted)] }

/-- Where the writer goes with its batch, once the permits are given back. -/
def afterDrain (args : DbAdapterArgs) (done : Bool) (s : DbAdapter) : DbAdapter :=
  { s with writer := if args.config.batchTarget ≤ s.batch.length ∨ done then .flush done else .checkQueue }

/-- The writer's next step. -/
def writerStep (args : DbAdapterArgs) (tick inserted : Bool) (s : DbAdapter) : DbAdapter :=
  match s.writer with
  | .select =>
    -- The branches are tried in this order.
    if s.sessionOver then { s with sessionOver := false, writer := .drain true }
    else if s.dataReady then { s with dataReady := false, writer := .drain false }
    else if tick then { s with writer := .drain false }
    else s
  | .drain done =>
    let take := min (args.config.batchTarget - s.batch.length) s.queue.length
    let s := { s with batch := s.batch ++ s.queue.take take, queue := s.queue.drop take }
    if s.blockSem.isSome && 0 < take then { s with writer := .addPermits take done } else s.afterDrain args done
  | .addPermits drained done => ({ s with blockSem := s.blockSem.map (· + drained) }).afterDrain args done
  | .flush done => { s.flushBatch inserted with writer := if done then .drainRest else .checkQueue }
  | .checkQueue => { s with writer := if s.queue.isEmpty then .select else .notifyData }
  | .notifyData => { s with dataReady := true, writer := .select }
  | .drainRest =>
    let remaining := s.queue
    let s := { s with queue := [] }
    if s.blockSem.isSome then { s with writer := .addRest remaining }
    else { s with batch := s.batch ++ remaining, writer := .flushRest }
  | .addRest remaining =>
    { s with
      blockSem := s.blockSem.map (· + remaining.length)
      batch := s.batch ++ remaining
      writer := .flushRest }
  -- Whether the statement ended in time makes no difference: the task ends.
  | .flushRest => { s.flushBatch inserted with writer := .ended }
  | .ended => s

/-- **One step of the adapter or of its environment.** -/
def step (args : DbAdapterArgs) (s : DbAdapter) : DbAction → DbAdapter
  | .emit event => { s with bus := s.bus.send event }
  | .close => { s with bus := s.bus.close }
  | .subscriber id now => s.subscriberStep args id now
  | .writer tick inserted => s.writerStep args tick inserted

end DbAdapter

end Feros
