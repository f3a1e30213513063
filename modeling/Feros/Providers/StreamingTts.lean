import Feros.TtsBatching
import Feros.Providers.DeepgramWs
import Feros.Providers.ElevenLabsWs
/-! # Streaming TTS

The send task of a turn hands commands to the command task of the session, and that calls the provider, which
puts messages into the channel of its connection.  Three providers stream; whether a voice identifier is a
UUID is asked of another library. -/

namespace Feros

open TtsBatching

/-! ## Cartesia -/

/-- A message to Cartesia; the output format is always the same. -/
inductive CartesiaMessage where
  /-- A transcript; the last one of a context, which is empty, does not continue. -/
  | generation (modelId transcript contextId voiceId language : String) (continues : Bool)
  | cancel (contextId : String)
  /-- A ping on the level of the protocol. -/
  | ping
  deriving DecidableEq, Repr

/-- **The Cartesia provider**, connected. -/
structure CartesiaWsTtsProvider where
  modelId : String
  language : String
  voiceId : String
  conn : ManagedLoop CartesiaMessage := {}
  deriving DecidableEq, Repr

namespace CartesiaWsTtsProvider

/-- The connection is pinged every minute. -/
def config : WsConfig CartesiaMessage := ⟨some .ping, 3, 5⟩

variable (isUuid : String → Bool)

/-- A message goes into the channel. -/
def send (message : CartesiaMessage) (p : CartesiaWsTtsProvider) : CartesiaWsTtsProvider :=
  { p with conn := p.conn.step config (.send message) }

def sendText (text contextId : String) (p : CartesiaWsTtsProvider) : CartesiaWsTtsProvider :=
  if p.voiceId.isEmpty || p.voiceId == "default" then p
  -- Human-readable names are caught early.
  else if !isUuid p.voiceId then p
  else p.send (.generation p.modelId text contextId p.voiceId p.language true)

/-- The same guard as for text. -/
def flush (contextId : String) (p : CartesiaWsTtsProvider) : CartesiaWsTtsProvider :=
  if p.voiceId.isEmpty || p.voiceId == "default" || !isUuid p.voiceId then p
  else p.send (.generation p.modelId "" contextId p.voiceId p.language false)

def cancel (contextId : String) (p : CartesiaWsTtsProvider) : CartesiaWsTtsProvider :=
  p.send (.cancel contextId)

end CartesiaWsTtsProvider

/-! ## The providers -/

/-- The Deepgram provider with the loop of its connection; what a call sends is what it puts into the channel
of `DeepgramWsTtsProvider`. -/
structure DeepgramTtsSession where
  provider : DeepgramWsTtsProvider := {}
  conn : ManagedLoop (DeepgramTtsMessage × String) := {}
  deriving DecidableEq, Repr

namespace DeepgramTtsSession

/-- The connection is pinged every five seconds, and the rounds are not limited. -/
def config : WsConfig (DeepgramTtsMessage × String) := ⟨some (.ping, ""), 3, 0xFFFFFFFF⟩

/-- A call of the provider, whose messages go to the loop. -/
def call (f : DeepgramWsTtsProvider → DeepgramWsTtsProvider) (p : DeepgramTtsSession) : DeepgramTtsSession where
  provider := f p.provider
  conn := ((f {}).conn.outgoing).foldl (fun conn message => conn.step config (.send message)) p.conn

end DeepgramTtsSession

/-- **A streaming provider.** -/
inductive StreamingTtsProvider where
  | cartesia (p : CartesiaWsTtsProvider)
  | deepgram (p : DeepgramTtsSession)
  | elevenLabs (p : ElevenLabsWsTtsProvider)

/-- A message to a TTS service. -/
inductive TtsMessage where
  | cartesia (message : CartesiaMessage)
  | deepgram (message : DeepgramTtsMessage × String)
  | elevenLabs (message : ElevenLabsMessage)
  deriving DecidableEq, Repr

namespace TtsMessage

/-- The message is text of a context. -/
def isTextOf (contextId : String) : TtsMessage → Bool
  | cartesia (.generation _ _ other _ _ continues) => continues && other == contextId
  | deepgram (.speak _, other) => other == contextId
  | elevenLabs (.text _ other) => other == contextId
  | _ => false

/-- The message is the end of a context. -/
def isFlushOf (contextId : String) : TtsMessage → Bool
  | cartesia (.generation _ _ other _ _ continues) => !continues && other == contextId
  | deepgram (.flush, other) => other == contextId
  | elevenLabs (.flush other) => other == contextId
  | _ => false

end TtsMessage

/-- What happens to a connection. -/
inductive TtsConnectionInput where
  | cartesia (input : LoopInput CartesiaMessage)
  | deepgram (input : LoopInput (DeepgramTtsMessage × String))
  | elevenLabs (input : LoopInput ElevenLabsMessage)
  /-- The reader of ElevenLabs closes a context. -/
  | isFinal (contextId : String)
  deriving DecidableEq, Repr

namespace StreamingTtsProvider

/-- The messages in the channel of the connection. -/
def msgRx : StreamingTtsProvider → List TtsMessage
  | cartesia p => p.conn.msgRx.map .cartesia
  | deepgram p => p.conn.msgRx.map .deepgram
  | elevenLabs p => p.conn.msgRx.map .elevenLabs

/-- The channel takes messages: the loop of the connection has not ended. -/
def accepts : StreamingTtsProvider → Bool
  | cartesia p => p.conn.accepts
  | deepgram p => p.conn.accepts
  | elevenLabs p => p.conn.accepts

/-- A call is under way. -/
def busy : StreamingTtsProvider → Bool
  | elevenLabs p => p.call != .idle
  | cartesia _ | deepgram _ => false

variable (isUuid : String → Bool)

/-- The command task calls the provider. -/
def handle (cmd : WsCmd) : StreamingTtsProvider → StreamingTtsProvider
  | cartesia p =>
    match cmd with
    | .sendText text contextId => cartesia (p.sendText isUuid text contextId)
    | .flush contextId => cartesia (p.flush isUuid contextId)
    | .cancel contextId => cartesia (p.cancel contextId)
  | deepgram p =>
    match cmd with
    | .sendText text contextId => deepgram (p.call (·.sendText text contextId))
    | .flush contextId => deepgram (p.call (·.flush contextId))
    | .cancel contextId => deepgram (p.call (·.cancel contextId))
  | elevenLabs p =>
    match cmd with
    | .sendText text contextId => elevenLabs (p.step (.sendText text contextId))
    | .flush contextId => elevenLabs (p.step (.flush contextId))
    | .cancel contextId => elevenLabs (p.step (.cancel contextId))

/-- A call goes on. -/
def proceed : StreamingTtsProvider → StreamingTtsProvider
  | elevenLabs p => elevenLabs (p.step .proceed)
  | p => p

/-- Something happens to the connection; nobody else sends, and the provider keeps the channel open. -/
def connection (input : TtsConnectionInput) : StreamingTtsProvider → StreamingTtsProvider
  | cartesia p =>
    match input with
    | .cartesia (.send _) | .cartesia .dropSender => cartesia p
    | .cartesia input => cartesia { p with conn := p.conn.step CartesiaWsTtsProvider.config input }
    | _ => cartesia p
  | deepgram p =>
    match input with
    | .deepgram (.send _) | .deepgram .dropSender => deepgram p
    | .deepgram input => deepgram { p with conn := p.conn.step DeepgramTtsSession.config input }
    | _ => deepgram p
  | elevenLabs p =>
    match input with
    | .elevenLabs input => elevenLabs (p.step (.loop input))
    | .isFinal contextId => elevenLabs (p.step (.isFinal contextId))
    | _ => elevenLabs p

end StreamingTtsProvider

/-! ## A turn -/

/-- The context of a command. -/
def TtsBatching.WsCmd.contextId : WsCmd → String
  | .sendText _ contextId | .flush contextId | .cancel contextId => contextId

/-- **A turn of the TTS stage**, with the command task and the provider. -/
structure TtsTurn where
  stage : WsTask
  /-- The commands that wait for the command task. -/
  cmdRx : List WsCmd
  provider : StreamingTtsProvider
  /-- The commands that the command task has taken in the turn. -/
  handled : List WsCmd := []
  /-- The messages that the calls in the turn put into the channel of the connection. -/
  queued : List TtsMessage := []

/-- What happens in a turn. -/
inductive TtsTurnInput where
  /-- The send task gets a token, or the end of the stream. -/
  | receive (message : Option String)
  /-- The command task goes on. -/
  | command
  | connection (input : TtsConnectionInput)
  deriving DecidableEq, Repr

namespace TtsTurn

/-- A turn begins; commands of earlier turns may wait. -/
def start (contextId : String) (earlier : List WsCmd) (provider : StreamingTtsProvider) : TtsTurn :=
  { stage := .new contextId, cmdRx := earlier, provider := provider }

/-- What a call has put into the channel. -/
def put (before after : StreamingTtsProvider) : List TtsMessage := after.msgRx.drop before.msgRx.length

variable (isUuid : String → Bool)

/-- **A step of a turn.** -/
def step (t : TtsTurn) : TtsTurnInput → TtsTurn
  | .receive message =>
    let stage := t.stage.receive message
    { t with stage := stage, cmdRx := t.cmdRx ++ stage.commands.drop t.stage.commands.length }
  | .command =>
    if t.provider.busy then
      let provider := t.provider.proceed
      { t with provider := provider, queued := t.queued ++ put t.provider provider }
    else
      match t.cmdRx with
      | [] => t
      | cmd :: rest =>
        let provider := t.provider.handle isUuid cmd
        { t with
          cmdRx := rest
          provider := provider
          handled := t.handled ++ [cmd]
          queued := t.queued ++ put t.provider provider }
  | .connection input => { t with provider := t.provider.connection input }

end TtsTurn

end Feros
