import Feros.Integrations.TokenRefresh
import Feros.Integrations.Vault
import Feros.Studio.KVStore
/-! # Connecting an integration over OAuth

A user starts at `authorize`, which stores a state under a random token and sends the user to the provider;
the provider sends the user back to `callback` with the token and a code, which is exchanged for the tokens of
a credential.  Requests are handled concurrently: a callback waits for the exchange and for the database, and
others go on meanwhile.  A commit is taken to succeed: a request whose commit fails is left out.

The registry of integrations, the hash of PKCE, the encryption and what is drawn at random are parameters. -/

namespace Feros

/-- `AuthConfig`, as far as the flow reads it. -/
structure AuthConfig where
  type : String
  clientAuthMethod : String
  authorizationUrl : Option String
  tokenUrl : Option String
  authorizationParams : Dict String String
  tokenParams : Dict String String
  defaultScopes : List String
  scopeSeparator : String
  pkce : Bool
  deriving DecidableEq, Repr

/-- `IntegrationConfig`, as far as the flow reads it. -/
structure IntegrationConfig where
  displayName : String
  auth : AuthConfig
  deriving DecidableEq, Repr

/-- What is stored under a state token; no agent stands for `__platform__`. -/
structure OAuthState where
  agentId : Option Uuid
  integration : String
  codeVerifier : String
  origin : String
  deriving DecidableEq, Repr

/-- A credential in the database. -/
structure CredentialEntry where
  /-- Drawn anew for each row. -/
  id : ℕ
  agentId : Option Uuid
  name : String
  row : CredentialRow
  deriving DecidableEq, Repr

/-- **What the flow uses from outside.** -/
structure OAuthEnv where
  loadIntegrationConfig : String → Option IntegrationConfig
  /-- `create_s256_code_challenge`. -/
  codeChallenge : String → String
  callbackUrl : String
  /-- The ciphertext and the IV, for a nonce. -/
  encrypt : CredentialData → ℕ → String × String

/-- A request to `authorize`, and what it finds and draws. -/
structure AuthorizeRequest where
  integrationName : String
  agentId : Option Uuid
  isDefault : Bool
  origin : String
  agentExists : Bool
  /-- The client id and the client secret; empty if there is no app. -/
  client : String × String
  codeVerifier : String
  stateToken : String
  /-- The clock, as the store reads it twice. -/
  evicted : Instant
  written : Instant
  deriving DecidableEq, Repr

/-- `_STATE_TTL_SECONDS`. -/
def stateTtl : Duration := 600 * 1000000000

/-- The key of a state token. -/
def stateKey (stateToken : String) : String := "oauth:" ++ stateToken

namespace AuthorizeRequest

/-- What the request stores. -/
def oauthState (req : AuthorizeRequest) : OAuthState where
  agentId := if req.isDefault then none else req.agentId
  integration := req.integrationName
  codeVerifier := req.codeVerifier
  origin := req.origin

/-- The checks before anything is stored: the configuration, or the status of the error and its text. -/
def check (env : OAuthEnv) (req : AuthorizeRequest) : Except (ℕ × String) IntegrationConfig :=
  if req.agentId.isSome ∧ req.isDefault = false ∧ req.agentExists = false then .error (404, "Agent not found")
  else
    match env.loadIntegrationConfig req.integrationName with
    | none => .error (404, "Integration '" ++ req.integrationName ++ "' not found")
    | some config =>
      if config.auth.type ≠ "oauth2" then
        .error (400, "Integration '" ++ req.integrationName ++ "' does not support OAuth")
      else if req.client.1 = "" then
        .error (500, "OAuth not configured for integration '" ++ req.integrationName ++
          "'. Register it via POST /api/oauth-apps.")
      else .ok config

/-- The parameters of the URL. -/
def params (env : OAuthEnv) (req : AuthorizeRequest) (auth : AuthConfig) : Dict String String :=
  let params := Dict.update auth.authorizationParams
    [("client_id", req.client.1), ("redirect_uri", env.callbackUrl),
      ("scope", auth.scopeSeparator.intercalate auth.defaultScopes), ("state", req.stateToken)]
  if auth.pkce then
    Dict.update params
      [("code_challenge", env.codeChallenge req.codeVerifier), ("code_challenge_method", "S256")]
  else params

/-- The answer, once the state is stored: the URL and its parameters. -/
def answer (env : OAuthEnv) (req : AuthorizeRequest) (auth : AuthConfig) :
    Except (ℕ × String) (String × Dict String String) :=
  match auth.authorizationUrl with
  | none => .error (500, "Integration '" ++ req.integrationName ++ "' is missing authorization_url")
  | some url =>
    if url = "" then .error (500, "Integration '" ++ req.integrationName ++ "' is missing authorization_url")
    else .ok (url, req.params env auth)

end AuthorizeRequest

/-- A request to `callback`, and what it finds. -/
structure CallbackRequest where
  code : Option String
  state : Option String
  error : Option String
  errorDescription : Option String
  client : String × String
  now : Instant
  deriving DecidableEq, Repr

/-- The request to the token endpoint. -/
structure TokenRequest where
  url : String
  data : Dict String String
  /-- What is sent with HTTP Basic. -/
  basicAuth : Option String
  deriving DecidableEq, Repr

/-- The answer of the token endpoint. -/
inductive TokenAnswer where
  /-- The status is no success. -/
  | unsuccessful
  /-- There is no answer, or no JSON. -/
  | exception
  /-- With `3600` if nothing is said of the expiry; `int(expires_in)` raises for some values. -/
  | tokens (accessToken refreshToken : String) (expiresIn : Option ℤ)
  deriving DecidableEq, Repr

/-- The page that is shown in the popup. -/
structure HtmlPage where
  status : ℕ
  heading : String
  deriving DecidableEq, Repr

/-- A callback that has its state: the token it came with, and what was stored under it. -/
structure PendingCallback where
  state : String
  stateData : OAuthState
  config : IntegrationConfig
  request : TokenRequest
  deriving DecidableEq, Repr

/-- What a callback writes. -/
structure NewCredential where
  encryptedData : String
  encryptionIv : String
  tokenExpiresAt : ℤ
  deriving DecidableEq, Repr

/-- **How far a callback has come.** -/
inductive CallbackStage where
  /-- It waits for the token endpoint. -/
  | exchanging (p : PendingCallback)
  /-- It waits for the row to update. -/
  | selecting (p : PendingCallback) (new : NewCredential)
  /-- It waits for the commit: of an update, or of a new row. -/
  | committing (p : PendingCallback) (new : NewCredential) (existing : Option ℕ)
  | done (page : HtmlPage)
  /-- An exception: the request is answered with 500. -/
  | raised
  deriving DecidableEq, Repr

/-- The text is there and not empty. -/
def given : Option String → Option String
  | some text => if text = "" then none else some text
  | none => none

namespace PendingCallback

/-- The request for the tokens. -/
def tokenRequest (env : OAuthEnv) (auth : AuthConfig) (client : String × String) (code codeVerifier : String) :
    TokenRequest :=
  let data := Dict.update auth.tokenParams [("code", code), ("redirect_uri", env.callbackUrl)]
  let byHeader := auth.clientAuthMethod = "header"
  let data :=
    if byHeader then data else Dict.update data [("client_id", client.1), ("client_secret", client.2)]
  { url := auth.tokenUrl.getD ""
    data := if auth.pkce then Dict.set data "code_verifier" codeVerifier else data
    basicAuth := if byHeader then some (client.1 ++ ":" ++ client.2) else none }

end PendingCallback

namespace CallbackStage

/-- `callback` up to the exchange, and the store after it. -/
def start (env : OAuthEnv) (req : CallbackRequest) (kv : InMemoryKVStore OAuthState) :
    CallbackStage × InMemoryKVStore OAuthState :=
  match given req.error, given req.code, given req.state with
  | some _, _, _ => (.done ⟨400, "Authorization cancelled"⟩, kv)
  | none, some code, some state =>
    let (stateData, kv) := kv.pop (stateKey state) req.now
    match stateData with
    | none => (.done ⟨400, "Authorization failed"⟩, kv)
    | some stateData =>
      match env.loadIntegrationConfig stateData.integration with
      | none => (.done ⟨400, "Integration not found"⟩, kv)
      | some config =>
        (.exchanging ⟨state, stateData, config,
          PendingCallback.tokenRequest env config.auth req.client code stateData.codeVerifier⟩, kv)
  | none, _, _ => (.done ⟨400, "Authorization failed"⟩, kv)

/-- The token endpoint has answered. -/
def exchanged (env : OAuthEnv) (answer : TokenAnswer) (now : ℤ) (nonce : ℕ) : CallbackStage → CallbackStage
  | .exchanging p =>
    match answer with
    | .unsuccessful => .done ⟨502, "Authorization failed"⟩
    | .exception => .done ⟨502, "Error"⟩
    | .tokens accessToken refreshToken expiresIn =>
      if accessToken = "" then .done ⟨502, "No access token received"⟩
      else
        match expiresIn with
        | none => .raised
        | some expiresIn =>
          let credData := ("access_token", some accessToken) ::
            (if refreshToken = "" then [] else [("refresh_token", some refreshToken)])
          let (encrypted, iv) := env.encrypt credData nonce
          .selecting p ⟨encrypted, iv, now + expiresIn⟩
  | stage => stage

end CallbackStage

/-- A write to the table of credentials, and who made it. -/
inductive CredentialWrite where
  /-- A callback, which came with a state token. -/
  | oauth (state : String) (entry : CredentialEntry)
  /-- A request of the credentials API. -/
  | api (entry : CredentialEntry)
  deriving DecidableEq, Repr

namespace CredentialWrite

/-- The row as it was written. -/
def entry : CredentialWrite → CredentialEntry
  | oauth _ entry => entry
  | api entry => entry

/-- The state token of a callback. -/
def state? : CredentialWrite → Option String
  | oauth state _ => some state
  | api _ => none

end CredentialWrite

/-- **The API server**: the states, the callbacks, and the credentials. -/
structure OAuthServer where
  kv : InMemoryKVStore OAuthState
  callbacks : List CallbackStage
  credentials : List CredentialEntry
  /-- The id of the next row. -/
  nextId : ℕ

/-- What can happen. -/
inductive OAuthAction where
  | authorize (req : AuthorizeRequest)
  | callback (req : CallbackRequest)
  /-- The token endpoint answers a callback. -/
  | answer (i : ℕ) (answer : TokenAnswer) (now : ℤ) (nonce : ℕ)
  /-- The row to update is read for a callback. -/
  | select (i : ℕ)
  /-- A callback commits. -/
  | commit (i : ℕ) (now : ℤ)
  /-- `create_credential`. -/
  | create (agentId : Uuid) (agentExists : Bool) (name provider authType : String) (data : CredentialData)
      (nonce : ℕ)
  /-- `update_credential`. -/
  | update (agentId : Uuid) (id : ℕ) (name : Option String) (data : Option CredentialData) (nonce : ℕ)
  /-- `delete_credential`. -/
  | delete (agentId : Uuid) (id : ℕ)

namespace OAuthServer

/-- The rows of an agent, or of the platform, for an integration. -/
def matching (credentials : List CredentialEntry) (agentId : Option Uuid) (provider : String) :
    List CredentialEntry :=
  credentials.filter fun entry => entry.agentId = agentId ∧ entry.row.provider = provider

/-- The row as a callback updates it. -/
def updated (new : NewCredential) (now : ℤ) (entry : CredentialEntry) : CredentialEntry :=
  { entry with
    row := { entry.row with
      encryptedData := new.encryptedData
      encryptionIv := some new.encryptionIv
      encryptionVersion := 2
      authType := "oauth2"
      tokenExpiresAt := some new.tokenExpiresAt
      lastRefreshSuccess := some now
      lastRefreshFailure := none
      refreshAttempts := 0
      refreshExhausted := false } }

/-- The row that a callback adds. -/
def inserted (p : PendingCallback) (new : NewCredential) (now : ℤ) (id : ℕ) : CredentialEntry where
  id := id
  agentId := p.stateData.agentId
  name := p.config.displayName ++ " " ++ (if p.stateData.agentId.isNone then "Default " else "") ++ "Connection"
  row :=
    { provider := p.stateData.integration
      authType := "oauth2"
      encryptedData := new.encryptedData
      encryptionIv := some new.encryptionIv
      encryptionVersion := 2
      tokenExpiresAt := some new.tokenExpiresAt
      lastRefreshSuccess := some now
      lastRefreshFailure := none
      lastRefreshError := none
      refreshAttempts := 0
      refreshExhausted := false
      lastFetchedAt := none }

/-- What a callback that selects finds: more than one row is an exception. -/
def selected (credentials : List CredentialEntry) : CallbackStage → CallbackStage
  | .selecting p new =>
    match matching credentials p.stateData.agentId p.stateData.integration with
    | [] => .committing p new none
    | [entry] => .committing p new (some entry.id)
    | _ => .raised
  | stage => stage

/-- A row in the place of the one with its id. -/
def replace (entry : CredentialEntry) (credentials : List CredentialEntry) : List CredentialEntry :=
  credentials.map fun other => if other.id = entry.id then entry else other

/-- What a callback writes when it commits: an update finds no row if it was deleted meanwhile. -/
def committed (s : OAuthServer) (now : ℤ) : CallbackStage → Option CredentialWrite
  | .committing p new none => some (.oauth p.state (inserted p new now s.nextId))
  | .committing p new (some id) =>
    (s.credentials.find? (·.id = id)).map fun entry => .oauth p.state (updated new now entry)
  | _ => none

/-- What an action writes to the table of credentials. -/
def writes (env : OAuthEnv) (s : OAuthServer) : OAuthAction → List CredentialWrite
  | .commit i now => ((s.callbacks[i]?).bind (s.committed now)).toList
  | .create agentId agentExists name provider authType data nonce =>
    if agentExists then
      [.api
        { id := s.nextId
          agentId := some agentId
          name := name
          row :=
            { provider := provider
              authType := authType
              encryptedData := (env.encrypt data nonce).1
              encryptionIv := some (env.encrypt data nonce).2
              encryptionVersion := 2
              tokenExpiresAt := none
              lastRefreshSuccess := none
              lastRefreshFailure := none
              lastRefreshError := none
              refreshAttempts := 0
              refreshExhausted := false
              lastFetchedAt := none } }]
    else []
  | .update agentId id name data nonce =>
    match s.credentials.find? fun entry => entry.id = id ∧ entry.agentId = some agentId with
    | none => []
    | some entry =>
      let row :=
        match data with
        | none => entry.row
        | some data =>
          { entry.row with
            encryptedData := (env.encrypt data nonce).1
            encryptionIv := some (env.encrypt data nonce).2
            encryptionVersion := 2 }
      [.api { entry with name := name.getD entry.name, row := row }]
  | _ => []

/-- The table after a write: a row takes the place of the one with its id, or is new. -/
def store (w : CredentialWrite) (s : OAuthServer) : OAuthServer :=
  if s.credentials.any (·.id = w.entry.id) then { s with credentials := replace w.entry s.credentials }
  else { s with credentials := s.credentials ++ [w.entry], nextId := s.nextId + 1 }

/-- How a callback ends that commits. -/
def finish (s : OAuthServer) (now : ℤ) (stage : CallbackStage) : CallbackStage :=
  match stage with
  | .committing _ _ _ =>
    if (s.committed now stage).isSome then .done ⟨200, "Authorization successful!"⟩ else .raised
  | stage => stage

/-- What an action does to the states and the callbacks. -/
def react (env : OAuthEnv) (s : OAuthServer) : OAuthAction → OAuthServer
  | .authorize req =>
    match req.check env with
    | .error _ => s
    | .ok _ =>
      { s with kv := s.kv.set (stateKey req.stateToken) req.oauthState stateTtl req.evicted req.written }
  | .callback req =>
    let (stage, kv) := CallbackStage.start env req s.kv
    { s with kv := kv, callbacks := s.callbacks ++ [stage] }
  | .answer i answer now nonce =>
    { s with callbacks := s.callbacks.modify i (CallbackStage.exchanged env answer now nonce) }
  | .select i => { s with callbacks := s.callbacks.modify i (selected s.credentials) }
  | .commit i now => { s with callbacks := s.callbacks.modify i (s.finish now) }
  | .create .. => s
  | .update .. => s
  | .delete agentId id =>
    { s with
      credentials := s.credentials.filter fun entry => ¬ (entry.id = id ∧ entry.agentId = some agentId) }

/-- **One step of the server.** -/
def step (env : OAuthEnv) (s : OAuthServer) (action : OAuthAction) : OAuthServer :=
  (s.writes env action).foldl (fun s w => s.store w) (s.react env action)

/-- A server that has just started, over a table. -/
def started (credentials : List CredentialEntry) (nextId : ℕ) : OAuthServer :=
  ⟨.empty, [], credentials, nextId⟩

end OAuthServer

end Feros
