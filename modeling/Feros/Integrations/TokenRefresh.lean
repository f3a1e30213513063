import Mathlib.Data.Int.Notation
import Feros.Library.Run
/-! # Refreshing OAuth tokens

A credential is refreshed from two places: the background batch, which locks stale rows and counts
failures, and `resolve_token`, which refreshes on demand from a row it has read without a lock.
Both go through `doRefreshRow`.  The outside (the registry, decryption, the token endpoint) is
`RefreshEnv`; clock readings are seconds.  An `expires_in` beyond the calendar, at which the addition
panics, is not in this module but in `RefreshBatch`. -/

namespace Feros

/-- The members of a JSON object; `none` for a value that is not a string. -/
abbrev CredentialData := List (String × Option String)

/-- **A credential row**, as far as it is read or written here. -/
structure CredentialRow where
  provider : String
  authType : String
  encryptedData : String
  encryptionIv : Option String
  encryptionVersion : ℤ
  tokenExpiresAt : Option ℤ
  lastRefreshSuccess : Option ℤ
  lastRefreshFailure : Option ℤ
  lastRefreshError : Option String
  refreshAttempts : ℕ
  refreshExhausted : Bool
  lastFetchedAt : Option ℤ
  deriving DecidableEq, Repr

/-- OAuth client credentials for a single integration. -/
structure OAuthClientConfig where
  clientId : String
  clientSecret : String
  deriving DecidableEq, Repr

/-- The answer of the token endpoint. -/
structure TokenResponse where
  accessToken : Option String
  refreshToken : Option String
  /-- `expires_in`, as a number or a string that parses as one. -/
  expiresIn : Option ℤ
  deriving DecidableEq, Repr

/-- What the outside answers during one refresh. -/
structure RefreshEnv where
  /-- The token URL of a registered integration, which may have none. -/
  registry : String → Option (Option String)
  decryptJson : String → String → Except String CredentialData
  encryptJson : CredentialData → Except String (String × String)
  clientConfigs : String → Option OAuthClientConfig
  /-- The exchange of a refresh token at a URL. -/
  exchange : String → OAuthClientConfig → String → Except String TokenResponse

namespace TokenRefresher

def cooldownSeconds : ℤ := 60

def maxAttempts : ℕ := 5

/-- A string member of an object. -/
def getStr (key : String) (data : CredentialData) : Option String :=
  (data.find? fun member => member.1 == key).bind Prod.snd

/-- Parse `expires_in` from a token response; an hour if there is none. -/
def parseExpiresIn (tokens : TokenResponse) : ℤ := tokens.expiresIn.getD 3600

/-- The characters of `text` in front of a byte position, if it is a character boundary. -/
def sliceTo : ℕ → List Char → Option (List Char)
  | 0, _ => some []
  | _ + 1, [] => none
  | bytes + 1, c :: chars =>
    if bytes + 1 < c.utf8Size then none
    else (sliceTo (bytes + 1 - c.utf8Size) chars).map (c :: ·)

/-- `&error_msg[..error_msg.len().min(500)]`; cutting a character in two panics. -/
def truncateError (message : String) : Option String :=
  (sliceTo (min message.utf8ByteSize 500) message.toList).map String.ofList

/-- The statement that stores a refreshed credential.  It updates the row as it is now, whatever
was read before. -/
def storeRefresh (now expiresAt : ℤ) (ciphertext iv : String) (row : CredentialRow) :
    CredentialRow :=
  { row with
    encryptedData := ciphertext
    encryptionIv := some iv
    encryptionVersion := 2
    tokenExpiresAt := some expiresAt
    lastRefreshSuccess := some now
    lastRefreshFailure := none
    lastRefreshError := none
    refreshAttempts := 0 }

/-- Refresh a credential: the new access token and the row that is stored. -/
def doRefreshRow (env : RefreshEnv) (now : ℤ) (cred row : CredentialRow) :
    Except String (String × CredentialRow) := do
  let some tokenUrl := env.registry cred.provider
    | .error ("Unknown integration: " ++ cred.provider)
  let some tokenUrl := tokenUrl
    | .error ("No token_url for " ++ cred.provider)
  let some iv := cred.encryptionIv
    | .error "Missing encryption IV"
  let currentData ← env.decryptJson cred.encryptedData iv
  let some refreshToken := getStr "refresh_token" currentData
    | .error "No refresh_token in credential"
  let some clientConfig := env.clientConfigs cred.provider
    | .error ("No OAuth client config for " ++ cred.provider)
  let tokens ← env.exchange tokenUrl clientConfig refreshToken
  let some newAccess := tokens.accessToken
    | .error "Refresh response missing access_token"
  -- The refresh token is kept if it was not rotated.
  let newRefresh := tokens.refreshToken.getD refreshToken
  let (ciphertext, newIv) ← env.encryptJson
    [("access_token", some newAccess), ("refresh_token", some newRefresh)]
  return (newAccess, storeRefresh now (now + parseExpiresIn tokens) ciphertext newIv row)

/-! ## The background batch -/

/-- The batch selects the row. -/
def isStale (now marginMinutes : ℤ) (row : CredentialRow) : Bool :=
  row.authType == "oauth2" && !row.refreshExhausted && row.encryptionVersion == 2 &&
    row.tokenExpiresAt.all (fun expires => expires < now + marginMinutes * 60) &&
    row.lastRefreshFailure.all (fun failure => failure < now - cooldownSeconds)

/-- Record a failed attempt. -/
def recordFailure (now : ℤ) (message : String) (row : CredentialRow) : CredentialRow :=
  { row with
    lastRefreshFailure := some now
    lastRefreshError := some message
    refreshAttempts := row.refreshAttempts + 1
    refreshExhausted := maxAttempts ≤ row.refreshAttempts + 1 }

/-- What the batch does to a row it has selected and locked.  A panic rolls the transaction
back. -/
def refreshStale (env : RefreshEnv) (now : ℤ) (row : CredentialRow) : CredentialRow :=
  if (env.clientConfigs row.provider).isNone then row
  else
    match doRefreshRow env now row row with
    | .ok (_, stored) => stored
    | .error message =>
      match truncateError message with
      | some message => recordFailure now message row
      | none => row

/-! ## Resolving a token on demand -/

/-- The members `extract_token` asks for first. -/
def tokenKeys : List String := ["access_token", "api_token", "bot_token", "api_key", "token"]

/-- Members that are no token. -/
def nonTokenKeys : List String :=
  ["token_type", "scope", "expires_in", "refresh_token", "grant_type", "token_uri", "client_id",
    "client_secret"]

/-- Extract a usable token string from decrypted credential data. -/
def extractToken (data : CredentialData) : Option String :=
  let usable : Option String → Option String := fun value => value.filter (fun v => !v.isEmpty)
  match tokenKeys.findSome? fun key => usable (getStr key data) with
  | some token => some token
  | none => data.findSome? fun member =>
      if nonTokenKeys.contains member.1 then none else usable member.2

/-- The token expires within a minute, or at an unknown time. -/
def needsRefresh (now : ℤ) (cred : CredentialRow) : Bool :=
  cred.tokenExpiresAt.all fun expires => expires < now + 60

/-- `resolve_token`, from the row `cred` it has read: the token, and the row afterwards. -/
def resolveToken (env : RefreshEnv) (now : ℤ) (cred row : CredentialRow) :
    Except String String × CredentialRow :=
  match cred.encryptionIv with
  | none => (.error "Missing encryption IV", row)
  | some iv =>
    match env.decryptJson cred.encryptedData iv with
    | .error message => (.error message, row)
    | .ok data =>
      let stored : Except String String := match extractToken data with
        | some token => .ok token
        | none => .error "No usable token found in credential data"
      if cred.authType ≠ "oauth2" then (stored, row)
      else if needsRefresh now cred then
        match doRefreshRow env now cred row with
        | .ok (token, refreshed) => (.ok token, refreshed)
        -- The possibly expired token is better than none.
        | .error _ => (stored, row)
      else (stored, row)

/-! ## Histories of a credential -/

/-- A row, and the copies of it that calls of `resolve_token` have read and not yet used. -/
structure CredentialState where
  row : CredentialRow
  reading : List CredentialRow

/-- One thing that happens to a credential. -/
inductive CredentialEvent where
  /-- A batch runs; `picked` if the row is within its limit and not locked. -/
  | batch (env : RefreshEnv) (now marginMinutes : ℤ) (picked : Bool)
  /-- A call of `resolve_token` reads the row. -/
  | fetch (now : ℤ)
  /-- The call that has read the `i`-th copy goes on. -/
  | resolve (env : RefreshEnv) (now : ℤ) (i : ℕ)

/-- One step of a history. -/
def step (s : CredentialState) : CredentialEvent → CredentialState
  | .batch env now marginMinutes picked =>
    if picked && isStale now marginMinutes s.row then { s with row := refreshStale env now s.row }
    else s
  | .fetch now =>
    { row := { s.row with lastFetchedAt := some now }, reading := s.row :: s.reading }
  | .resolve env now i =>
    match s.reading[i]? with
    | some cred =>
      { row := (resolveToken env now cred s.row).2, reading := s.reading.eraseIdx i }
    | none => s

end TokenRefresher

end Feros
