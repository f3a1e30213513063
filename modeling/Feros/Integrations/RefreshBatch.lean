import Feros.Integrations.TokenRefresh
/-! # A batch of refreshes

`refresh_stale_batch` refreshes up to ten credentials in one transaction.  A panic drops the transaction,
and a statement that fails aborts it: all that follow fail too, and the commit at the end is a
rollback.  The calendar and the database are outside: `Outside` is what they can represent. -/

namespace Feros

/-- **What the token endpoint does.** -/
inductive HttpOutcome where
  /-- There is no answer, or none that can be read as JSON: the text of the error. -/
  | failed (message : String)
  /-- The status is no success. -/
  | refused (status body : String)
  | answered (tokens : TokenResponse)
  deriving DecidableEq, Repr

/-- The exchange of a refresh token with this outcome. -/
def HttpOutcome.result : HttpOutcome → Except String TokenResponse
  | .failed message => .error message
  | .refused status body => .error
      ("Token refresh returned " ++ status ++ ": " ++ String.ofList (body.toList.take 200))
  | .answered tokens => .ok tokens

/-- The outside of one refresh, where the token endpoint has this outcome. -/
def RefreshEnv.withOutcome (env : RefreshEnv) (outcome : HttpOutcome) : RefreshEnv :=
  { env with exchange := fun _ _ _ => outcome.result }

/-- **What calendar and database can represent.** -/
structure Outside where
  /-- `Utc::now() + chrono::Duration::seconds(n)`; `none` is a panic. -/
  addSeconds : ℤ → ℤ → Option ℤ
  storesTime : ℤ → Bool
  storesText : String → Bool
  /-- The text of the error of a statement that fails. -/
  statementError : String

/-- A stale credential, and what its token endpoint does. -/
structure BatchItem where
  cred : CredentialRow
  outcome : HttpOutcome
  deriving DecidableEq, Repr

/-- The tokens to store, and how long the access token is good for. -/
structure NewTokens where
  access : String
  refresh : String
  expiresIn : ℤ
  deriving DecidableEq, Repr

/-- The members of the credential that is stored. -/
def NewTokens.data (tokens : NewTokens) : CredentialData :=
  [("access_token", some tokens.access), ("refresh_token", some tokens.refresh)]

/-- **The transaction**: the rows as far as they are dealt with, and whether a statement has failed. -/
structure BatchRun where
  rows : List CredentialRow
  refreshed : ℕ
  aborted : Bool
  deriving DecidableEq, Repr

/-- **How a batch ends.** -/
inductive BatchEnd where
  | panicked
  | rolledBack (refreshed : ℕ)
  | committed (rows : List CredentialRow) (refreshed : ℕ)
  deriving DecidableEq, Repr

namespace TokenRefresher

/-- The exchange: what `do_refresh_row` does before it calculates the new expiry. -/
def newTokens (env : RefreshEnv) (cred : CredentialRow) : Except String NewTokens := do
  let some tokenUrl := env.registry cred.provider
    | .error ("Unknown integration: " ++ cred.provider)
  let some tokenUrl := tokenUrl
    | .error ("No token_url for " ++ cred.provider)
  let some iv := cred.encryptionIv
    | .error "Missing encryption IV"
  let currentData ← env.decryptJson cred.encryptedData iv
  let some refreshToken := getStr "refresh_token" currentData
    | .error "No refresh_token in credential"
  let some clientConfig := env.clientConfigs cred.provider
    | .error ("No OAuth client config for " ++ cred.provider)
  let tokens ← env.exchange tokenUrl clientConfig refreshToken
  let some newAccess := tokens.accessToken
    | .error "Refresh response missing access_token"
  return ⟨newAccess, tokens.refreshToken.getD refreshToken, parseExpiresIn tokens⟩

/-- Record a failure in the transaction; `none` is a panic. -/
def recordInTx (outside : Outside) (now : ℤ) (cred : CredentialRow) (message : String)
    (aborted : Bool) : Option (CredentialRow × Bool) :=
  match truncateError message with
  | none => none
  | some text =>
    if aborted then some (cred, true)
    else if outside.storesText text then some (recordFailure now text cred, false)
    -- The failed statement is only logged.
    else some (cred, true)

/-- One round of the loop: the row, whether it was refreshed, and whether a statement has failed;
`none` is a panic. -/
def refreshItem (outside : Outside) (env : RefreshEnv) (now : ℤ) (item : BatchItem)
    (aborted : Bool) : Option (CredentialRow × Bool × Bool) :=
  let failure (message : String) (aborted : Bool) : Option (CredentialRow × Bool × Bool) :=
    (recordInTx outside now item.cred message aborted).map fun (row, aborted) => (row, false, aborted)
  if (env.clientConfigs item.cred.provider).isNone then some (item.cred, false, aborted)
  else
    match newTokens (env.withOutcome item.outcome) item.cred with
    | .error message => failure message aborted
    | .ok tokens =>
      match outside.addSeconds now tokens.expiresIn with
      | none => none
      | some expiresAt =>
        match env.encryptJson tokens.data with
        | .error message => failure message aborted
        | .ok (ciphertext, iv) =>
          if aborted || !outside.storesTime expiresAt then failure outside.statementError true
          else some (storeRefresh now expiresAt ciphertext iv item.cred, true, false)

/-- The loop over the stale credentials. -/
def refreshItems (outside : Outside) (env : RefreshEnv) (now : ℤ) (run : BatchRun) :
    List BatchItem → Option BatchRun
  | [] => some run
  | item :: items =>
    match refreshItem outside env now item run.aborted with
    | none => none
    | some (row, refreshed, aborted) =>
      refreshItems outside env now
        ⟨run.rows ++ [row], run.refreshed + refreshed.toNat, aborted⟩ items

/-- **Refresh stale credentials in one transaction.** -/
def refreshStaleBatch (outside : Outside) (env : RefreshEnv) (now : ℤ) (stale : List BatchItem) :
    BatchEnd :=
  match refreshItems outside env now ⟨[], 0, false⟩ stale with
  | none => .panicked
  | some run => if run.aborted then .rolledBack run.refreshed else .committed run.rows run.refreshed

/-! ## The refresh of one row -/

/-- **A refresh is the exchange, the encryption and the statement.** -/
theorem doRefreshRow_eq (env : RefreshEnv) (now : ℤ) (cred row : CredentialRow) :
    doRefreshRow env now cred row = (newTokens env cred).bind fun tokens =>
      (env.encryptJson tokens.data).bind fun (ciphertext, iv) =>
        .ok (tokens.access, storeRefresh now (now + tokens.expiresIn) ciphertext iv row) := by
  unfold doRefreshRow newTokens
  rcases env.registry cred.provider with - | - | url
  · rfl
  · rfl
  dsimp only
  rcases cred.encryptionIv with - | iv
  · rfl
  dsimp only
  rcases env.decryptJson cred.encryptedData iv with message | data
  · rfl
  dsimp only [bind, Except.bind]
  rcases getStr "refresh_token" data with - | refreshToken
  · rfl
  dsimp only
  rcases env.clientConfigs cred.provider with - | config
  · rfl
  dsimp only
  rcases env.exchange url config refreshToken with message | tokens
  · rfl
  dsimp only
  rcases tokens.accessToken with - | access
  · rfl
  rfl

end TokenRefresher

end Feros
