import Mathlib
import Feros.Library.Leases
/-! # The mini vault server

`GET /v1/secret/data/{path}` returns the secrets of an agent to the holder of the root token or of a
scoped token that was created for that agent.  Clock readings and durations are nanoseconds; parsing
a UUID, the rate limiter's verdict and the secret provider are the outside. -/

namespace Feros

open Leases Run

/-- An agent id: the 128 bits of a UUID. -/
abbrev Uuid := BitVec 128

/-- The bytes of a header value. -/
abbrev HeaderValue := List UInt8

/-- The headers of a request in order, under lower-case names. -/
abbrev HeaderMap := List (String × HeaderValue)

namespace HeaderMap

/-- `HeaderMap::get`: the first value under a name. -/
def get (headers : HeaderMap) (name : String) : Option HeaderValue :=
  (headers.find? fun header => header.1 == name).map Prod.snd

end HeaderMap

namespace HeaderValue

/-- `HeaderValue::to_str`: only visible ASCII and tabs. -/
def toStr (value : HeaderValue) : Option String :=
  if value.all fun b => (32 ≤ b && b < 127) || b == 9 then
    some (String.ofList (value.map fun b => Char.ofNat b.toNat))
  else none

end HeaderValue

/-- `str::strip_prefix`. -/
def stripPrefix (front text : String) : Option String :=
  if front.toList.isPrefixOf text.toList then
    some (String.ofList (text.toList.drop front.toList.length))
  else none

namespace Vault

/-! ## Token auth -/

/-- Header name for Vault token authentication. -/
def vaultTokenHeader : String := "x-vault-token"

/-- Extract the client token: `X-Vault-Token` first, then `Authorization: Bearer`. -/
def extractToken (headers : HeaderMap) : Option String :=
  match headers.get vaultTokenHeader with
  -- An unreadable primary header is not made up for by the fallback.
  | some value => HeaderValue.toStr value
  | none =>
    match headers.get "authorization" with
    | some auth => (HeaderValue.toStr auth).bind (stripPrefix "Bearer ")
    | none => none

/-- Token comparison, of the bytes. -/
def validateToken (provided expected : String) : Bool :=
  decide (provided.toUTF8 = expected.toUTF8)

/-! ## Scoped tokens -/

/-- Policy attached to a scoped token: the one agent it gives access to, and its end. -/
abbrev TokenPolicy := Lease Uuid ℤ

/-- Scoped tokens by their text. -/
abbrev TokenRegistry := Table String Uuid ℤ

/-- `DateTime::<Utc>::MAX_UTC`; adding a duration panics beyond it. -/
def maxUtc : ℤ := 8210266876799 * 1000000000 + 999999999

/-- `chrono::Duration::from_std`: at most `i64::MAX` milliseconds. -/
def durationFromStd (ttl : ℕ) : Option ℤ :=
  if ttl ≤ (2 ^ 63 - 1) * 1000000 then some ttl else none

/-- `chrono::Duration::hours(2)`. -/
def twoHours : ℤ := 2 * 3600 * 1000000000

/-- A call of `create_scoped_token`: its arguments, the token it draws and the clock it reads. -/
structure Creation where
  agentId : Uuid
  ttl : ℕ
  token : String
  now : ℤ
  deriving DecidableEq, Repr

namespace Creation

/-- `now + ttl`; `none` where that panics. -/
def expiresAt (c : Creation) : Option ℤ :=
  let expires := c.now + (durationFromStd c.ttl).getD twoHours
  if expires ≤ maxUtc then some expires else none

/-- The policy that is registered. -/
def policy (c : Creation) : Option TokenPolicy :=
  c.expiresAt.map fun expires => ⟨c.agentId, expires⟩

end Creation

/-- Register a new scoped token for a specific agent, evicting expired ones.  A panic comes before
the registry is touched. -/
def createScopedToken (registry : TokenRegistry) (c : Creation) : TokenRegistry :=
  match c.policy with
  | none => registry
  | some policy => write registry ⟨c.token, policy, c.now⟩

inductive ScopedTokenResult where
  | ok
  | notFound
  | expired
  | agentMismatch
  deriving DecidableEq, Repr

/-- Validate a scoped token for the agent that is asked for. -/
def validate (registry : TokenRegistry) (now : ℤ) (token : String) (requestedAgentId : Uuid) :
    ScopedTokenResult :=
  match registry token with
  | none => .notFound
  | some policy =>
    if now > policy.ends then .expired
    else if policy.value ≠ requestedAgentId then .agentMismatch
    else .ok

/-! ## The read handler -/

/-- The secrets of one agent. -/
abbrev Secrets := List (String × String)

/-- Vault server shared state. -/
structure VaultState where
  /-- The root token. -/
  token : String
  /-- `SecretProvider::resolve`. -/
  provider : Uuid → Except String Secrets
  registry : TokenRegistry

/-- A `GET /v1/secret/data/{path}`, with the verdict of the rate limiter and the clock reading of the
handler. -/
structure Request where
  path : String
  headers : HeaderMap
  withinRate : Bool
  now : ℤ
  /-- The random id of the response, and its creation time. -/
  requestId : String
  createdTime : String
  deriving DecidableEq, Repr

structure Kv2Metadata where
  createdTime : String
  deletionTime : String
  destroyed : Bool
  version : ℕ
  deriving DecidableEq, Repr

/-- Vault KV v2 read response. -/
structure Kv2ReadResponse where
  requestId : String
  leaseId : String
  renewable : Bool
  leaseDuration : ℕ
  data : Secrets
  metadata : Kv2Metadata
  deriving DecidableEq, Repr

/-- The response to a read. -/
inductive Response where
  | ok (body : Kv2ReadResponse)
  /-- `vault_error`: a status and one message. -/
  | error (status : ℕ) (errors : List String)
  deriving DecidableEq, Repr

def vaultError (status : ℕ) (msg : String) : Response := .error status [msg]

/-- The body that carries `data`. -/
def Request.respond (req : Request) (data : Secrets) : Kv2ReadResponse where
  requestId := req.requestId
  leaseId := ""
  renewable := false
  leaseDuration := 0
  data := data
  metadata :=
    { createdTime := req.createdTime
      deletionTime := ""
      destroyed := false
      version := 1 }

/-- Read secrets for an agent, who is named by the path; `parseUuid` is `Uuid::parse_str`. -/
def kv2Read (parseUuid : String → Option Uuid) (state : VaultState) (req : Request) : Response :=
  if !req.withinRate then vaultError 429 "rate limit exceeded"
  else
    match extractToken req.headers with
    | none => vaultError 403 "missing client token"
    | some token =>
      match parseUuid req.path with
      | none => vaultError 400 "invalid agent_id format"
      | some agentId =>
        let resolve :=
          match state.provider agentId with
          | .ok map => .ok (req.respond map)
          | .error _ => vaultError 500 "failed to resolve secrets"
        if validateToken token state.token then resolve
        else
          match validate state.registry req.now token agentId with
          | .ok => resolve
          | .notFound => vaultError 403 "permission denied"
          | .expired => vaultError 403 "token expired"
          | .agentMismatch => vaultError 403 "permission denied"

end Vault

end Feros
