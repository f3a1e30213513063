import Mathlib.Data.String.Basic
import Feros.Integrations.TokenRefresh
/-! # Secrets of a session

`resolve_secrets` loads all credentials an agent can see, its own and the defaults of the platform, into
one flat map: `provider` for the field that is taken for the secret, and `provider.field` for each
field. -/

namespace Feros

/-- The fields of a credential, all of them strings. -/
abbrev SecretFields := List (String × String)

/-- **A credential row**, as far as the resolver reads it. -/
structure SecretRow where
  provider : String
  encryptedData : String
  encryptionIv : Option String
  encryptionVersion : ℤ
  /-- `false` for a default of the platform. -/
  isAgentSpecific : Bool
  deriving DecidableEq, Repr

/-- The secrets: a map from keys. -/
abbrev SecretMap := String → Option String

/-- Set the value of a key. -/
def SecretMap.insert (secrets : SecretMap) (key value : String) : SecretMap :=
  fun other => if other = key then some value else secrets other

namespace SecretResolver

/-- A field of a credential. -/
def field (key : String) (data : SecretFields) : Option String :=
  (data.find? fun member => member.1 == key).map (·.2)

def preferredKeys : List String :=
  ["access_token", "api_key", "token", "bot_token", "bearer_token", "client_secret", "password", "key",
    "refresh_token"]

/-- The field that is taken for the secret: the first preferred one, or the one with the least name. -/
def primarySecretValue (data : SecretFields) : Option String :=
  match preferredKeys.findSome? fun key => field key data with
  | some value => some value
  | none =>
    match (data.map (·.1)).min? with
    | some first => field first data
    | none => none

/-- A field that is looked up is there. -/
theorem field_isSome_of_mem {key : String} {data : SecretFields} (held : key ∈ data.map (·.1)) :
    (field key data).isSome = true := by
  obtain ⟨member, inside, same⟩ := List.mem_map.1 held
  have found : (data.find? fun member => member.1 == key).isSome = true :=
    List.find?_isSome.2 ⟨member, inside, by simpa using same⟩
  rw [field, Option.isSome_map]
  exact found

/-- A credential with fields has a secret. -/
theorem primarySecretValue_eq_none {data : SecretFields} : primarySecretValue data = none ↔ data = [] := by
  constructor
  · intro none
    unfold primarySecretValue at none
    split at none
    · cases none
    · split at none
      · rename_i first least
        have held := List.min?_mem least
        have found := field_isSome_of_mem held
        rw [none] at found
        cases found
      · rename_i empty
        exact List.map_eq_nil_iff.1 (List.min?_eq_none_iff.1 empty)
  · rintro rfl
    rfl

/-- A JSON object as a map of strings; `none` if it has a member of another kind. -/
def fieldsOf (data : CredentialData) : Option SecretFields :=
  data.mapM fun member => member.2.map (member.1, ·)

/-- Decrypt a credential row based on its encryption version. -/
def decryptCredential (decryptJson : String → String → Except String CredentialData) (row : SecretRow) :
    Except String SecretFields :=
  if row.encryptionVersion = 2 then
    match row.encryptionIv with
    | none => .error "decryption failed"
    | some iv =>
      match decryptJson row.encryptedData iv with
      | .error message => .error message
      | .ok json =>
        match fieldsOf json with
        | some data => .ok data
        | none => .error "invalid JSON"
  -- Legacy Fernet, or unknown.
  else .error "decryption failed"

/-- The key of a single field. -/
def compoundKey (provider key : String) : String := provider ++ "." ++ key

/-- What a decrypted row puts into the map. -/
def insertions (provider : String) (data : SecretFields) : SecretFields :=
  ((primarySecretValue data).map (provider, ·)).toList ++
    data.map fun member => (compoundKey provider member.1, member.2)

/-- Put entries into the map. -/
def insertAll (secrets : SecretMap) (entries : SecretFields) : SecretMap :=
  entries.foldl (fun secrets entry => secrets.insert entry.1 entry.2) secrets

/-- One row: the providers with a credential of the agent so far, and the map. -/
def resolveRow (decryptJson : String → String → Except String CredentialData)
    (state : List String × SecretMap) (row : SecretRow) : List String × SecretMap :=
  if !row.isAgentSpecific && state.1.contains row.provider then state
  else
    match decryptCredential decryptJson row with
    | .ok data =>
      (if row.isAgentSpecific then row.provider :: state.1 else state.1,
        insertAll state.2 (insertions row.provider data))
    | .error _ => state

/-- The rows in the order of the query: `ORDER BY agent_id NULLS LAST`. -/
def queried (rows : List SecretRow) : List SecretRow :=
  rows.filter (·.isAgentSpecific) ++ rows.filter (!·.isAgentSpecific)

/-- **Resolve the secrets of a session** from the rows that its agent can see. -/
def resolveSecrets (decryptJson : String → String → Except String CredentialData)
    (rows : List SecretRow) : SecretMap :=
  ((queried rows).foldl (resolveRow decryptJson) ([], fun _ => none)).2

end SecretResolver

end Feros
