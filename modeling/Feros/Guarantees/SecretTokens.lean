import Feros.Integrations.SecretResolver
/-! # The token of a provider

The voice runtime and the builder each take one field of a decrypted credential for the token.
`primarySecretValue` takes the first field of its list that is there, also an empty one, and otherwise
the one with the least name; it is reached only if all members are strings.  `extractToken` has another
list, goes past empty fields, and leaves out some names at the end. -/

namespace Feros

open TokenRefresher

namespace SecretResolver

/-- The token in the voice runtime: `secret("provider")`. -/
def runtimeToken (data : CredentialData) : Option String := (fieldsOf data).bind primarySecretValue

/-- **Runtime and builder agree**: both have no token, or the same one, which is not empty. -/
def Agree (data : CredentialData) : Prop :=
  runtimeToken data = none ∧ extractToken data = none ∨
    ∃ token, token ≠ "" ∧ runtimeToken data = some token ∧ extractToken data = some token

/-- The first of these fields that is there. -/
def firstPresent (keys : List String) (data : SecretFields) : Option String :=
  keys.findSome? fun key => field key data

/-- The first of these fields that is there and not empty. -/
def firstFilled (keys : List String) (data : SecretFields) : Option String :=
  keys.findSome? fun key => (field key data).filter fun value => !value.isEmpty

/-- The field with the least name. -/
def leastField (data : SecretFields) : Option String :=
  match (data.map (·.1)).min? with
  | some first => field first data
  | none => none

/-- The first filled field whose name is not one that the builder leaves out. -/
def firstOther (data : SecretFields) : Option String :=
  data.findSome? fun member =>
    if nonTokenKeys.contains member.1 then none else (some member.2).filter fun value => !value.isEmpty

/-- **When they agree**, by the fields that are there. -/
def SameToken (data : CredentialData) : Prop :=
  match fieldsOf data with
  -- Not all members are strings: the builder must find nothing.
  | none => ∀ member ∈ data, member.1 ∈ nonTokenKeys ∨ member.2 = none ∨ member.2 = some ""
  | some fields =>
    fields = [] ∨
      match field "access_token" fields with
      | some token => token ≠ ""
      | none =>
        match firstPresent ["api_key", "token", "bot_token"] fields with
        | some token => token ≠ "" ∧
            ∀ other, firstFilled ["api_token", "bot_token"] fields = some other → other = token
        | none => ∃ token, token ≠ "" ∧
            (firstPresent ["bearer_token", "client_secret", "password", "key", "refresh_token"] fields).or
              (leastField fields) = some token ∧
            (firstFilled ["api_token"] fields).or (firstOther fields) = some token

/-! ## Objects of strings -/

/-- The fields are strings where the first is one and the others are. -/
theorem fieldsOf_cons (member : String × Option String) (data : CredentialData) :
    fieldsOf (member :: data) = member.2.bind fun value =>
      (fieldsOf data).map fun fields => (member.1, value) :: fields := by
  obtain ⟨name, value⟩ := member
  unfold fieldsOf
  rw [List.mapM_cons]
  rcases value with - | value
  · rfl
  · rcases rest : data.mapM fun member => member.2.map (member.1, ·) with - | fields
    · simp [rest]
    · simp [rest]

/-- A row whose fields are strings holds them. -/
theorem fieldsOf_eq_some {data : CredentialData} {fields : SecretFields}
    (strings : fieldsOf data = some fields) :
    data = fields.map fun member => (member.1, some member.2) := by
  induction data generalizing fields with
  | nil =>
      cases strings
      rfl
  | cons member data ih =>
      obtain ⟨name, value⟩ := member
      rw [fieldsOf_cons] at strings
      rcases value with - | value
      · cases strings
      · rcases rest : fieldsOf data with - | fields'
        · rw [rest] at strings
          cases strings
        · rw [rest] at strings
          cases strings
          rw [List.map_cons, ← ih rest]

/-- A field is read as the string it is. -/
theorem getStr_strings (key : String) (fields : SecretFields) :
    getStr key (fields.map fun member => (member.1, some member.2)) = field key fields := by
  unfold getStr field
  induction fields with
  | nil => rfl
  | cons member fields ih =>
      by_cases here : member.1 = key
      · simp [here]
      · simp only [List.map_cons, List.find?_cons, beq_eq_false_iff_ne.2 here]
        exact ih

/-- A match on two options is the first, or else the second. -/
theorem match_eq_or (first second : Option String) : (match first with
    | some token => some token
    | none => second) = first.or second := by
  cases first <;> rfl

/-- The builder's token of an object of strings. -/
theorem extractToken_strings (fields : SecretFields) :
    extractToken (fields.map fun member => (member.1, some member.2)) =
      (firstFilled tokenKeys fields).or (firstOther fields) := by
  unfold extractToken firstFilled firstOther
  simp only [getStr_strings, List.findSome?_map, Function.comp_def]
  exact match_eq_or _ _

/-- The runtime's token of an object of strings. -/
theorem primarySecretValue_eq (fields : SecretFields) :
    primarySecretValue fields = (firstPresent preferredKeys fields).or (leastField fields) := by
  unfold primarySecretValue firstPresent leastField
  exact match_eq_or _ _

/-- The builder finds nothing if and only if nothing is usable. -/
theorem extractToken_eq_none {data : CredentialData} : extractToken data = none ↔
    ∀ member ∈ data, member.1 ∈ nonTokenKeys ∨ member.2 = none ∨ member.2 = some "" := by
  have unusable : ∀ value : Option String, value.filter (fun v => !v.isEmpty) = none ↔
      value = none ∨ value = some "" := by
    intro value
    rcases value with - | value
    · simp
    · simp [Option.filter_some]
  unfold extractToken
  dsimp only
  constructor
  · intro none member held
    split at none
    · cases none
    · by_cases left : member.1 ∈ nonTokenKeys
      · exact .inl left
      · have value := List.findSome?_eq_none_iff.1 none member held
        rw [if_neg (by simpa using left)] at value
        exact .inr ((unusable _).1 value)
  · intro nothing
    have preferred : (tokenKeys.findSome? fun key =>
        (getStr key data).filter fun v => !v.isEmpty) = none := by
      refine List.findSome?_eq_none_iff.2 fun key listed => (unusable _).2 ?_
      unfold getStr
      rcases found : data.find? fun member => member.1 == key with - | member
      · exact .inl (by rw [found]; rfl)
      · have same : member.1 = key := by simpa using List.find?_some found
        have apart : ∀ key ∈ tokenKeys, key ∉ nonTokenKeys := by decide
        rw [found]
        rcases nothing member (List.mem_of_find?_eq_some found) with left | value
        · exact absurd left (same ▸ apart key listed)
        · exact value
    simp only [preferred]
    refine List.findSome?_eq_none_iff.2 fun member held => ?_
    split
    · rfl
    · rename_i kept
      rcases nothing member held with left | value
      · exact absurd (by simpa using left) kept
      · exact (unusable _).2 value

/-! ## The guarantee -/

/-- The first key that is present, or one behind it. -/
theorem firstPresent_cons (key : String) (keys : List String) (data : SecretFields) :
    firstPresent (key :: keys) data = (field key data).or (firstPresent keys data) := by
  unfold firstPresent
  rw [List.findSome?_cons]
  cases field key data <;> rfl

/-- The first key that is filled, or one behind it. -/
theorem firstFilled_cons (key : String) (keys : List String) (data : SecretFields) :
    firstFilled (key :: keys) data =
      ((field key data).filter fun value => !value.isEmpty).or (firstFilled keys data) := by
  unfold firstFilled
  rw [List.findSome?_cons]
  cases (field key data).filter fun value => !value.isEmpty <;> rfl

/-- A key of the first keys, or one of the second. -/
theorem firstPresent_append (first second : List String) (data : SecretFields) :
    firstPresent (first ++ second) data = (firstPresent first data).or (firstPresent second data) :=
  List.findSome?_append

/-- A filled key of the first keys, or one of the second. -/
theorem firstFilled_append (first second : List String) (data : SecretFields) :
    firstFilled (first ++ second) data = (firstFilled first data).or (firstFilled second data) :=
  List.findSome?_append

/-- A field that is there and not empty is filled. -/
theorem filter_filled {value : String} (filled : value ≠ "") :
    (some value).filter (fun value => !value.isEmpty) = some value := by
  rw [Option.filter_some, if_pos]
  rwa [Bool.not_eq_true', String.isEmpty_eq_false_iff]

/-- **On an object of strings they agree as `SameToken` says.** -/
theorem agree_strings (fields : SecretFields) :
    (∃ token, token ≠ "" ∧ (firstPresent preferredKeys fields).or (leastField fields) = some token ∧
        (firstFilled tokenKeys fields).or (firstOther fields) = some token) ↔
      match field "access_token" fields with
      | some token => token ≠ ""
      | none =>
        match firstPresent ["api_key", "token", "bot_token"] fields with
        | some token => token ≠ "" ∧
            ∀ other, firstFilled ["api_token", "bot_token"] fields = some other → other = token
        | none => ∃ token, token ≠ "" ∧
            (firstPresent ["bearer_token", "client_secret", "password", "key", "refresh_token"] fields).or
              (leastField fields) = some token ∧
            (firstFilled ["api_token"] fields).or (firstOther fields) = some token := by
  have preferred : firstPresent preferredKeys fields = (field "access_token" fields).or
      ((firstPresent ["api_key", "token", "bot_token"] fields).or (firstPresent
        ["bearer_token", "client_secret", "password", "key", "refresh_token"] fields)) := by
    rw [← firstPresent_append, ← firstPresent_cons]
    rfl
  have tokens : firstFilled tokenKeys fields =
      ((field "access_token" fields).filter fun value => !value.isEmpty).or
        ((firstFilled ["api_token", "bot_token"] fields).or (firstFilled ["api_key", "token"] fields)) := by
    rw [← firstFilled_append, ← firstFilled_cons]
    rfl
  rw [preferred, tokens]
  rcases access : field "access_token" fields with - | value
  · rw [Option.none_or, Option.filter_none, Option.none_or]
    dsimp only
    rcases present : firstPresent ["api_key", "token", "bot_token"] fields with - | value
    · -- Only `api_token` is left of the fields the builder asks for first.
      simp only [firstPresent_cons, Option.or_eq_none_iff] at present
      obtain ⟨apiKey, token, bot, -⟩ := present
      have filled : (firstFilled ["api_token", "bot_token"] fields).or
          (firstFilled ["api_key", "token"] fields) = firstFilled ["api_token"] fields := by
        simp only [firstFilled_cons, apiKey, token, bot, Option.filter_none, Option.none_or]
        simp [firstFilled]
      rw [filled, Option.none_or]
    · rw [Option.some_or, Option.some_or]
      rcases first : firstFilled ["api_token", "bot_token"] fields with - | other
      · rw [Option.none_or]
        constructor
        · rintro ⟨token, some', same, -⟩
          cases same
          exact ⟨some', fun other impossible => absurd impossible (by simp)⟩
        · rintro ⟨some', -⟩
          refine ⟨value, some', rfl, ?_⟩
          -- The field is not `bot_token`, which is not filled.
          have given : firstFilled ["api_key", "token"] fields = some value := by
            simp only [firstPresent_cons] at present
            simp only [firstFilled_cons, Option.or_eq_none_iff] at first
            rcases apiKey : field "api_key" fields with - | key
            · rw [apiKey, Option.none_or] at present
              rcases token : field "token" fields with - | token
              · rw [token, Option.none_or] at present
                rcases bot : field "bot_token" fields with - | bot
                · rw [bot] at present
                  cases present
                · rw [bot] at present first
                  cases present
                  rw [filter_filled some'] at first
                  exact absurd first.2.1 (by simp)
              · rw [token] at present
                cases present
                rw [firstFilled_cons, firstFilled_cons, apiKey, token, filter_filled some',
                  Option.filter_none, Option.none_or, Option.some_or]
            · rw [apiKey] at present
              cases present
              rw [firstFilled_cons, apiKey, filter_filled some', Option.some_or]
          rw [given, Option.some_or]
      · rw [Option.some_or, Option.some_or]
        constructor
        · rintro ⟨token, some', same, same'⟩
          cases same
          cases same'
          exact ⟨some', fun other same => (Option.some.inj same).symm⟩
        · rintro ⟨some', only⟩
          exact ⟨value, some', rfl, by rw [only other rfl]⟩
  · rw [Option.some_or, Option.some_or]
    dsimp only
    constructor
    · rintro ⟨token, some', same, -⟩
      cases same
      exact some'
    · intro some'
      refine ⟨value, some', rfl, ?_⟩
      rw [filter_filled some', Option.some_or, Option.some_or]

/-- **Runtime and builder agree on the token of a provider if and only if the fields are as
`SameToken` says**, for every decrypted object. -/
theorem tokens_agree_iff (data : CredentialData) : Agree data ↔ SameToken data := by
  unfold Agree SameToken runtimeToken
  rcases strings : fieldsOf data with - | fields
  · simp only [Option.bind_none, true_and, reduceCtorEq, false_and, and_false, exists_false, or_false]
    exact extractToken_eq_none
  · have object := fieldsOf_eq_some strings
    rw [Option.bind_some, primarySecretValue_eq, object, extractToken_strings]
    dsimp only
    rw [← agree_strings]
    by_cases empty : fields = []
    · subst empty
      exact iff_of_true (.inl ⟨rfl, rfl⟩) (.inl rfl)
    · have secret : (firstPresent preferredKeys fields).or (leastField fields) ≠ none := by
        rw [← primarySecretValue_eq]
        exact fun none => empty (primarySecretValue_eq_none.1 none)
      rw [or_iff_right fun nothing => secret nothing.1, or_iff_right empty]

/-- The token of an integration with a field of another name. -/
theorem tokens_differ : ¬ Agree [("account_id", some "42"), ("api_token", some "t")] := by
  have runtime : runtimeToken [("account_id", some "42"), ("api_token", some "t")] = some "42" := by
    decide +kernel
  have builder : extractToken [("account_id", some "42"), ("api_token", some "t")] = some "t" := by
    decide +kernel
  rintro (⟨none, -⟩ | ⟨token, -, same, same'⟩)
  · rw [runtime] at none
    cases none
  · rw [runtime] at same
    rw [builder, ← same] at same'
    exact absurd same' (by decide)

end SecretResolver

end Feros
