import Feros.Integrations.Vault
/-! # Who reads the secrets of an agent

A registry holds what its last creations left in it, by the general rule of leases.  So the handler
lets a scoped token through exactly while the last creation of that token was for the agent that is
asked for and has neither ended nor been dropped by a later creation. -/

namespace Feros

namespace Vault

open Leases Run

/-- **The token gives access to the agent**: it was last created for that agent, no later creation
has evicted it, and it has not expired at `now`. -/
def Granted (history : List Creation) (token : String) (agentId : Uuid) (now : ℤ) : Prop :=
  ∃ before c after expires, history = before ++ c :: after ∧ c.token = token ∧
    c.agentId = agentId ∧ c.expiresAt = some expires ∧ now ≤ expires ∧
    ∀ later ∈ after, later.expiresAt.isSome = true → later.token ≠ token ∧ later.now < expires

/-- The lease a creation writes. -/
def Creation.write (c : Creation) : Option (Write String Uuid ℤ) :=
  c.policy.map fun policy => ⟨c.token, policy, c.now⟩

/-- The registry after the creations of a history. -/
def registryAfter (history : List Creation) : TokenRegistry :=
  run createScopedToken (fun _ => none) history

/-- **A creation is at most one write of the table.** -/
theorem createScopedToken_eq (registry : TokenRegistry) (c : Creation) :
    createScopedToken registry c = run write registry c.write.toList := by
  unfold createScopedToken Creation.write
  cases c.policy <;> rfl

/-- Creations write leases. -/
theorem registryAfter_eq (history : List Creation) :
    registryAfter history = run write (fun _ => none) (history.filterMap Creation.write) := by
  unfold registryAfter
  generalize (fun _ => none : TokenRegistry) = start
  induction history generalizing start with
  | nil => rfl
  | cons c history ih =>
    rw [run_cons, ih, createScopedToken_eq, ← run_append]
    cases written : c.write with
    | none => simp [written]
    | some w => simp [written]

/-- What a creation writes. -/
theorem write_eq_some {c : Creation} {w : Write String Uuid ℤ} :
    c.write = some w ↔
      c.expiresAt = some w.lease.ends ∧ c.token = w.key ∧ c.agentId = w.lease.value ∧
        c.now = w.clock := by
  obtain ⟨key, ⟨value, ends⟩, clock⟩ := w
  unfold Creation.write Creation.policy
  cases c.expiresAt with
  | none => simp
  | some expires =>
    simp
    tauto

/-- What lasts among the leases was created by the history. -/
theorem lasting_iff {history : List Creation} {token : String} {policy : TokenPolicy} :
    Lasting token policy (history.filterMap Creation.write) ↔
      ∃ before c after, history = before ++ c :: after ∧ c.token = token ∧
        c.agentId = policy.value ∧ c.expiresAt = some policy.ends ∧
        ∀ later ∈ after, later.expiresAt.isSome = true →
          later.token ≠ token ∧ later.now < policy.ends := by
  constructor
  · rintro ⟨before, w, after, split, rfl, rfl, lasts⟩
    obtain ⟨front, rest, rfl, -, rest_eq⟩ := List.filterMap_eq_append_iff.1 split
    obtain ⟨skipped, c, later, rfl, -, written, rfl⟩ := List.filterMap_eq_cons_iff.1 rest_eq
    obtain ⟨expires, key, agent, -⟩ := write_eq_some.1 written
    refine ⟨front ++ skipped, c, later, by simp, key, agent, expires, fun d held exists_ => ?_⟩
    obtain ⟨e, ends⟩ := Option.isSome_iff_exists.1 exists_
    have write_d : d.write = some ⟨d.token, ⟨d.agentId, e⟩, d.now⟩ :=
      write_eq_some.2 ⟨ends, rfl, rfl, rfl⟩
    exact lasts _ (List.mem_filterMap.2 ⟨d, held, write_d⟩)
  · rintro ⟨before, c, after, rfl, rfl, agent, expires, lasts⟩
    have written : c.write = some ⟨c.token, policy, c.now⟩ :=
      write_eq_some.2 ⟨expires, rfl, agent, rfl⟩
    refine ⟨before.filterMap Creation.write, ⟨c.token, policy, c.now⟩,
      after.filterMap Creation.write, ?_, rfl, rfl, ?_⟩
    · rw [List.filterMap_append, List.filterMap_cons_some written]
    · intro later held
      obtain ⟨d, held, write_d⟩ := List.mem_filterMap.1 held
      obtain ⟨ends, key, -, clock⟩ := write_eq_some.1 write_d
      rw [← key, ← clock]
      exact lasts d held (by rw [ends]; rfl)

/-- **The registry lets a token through** exactly if it is granted. -/
theorem validate_eq_ok {history : List Creation} {token : String} {agentId : Uuid} {now : ℤ} :
    validate (registryAfter history) now token agentId = .ok ↔ Granted history token agentId now := by
  have held (policy : TokenPolicy) : registryAfter history token = some policy ↔
      ∃ before c after, history = before ++ c :: after ∧ c.token = token ∧
        c.agentId = policy.value ∧ c.expiresAt = some policy.ends ∧
        ∀ later ∈ after, later.expiresAt.isSome = true →
          later.token ≠ token ∧ later.now < policy.ends := by
    rw [registryAfter_eq, held_iff]
    exact lasting_iff
  unfold validate
  constructor
  · intro passed
    cases entry : registryAfter history token with
    | none =>
      rw [entry] at passed
      cases passed
    | some policy =>
      rw [entry] at passed
      dsimp only at passed
      split at passed
      · cases passed
      · rename_i live
        split at passed
        · cases passed
        · rename_i same
          obtain ⟨before, c, after, split, key, agent, expires, lasts⟩ := (held policy).1 entry
          refine ⟨before, c, after, policy.ends, split, key, ?_, expires, not_lt.1 live, lasts⟩
          exact agent.trans (not_not.1 same)
  · rintro ⟨before, c, after, expires, split, key, agent, ends, live, lasts⟩
    have entry := (held ⟨agentId, expires⟩).2 ⟨before, c, after, split, key, agent, ends, lasts⟩
    rw [entry]
    simp [not_lt.2 live]

/-- A token gives access to one agent at a time. -/
theorem Granted.unique {history : List Creation} {token : String} {a b : Uuid} {now : ℤ}
    (one : Granted history token a now) (two : Granted history token b now) : a = b := by
  rw [← validate_eq_ok] at one two
  unfold validate at one two
  cases entry : registryAfter history token with
  | none =>
    rw [entry] at one
    cases one
  | some policy =>
    rw [entry] at one two
    dsimp only at one two
    split at one
    · cases one
    · split at one
      · cases one
      · rename_i sameA
        split at two
        · cases two
        · split at two
          · cases two
          · rename_i sameB
            exact (not_not.1 sameA).symm.trans (not_not.1 sameB)

/-- A token is valid where it is the expected one. -/
theorem validateToken_iff {provided expected : String} :
    validateToken provided expected = true ↔ provided = expected := by
  unfold validateToken
  rw [decide_eq_true_iff]
  exact String.toByteArray_inj

/-- **The token a request presents gives access to the agent.** -/
def Authorized (root : String) (history : List Creation) (req : Request) (agentId : Uuid) : Prop :=
  ∃ token, extractToken req.headers = some token ∧
    (token = root ∨ Granted history token agentId req.now)

/-- The answer once a token is accepted. -/
def Request.answer (req : Request) : Except String Secrets → Response
  | .ok map => .ok (req.respond map)
  | .error _ => vaultError 500 "failed to resolve secrets"

/-- **What the handler asks the provider**: the secrets of the agent that is named and that the token
gives access to, or nothing. -/
theorem kv2Read_cases (parseUuid : String → Option Uuid) (root : String) (history : List Creation)
    (req : Request) :
    (∃ agentId, req.withinRate = true ∧ parseUuid req.path = some agentId ∧
      Authorized root history req agentId ∧ ∀ provider,
        kv2Read parseUuid ⟨root, provider, registryAfter history⟩ req =
          req.answer (provider agentId)) ∨
    ((∀ agentId, req.withinRate = true → parseUuid req.path = some agentId →
      ¬ Authorized root history req agentId) ∧ ∃ status msg, ∀ provider,
        kv2Read parseUuid ⟨root, provider, registryAfter history⟩ req = vaultError status msg) := by
  unfold kv2Read Authorized
  cases rate : req.withinRate with
  | false => exact .inr ⟨fun _ h => (nomatch h), _, _, fun _ => rfl⟩
  | true =>
    cases presented : extractToken req.headers with
    | none => exact .inr ⟨fun _ _ _ ⟨_, h, _⟩ => (nomatch h), _, _, fun _ => rfl⟩
    | some token =>
      cases named : parseUuid req.path with
      | none => exact .inr ⟨fun _ _ h => (nomatch h), _, _, fun _ => rfl⟩
      | some agentId =>
        by_cases isRoot : validateToken token root = true
        · refine .inl ⟨agentId, rfl, rfl, ⟨token, rfl, .inl (validateToken_iff.1 isRoot)⟩, ?_⟩
          intro provider
          simp only [isRoot]
          rfl
        · have other : token ≠ root := fun same => isRoot (validateToken_iff.2 same)
          cases verdict : validate (registryAfter history) req.now token agentId with
          | ok =>
            refine .inl ⟨agentId, rfl, rfl, ⟨token, rfl, .inr (validate_eq_ok.1 verdict)⟩, ?_⟩
            intro provider
            simp only [isRoot, verdict]
            rfl
          | notFound | expired | agentMismatch =>
            refine .inr ⟨fun b _ same ⟨t, shown, access⟩ => ?_, ?_⟩
            · obtain rfl := Option.some_inj.1 same
              obtain rfl := Option.some_inj.1 shown
              rcases access with isRoot' | granted
              · exact other isRoot'
              · rw [validate_eq_ok.2 granted] at verdict
                cases verdict
            · simp only [isRoot, verdict]
              exact ⟨_, _, fun _ => rfl⟩

/-- An answer is the response with the secrets that were found. -/
theorem answer_eq_ok {req : Request} {found : Except String Secrets} {body : Kv2ReadResponse} :
    req.answer found = .ok body ↔ ∃ secrets, found = .ok secrets ∧ body = req.respond secrets := by
  cases found <;> simp [Request.answer, vaultError, eq_comm]

/-- **Secrets are isolated.**  Whatever was created before and whatever the clocks read, the answer
to a request depends on the secrets of an agent only if the request presents the root token or a
token that gives access to that agent; and it is answered with secrets exactly if it does for the
agent its path names, whose secrets they are. -/
theorem vault_isolated (parseUuid : String → Option Uuid) (root : String)
    (provider : Uuid → Except String Secrets) (history : List Creation) (req : Request) :
    let read := fun provider => kv2Read parseUuid
      ⟨root, provider, run createScopedToken (fun _ => none) history⟩ req
    (∀ a provider', (∀ b, b ≠ a → provider' b = provider b) → read provider' ≠ read provider →
      Authorized root history req a) ∧
    (∀ body, read provider = .ok body ↔
      ∃ agentId secrets, req.withinRate = true ∧ parseUuid req.path = some agentId ∧
        Authorized root history req agentId ∧ provider agentId = .ok secrets ∧
        body = req.respond secrets) ∧
    ∀ token a b, Granted history token a req.now → Granted history token b req.now → a = b := by
  intro read
  rcases kv2Read_cases parseUuid root history req with
    ⟨agentId, rate, named, access, answers⟩ | ⟨refused, status, msg, answers⟩
  · refine ⟨fun a provider' elsewhere differ => ?_, fun body => ?_, fun _ _ _ => Granted.unique⟩
    · by_cases same : agentId = a
      · exact same ▸ access
      · refine absurd ?_ differ
        exact (answers provider').trans ((elsewhere agentId same) ▸ (answers provider).symm)
    · have answered : read provider = req.answer (provider agentId) := answers provider
      rw [answered, answer_eq_ok]
      constructor
      · rintro ⟨secrets, found, rfl⟩
        exact ⟨agentId, secrets, rate, named, access, found, rfl⟩
      · rintro ⟨b, secrets, -, named', -, found, rfl⟩
        obtain rfl := Option.some_inj.1 (named.symm.trans named')
        exact ⟨secrets, found, rfl⟩
  · refine ⟨fun a provider' _ differ => ?_, fun body => ?_, fun _ _ _ => Granted.unique⟩
    · exact absurd ((answers provider').trans (answers provider).symm) differ
    · have answered : read provider = vaultError status msg := answers provider
      rw [answered]
      constructor
      · intro same
        cases same
      · rintro ⟨b, secrets, rate, named, access, -⟩
        exact absurd access (refused b rate named)

end Vault

end Feros
