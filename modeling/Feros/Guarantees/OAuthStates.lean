import Feros.Studio.OAuth
import Feros.Guarantees.ExpiringEntries
/-! # Every credential that a callback writes was asked for

However requests interleave, a callback writes at most one credential for each state that was issued, for the
agent and the integration that were asked for, within ten minutes, and no other row is touched. -/

namespace Feros

open Run

namespace OAuthServer

variable {env : OAuthEnv} {s : OAuthServer}

/-! ## How often a state is used -/

/-- The token under which an action stores a state. -/
def issued? (env : OAuthEnv) : OAuthAction → Option String
  | .authorize req => if (req.check env).isOk then some req.stateToken else none
  | .callback _ => none
  | .answer .. => none
  | .select _ => none
  | .commit .. => none
  | .create .. => none
  | .update .. => none
  | .delete .. => none

/-- How often a state was stored under a token. -/
def issuedFor (env : OAuthEnv) (token : String) (actions : List OAuthAction) : ℕ :=
  actions.countP fun action => issued? env action = some token

/-- The callback that goes on at a stage. -/
def pending? : CallbackStage → Option PendingCallback
  | .exchanging p => some p
  | .selecting p _ => some p
  | .committing p _ _ => some p
  | .done _ => none
  | .raised => none

/-- The callback came with a token. -/
def awaits (token : String) (stage : CallbackStage) : Bool := (pending? stage).any (·.state = token)

/-- How often a token is held: in the store, or by a callback. -/
def holding (token : String) (s : OAuthServer) : ℕ :=
  (Dict.get? s.kv.store (stateKey token)).toList.length + s.callbacks.countP (awaits token)

/-- How often a token was written for. -/
def writtenFor (token : String) (writes : List CredentialWrite) : ℕ :=
  writes.countP (·.state? = some token)

/-- Writing a credential leaves the states and the callbacks. -/
theorem store_kv (w : CredentialWrite) (s : OAuthServer) :
    (s.store w).kv = s.kv ∧ (s.store w).callbacks = s.callbacks := by
  unfold store
  split
  · exact ⟨rfl, rfl⟩
  · exact ⟨rfl, rfl⟩

/-- Writing credentials leaves the states and the callbacks. -/
theorem foldl_store_kv (writes : List CredentialWrite) (s : OAuthServer) :
    (writes.foldl (fun s w => s.store w) s).kv = s.kv ∧
      (writes.foldl (fun s w => s.store w) s).callbacks = s.callbacks := by
  induction writes generalizing s with
  | nil => exact ⟨rfl, rfl⟩
  | cons w writes ih =>
      obtain ⟨kv, callbacks⟩ := store_kv w s
      obtain ⟨kv', callbacks'⟩ := ih (s.store w)
      exact ⟨kv'.trans kv, callbacks'.trans callbacks⟩

/-- What is written does not matter to who holds a state. -/
theorem holding_step (env : OAuthEnv) (s : OAuthServer) (action : OAuthAction) (token : String) :
    holding token (s.step env action) = holding token (s.react env action) := by
  unfold step holding
  rw [(foldl_store_kv _ _).1, (foldl_store_kv _ _).2]

/-- Changing one of a list. -/
theorem countP_modify {α : Type} (p : α → Bool) (f : α → α) (l : List α) (i : ℕ) :
    (l.modify i f).countP p + (l[i]?.toList.countP p) = l.countP p + ((l[i]?.map f).toList.countP p) := by
  induction l generalizing i with
  | nil => simp
  | cons a l ih =>
      cases i with
      | zero =>
          simp only [List.modify_zero_cons, List.countP_cons, List.getElem?_cons_zero, Option.map_some,
            Option.toList_some, List.countP_nil]
          omega
      | succ i =>
          have rest := ih i
          simp only [List.modify_succ_cons, List.countP_cons, List.getElem?_cons_succ]
          omega

/-- A callback goes on with its token, if it goes on. -/
theorem countP_modify_le {token : String} {f : CallbackStage → CallbackStage}
    (keeps : ∀ stage, awaits token (f stage) = true → awaits token stage = true) (l : List CallbackStage)
    (i : ℕ) : (l.modify i f).countP (awaits token) ≤ l.countP (awaits token) := by
  have count := countP_modify (awaits token) f l i
  have fewer : (l[i]?.map f).toList.countP (awaits token) ≤ l[i]?.toList.countP (awaits token) := by
    rcases l[i]? with - | stage
    · exact Nat.le_refl 0
    · simp only [Option.map_some, Option.toList_some, List.countP_cons, List.countP_nil]
      have one := keeps stage
      split <;> split <;> simp_all
  omega

/-- A callback that goes on behind the exchange held its state. -/
theorem pending?_exchanged (env : OAuthEnv) (answer : TokenAnswer) (now : ℤ) (nonce : ℕ) {stage : CallbackStage}
    {p : PendingCallback} (goes : pending? (stage.exchanged env answer now nonce) = some p) :
    pending? stage = some p := by
  cases stage with
  | exchanging q =>
      unfold CallbackStage.exchanged at goes
      cases answer with
      | unsuccessful => cases goes
      | exception => cases goes
      | tokens accessToken refreshToken expiresIn =>
          dsimp only at goes
          split at goes
          · cases goes
          · split at goes
            · cases goes
            · exact goes
  | selecting q new => exact goes
  | committing q new existing => exact goes
  | done page => exact goes
  | raised => exact goes

/-- A callback that was answered has not looked for a row yet. -/
theorem exchanged_ne_committing (env : OAuthEnv) (answer : TokenAnswer) (now : ℤ) (nonce : ℕ)
    (q : PendingCallback) {p : PendingCallback} {new : NewCredential} {existing : Option ℕ} :
    CallbackStage.exchanged env answer now nonce (.exchanging q) ≠ .committing p new existing := by
  intro same
  unfold CallbackStage.exchanged at same
  cases answer with
  | unsuccessful => cases same
  | exception => cases same
  | tokens accessToken refreshToken expiresIn =>
      dsimp only at same
      split at same
      · cases same
      · cases expiresIn with
        | none => cases same
        | some expiresIn => cases same

/-- A callback that goes on behind the selection held its state. -/
theorem pending?_selected (credentials : List CredentialEntry) {stage : CallbackStage} {p : PendingCallback}
    (goes : pending? (selected credentials stage) = some p) : pending? stage = some p := by
  cases stage with
  | selecting q new =>
      unfold selected at goes
      dsimp only at goes
      split at goes
      · exact goes
      · exact goes
      · cases goes
  | exchanging q => exact goes
  | committing q new existing => exact goes
  | done page => exact goes
  | raised => exact goes

/-- A callback that goes on and awaits a state did so before. -/
theorem awaits_of_pending? {token : String} {f : CallbackStage → CallbackStage} {stage : CallbackStage}
    (keeps : ∀ p, pending? (f stage) = some p → pending? stage = some p) (goes : awaits token (f stage) = true) :
    awaits token stage = true := by
  unfold awaits at goes ⊢
  rcases after : pending? (f stage) with - | p
  · rw [after] at goes
    cases goes
  · rw [after] at goes
    rw [keeps p after]
    exact goes

/-- What a callback that starts takes out of the store. -/
theorem start_cases (env : OAuthEnv) (req : CallbackRequest) (kv : InMemoryKVStore OAuthState) :
    ((CallbackStage.start env req kv).2 = kv ∧ pending? (CallbackStage.start env req kv).1 = none) ∨
      ∃ code state, given req.code = some code ∧ given req.state = some state ∧
        (CallbackStage.start env req kv).2 = (kv.pop (stateKey state) req.now).2 ∧
        ∀ p, pending? (CallbackStage.start env req kv).1 = some p →
          p.state = state ∧ (kv.pop (stateKey state) req.now).1 = some p.stateData ∧
            env.loadIntegrationConfig p.stateData.integration = some p.config ∧
            p.request =
              PendingCallback.tokenRequest env p.config.auth req.client code p.stateData.codeVerifier := by
  unfold CallbackStage.start
  rcases given req.error with - | error
  · rcases given req.code with - | code
    · exact .inl ⟨rfl, rfl⟩
    · rcases given req.state with - | state
      · exact .inl ⟨rfl, rfl⟩
      · refine .inr ⟨code, state, rfl, rfl, ?_⟩
        dsimp only
        rcases popped : (kv.pop (stateKey state) req.now).1 with - | stateData
        · exact ⟨rfl, fun p goes => by cases goes⟩
        · dsimp only
          rcases config : env.loadIntegrationConfig stateData.integration with - | config'
          · exact ⟨rfl, fun p goes => by cases goes⟩
          · refine ⟨rfl, fun p goes => ?_⟩
            cases goes
            exact ⟨rfl, rfl, config, rfl⟩
  · exact .inl ⟨rfl, rfl⟩

/-- A key is that of one token. -/
theorem stateKey_inj {first second : String} : stateKey first = stateKey second ↔ first = second :=
  String.append_right_inj _

/-- There is one at most. -/
theorem length_toList_le {α : Type} (o : Option α) : o.toList.length ≤ 1 := by
  cases o with
  | none => exact Nat.zero_le 1
  | some a => exact Nat.le_refl 1

/-- What is stored when a key was taken. -/
theorem get?_pop (kv : InMemoryKVStore OAuthState) (key other : String) (now : Instant) :
    Dict.get? (kv.pop key now).2.store other = if key = other then none else Dict.get? kv.store other := by
  unfold InMemoryKVStore.pop
  rcases found : Dict.get? kv.store key with - | ⟨value, expiresAt⟩
  · dsimp only
    by_cases same : key = other
    · rw [if_pos same, ← same, found]
    · rw [if_neg same]
  · exact Dict.get?_erase kv.store key other

/-- What is popped was there, and has not expired. -/
theorem pop_eq_some {kv : InMemoryKVStore OAuthState} {key : String} {now : Instant} {stateData : OAuthState}
    (popped : (kv.pop key now).1 = some stateData) :
    ∃ expiresAt, Dict.get? kv.store key = some (stateData, expiresAt) ∧ now < expiresAt := by
  rw [InMemoryKVStore.pop_fst] at popped
  obtain ⟨⟨value, expiresAt⟩, found, live⟩ := Option.bind_eq_some_iff.1 popped
  dsimp only at live
  split at live
  · cases live
  · next still =>
    cases live
    exact ⟨expiresAt, found, Nat.lt_of_not_le still⟩

/-- What a callback writes when it commits. -/
theorem committed_cases {now : ℤ} {stage : CallbackStage} {w : CredentialWrite}
    (commits : s.committed now stage = some w) :
    ∃ p new existing, stage = .committing p new existing ∧ w.state? = some p.state := by
  cases stage with
  | committing p new existing =>
      refine ⟨p, new, existing, rfl, ?_⟩
      cases existing with
      | none =>
          cases commits
          rfl
      | some id =>
          unfold committed at commits
          obtain ⟨entry, -, rfl⟩ := Option.map_eq_some_iff.1 commits
          rfl
  | exchanging p => cases commits
  | selecting p new => cases commits
  | done page => cases commits
  | raised => cases commits

/-- A callback that goes on behind its end has written nothing. -/
theorem awaits_finish (now : ℤ) (token : String) (stage : CallbackStage) :
    awaits token (s.finish now stage) = true →
      awaits token stage = true ∧ s.committed now stage = none := by
  intro goes
  cases stage with
  | committing p new existing =>
      unfold finish at goes
      dsimp only at goes
      split at goes
      · cases goes
      · cases goes
  | exchanging p => exact ⟨goes, rfl⟩
  | selecting p new => exact ⟨goes, rfl⟩
  | done page => exact ⟨goes, rfl⟩
  | raised => exact ⟨goes, rfl⟩

/-- **What is held and written** grows only if a state is issued. -/
theorem holding_react (env : OAuthEnv) (s : OAuthServer) (action : OAuthAction) (token : String) :
    holding token (s.react env action) + writtenFor token (s.writes env action) ≤
      holding token s + issuedFor env token [action] := by
  cases action with
  | authorize req =>
      change holding token (s.react env (.authorize req)) + 0 ≤ _
      unfold react
      dsimp only
      -- A request that is refused issues nothing; one that is granted writes its state.
      rcases checked : req.check env with error | config
      · exact Nat.le_add_right _ _
      · unfold holding
        dsimp only
        have set : Dict.get? (s.kv.set (stateKey req.stateToken) req.oauthState stateTtl req.evicted
            req.written).store (stateKey token) =
            if stateKey req.stateToken = stateKey token then some (req.oauthState, req.written + stateTtl)
            else (Dict.get? s.kv.store (stateKey token)).filter fun entry => req.evicted < entry.2 := by
          unfold InMemoryKVStore.set
          rw [Dict.get?_set, InMemoryKVStore.get?_evictExpired]
        rw [set]
        -- Under its own token there is one state, whatever was there before.
        by_cases same : req.stateToken = token
        · have issues : issuedFor env token [.authorize req] = 1 := by
            have here : issued? env (.authorize req) = some token := by
              rw [← same]
              exact if_pos (by rw [checked]; rfl)
            rw [issuedFor, List.countP_singleton, if_pos (decide_eq_true here)]
          rw [issues, if_pos (stateKey_inj.2 same)]
          simp only [Option.toList_some, List.length_singleton]
          omega
        · rw [if_neg (mt stateKey_inj.1 same)]
          have fewer : ((Dict.get? s.kv.store (stateKey token)).filter fun entry =>
              req.evicted < entry.2).toList.length ≤
              (Dict.get? s.kv.store (stateKey token)).toList.length := by
            rcases Dict.get? s.kv.store (stateKey token) with - | entry
            · exact Nat.le_refl 0
            · exact length_toList_le _
          omega
  | callback req =>
      change holding token (s.react env (.callback req)) + 0 ≤ holding token s + 0
      unfold react holding
      dsimp only
      rw [List.countP_append, List.countP_singleton]
      -- A callback pops the state of its token, and waits for it from then on.
      rcases start_cases env req s.kv with ⟨kv, none⟩ | ⟨code, state, -, -, kv, goes⟩
      · have no : awaits token (CallbackStage.start env req s.kv).1 = false := by
          unfold awaits
          rw [none]
          rfl
        rw [kv, no]
        exact Nat.le_refl _
      · rw [kv, get?_pop]
        by_cases same : stateKey state = stateKey token
        · rw [if_pos same]
          split
          · next waits =>
            unfold awaits at waits
            rcases going : pending? (CallbackStage.start env req s.kv).1 with - | p
            · rw [going] at waits
              cases waits
            · obtain ⟨-, popped, -, -⟩ := goes p going
              obtain ⟨expiresAt, found, -⟩ := pop_eq_some popped
              rw [← same, found]
              simp only [Option.toList_none, Option.toList_some, List.length_singleton, List.length_nil]
              omega
          · simp only [Option.toList_none, List.length_nil]
            omega
        · have no : awaits token (CallbackStage.start env req s.kv).1 = false := by
            unfold awaits
            rcases going : pending? (CallbackStage.start env req s.kv).1 with - | p
            · rfl
            · have other : ¬ state = token := fun equal => same (congrArg stateKey equal)
              simp [(goes p going).1, other]
          rw [if_neg same, no]
          exact Nat.le_refl _
  | answer i answer now nonce =>
      have fewer : (s.callbacks.modify i (CallbackStage.exchanged env answer now nonce)).countP (awaits token) ≤
          s.callbacks.countP (awaits token) :=
        countP_modify_le (fun stage => awaits_of_pending? fun p => pending?_exchanged env answer now nonce) _ i
      exact Nat.add_le_add_left fewer _
  | select i =>
      have fewer : (s.callbacks.modify i (selected s.credentials)).countP (awaits token) ≤
          s.callbacks.countP (awaits token) :=
        countP_modify_le (fun stage => awaits_of_pending? fun p => pending?_selected s.credentials) _ i
      exact Nat.add_le_add_left fewer _
  | commit i now =>
      change holding token (s.react env (.commit i now)) +
        writtenFor token ((s.callbacks[i]?).bind (s.committed now)).toList ≤ holding token s + 0
      -- The callback that is committed waits no more: its row is the one that was written.
      have count := countP_modify (awaits token) (s.finish now) s.callbacks i
      have fewer : ((s.callbacks[i]?).map (s.finish now)).toList.countP (awaits token) +
          writtenFor token ((s.callbacks[i]?).bind (s.committed now)).toList ≤
          (s.callbacks[i]?).toList.countP (awaits token) := by
        rcases s.callbacks[i]? with - | stage
        · exact Nat.le_refl 0
        · rw [Option.map_some, Option.bind_some, Option.toList_some, Option.toList_some, List.countP_singleton,
            List.countP_singleton]
          rcases commits : s.committed now stage with - | w
          · change _ + 0 ≤ _
            split
            · next goes =>
              rw [if_pos (awaits_finish now token stage goes).1]
            · exact Nat.zero_le _
          · obtain ⟨p, new, existing, rfl, state⟩ := committed_cases commits
            have gone : awaits token (s.finish now (.committing p new existing)) = false := by
              rcases goes : awaits token (s.finish now (.committing p new existing)) with - | -
              · rfl
              · have nothing := (awaits_finish now token _ goes).2
                rw [commits] at nothing
                cases nothing
            rw [gone, Option.toList_some, writtenFor, List.countP_singleton, state]
            simp [awaits, pending?]
      unfold react holding
      dsimp only
      omega
  | create agentId agentExists name provider authType data nonce =>
      -- No row of the other requests is written for a token.
      have none : writtenFor token (s.writes env (.create agentId agentExists name provider authType data
          nonce)) = 0 := by
        unfold writes writtenFor
        dsimp only
        split <;> rfl
      rw [none]
      exact Nat.le_refl _
  | update agentId id name data nonce =>
      have none : writtenFor token (s.writes env (.update agentId id name data nonce)) = 0 := by
        unfold writes writtenFor
        dsimp only
        split <;> rfl
      rw [none]
      exact Nat.le_refl _
  | delete agentId id => exact Nat.le_refl _

/-- **A state is used at most as often as it was issued.** -/
theorem writtenFor_le (env : OAuthEnv) (s : OAuthServer) (actions : List OAuthAction) (token : String) :
    writtenFor token (outputs (step env) (writes env) s actions) +
        holding token (run (step env) s actions) ≤
      holding token s + issuedFor env token actions := by
  induction actions generalizing s with
  | nil => exact Nat.le_of_eq (Nat.zero_add _)
  | cons action actions ih =>
      have here := holding_react env s action token
      have rest := ih (s.step env action)
      rw [holding_step] at rest
      have more : issuedFor env token (action :: actions) =
          issuedFor env token [action] + issuedFor env token actions := by
        rw [issuedFor, ← List.singleton_append, List.countP_append]
        rfl
      rw [outputs, run_cons, writtenFor, List.countP_append, more]
      unfold writtenFor at here rest
      omega

/-! ## Where a credential comes from -/

/-- **The entry was stored** for a request to authorize. -/
def Stored (env : OAuthEnv) (actions : List OAuthAction) (key : String) (entry : OAuthState × Instant) : Prop :=
  ∃ (before : List OAuthAction) (req : AuthorizeRequest) (after : List OAuthAction),
    actions = before ++ .authorize req :: after ∧ (req.check env).isOk = true ∧
    stateKey req.stateToken = key ∧ entry = (req.oauthState, req.written + stateTtl)

/-- The action is a callback, which gets the next number. -/
def isCallback : OAuthAction → Bool
  | .callback _ => true
  | _ => false

/-- The token endpoint answers a callback. -/
def isAnswerTo (i : ℕ) : OAuthAction → Bool
  | .answer j _ _ _ => j = i
  | _ => false

/-- **Callback `i` was granted**, with what happened since: it came with the token of an earlier request to
authorize, in time, and asks for the tokens with what that request drew. -/
def Granted (env : OAuthEnv) (actions : List OAuthAction) (i : ℕ) (p : PendingCallback) (since : List OAuthAction) :
    Prop :=
  ∃ (before : List OAuthAction) (req : AuthorizeRequest) (mid : List OAuthAction) (creq : CallbackRequest)
    (code : String),
    actions = before ++ .authorize req :: (mid ++ .callback creq :: since) ∧
      (before ++ .authorize req :: mid).countP isCallback = i ∧ (req.check env).isOk = true ∧
      given creq.state = some req.stateToken ∧ given creq.code = some code ∧
      creq.now < req.written + stateTtl ∧ p.state = req.stateToken ∧ p.stateData = req.oauthState ∧
      env.loadIntegrationConfig req.integrationName = some p.config ∧
      p.request = PendingCallback.tokenRequest env p.config.auth creq.client code req.codeVerifier

/-- **The token endpoint answered callback `i`** with what it writes; it was the first answer to it. -/
def Answered (env : OAuthEnv) (i : ℕ) (since : List OAuthAction) (new : NewCredential) : Prop :=
  ∃ (during later : List OAuthAction) (accessToken refreshToken : String) (expiresIn now : ℤ) (nonce : ℕ),
    since = during ++ .answer i (.tokens accessToken refreshToken (some expiresIn)) now nonce :: later ∧
      (∀ action ∈ during, isAnswerTo i action = false) ∧ accessToken ≠ "" ∧
      ∃ data : CredentialData,
        data = ("access_token", some accessToken) ::
          (if refreshToken = "" then [] else [("refresh_token", some refreshToken)]) ∧
        new = ⟨(env.encrypt data nonce).1, (env.encrypt data nonce).2, now + expiresIn⟩

/-- **A row that a callback wrote** is the one that was asked for, with what that callback was answered. -/
def Justified (env : OAuthEnv) (actions : List OAuthAction) (token : String) (entry : CredentialEntry) : Prop :=
  ∃ i p since new, Granted env actions i p since ∧ p.state = token ∧ Answered env i since new ∧
    entry.agentId = p.stateData.agentId ∧ entry.row.provider = p.stateData.integration ∧
    entry.row.encryptedData = new.encryptedData ∧ entry.row.encryptionIv = some new.encryptionIv ∧
    entry.row.tokenExpiresAt = some new.tokenExpiresAt

/-- What a callback has been answered at a stage. -/
def new? : CallbackStage → Option NewCredential
  | .exchanging _ => none
  | .selecting _ new => some new
  | .committing _ new _ => some new
  | .done _ => none
  | .raised => none

/-- What the token endpoint has told a callback since it came. -/
def Told (env : OAuthEnv) (i : ℕ) (since : List OAuthAction) (stage : CallbackStage) : Prop :=
  match new? stage with
  | none => ∀ action ∈ since, isAnswerTo i action = false
  | some new => Answered env i since new

/-- **What is known of a server** after actions that wrote some rows. -/
structure Traced (env : OAuthEnv) (rows : List CredentialEntry) (actions : List OAuthAction)
    (written : List CredentialWrite) (s : OAuthServer) : Prop where
  count : s.callbacks.length = actions.countP isCallback
  states : ∀ key entry, Dict.get? s.kv.store key = some entry → Stored env actions key entry
  granted : ∀ (i : ℕ) stage p, s.callbacks[i]? = some stage → pending? stage = some p →
    ∃ since, Granted env actions i p since ∧ Told env i since stage
  target : ∀ (i : ℕ) p new id, s.callbacks[i]? = some (.committing p new (some id)) → id < s.nextId ∧
    ∀ entry ∈ s.credentials, entry.id = id →
      entry.agentId = p.stateData.agentId ∧ entry.row.provider = p.stateData.integration
  ids : ∀ entry ∈ s.credentials, entry.id < s.nextId
  nodup : (s.credentials.map (·.id)).Nodup
  table : ∀ entry ∈ s.credentials, entry ∈ rows ∨ ∃ w ∈ written, w.entry = entry
  justified : ∀ token entry, .oauth token entry ∈ written → Justified env actions token entry

variable {rows : List CredentialEntry} {actions : List OAuthAction} {written : List CredentialWrite}

/-- A state was stored, whatever follows. -/
theorem Stored.append {key : String} {entry : OAuthState × Instant} (stored : Stored env actions key entry)
    (more : List OAuthAction) : Stored env (actions ++ more) key entry := by
  obtain ⟨before, req, after, rfl, rest⟩ := stored
  exact ⟨before, req, after ++ more, by simp, rest⟩

/-- A state was granted, whatever follows. -/
theorem Granted.append {i : ℕ} {p : PendingCallback} {since : List OAuthAction}
    (granted : Granted env actions i p since) (more : List OAuthAction) :
    Granted env (actions ++ more) i p (since ++ more) := by
  obtain ⟨before, req, mid, creq, code, rfl, rest⟩ := granted
  exact ⟨before, req, mid, creq, code, by simp, rest⟩

/-- A callback was answered first with this, whatever follows. -/
theorem Answered.append {i : ℕ} {since : List OAuthAction} {new : NewCredential} (answered : Answered env i since new)
    (more : List OAuthAction) : Answered env i (since ++ more) new := by
  obtain ⟨during, later, accessToken, refreshToken, expiresIn, now, nonce, rfl, rest⟩ := answered
  exact ⟨during, later ++ more, accessToken, refreshToken, expiresIn, now, nonce, by simp, rest⟩

/-- A credential is justified, whatever follows. -/
theorem Justified.append {token : String} {entry : CredentialEntry} (justified : Justified env actions token entry)
    (more : List OAuthAction) : Justified env (actions ++ more) token entry := by
  obtain ⟨i, p, since, new, granted, same, answered, rest⟩ := justified
  exact ⟨i, p, since ++ more, new, granted.append more, same, answered.append more, rest⟩

/-- A callback that is not answered is told nothing more. -/
theorem Told.append {i : ℕ} {since : List OAuthAction} {stage : CallbackStage} (told : Told env i since stage)
    {action : OAuthAction} (quiet : isAnswerTo i action = false) : Told env i (since ++ [action]) stage := by
  unfold Told at told ⊢
  split
  · next none =>
    rw [none] at told
    intro other held
    rcases List.mem_append.1 held with before | last
    · exact told other before
    · rw [List.mem_singleton.1 last]
      exact quiet
  · next new has =>
    rw [has] at told
    exact told.append [action]

/-- Time goes on. -/
theorem Traced.append (traced : Traced env rows actions written s) {action : OAuthAction}
    (notCallback : isCallback action = false) (quiet : ∀ i, isAnswerTo i action = false) :
    Traced env rows (actions ++ [action]) written s where
  count := by
    rw [List.countP_append, List.countP_singleton, notCallback]
    exact traced.count
  states key entry held := (traced.states key entry held).append [action]
  granted i stage p at_ goes := by
    obtain ⟨since, granted, told⟩ := traced.granted i stage p at_ goes
    exact ⟨since ++ [action], granted.append [action], told.append (quiet i)⟩
  target := traced.target
  ids := traced.ids
  nodup := traced.nodup
  table := traced.table
  justified token entry held := (traced.justified token entry held).append [action]

/-- The row is new, or takes the place of one of the same agent and integration. -/
def Placed (s : OAuthServer) (entry : CredentialEntry) : Prop :=
  entry.id = s.nextId ∨ ∃ old ∈ s.credentials, old.id = entry.id ∧ old.agentId = entry.agentId ∧
    old.row.provider = entry.row.provider

/-- **A row is stored.** -/
theorem Traced.store (traced : Traced env rows actions written s) {w : CredentialWrite}
    (placed : Placed s w.entry)
    (justified : ∀ token entry, w = .oauth token entry → Justified env actions token entry) :
    Traced env rows actions (written ++ [w]) (s.store w) := by
  have there : s.credentials.any (·.id = w.entry.id) = true ↔ ∃ old ∈ s.credentials, old.id = w.entry.id := by
    rw [List.any_eq_true]
    simp only [decide_eq_true_eq]
  have justified' : ∀ token entry, .oauth token entry ∈ written ++ [w] → Justified env actions token entry := by
    intro token entry held
    rcases List.mem_append.1 held with before | last
    · exact traced.justified token entry before
    · exact justified token entry (List.mem_singleton.1 last).symm
  have table : ∀ entry, entry ∈ s.credentials ∨ entry = w.entry →
      entry ∈ rows ∨ ∃ w' ∈ written ++ [w], w'.entry = entry := by
    rintro entry (old | rfl)
    · rcases traced.table entry old with start | ⟨w', held, same⟩
      · exact .inl start
      · exact .inr ⟨w', List.mem_append_left _ held, same⟩
    · exact .inr ⟨w, List.mem_append_right _ List.mem_cons_self, rfl⟩
  unfold OAuthServer.store
  by_cases known : ∃ old ∈ s.credentials, old.id = w.entry.id
  · rw [if_pos (there.2 known)]
    -- The write keeps the agent and the integration of the row.
    obtain ⟨old, inside, sameId, sameAgent, sameProvider⟩ : ∃ old ∈ s.credentials, old.id = w.entry.id ∧
        old.agentId = w.entry.agentId ∧ old.row.provider = w.entry.row.provider := by
      rcases placed with new | kept
      · obtain ⟨old, inside, same⟩ := known
        exact absurd (same.trans new) (Nat.ne_of_lt (traced.ids old inside))
      · exact kept
    have members : ∀ entry ∈ replace w.entry s.credentials, entry ∈ s.credentials ∨ entry = w.entry := by
      intro entry held
      obtain ⟨before, inside, rfl⟩ := List.mem_map.1 held
      split
      · exact .inr rfl
      · exact .inl inside
    refine ⟨traced.count, traced.states, traced.granted, ?_, ?_, ?_, ?_, justified'⟩
    · intro i p new id at_
      obtain ⟨below, rightRow⟩ := traced.target i p new id at_
      refine ⟨below, fun entry held same => ?_⟩
      rcases members entry held with before | rfl
      · exact rightRow entry before same
      · rw [← sameAgent, ← sameProvider]
        exact rightRow old inside (sameId.trans same)
    · intro entry held
      rcases members entry held with before | rfl
      · exact traced.ids entry before
      · rw [← sameId]
        exact traced.ids old inside
    · have sameIds : (replace w.entry s.credentials).map (·.id) = s.credentials.map (·.id) := by
        unfold replace
        rw [List.map_map]
        refine List.map_congr_left fun other _ => ?_
        change (if other.id = w.entry.id then w.entry else other).id = other.id
        split
        · next same => exact same.symm
        · rfl
      exact sameIds ▸ traced.nodup
    · intro entry held
      exact table entry (members entry held)
  · rw [if_neg (mt there.1 known)]
    have new : w.entry.id = s.nextId := by
      rcases placed with new | ⟨old, inside, same, -⟩
      · exact new
      · exact absurd ⟨old, inside, same⟩ known
    have members : ∀ entry ∈ s.credentials ++ [w.entry], entry ∈ s.credentials ∨ entry = w.entry := by
      intro entry held
      rcases List.mem_append.1 held with before | last
      · exact .inl before
      · exact .inr (List.mem_singleton.1 last)
    refine ⟨traced.count, traced.states, traced.granted, ?_, ?_, ?_, ?_, justified'⟩
    · intro i p new' id at_
      obtain ⟨below, rightRow⟩ := traced.target i p new' id at_
      refine ⟨Nat.lt_succ_of_lt below, fun entry held same => ?_⟩
      rcases members entry held with before | rfl
      · exact rightRow entry before same
      · exact absurd (same.symm.trans new) (Nat.ne_of_lt below)
    · intro entry held
      rcases members entry held with before | rfl
      · exact Nat.lt_succ_of_lt (traced.ids entry before)
      · exact new ▸ Nat.lt_succ_self _
    · change ((s.credentials ++ [w.entry]).map (·.id)).Nodup
      rw [List.map_append, List.map_singleton]
      apply traced.nodup.append (List.nodup_singleton _)
      rw [List.disjoint_singleton]
      intro held
      obtain ⟨old, inside, same⟩ := List.mem_map.1 held
      exact known ⟨old, inside, same⟩
    · intro entry held
      exact table entry (members entry held)

/-- Where a row goes that is written. -/
theorem placed_of_writes {action : OAuthAction} {w : CredentialWrite} (writes : w ∈ s.writes env action) :
    Placed s w.entry := by
  cases action with
  | commit i now =>
      obtain ⟨stage, at_, commits⟩ := Option.bind_eq_some_iff.1 (Option.mem_toList.1 writes)
      obtain ⟨p, new, existing, rfl, -⟩ := committed_cases commits
      cases existing with
      | none =>
          cases commits
          exact .inl rfl
      | some id =>
          unfold committed at commits
          obtain ⟨entry, found, rfl⟩ := Option.map_eq_some_iff.1 commits
          exact .inr ⟨entry, List.mem_of_find?_eq_some found, rfl, rfl, rfl⟩
  | create agentId agentExists name provider authType data nonce =>
      unfold OAuthServer.writes at writes
      dsimp only at writes
      split at writes
      · rw [List.mem_singleton.1 writes]
        exact .inl rfl
      · cases writes
  | update agentId id name data nonce =>
      unfold OAuthServer.writes at writes
      dsimp only at writes
      split at writes
      · cases writes
      · next entry found =>
        rw [List.mem_singleton.1 writes]
        refine .inr ⟨entry, List.mem_of_find?_eq_some found, rfl, rfl, ?_⟩
        cases data with
        | none => rfl
        | some data => rfl
  | authorize req => cases writes
  | callback req => cases writes
  | answer i answer now nonce => cases writes
  | select i => cases writes
  | delete agentId id => cases writes

/-- A row that a callback writes is justified. -/
theorem justified_of_writes {action : OAuthAction} {token : String} {entry : CredentialEntry}
    (writes : .oauth token entry ∈ s.writes env action) (traced : Traced env rows actions written s) :
    Justified env actions token entry := by
  cases action with
  | commit i now =>
      obtain ⟨stage, at_, commits⟩ := Option.bind_eq_some_iff.1 (Option.mem_toList.1 writes)
      obtain ⟨p, new, existing, rfl, -⟩ := committed_cases commits
      obtain ⟨since, granted, answered⟩ := traced.granted i _ p at_ rfl
      change Answered env i since new at answered
      cases existing with
      | none =>
          cases commits
          exact ⟨i, p, since, new, granted, rfl, answered, rfl, rfl, rfl, rfl, rfl⟩
      | some id =>
          unfold committed at commits
          obtain ⟨old, found, same⟩ := Option.map_eq_some_iff.1 commits
          cases same
          have rightId : old.id = id := by
            have right := List.find?_some found
            exact of_decide_eq_true right
          obtain ⟨agent, provider⟩ :=
            (traced.target i p new id at_).2 old (List.mem_of_find?_eq_some found) rightId
          exact ⟨i, p, since, new, granted, rfl, answered, agent, provider, rfl, rfl, rfl⟩
  | create agentId agentExists name provider authType data nonce =>
      unfold OAuthServer.writes at writes
      dsimp only at writes
      split at writes
      · cases List.mem_singleton.1 writes
      · cases writes
  | update agentId id name data nonce =>
      unfold OAuthServer.writes at writes
      dsimp only at writes
      split at writes
      · cases writes
      · cases List.mem_singleton.1 writes
  | authorize req => cases writes
  | callback req => cases writes
  | answer i answer now nonce => cases writes
  | select i => cases writes
  | delete agentId id => cases writes

/-- One callback goes on: where it was, where it is. -/
theorem getElem?_modify_cases {α : Type} {f : α → α} {l : List α} {i j : ℕ} {a : α}
    (at_ : (l.modify i f)[j]? = some a) :
    l[j]? = some a ∧ j ≠ i ∨ (i = j ∧ ∃ before, l[j]? = some before ∧ a = f before) := by
  rw [List.getElem?_modify] at at_
  obtain ⟨before, held, changed⟩ := Option.map_eq_some_iff.1 at_
  by_cases same : i = j
  · rw [if_pos same] at changed
    exact .inr ⟨same, before, held, changed.symm⟩
  · rw [if_neg same] at changed
    exact .inl ⟨held.trans (congrArg some changed), Ne.symm same⟩

/-- A callback that starts has not been answered. -/
theorem new?_start (env : OAuthEnv) (req : CallbackRequest) (kv : InMemoryKVStore OAuthState) :
    new? (CallbackStage.start env req kv).1 = none ∧
      ∀ p new existing, (CallbackStage.start env req kv).1 ≠ .committing p new existing := by
  unfold CallbackStage.start
  split
  · exact ⟨rfl, fun p new existing same => by cases same⟩
  · dsimp only
    split
    · exact ⟨rfl, fun p new existing same => by cases same⟩
    · split
      · exact ⟨rfl, fun p new existing same => by cases same⟩
      · exact ⟨rfl, fun p new existing same => by cases same⟩
  · exact ⟨rfl, fun p new existing same => by cases same⟩

/-- A callback starts. -/
theorem Traced.callback (traced : Traced env rows actions written s) (req : CallbackRequest) :
    Traced env rows (actions ++ [.callback req]) written (s.react env (.callback req)) := by
  obtain ⟨unanswered, notCommitting⟩ := new?_start env req s.kv
  -- A callback that starts was granted: its state was asked for, and popped.
  have started : ∀ p, pending? (CallbackStage.start env req s.kv).1 = some p →
      Granted env (actions ++ [.callback req]) s.callbacks.length p [] := by
    intro p goes
    rcases start_cases env req s.kv with ⟨-, none⟩ | ⟨code, state, hasCode, hasState, -, pending⟩
    · rw [none] at goes
      cases goes
    · obtain ⟨same, popped, config, request⟩ := pending p goes
      obtain ⟨expiresAt, found, live⟩ := pop_eq_some popped
      obtain ⟨before, asked, after, rfl, checked, key, stored⟩ := traced.states _ _ found
      obtain ⟨stateData, ends⟩ := Prod.mk.inj stored
      have token := stateKey_inj.1 key
      refine ⟨before, asked, after, req, code, by simp, traced.count.symm, checked, by rw [hasState, token], hasCode,
        ends ▸ live, same.trans token.symm, stateData, ?_, ?_⟩
      · rw [← config, stateData]
        rfl
      · rw [request, stateData]
        rfl
  -- It stands behind the callbacks before it.
  have places : ∀ (i : ℕ) stage, (s.callbacks ++ [(CallbackStage.start env req s.kv).1])[i]? = some stage →
      s.callbacks[i]? = some stage ∨
        (i = s.callbacks.length ∧ stage = (CallbackStage.start env req s.kv).1) := by
    intro i stage at_
    rcases Nat.lt_or_ge i s.callbacks.length with inside | beyond
    · rw [List.getElem?_append_left inside] at at_
      exact .inl at_
    · rw [List.getElem?_append_right beyond] at at_
      have only := List.mem_singleton.1 (List.mem_of_getElem? at_)
      obtain ⟨first, -⟩ := List.getElem?_eq_some_iff.1 at_
      rw [List.length_singleton] at first
      exact .inr ⟨by omega, only⟩
  refine ⟨?_, ?_, ?_, ?_, traced.ids, traced.nodup, traced.table, ?_⟩
  · change (s.callbacks ++ [(CallbackStage.start env req s.kv).1]).length = _
    rw [List.length_append, List.countP_append, traced.count]
    rfl
  · intro key entry held
    refine (traced.states key entry ?_).append _
    change Dict.get? (CallbackStage.start env req s.kv).2.store key = some entry at held
    rcases start_cases env req s.kv with ⟨kv, -⟩ | ⟨code, state, -, -, kv, -⟩
    · rwa [kv] at held
    · rw [kv, get?_pop] at held
      split at held
      · cases held
      · exact held
  · intro i stage p at_ goes
    rcases places i stage at_ with before | ⟨rfl, rfl⟩
    · obtain ⟨since, granted, told⟩ := traced.granted i stage p before goes
      exact ⟨_, granted.append [.callback req], told.append rfl⟩
    -- Nothing has answered it yet.
    · refine ⟨[], started p goes, ?_⟩
      unfold Told
      rw [unanswered]
      exact fun action held => by cases held
  · intro i p new id at_
    rcases places i _ at_ with before | ⟨-, same⟩
    · exact traced.target i p new id before
    · exact absurd same.symm (notCommitting p new (some id))
  · exact fun token entry held => (traced.justified token entry held).append _

/-- A callback that waits goes on, as an action says that is no answer to another one. -/
theorem Traced.modify (traced : Traced env rows actions written s) {action : OAuthAction}
    (notCallback : isCallback action = false) {i : ℕ} (quiet : ∀ j, j ≠ i → isAnswerTo j action = false)
    {f : CallbackStage → CallbackStage}
    (keeps : ∀ stage p, pending? (f stage) = some p → pending? stage = some p)
    (tells : ∀ stage since, pending? (f stage) ≠ none → Told env i since stage →
      Told env i (since ++ [action]) (f stage))
    (targets : ∀ stage p new id, f stage = .committing p new (some id) → f stage = stage ∨
      ∃ entry, matching s.credentials p.stateData.agentId p.stateData.integration = [entry] ∧ entry.id = id) :
    Traced env rows (actions ++ [action]) written { s with callbacks := s.callbacks.modify i f } where
  count := by
    rw [List.countP_append, List.countP_singleton, notCallback, List.length_modify]
    exact traced.count
  states key entry held := (traced.states key entry held).append [action]
  granted j stage p at_ goes := by
    rcases getElem?_modify_cases at_ with ⟨before, other⟩ | ⟨rfl, before, held, rfl⟩
    · obtain ⟨since, granted, told⟩ := traced.granted j stage p before goes
      exact ⟨_, granted.append [action], told.append (quiet j other)⟩
    · obtain ⟨since, granted, told⟩ := traced.granted i before p held (keeps before p goes)
      exact ⟨_, granted.append [action], tells before since (by rw [goes]; exact Option.some_ne_none p) told⟩
  target j p new id at_ := by
    rcases getElem?_modify_cases at_ with ⟨before, -⟩ | ⟨rfl, before, held, same⟩
    · exact traced.target j p new id before
    · rcases targets before p new id same.symm with still | ⟨entry, only, rfl⟩
      · exact traced.target i p new id (held.trans (congrArg some (still.symm.trans same.symm)))
      · have found : entry ∈ matching s.credentials p.stateData.agentId p.stateData.integration := by
          rw [only]
          exact List.mem_cons_self
        obtain ⟨inside, right⟩ := List.mem_filter.1 found
        refine ⟨traced.ids entry inside, fun other there sameId => ?_⟩
        rw [List.inj_on_of_nodup_map traced.nodup there inside sameId]
        exact of_decide_eq_true right
  ids := traced.ids
  nodup := traced.nodup
  table := traced.table
  justified token entry held := (traced.justified token entry held).append [action]

/-- The token endpoint answers a callback that waits for it, or one that has its answer. -/
theorem told_exchanged (answer : TokenAnswer) (now : ℤ) (nonce i : ℕ) {stage : CallbackStage}
    {since : List OAuthAction} (goes : pending? (stage.exchanged env answer now nonce) ≠ none)
    (told : Told env i since stage) :
    Told env i (since ++ [.answer i answer now nonce]) (stage.exchanged env answer now nonce) := by
  cases stage with
  | exchanging q =>
      cases answer with
      | unsuccessful => exact absurd rfl goes
      | exception => exact absurd rfl goes
      | tokens accessToken refreshToken expiresIn =>
          unfold CallbackStage.exchanged at goes ⊢
          dsimp only at goes ⊢
          split at goes
          · exact absurd rfl goes
          · next some_token =>
            rw [if_neg some_token]
            cases expiresIn with
            | none => exact absurd rfl goes
            | some expiresIn =>
                exact ⟨since, [], accessToken, refreshToken, expiresIn, now, nonce, rfl, told, some_token, _, rfl, rfl⟩
  | selecting q new =>
      change Answered env i since new at told
      exact told.append _
  | committing q new existing =>
      change Answered env i since new at told
      exact told.append _
  | done page => exact absurd rfl goes
  | raised => exact absurd rfl goes

/-- The step of a callback that still waits keeps what it was answered. -/
theorem told_of_same {f : CallbackStage → CallbackStage} {action : OAuthAction} {i : ℕ} {stage : CallbackStage}
    {since : List OAuthAction} (quiet : isAnswerTo i action = false) (same : new? (f stage) = new? stage)
    (told : Told env i since stage) : Told env i (since ++ [action]) (f stage) := by
  have later := told.append quiet
  unfold Told at later ⊢
  rwa [same]

/-- The selection leaves what is to be written. -/
theorem new?_selected (credentials : List CredentialEntry) {stage : CallbackStage}
    (goes : pending? (selected credentials stage) ≠ none) : new? (selected credentials stage) = new? stage := by
  cases stage with
  | selecting q new =>
      unfold selected at goes ⊢
      dsimp only at goes ⊢
      split at goes
      · rfl
      · rfl
      · exact absurd rfl goes
  | exchanging q => rfl
  | committing q new existing => rfl
  | done page => rfl
  | raised => rfl

/-- A callback that commits is done with; the others stay as they are. -/
theorem finish_cases (s : OAuthServer) (now : ℤ) (stage : CallbackStage) : s.finish now stage = stage ∨
    pending? (s.finish now stage) = none ∧ ∀ p new existing, s.finish now stage ≠ .committing p new existing := by
  cases stage with
  | committing p new existing =>
      refine .inr ?_
      unfold finish
      dsimp only
      split
      · exact ⟨rfl, fun p new existing same => by cases same⟩
      · exact ⟨rfl, fun p new existing same => by cases same⟩
  | exchanging p => exact .inl rfl
  | selecting p new => exact .inl rfl
  | done page => exact .inl rfl
  | raised => exact .inl rfl

/-- **What an action does to the states and the callbacks** keeps all that is known. -/
theorem Traced.react (traced : Traced env rows actions written s) (action : OAuthAction) :
    Traced env rows (actions ++ [action]) written (s.react env action) := by
  cases action with
  | authorize req =>
      have earlier : Traced env rows (actions ++ [.authorize req]) written s := traced.append rfl fun _ => rfl
      unfold OAuthServer.react
      dsimp only
      rcases checked : req.check env with error | config
      · exact earlier
      -- The state that is written was asked for by this request.
      · refine { earlier with states := fun key entry held => ?_ }
        unfold InMemoryKVStore.set at held
        dsimp only at held
        rw [Dict.get?_set, InMemoryKVStore.get?_evictExpired] at held
        split at held
        · next same =>
          cases held
          exact ⟨actions, req, [], rfl, by rw [checked]; rfl, same, rfl⟩
        · exact earlier.states key entry (Option.filter_eq_some_iff.1 held).1
  | callback req => exact traced.callback req
  | answer i answer now nonce =>
      -- No other callback is answered here.
      have quiet : ∀ j, j ≠ i → isAnswerTo j (.answer i answer now nonce) = false :=
        fun j other => decide_eq_false other.symm
      refine traced.modify rfl quiet
        (fun _ _ => pending?_exchanged env answer now nonce)
        (fun _ _ goes told => told_exchanged answer now nonce i goes told) fun stage p new id same => ?_
      cases stage with
      | exchanging q => exact absurd same (exchanged_ne_committing env answer now nonce q)
      | selecting q new' => exact .inl rfl
      | committing q new' existing => exact .inl rfl
      | done page => exact .inl rfl
      | raised => exact .inl rfl
  | select i =>
      refine traced.modify rfl (fun _ _ => rfl) (fun _ _ => pending?_selected s.credentials)
        (fun _ _ goes told => told_of_same rfl (new?_selected s.credentials goes) told) fun stage p new id same => ?_
      cases stage with
      | selecting q new' =>
          unfold selected at same ⊢
          dsimp only at same ⊢
          split at same
          · cases same
          -- The only row of the selection is the one that is committed later.
          · next entry only =>
            cases same
            exact .inr ⟨entry, only, rfl⟩
          · cases same
      | exchanging q => exact .inl rfl
      | committing q new' existing => exact .inl rfl
      | done page => exact .inl rfl
      | raised => exact .inl rfl
  | commit i now =>
      refine traced.modify rfl (fun _ _ => rfl) (fun stage p goes => ?_) (fun stage since goes told => ?_)
        fun stage p new id same => ?_
      -- A commit ends the callback, or leaves it.
      · rcases s.finish_cases now stage with still | ⟨gone, -⟩
        · rwa [still] at goes
        · rw [gone] at goes
          cases goes
      · rcases s.finish_cases now stage with still | ⟨gone, -⟩
        · exact told_of_same rfl (congrArg new? still) told
        · exact absurd gone goes
      · rcases s.finish_cases now stage with still | ⟨-, other⟩
        · exact .inl still
        · exact absurd same (other p new (some id))
  | create agentId agentExists name provider authType data nonce => exact traced.append rfl fun _ => rfl
  | update agentId id name data nonce => exact traced.append rfl fun _ => rfl
  | delete agentId id =>
      have earlier : Traced env rows (actions ++ [.delete agentId id]) written s := traced.append rfl fun _ => rfl
      refine { earlier with
        target := fun j p new other at_ => ?_, ids := fun entry held => ?_,
        nodup := traced.nodup.sublist (List.filter_sublist.map _), table := fun entry held => ?_ }
      · obtain ⟨below, rightRow⟩ := traced.target j p new other at_
        exact ⟨below, fun entry held => rightRow entry (List.mem_of_mem_filter held)⟩
      · exact traced.ids entry (List.mem_of_mem_filter held)
      · exact traced.table entry (List.mem_of_mem_filter held)

/-- An action writes one row at most, and does not change the table otherwise when it does. -/
theorem writes_cases (env : OAuthEnv) (s : OAuthServer) (action : OAuthAction) :
    s.writes env action = [] ∨ ∃ w, s.writes env action = [w] ∧
      (s.react env action).credentials = s.credentials ∧ (s.react env action).nextId = s.nextId := by
  cases action with
  | commit i now =>
      rcases writes : (s.callbacks[i]?).bind (s.committed now) with - | w
      · exact .inl (congrArg Option.toList writes)
      · exact .inr ⟨w, congrArg Option.toList writes, rfl, rfl⟩
  | create agentId agentExists name provider authType data nonce =>
      unfold OAuthServer.writes
      dsimp only
      split
      · exact .inr ⟨_, rfl, rfl, rfl⟩
      · exact .inl rfl
  | update agentId id name data nonce =>
      unfold OAuthServer.writes
      dsimp only
      split
      · exact .inl rfl
      · exact .inr ⟨_, rfl, rfl, rfl⟩
  | authorize req => exact .inl rfl
  | callback req => exact .inl rfl
  | answer i answer now nonce => exact .inl rfl
  | select i => exact .inl rfl
  | delete agentId id => exact .inl rfl

/-- **One step.** -/
theorem Traced.step (traced : Traced env rows actions written s) (action : OAuthAction) :
    Traced env rows (actions ++ [action]) (written ++ s.writes env action) (s.step env action) := by
  have reacted := traced.react action
  unfold OAuthServer.step
  rcases writes_cases env s action with none | ⟨w, one, credentials, nextId⟩
  · rw [none, List.append_nil]
    exact reacted
  · have placed : Placed s w.entry := placed_of_writes (by rw [one]; exact List.mem_cons_self)
    rw [one]
    refine reacted.store ?_ fun token entry same => ?_
    · unfold Placed at placed ⊢
      rwa [credentials, nextId]
    · have held : .oauth token entry ∈ s.writes env action := by
        rw [one, same]
        exact List.mem_cons_self
      exact (justified_of_writes held traced).append [action]

/-- **Any run.** -/
theorem Traced.run (traced : Traced env rows actions written s) (more : List OAuthAction) :
    Traced env rows (actions ++ more) (written ++ outputs (OAuthServer.step env) (writes env) s more)
      (Run.run (OAuthServer.step env) s more) := by
  induction more generalizing s actions written with
  | nil =>
      rw [List.append_nil, outputs, List.append_nil]
      exact traced
  | cons action more ih =>
      have rest := ih (traced.step action)
      rw [List.append_assoc, List.append_assoc] at rest
      exact rest

/-- An integration with PKCE. -/
def sampleEnv : OAuthEnv where
  loadIntegrationConfig name :=
    if name = "crm" then
      some ⟨"CRM", ⟨"oauth2", "body", some "https://crm/auth", some "https://crm/token", [], [], ["read"], " ",
        true⟩⟩
    else none
  codeChallenge verifier := verifier ++ "#"
  callbackUrl := "https://api/callback"
  encrypt data nonce := (String.intercalate "," (data.filterMap (·.2)), if nonce = 0 then "0" else "1")

/-- Two users connect: the callback of the first is sent twice, and the second is answered before the first. -/
def sampleActions : List OAuthAction :=
  [.authorize ⟨"crm", some 7, false, "", true, ("id", "secret"), "v", "t", 0, 1⟩,
    .authorize ⟨"crm", some 8, false, "", true, ("id", "secret"), "w", "u", 2, 2⟩,
    .callback ⟨some "code", some "t", none, none, ("id", "secret"), 5⟩,
    .callback ⟨some "code", some "u", none, none, ("id", "secret"), 6⟩,
    .callback ⟨some "code", some "t", none, none, ("id", "secret"), 7⟩,
    .answer 1 (.tokens "eight" "refresh" (some 3600)) 100 1, .answer 0 (.tokens "seven" "" (some 60)) 100 0,
    .select 0, .select 1, .commit 1 101, .commit 0 102]

example : (run (step sampleEnv) (started [] 0) sampleActions).credentials.map
    (fun entry => (entry.agentId, entry.row.encryptedData)) = [(some 8, "eight,refresh"), (some 7, "seven")] := by
  decide

end OAuthServer

end Feros
