import Feros.Integrations.TokenRefresh
/-! # The refresh counter of a credential

The batch writes `refreshAttempts` and `refreshExhausted` together when a refresh fails, and leaves
exhausted rows alone.  The statement that stores a successful refresh resets the counter only; on
demand it is reached for exhausted rows too, and from then on the two disagree. -/

namespace Feros

open Run

namespace RefreshEnv

/-- **The outside lets a refresh of `cred` go through.** -/
def Grants (env : RefreshEnv) (cred : CredentialRow) : Prop :=
  ∃ url iv data refreshToken config tokens access,
    env.registry cred.provider = some (some url) ∧
    cred.encryptionIv = some iv ∧
    env.decryptJson cred.encryptedData iv = .ok data ∧
    TokenRefresher.getStr "refresh_token" data = some refreshToken ∧
    env.clientConfigs cred.provider = some config ∧
    env.exchange url config refreshToken = .ok tokens ∧
    tokens.accessToken = some access ∧
    (env.encryptJson [("access_token", some access),
      ("refresh_token", some (tokens.refreshToken.getD refreshToken))]).toOption.isSome = true

/-- An outside whose token endpoint answers `exchanged`. -/
def answering (exchanged : Except String TokenResponse) : RefreshEnv where
  registry := fun _ => some (some "https://oauth.example/token")
  decryptJson := fun _ _ => .ok [("access_token", some "old"), ("refresh_token", some "again")]
  encryptJson := fun _ => .ok ("sealed", "iv")
  clientConfigs := fun _ => some ⟨"id", "secret"⟩
  exchange := fun _ _ _ => exchanged

end RefreshEnv

namespace TokenRefresher

/-- A granted refresh stores the row. -/
theorem doRefreshRow_of_grants {env : RefreshEnv} {cred : CredentialRow} (granted : env.Grants cred)
    (now : ℤ) (row : CredentialRow) : ∃ token expiresAt ciphertext iv,
      doRefreshRow env now cred row = .ok (token, storeRefresh now expiresAt ciphertext iv row) := by
  obtain ⟨url, iv, data, refreshToken, config, tokens, access, registered, initial, decrypted, held,
    configured, exchanged, answered, encrypted⟩ := granted
  rcases stored : env.encryptJson [("access_token", some access),
      ("refresh_token", some (tokens.refreshToken.getD refreshToken))] with message | ⟨text, newIv⟩
  · rw [stored] at encrypted
    cases encrypted
  · refine ⟨access, now + parseExpiresIn tokens, text, newIv, ?_⟩
    simp [doRefreshRow, registered, initial, decrypted, held, configured, exchanged, answered, stored,
      bind, Except.bind, pure, Except.pure]

/-- A refresh that does not fail is granted. -/
theorem grants_of_doRefreshRow {env : RefreshEnv} {now : ℤ} {cred row : CredentialRow}
    {result : String × CredentialRow} (done : doRefreshRow env now cred row = .ok result) :
    env.Grants cred := by
  simp only [doRefreshRow, bind, Except.bind] at done
  split at done <;> try cases done
  rename_i optional registered
  split at done <;> try cases done
  rename_i url
  split at done <;> try cases done
  rename_i iv initial
  split at done <;> try cases done
  rename_i data decrypted
  split at done <;> try cases done
  rename_i refreshToken held
  split at done <;> try cases done
  rename_i config configured
  split at done <;> try cases done
  rename_i tokens exchanged
  split at done <;> try cases done
  rename_i access answered
  split at done <;> try cases done
  rename_i stored encrypted
  refine ⟨url, iv, data, refreshToken, config, tokens, access, registered, initial, decrypted, held,
    configured, exchanged, answered, ?_⟩
  rw [encrypted]
  rfl

/-! ## What a step does to the row -/

/-- **The event refreshes the credential**: a batch selects the row, or a call of `resolve_token`
wants a fresh token, and the refresh is granted. -/
def Refreshes (s : CredentialState) : CredentialEvent → Prop
  | .batch env now marginMinutes picked =>
    picked = true ∧ isStale now marginMinutes s.row = true ∧ env.Grants s.row
  | .fetch _ => False
  | .resolve env now i =>
    ∃ cred, s.reading[i]? = some cred ∧ cred.authType = "oauth2" ∧ needsRefresh now cred = true ∧
      env.Grants cred

/-- The batch stores a granted refresh, and otherwise counts a failure or leaves the row. -/
theorem refreshStale_cases (env : RefreshEnv) (now : ℤ) (row : CredentialRow) :
    (env.Grants row ∧ ∃ expiresAt ciphertext iv,
      refreshStale env now row = storeRefresh now expiresAt ciphertext iv row) ∨
    (¬ env.Grants row ∧ (refreshStale env now row = row ∨
      ∃ message, refreshStale env now row = recordFailure now message row)) := by
  by_cases granted : env.Grants row
  · refine .inl ⟨granted, ?_⟩
    obtain ⟨token, expiresAt, ciphertext, iv, eq⟩ := doRefreshRow_of_grants granted now row
    obtain ⟨_, _, _, _, config, _, _, -, -, -, -, configured, -⟩ := granted
    exact ⟨expiresAt, ciphertext, iv, by simp [refreshStale, configured, eq]⟩
  · refine .inr ⟨granted, ?_⟩
    rw [refreshStale]
    split
    · exact .inl rfl
    · rcases done : doRefreshRow env now row row with message | result
      · dsimp only
        split
        · exact .inr ⟨_, rfl⟩
        · exact .inl rfl
      · exact absurd (grants_of_doRefreshRow done) granted

/-- `resolve_token` stores a granted refresh it asks for, and otherwise leaves the row. -/
theorem resolveToken_cases (env : RefreshEnv) (now : ℤ) (cred row : CredentialRow) :
    ((cred.authType = "oauth2" ∧ needsRefresh now cred = true ∧ env.Grants cred) ∧
      ∃ expiresAt ciphertext iv,
        (resolveToken env now cred row).2 = storeRefresh now expiresAt ciphertext iv row) ∨
    (¬ (cred.authType = "oauth2" ∧ needsRefresh now cred = true ∧ env.Grants cred) ∧
      (resolveToken env now cred row).2 = row) := by
  by_cases asked : cred.authType = "oauth2" ∧ needsRefresh now cred = true ∧ env.Grants cred
  · refine .inl ⟨asked, ?_⟩
    obtain ⟨oauth, stale, granted⟩ := asked
    obtain ⟨token, expiresAt, ciphertext, iv, eq⟩ := doRefreshRow_of_grants granted now row
    obtain ⟨_, _, _, _, _, _, _, -, initial, decrypted, -⟩ := granted
    exact ⟨expiresAt, ciphertext, iv, by simp [resolveToken, initial, decrypted, oauth, stale, eq]⟩
  · refine .inr ⟨asked, ?_⟩
    unfold resolveToken
    split
    · rfl
    split
    · rfl
    dsimp only
    split
    · rfl
    rename_i oauth
    split
    · rename_i stale
      split
      · rename_i done
        exact absurd ⟨not_not.1 oauth, stale, grants_of_doRefreshRow done⟩ asked
      · rfl
    · rfl

/-- **What one step does to the row.** -/
theorem step_cases (s : CredentialState) (event : CredentialEvent) :
    (Refreshes s event ∧ ∃ now expiresAt ciphertext iv,
      (step s event).row = storeRefresh now expiresAt ciphertext iv s.row) ∨
    (¬ Refreshes s event ∧
      ((step s event).row = s.row ∨
        (∃ now, (step s event).row = { s.row with lastFetchedAt := some now }) ∨
        ∃ now message, (step s event).row = recordFailure now message s.row)) := by
  cases event with
  | batch env now marginMinutes picked =>
    by_cases selected : picked = true ∧ isStale now marginMinutes s.row = true
    · have eq : (step s (.batch env now marginMinutes picked)).row = refreshStale env now s.row := by
        simp [step, selected]
      rw [eq]
      rcases refreshStale_cases env now s.row with ⟨granted, stored⟩ | ⟨denied, kept | ⟨message, counted⟩⟩
      · exact .inl ⟨⟨selected.1, selected.2, granted⟩, now, stored⟩
      · exact .inr ⟨fun h => denied h.2.2, .inl kept⟩
      · exact .inr ⟨fun h => denied h.2.2, .inr (.inr ⟨now, message, counted⟩)⟩
    · refine .inr ⟨fun h => selected ⟨h.1, h.2.1⟩, .inl ?_⟩
      simp only [step, Bool.and_eq_true, if_neg selected]
  | fetch now => exact .inr ⟨id, .inr (.inl ⟨now, rfl⟩)⟩
  | resolve env now i =>
    rcases found : s.reading[i]? with - | cred
    · refine .inr ⟨?_, .inl ?_⟩
      · rintro ⟨cred, h, -⟩
        rw [found] at h
        cases h
      · simp only [step, found]
    · have eq : (step s (.resolve env now i)).row = (resolveToken env now cred s.row).2 := by
        simp only [step, found]
      rw [eq]
      rcases resolveToken_cases env now cred s.row with ⟨asked, stored⟩ | ⟨declined, kept⟩
      · exact .inl ⟨⟨cred, found, asked⟩, now, stored⟩
      · refine .inr ⟨?_, .inl kept⟩
        rintro ⟨other, h, asked⟩
        rw [found] at h
        cases h
        exact declined asked

/-- The copies that calls of `resolve_token` hold are of the row's kind. -/
def Copied (s : CredentialState) : Prop := ∀ cred ∈ s.reading, cred.authType = s.row.authType

/-- A step keeps the kind of the credential. -/
theorem authType_step (s : CredentialState) (event : CredentialEvent) :
    (step s event).row.authType = s.row.authType := by
  rcases step_cases s event with ⟨-, _, _, _, _, eq⟩ | ⟨-, eq | ⟨_, eq⟩ | ⟨_, _, eq⟩⟩ <;> rw [eq] <;> rfl

/-- A step keeps the copy. -/
theorem copied_step (s : CredentialState) (event : CredentialEvent) (copied : Copied s) :
    Copied (step s event) := by
  intro cred held
  rw [authType_step]
  cases event with
  | batch env now marginMinutes picked =>
    refine copied cred ?_
    simp only [step] at held
    split at held <;> exact held
  | fetch now =>
    rcases List.mem_cons.1 held with rfl | older
    · rfl
    · exact copied cred older
  | resolve env now i =>
    simp only [step] at held
    split at held
    · exact copied cred (List.mem_of_mem_eraseIdx held)
    · exact copied cred held

/-! ## The counter and the flag -/

/-- **The flag says what the counter says.** -/
def Counted (s : CredentialState) : Prop :=
  s.row.refreshExhausted = true ↔ maxAttempts ≤ s.row.refreshAttempts

instance decidableCounted (s : CredentialState) : Decidable (Counted s) :=
  inferInstanceAs (Decidable (_ ↔ _))

/-- **The row is as a refresh has to leave it**: without attempts, and a candidate for every batch in
whose margin it expires. -/
def Renewed (s : CredentialState) : Prop :=
  s.row.refreshAttempts = 0 ∧ ∀ now marginMinutes,
    isStale now marginMinutes s.row =
      s.row.tokenExpiresAt.all fun expires => expires < now + marginMinutes * 60

/-- **The step refreshes a credential that is marked exhausted**, which only a call of
`resolve_token` does. -/
def revivesExhausted (s : CredentialState) (event : CredentialEvent) : Prop :=
  s.row.refreshExhausted = true ∧ Refreshes s event

/-- The step that breaks the bookkeeping. -/
theorem counted_step {s : CredentialState} (event : CredentialEvent) (counted : Counted s) :
    Counted (step s event) ↔ ¬ revivesExhausted s event := by
  rcases step_cases s event with
    ⟨refreshes, now, expiresAt, ciphertext, iv, eq⟩ | ⟨idle, eq | ⟨now, eq⟩ | ⟨now, message, eq⟩⟩
  · have flag : Counted (step s event) ↔ s.row.refreshExhausted = false := by
      rw [Counted, eq]
      simp [storeRefresh, maxAttempts]
    rw [flag, revivesExhausted, and_iff_left refreshes, Bool.not_eq_true]
  · refine iff_of_true ?_ fun h => idle h.2
    rw [Counted, eq]
    exact counted
  · refine iff_of_true ?_ fun h => idle h.2
    rw [Counted, eq]
    exact counted
  · refine iff_of_true ?_ fun h => idle h.2
    rw [Counted, eq]
    simp [recordFailure]

/-- A refresh of a row that is not exhausted renews it. -/
theorem renewed_step {s : CredentialState} {event : CredentialEvent} (copied : Copied s)
    (refreshes : Refreshes s event) (sound : ¬ revivesExhausted s event) :
    Renewed (step s event) := by
  have usable : s.row.refreshExhausted = false := by
    rw [← Bool.not_eq_true]
    exact fun exhausted => sound ⟨exhausted, refreshes⟩
  have oauth : s.row.authType = "oauth2" := by
    cases event with
    | batch env now marginMinutes picked =>
      have stale := refreshes.2.1
      simp only [isStale, Bool.and_eq_true, beq_iff_eq] at stale
      exact stale.1.1.1.1
    | fetch now => exact refreshes.elim
    | resolve env now i =>
      obtain ⟨cred, found, oauth, -⟩ := refreshes
      rw [← copied cred (List.mem_of_getElem? found)]
      exact oauth
  rcases step_cases s event with ⟨-, now, expiresAt, ciphertext, iv, eq⟩ | ⟨idle, -⟩
  · rw [Renewed, eq]
    exact ⟨rfl, fun later marginMinutes => by simp [storeRefresh, isStale, oauth, usable]⟩
  · exact absurd refreshes idle

/-- **When the books are kept**: along a history the flag always says what the counter says, and every
refresh renews the credential, exactly if no refresh goes to a credential marked exhausted. -/
theorem credential_kept_iff {s : CredentialState} (unread : s.reading = []) (counted : Counted s)
    (events : List CredentialEvent) :
    ((∀ front, front <+: events → Counted (run step s front)) ∧
      ∀ front event, front ++ [event] <+: events → Refreshes (run step s front) event →
        Renewed (run step s (front ++ [event]))) ↔
    Along step (fun s event => ¬ revivesExhausted s event) s events := by
  have copied : Copied s := by
    intro cred held
    rw [unread] at held
    exact absurd held List.not_mem_nil
  have exact_rule := kept_iff_along Counted (fun s event => copied_step s event)
    (fun s event _ => counted_step event) copied counted events
  constructor
  · exact fun kept => exact_rule.1 kept.1
  · intro sound
    have kept := exact_rule.2 sound
    refine ⟨kept, fun front event started refreshes => ?_⟩
    have here := kept (front ++ [event]) started
    have before := kept front ((List.prefix_append front [event]).trans started)
    have copies : Copied (run step s front) :=
      invariant_of_step (fun s event => copied_step s event) copied front
    rw [run_append] at here ⊢
    exact renewed_step copies refreshes ((counted_step event before).1 here)

/-! ## Exhausted, then refreshed on demand -/

/-- A credential that was just stored. -/
def storedCredential : CredentialState where
  row := ⟨"hubspot", "oauth2", "sealed", some "iv", 2, none, none, none, none, 0, false, none⟩
  reading := []

/-- A batch whose refresh fails at `now`, with a margin of ten minutes. -/
def failingBatch (now : ℤ) : CredentialEvent :=
  .batch (.answering (.error "Token refresh returned 503")) now 10 true

/-- A token on demand, with the endpoint back. -/
def resolvedAt (now : ℤ) : List CredentialEvent :=
  [.fetch now, .resolve (.answering (.ok ⟨some "fresh", none, some 3600⟩)) now 0]

/-- A failure and a refresh on demand are booked as they should be. -/
theorem credential_kept_resolved :
    Counted (run step storedCredential (failingBatch 0 :: resolvedAt 100)) := by
  have sound : Along step (fun s event => ¬ revivesExhausted s event) storedCredential
      (failingBatch 0 :: resolvedAt 100) :=
    ⟨fun h => absurd h.1 (by decide), fun h => absurd h.1 (by decide +kernel),
      fun h => absurd h.1 (by decide +kernel), trivial⟩
  have kept := (credential_kept_iff rfl (by decide) (failingBatch 0 :: resolvedAt 100)).2 sound
  exact kept.1 _ (List.prefix_refl _)

/-- Five failed batches, and then a refresh on demand. -/
def exhaustedThenRefreshed : List CredentialEvent :=
  [failingBatch 0, failingBatch 100, failingBatch 200, failingBatch 300, failingBatch 400] ++
    resolvedAt 500

/-- **A refresh on demand leaves the mark**: no attempts, and exhausted. -/
theorem credential_left_exhausted :
    ¬ Counted (run step storedCredential exhaustedThenRefreshed) := by
  decide +kernel

end TokenRefresher

end Feros
