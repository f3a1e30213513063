import Feros.Guarantees.Credentials
import Feros.Integrations.RefreshBatch
/-! # What a batch of refreshes stores

All rows of a batch share one transaction, so the tokens of one credential are stored only if no other
one panics or makes a statement fail.

* **`Settled`** is what should come of a credential, **`Fits`** what its answer must be like for that.
* **`batch_settled_iff`**: the batch settles all of its credentials, or none for certain. -/

namespace Feros

namespace TokenRefresher

variable {outside : Outside} {env : RefreshEnv} {now : ℤ}

/-- **A credential is settled**: its new tokens are stored if the endpoint has answered with an access
token, and a failure is recorded otherwise. -/
def Settled (outside : Outside) (env : RefreshEnv) (now : ℤ) (item : BatchItem) (row : CredentialRow) :
    Prop :=
  if (env.clientConfigs item.cred.provider).isNone then row = item.cred
  else
    match newTokens (env.withOutcome item.outcome) item.cred with
    | .ok tokens => ∃ ciphertext iv expiresAt, env.encryptJson tokens.data = .ok (ciphertext, iv) ∧
        outside.addSeconds now tokens.expiresIn = some expiresAt ∧
        row = storeRefresh now expiresAt ciphertext iv item.cred
    | .error message => ∃ text, truncateError message = some text ∧ row = recordFailure now text item.cred

/-- **The answer fits**: the calendar has the new expiry and the database stores it, or the error text
is not cut inside a character and the database stores it. -/
def Fits (outside : Outside) (env : RefreshEnv) (now : ℤ) (item : BatchItem) : Prop :=
  (env.clientConfigs item.cred.provider).isNone = true ∨
    match newTokens (env.withOutcome item.outcome) item.cred with
    | .ok tokens => (∃ ciphertext iv, env.encryptJson tokens.data = .ok (ciphertext, iv)) ∧
        ∃ expiresAt, outside.addSeconds now tokens.expiresIn = some expiresAt ∧
          outside.storesTime expiresAt = true
    | .error message => ∃ text, truncateError message = some text ∧ outside.storesText text = true

/-- **The batch settles its credentials**: it commits a row for each. -/
def BatchSettled (outside : Outside) (env : RefreshEnv) (now : ℤ) (stale : List BatchItem) : Prop :=
  ∃ rows refreshed, refreshStaleBatch outside env now stale = .committed rows refreshed ∧
    List.Forall₂ (Settled outside env now) stale rows

/-! ## One round -/

/-- A credential whose answer fits is settled. -/
theorem refreshItem_of_fits {item : BatchItem} (fits : Fits outside env now item) :
    ∃ row refreshed, refreshItem outside env now item false = some (row, refreshed, false) ∧
      Settled outside env now item row := by
  unfold refreshItem Settled
  by_cases configured : (env.clientConfigs item.cred.provider).isNone = true
  · exact ⟨item.cred, false, by rw [if_pos configured], by rw [if_pos configured]⟩
  · have fits := fits.resolve_left configured
    simp only [if_neg configured]
    rcases answered : newTokens (env.withOutcome item.outcome) item.cred with message | tokens
    · simp only [answered] at fits
      obtain ⟨text, cut, stores⟩ := fits
      refine ⟨_, false, ?_, text, cut, rfl⟩
      simp only [recordInTx, cut, stores, if_true, Bool.false_eq_true, if_false, Option.map_some]
    · simp only [answered] at fits
      obtain ⟨⟨ciphertext, iv, encrypted⟩, expiresAt, added, stores⟩ := fits
      refine ⟨_, true, ?_, ciphertext, iv, expiresAt, encrypted, added, rfl⟩
      simp only [added, encrypted, stores, Bool.not_true, Bool.or_false, Bool.false_eq_true, if_false]

/-- The answer to a credential that is settled fits. -/
theorem fits_of_settled {item : BatchItem} {row : CredentialRow} {refreshed : Bool}
    (done : refreshItem outside env now item false = some (row, refreshed, false))
    (settled : Settled outside env now item row) : Fits outside env now item := by
  unfold refreshItem at done
  unfold Settled at settled
  by_cases configured : (env.clientConfigs item.cred.provider).isNone = true
  · exact .inl configured
  · refine .inr ?_
    simp only [if_neg configured] at done settled
    rcases answered : newTokens (env.withOutcome item.outcome) item.cred with message | tokens
    · simp only [answered] at done settled ⊢
      obtain ⟨text, cut, -⟩ := settled
      refine ⟨text, cut, ?_⟩
      by_contra refused
      simp [recordInTx, cut, refused] at done
    · simp only [answered] at done settled ⊢
      obtain ⟨ciphertext, iv, expiresAt, encrypted, added, -⟩ := settled
      refine ⟨⟨ciphertext, iv, encrypted⟩, expiresAt, added, ?_⟩
      by_contra refused
      have refused : outside.storesTime expiresAt = false := eq_false_of_ne_true refused
      rcases cut : truncateError outside.statementError with - | text <;>
        simp [added, encrypted, refused, recordInTx, cut] at done

/-- In an aborted transaction every statement fails. -/
theorem refreshItem_aborted {item : BatchItem} {row : CredentialRow} {refreshed aborted : Bool}
    (done : refreshItem outside env now item true = some (row, refreshed, aborted)) :
    aborted = true := by
  have recorded : ∀ message : String, ∀ result : CredentialRow × Bool,
      recordInTx outside now item.cred message true = some result → result.2 = true := by
    intro message result recorded
    unfold recordInTx at recorded
    split at recorded
    · cases recorded
    · rw [if_pos rfl] at recorded
      cases recorded
      rfl
  have failed : ∀ message : String, ((recordInTx outside now item.cred message true).map
      fun result => (result.1, false, result.2)) = some (row, refreshed, aborted) → aborted = true := by
    intro message failure
    obtain ⟨result, inTx, same⟩ := Option.map_eq_some_iff.1 failure
    have stays := recorded message result inTx
    cases same
    exact stays
  unfold refreshItem at done
  split at done
  · cases done
    rfl
  · split at done
    · exact failed _ done
    · split at done
      · cases done
      · split at done
        · exact failed _ done
        · exact failed _ done

/-! ## The loop -/

/-- A batch that was aborted stays aborted. -/
theorem refreshItems_aborted {run run' : BatchRun} (aborted : run.aborted = true)
    {items : List BatchItem} (done : refreshItems outside env now run items = some run') :
    run'.aborted = true := by
  induction items generalizing run with
  | nil =>
    cases done
    exact aborted
  | cons item items ih =>
    rw [refreshItems, aborted] at done
    rcases round : refreshItem outside env now item true with - | ⟨row, refreshed, aborted'⟩
    · rw [round] at done
      cases done
    · rw [round] at done
      exact ih (refreshItem_aborted round) done

/-- Answers that fit are all settled. -/
theorem refreshItems_of_fits {items : List BatchItem} (fits : ∀ item ∈ items, Fits outside env now item)
    (front : List CredentialRow) (count : ℕ) :
    ∃ rows count', refreshItems outside env now ⟨front, count, false⟩ items =
        some ⟨front ++ rows, count', false⟩ ∧ List.Forall₂ (Settled outside env now) items rows := by
  induction items generalizing front count with
  | nil => exact ⟨[], count, by rw [List.append_nil]; rfl, .nil⟩
  | cons item items ih =>
    obtain ⟨row, refreshed, round, settled⟩ := refreshItem_of_fits (fits item List.mem_cons_self)
    obtain ⟨rows, count', rest, others⟩ := ih (fun item' held => fits item' (List.mem_cons_of_mem item held))
      (front ++ [row]) (count + refreshed.toNat)
    refine ⟨row :: rows, count', ?_, .cons settled others⟩
    rw [refreshItems, round, List.append_cons]
    exact rest

/-- The rows of a batch that is not aborted are those of its rounds. -/
theorem rounds_of_refreshItems {items : List BatchItem} {front rows' : List CredentialRow}
    {count count' : ℕ} (done : refreshItems outside env now ⟨front, count, false⟩ items =
      some ⟨rows', count', false⟩) :
    ∃ rows, rows' = front ++ rows ∧ List.Forall₂ (fun item row => ∃ refreshed,
      refreshItem outside env now item false = some (row, refreshed, false)) items rows := by
  induction items generalizing front count with
  | nil =>
    cases done
    exact ⟨[], (List.append_nil _).symm, .nil⟩
  | cons item items ih =>
    rw [refreshItems] at done
    rcases round : refreshItem outside env now item false with - | ⟨row, refreshed, aborted⟩
    · simp only [round] at done
      cases done
    · simp only [round] at done
      cases aborted with
      | true => exact absurd (refreshItems_aborted rfl done) Bool.false_ne_true
      | false =>
        obtain ⟨rows, same, rounds⟩ := ih done
        exact ⟨row :: rows, same.trans (List.append_cons ..).symm, .cons ⟨refreshed, round⟩ rounds⟩

/-! ## The guarantee -/

/-- **A batch settles its credentials if and only if every answer fits.** -/
theorem batch_settled_iff (outside : Outside) (env : RefreshEnv) (now : ℤ) (stale : List BatchItem) :
    BatchSettled outside env now stale ↔ ∀ item ∈ stale, Fits outside env now item := by
  constructor
  · rintro ⟨rows, refreshed, ends, settled⟩
    unfold refreshStaleBatch at ends
    rcases done : refreshItems outside env now ⟨[], 0, false⟩ stale with - | ⟨rows', count, aborted⟩
    · simp only [done] at ends
      cases ends
    · simp only [done] at ends
      cases aborted with
      | true => cases ends
      | false =>
        cases ends
        obtain ⟨rows', rfl, rounds⟩ := rounds_of_refreshItems done
        -- Each row is that of its round, and settled.
        have both : ∀ {items : List BatchItem} {rows : List CredentialRow},
            List.Forall₂ (fun item row => ∃ refreshed,
              refreshItem outside env now item false = some (row, refreshed, false)) items rows →
            List.Forall₂ (Settled outside env now) items rows →
            ∀ item ∈ items, Fits outside env now item := by
          intro items rows rounds
          induction rounds with
          | nil => exact fun _ _ held => absurd held List.not_mem_nil
          | @cons item row items rows round rounds ih =>
            intro settled item' held
            obtain ⟨first, others⟩ := List.forall₂_cons.1 settled
            rcases List.mem_cons.1 held with rfl | held
            · obtain ⟨refreshed, round⟩ := round
              exact fits_of_settled round first
            · exact ih others item' held
        exact both rounds settled
  · intro fits
    obtain ⟨rows, count, done, settled⟩ := refreshItems_of_fits fits [] 0
    refine ⟨rows, count, ?_, settled⟩
    rw [refreshStaleBatch, done]
    rfl

/-- **In a batch that fits, a row is what the refresh of one row makes of it**, if the calendar adds. -/
theorem refreshItem_eq_refreshStale {item : BatchItem} (fits : Fits outside env now item)
    (adds : ∀ seconds expiresAt, outside.addSeconds now seconds = some expiresAt →
      expiresAt = now + seconds) : ∃ refreshed, refreshItem outside env now item false =
        some (refreshStale (env.withOutcome item.outcome) now item.cred, refreshed, false) := by
  obtain ⟨row, refreshed, round, settled⟩ := refreshItem_of_fits fits
  refine ⟨refreshed, ?_⟩
  rw [round]
  congr 2
  have configs : (env.withOutcome item.outcome).clientConfigs = env.clientConfigs := rfl
  unfold Settled at settled
  unfold refreshStale
  rw [configs]
  by_cases configured : (env.clientConfigs item.cred.provider).isNone = true
  · rwa [if_pos configured] at settled ⊢
  · simp only [if_neg configured] at settled ⊢
    rcases answered : newTokens (env.withOutcome item.outcome) item.cred with message | tokens
    · simp only [answered] at settled
      obtain ⟨text, cut, rfl⟩ := settled
      have refused : doRefreshRow (env.withOutcome item.outcome) now item.cred item.cred =
          .error message := by
        rw [doRefreshRow_eq, answered]
        rfl
      simp only [refused, cut]
    · simp only [answered] at settled
      obtain ⟨ciphertext, iv, expiresAt, encrypted, added, rfl⟩ := settled
      have encrypted' : (env.withOutcome item.outcome).encryptJson tokens.data =
          .ok (ciphertext, iv) := encrypted
      have granted : doRefreshRow (env.withOutcome item.outcome) now item.cred item.cred =
          .ok (tokens.access, storeRefresh now expiresAt ciphertext iv item.cred) := by
        rw [doRefreshRow_eq, answered, adds _ _ added]
        change ((env.withOutcome item.outcome).encryptJson tokens.data).bind _ = _
        rw [encrypted']
        rfl
      simp only [granted]

/-- The calendar ends in the years 262142 and -262143, the database begins in 4713 BC and has no text
with a zero character. -/
def calendarAndDatabase : Outside where
  addSeconds now seconds :=
    if seconds.natAbs ≤ 9223372036854775 ∧ -8334601228800 ≤ now + seconds ∧
      now + seconds ≤ 8210266876799 then some (now + seconds) else none
  storesTime time := -210866803200 ≤ time
  storesText text := !text.toList.contains (Char.ofNat 0)
  statementError := "error returned from database: timestamp out of range"

/-- A stale credential. -/
def staleRow (provider : String) : CredentialRow :=
  ⟨provider, "oauth2", "sealed", some "iv", 2, none, none, none, none, 0, false, none⟩

/-- **The tokens of one credential are lost by the answer to another one**: the first endpoint has
rotated its refresh token, the second one says that its token is good for `i64::MAX` seconds. -/
theorem rotated_token_lost :
    refreshStaleBatch calendarAndDatabase (.answering (.error "")) 0
        [⟨staleRow "google", .answered ⟨some "new", some "rotated", some 3600⟩⟩,
          ⟨staleRow "slack", .answered ⟨some "new", none, some 9223372036854775807⟩⟩] = .panicked ∧
      ¬ BatchSettled calendarAndDatabase (.answering (.error "")) 0
        [⟨staleRow "google", .answered ⟨some "new", some "rotated", some 3600⟩⟩,
          ⟨staleRow "slack", .answered ⟨some "new", none, some 9223372036854775807⟩⟩] := by
  have panicked : refreshStaleBatch calendarAndDatabase (.answering (.error "")) 0
      [⟨staleRow "google", .answered ⟨some "new", some "rotated", some 3600⟩⟩,
        ⟨staleRow "slack", .answered ⟨some "new", none, some 9223372036854775807⟩⟩] = .panicked := by
    decide +kernel
  refine ⟨panicked, ?_⟩
  rintro ⟨rows, refreshed, ends, -⟩
  rw [panicked] at ends
  cases ends

end TokenRefresher

end Feros
