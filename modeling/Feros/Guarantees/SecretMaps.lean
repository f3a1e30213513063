import Feros.Integrations.SecretResolver
import Feros.Library.Layers
/-! # Whose secrets are in the map

`resolveSecrets` puts the fields of every row it can decrypt into one map, the rows of the agent first.
Only a default of the platform is left out if the agent has a row of the same provider.

* **`usedRows`** are the rows that are put into the map; `resolveSecrets_eq` says so.
* **`never_mixed_iff`**: rows of one provider mix if a later one lacks a field of an earlier one, and
  providers get in each other's way if the name of one goes on from another by a dot. -/

namespace Feros

open Layers

namespace SecretResolver

variable {decryptJson : String → String → Except String CredentialData} {rows : List SecretRow}

/-! ## Entries of a row -/

/-- What a row puts into the map. -/
def entriesOf (decryptJson : String → String → Except String CredentialData) (row : SecretRow) :
    SecretFields :=
  match decryptCredential decryptJson row with
  | .ok data => insertions row.provider data
  | .error _ => []

/-- The keys of a row. -/
def keysOf (decryptJson : String → String → Except String CredentialData) (row : SecretRow) :
    List String :=
  (entriesOf decryptJson row).map (·.1)

/-- The names of the fields of a row. -/
def namesOf (decryptJson : String → String → Except String CredentialData) (row : SecretRow) :
    List String :=
  match decryptCredential decryptJson row with
  | .ok data => data.map (·.1)
  | .error _ => []

/-- The row decrypts. -/
def decrypts (decryptJson : String → String → Except String CredentialData) (row : SecretRow) : Bool :=
  (decryptCredential decryptJson row).isOk

/-- **The rows that are put into the map**: those that decrypt, but no default of the platform where the
agent has such a row of the same provider. -/
def usedRows (decryptJson : String → String → Except String CredentialData) (rows : List SecretRow) :
    List SecretRow :=
  (queried rows).filter fun row => decrypts decryptJson row && (row.isAgentSpecific ||
    !rows.any fun own => own.isAgentSpecific && own.provider == row.provider && decrypts decryptJson own)

/-- A row that cannot be decrypted has no entries. -/
theorem entriesOf_of_not_decrypts {row : SecretRow} (fails : decrypts decryptJson row = false) :
    entriesOf decryptJson row = [] := by
  unfold entriesOf
  rcases decrypted : decryptCredential decryptJson row with message | data
  · rfl
  · rw [decrypts, decrypted] at fails
    cases fails

/-- **The keys of a row** are its provider and the compound keys of its names. -/
theorem mem_keysOf {row : SecretRow} {key : String} : key ∈ keysOf decryptJson row ↔
    (namesOf decryptJson row ≠ [] ∧ key = row.provider) ∨
      ∃ name ∈ namesOf decryptJson row, key = compoundKey row.provider name := by
  unfold keysOf entriesOf namesOf
  rcases decryptCredential decryptJson row with message | data
  · simp
  · have compound : ∀ key, key ∈ (data.map fun member => (compoundKey row.provider member.1, member.2)).map
        (·.1) ↔ ∃ name ∈ data.map (·.1), key = compoundKey row.provider name := by
      intro key
      simp only [List.map_map, List.mem_map, Function.comp_apply, exists_exists_and_eq_and]
      exact exists_congr fun member => and_congr_right fun _ => eq_comm
    simp only [insertions, List.map_append, List.mem_append, compound]
    refine or_congr ?_ Iff.rfl
    rcases primary : primarySecretValue data with - | value
    · obtain rfl := primarySecretValue_eq_none.1 primary
      simp
    · have some : data.map (·.1) ≠ [] := by
        intro none
        rw [primarySecretValue_eq_none.2 (List.map_eq_nil_iff.1 none)] at primary
        cases primary
      simp [some]

/-- A row without names has no keys. -/
theorem keysOf_eq_nil {row : SecretRow} : keysOf decryptJson row = [] ↔ namesOf decryptJson row = [] := by
  constructor
  · intro none
    by_contra some
    have held := mem_keysOf.2 (.inl ⟨some, rfl⟩)
    rw [none] at held
    cases held
  · intro none
    refine List.eq_nil_iff_forall_not_mem.2 fun key held => ?_
    rcases mem_keysOf.1 held with ⟨some, -⟩ | ⟨name, inside, -⟩
    · exact some none
    · rw [none] at inside
      cases inside

/-! ## The map -/

/-- What is inserted one list after the other is inserted. -/
theorem insertAll_append (secrets : SecretMap) (first second : SecretFields) :
    insertAll secrets (first ++ second) = insertAll (insertAll secrets first) second :=
  List.foldl_append

/-- Entries set the values of their keys, and no others. -/
theorem insertAll_apply (secrets : SecretMap) (entries : SecretFields) (key : String) :
    insertAll secrets entries key =
      if key ∈ entries.map (·.1) then insertAll (fun _ => none) entries key else secrets key := by
  induction entries using List.reverseRecOn with
  | nil => rfl
  | append_singleton front entry ih =>
      have last : ∀ secrets : SecretMap, insertAll secrets (front ++ [entry]) =
          (insertAll secrets front).insert entry.1 entry.2 := fun _ => insertAll_append ..
      rw [last, last]
      by_cases here : key = entry.1
      · simp [SecretMap.insert, here]
      · simp only [SecretMap.insert, here, if_false, List.map_append, List.map_cons, List.map_nil,
          List.mem_append, List.mem_singleton, or_false]
        exact ih

/-- Rows of the agent are all put into the map. -/
theorem foldl_resolveRow_agent {own : List SecretRow} (agent : ∀ row ∈ own, row.isAgentSpecific = true)
    (seen : List String) (secrets : SecretMap) :
    own.foldl (resolveRow decryptJson) (seen, secrets) =
      (((own.filter (decrypts decryptJson)).map (·.provider)).reverse ++ seen,
        insertAll secrets (own.flatMap (entriesOf decryptJson))) := by
  induction own generalizing seen secrets with
  | nil => rfl
  | cons row own ih =>
      have specific := agent row List.mem_cons_self
      have others := fun other held => agent other (List.mem_cons_of_mem row held)
      rw [List.foldl_cons, List.flatMap_cons, insertAll_append]
      unfold resolveRow
      rw [specific, Bool.not_true, Bool.false_and, if_neg Bool.false_ne_true, if_pos rfl]
      rcases decrypted : decryptCredential decryptJson row with message | data
      · have fails : decrypts decryptJson row = false := by rw [decrypts, decrypted]; rfl
        rw [entriesOf_of_not_decrypts fails, List.filter_cons_of_neg (by rw [fails]; exact Bool.false_ne_true)]
        exact ih others seen secrets
      · have works : decrypts decryptJson row = true := by rw [decrypts, decrypted]; rfl
        have entries : entriesOf decryptJson row = insertions row.provider data := by
          rw [entriesOf, decrypted]
        rw [entries, List.filter_cons_of_pos works, List.map_cons, List.reverse_cons, List.append_assoc]
        exact ih others (row.provider :: seen) _

/-- Defaults are put into the map where the agent has no row of the provider. -/
theorem foldl_resolveRow_default {defaults : List SecretRow}
    (platform : ∀ row ∈ defaults, row.isAgentSpecific = false) (seen : List String)
    (secrets : SecretMap) :
    (defaults.foldl (resolveRow decryptJson) (seen, secrets)).2 =
      insertAll secrets
        ((defaults.filter fun row => !seen.contains row.provider).flatMap (entriesOf decryptJson)) := by
  induction defaults generalizing secrets with
  | nil => rfl
  | cons row defaults ih =>
      have default := platform row List.mem_cons_self
      have others := fun other held => platform other (List.mem_cons_of_mem row held)
      rw [List.foldl_cons]
      unfold resolveRow
      rw [default, Bool.not_false, Bool.true_and]
      by_cases known : seen.contains row.provider = true
      · have left : (row :: defaults).filter (fun row => !seen.contains row.provider) =
            defaults.filter fun row => !seen.contains row.provider := by
          rw [List.filter_cons, known, Bool.not_true, if_neg Bool.false_ne_true]
        rw [if_pos known, left]
        exact ih others secrets
      · have taken : (row :: defaults).filter (fun row => !seen.contains row.provider) =
            row :: defaults.filter fun row => !seen.contains row.provider := by
          rw [List.filter_cons, eq_false_of_ne_true known, Bool.not_false, if_pos rfl]
        rw [if_neg known, taken, List.flatMap_cons, insertAll_append, if_neg Bool.false_ne_true]
        rcases decrypted : decryptCredential decryptJson row with message | data
        · have fails : decrypts decryptJson row = false := by rw [decrypts, decrypted]; rfl
          rw [entriesOf_of_not_decrypts fails]
          exact ih others secrets
        · have entries : entriesOf decryptJson row = insertions row.provider data := by
            rw [entriesOf, decrypted]
          rw [entries]
          exact ih others _

/-- Rows that do not decrypt put nothing into the map. -/
theorem flatMap_entriesOf_filter (own : List SecretRow) (keep : SecretRow → Bool) :
    (own.filter fun row => decrypts decryptJson row && keep row).flatMap (entriesOf decryptJson) =
      (own.filter keep).flatMap (entriesOf decryptJson) := by
  induction own with
  | nil => rfl
  | cons row own ih =>
      rcases works : decrypts decryptJson row with - | -
      · rw [List.filter_cons_of_neg (by simp [works]), ih, List.filter_cons]
        split
        · rw [List.flatMap_cons, entriesOf_of_not_decrypts works, List.nil_append]
        · rfl
      · simp only [List.filter_cons, works, Bool.true_and]
        split
        · rw [List.flatMap_cons, List.flatMap_cons, ih]
        · exact ih

/-- **The map is what the used rows put into it.** -/
theorem resolveSecrets_eq (rows : List SecretRow) : resolveSecrets decryptJson rows =
    insertAll (fun _ => none) ((usedRows decryptJson rows).flatMap (entriesOf decryptJson)) := by
  have agent : ∀ row ∈ rows.filter (·.isAgentSpecific), row.isAgentSpecific = true :=
    fun row held => (List.mem_filter.1 held).2
  have platform : ∀ row ∈ rows.filter (!·.isAgentSpecific), row.isAgentSpecific = false := by
    intro row held
    simpa using (List.mem_filter.1 held).2
  unfold resolveSecrets usedRows queried
  rw [List.foldl_append, foldl_resolveRow_agent agent, foldl_resolveRow_default platform,
    flatMap_entriesOf_filter, List.filter_append, List.flatMap_append, insertAll_append]
  have own : (rows.filter (·.isAgentSpecific)).filter (fun row => row.isAgentSpecific ||
      !rows.any fun own => own.isAgentSpecific && own.provider == row.provider &&
        decrypts decryptJson own) = rows.filter (·.isAgentSpecific) := by
    refine List.filter_eq_self.2 fun row held => ?_
    rw [agent row held, Bool.true_or]
  rw [own]
  congr 2
  refine List.filter_congr fun row held => ?_
  rw [platform row held, Bool.false_or, List.append_nil, List.contains_reverse]
  congr 1
  rw [Bool.eq_iff_iff, List.contains_iff_mem]
  simp only [List.mem_map, List.mem_filter, List.any_eq_true, Bool.and_eq_true, beq_iff_eq]
  constructor
  · rintro ⟨own, ⟨⟨inside, specific⟩, works⟩, same⟩
    exact ⟨own, inside, ⟨specific, same⟩, works⟩
  · rintro ⟨own, inside, ⟨specific, same⟩, works⟩
    exact ⟨own, ⟨⟨inside, specific⟩, works⟩, same⟩

/-- **An entry has the value that its source alone would give it.** -/
theorem resolveSecrets_of_source {key : String} {i : ℕ} {row : SecretRow}
    (source : Source (keysOf decryptJson) (usedRows decryptJson rows) key i row) :
    resolveSecrets decryptJson rows key = insertAll (fun _ => none) (entriesOf decryptJson row) key := by
  obtain ⟨here, written, uncovered⟩ := source
  have split : usedRows decryptJson rows = (usedRows decryptJson rows).take i ++
      row :: (usedRows decryptJson rows).drop (i + 1) := by
    obtain ⟨inside, same⟩ := List.getElem?_eq_some_iff.1 here
    rw [← same, List.getElem_cons_drop, List.take_append_drop]
  have later : key ∉ (((usedRows decryptJson rows).drop (i + 1)).flatMap
      (entriesOf decryptJson)).map (·.1) := by
    intro held
    obtain ⟨entry, inside, same⟩ := List.mem_map.1 held
    obtain ⟨row', held', inside'⟩ := List.mem_flatMap.1 inside
    obtain ⟨j, found⟩ := List.mem_iff_getElem?.1 held'
    rw [List.getElem?_drop] at found
    exact uncovered _ row' (by omega) found (List.mem_map.2 ⟨entry, inside', same⟩)
  rw [resolveSecrets_eq, split, List.flatMap_append, List.flatMap_cons, insertAll_append,
    insertAll_append, insertAll_apply, if_neg later, insertAll_apply]
  exact if_pos written

/-- There are no other entries. -/
theorem resolveSecrets_of_unwritten {key : String}
    (unwritten : ∀ row ∈ usedRows decryptJson rows, key ∉ keysOf decryptJson row) :
    resolveSecrets decryptJson rows key = none := by
  rw [resolveSecrets_eq, insertAll_apply, if_neg]
  intro held
  obtain ⟨entry, inside, same⟩ := List.mem_map.1 held
  obtain ⟨row, held', inside'⟩ := List.mem_flatMap.1 inside
  exact unwritten row held' (List.mem_map.2 ⟨entry, inside', same⟩)

/-! ## Keys of different providers -/

/-- A compound key is the provider, a dot and the name. -/
theorem toList_compoundKey (provider key : String) :
    (compoundKey provider key).toList = provider.toList ++ '.' :: key.toList := by
  rw [compoundKey, String.toList_append, String.toList_append, List.append_assoc]
  rfl

/-- Compound keys of one provider differ with the name. -/
theorem compoundKey_inj {provider key key' : String}
    (same : compoundKey provider key = compoundKey provider key') : key = key' := by
  have chars := congrArg String.toList same
  rw [toList_compoundKey, toList_compoundKey] at chars
  injection List.append_cancel_left chars with _ chars
  exact String.toList_inj.1 chars

/-- A compound key is no provider. -/
theorem compoundKey_ne (provider key : String) : compoundKey provider key ≠ provider := by
  intro same
  have length := congrArg (fun text => text.toList.length) same
  simp only [toList_compoundKey, List.length_append, List.length_cons] at length
  omega

/-- If two compound keys are the same, one provider goes on from the other by a dot. -/
theorem compoundKey_eq {first second key key' : String} (differ : first ≠ second)
    (same : compoundKey first key = compoundKey second key') :
    (∃ suffix, second = compoundKey first suffix ∧ key = compoundKey suffix key') ∨
      ∃ suffix, first = compoundKey second suffix ∧ key' = compoundKey suffix key := by
  have part : ∀ {first second key key' : String} {gap : List Char}, first ≠ second →
      second.toList = first.toList ++ gap → '.' :: key.toList = gap ++ '.' :: key'.toList →
      ∃ suffix, second = compoundKey first suffix ∧ key = compoundKey suffix key' := by
    intro first second key key' gap differ front back
    cases gap with
    | nil =>
        rw [List.append_nil] at front
        exact absurd (String.toList_inj.1 front).symm differ
    | cons dot suffix =>
        injection back with here back
        refine ⟨String.ofList suffix, String.toList_inj.1 ?_, String.toList_inj.1 ?_⟩
        · rw [toList_compoundKey, front, ← here, String.toList_ofList]
        · rw [toList_compoundKey, back, String.toList_ofList]
          rfl
  have chars := congrArg String.toList same
  rw [toList_compoundKey, toList_compoundKey] at chars
  rcases List.append_eq_append_iff.1 chars with ⟨gap, front, back⟩ | ⟨gap, front, back⟩
  · exact .inl (part differ front back)
  · exact .inr (part differ.symm front back)

/-- **The name of the second provider goes on from the first by a dot**, and a field of the first one
goes on in the same way: its name is the rest, or the rest with a field of the second one. -/
def Dotted (decryptJson : String → String → Except String CredentialData) (first second : SecretRow) :
    Prop :=
  ∃ suffix, second.provider = compoundKey first.provider suffix ∧
    (suffix ∈ namesOf decryptJson first ∧ namesOf decryptJson second ≠ [] ∨
      ∃ name ∈ namesOf decryptJson second, compoundKey suffix name ∈ namesOf decryptJson first)

/-- Rows of different providers have a key in common if one goes on from the other. -/
theorem common_key_iff {first second : SecretRow} (differ : first.provider ≠ second.provider) :
    (∃ key ∈ keysOf decryptJson first, key ∈ keysOf decryptJson second) ↔
      Dotted decryptJson first second ∨ Dotted decryptJson second first := by
  constructor
  · rintro ⟨key, held, held'⟩
    rcases mem_keysOf.1 held with ⟨some, rfl⟩ | ⟨name, inside, rfl⟩ <;>
      rcases mem_keysOf.1 held' with ⟨some', same⟩ | ⟨name', inside', same⟩
    · exact absurd same differ
    · exact .inr ⟨name', same, .inl ⟨inside', some⟩⟩
    · exact .inl ⟨name, same.symm, .inl ⟨inside, some'⟩⟩
    · rcases compoundKey_eq differ same with ⟨suffix, goesOn, rest⟩ | ⟨suffix, goesOn, rest⟩
      · exact .inl ⟨suffix, goesOn, .inr ⟨name', inside', rest ▸ inside⟩⟩
      · exact .inr ⟨suffix, goesOn, .inr ⟨name, inside, rest ▸ inside'⟩⟩
  · have shared : ∀ {first second : SecretRow}, Dotted decryptJson first second →
        ∃ key ∈ keysOf decryptJson first, key ∈ keysOf decryptJson second := by
      rintro first second ⟨suffix, goesOn, ⟨inside, some⟩ | ⟨name, inside', inside⟩⟩
      · exact ⟨second.provider, mem_keysOf.2 (.inr ⟨suffix, inside, goesOn⟩), mem_keysOf.2 (.inl ⟨some, rfl⟩)⟩
      · refine ⟨compoundKey second.provider name, mem_keysOf.2 (.inr ⟨_, inside, ?_⟩),
          mem_keysOf.2 (.inr ⟨name, inside', rfl⟩)⟩
        rw [goesOn]
        simp only [compoundKey, String.append_assoc]
    rintro (dotted | dotted)
    · exact shared dotted
    · obtain ⟨key, held, held'⟩ := shared dotted
      exact ⟨key, held', held⟩

/-! ## The guarantee -/

/-- **The secrets are not mixed.** -/
structure NeverMixed (decryptJson : String → String → Except String CredentialData)
    (rows : List SecretRow) : Prop where
  /-- Every entry of the map is one of its source. -/
  entries : ∀ key value, resolveSecrets decryptJson rows key = some value →
    ∃ i row, Source (keysOf decryptJson) (usedRows decryptJson rows) key i row ∧
      insertAll (fun _ => none) (entriesOf decryptJson row) key = some value
  /-- All entries of a provider have the same source. -/
  one : OneSource (keysOf decryptJson) (·.provider) (usedRows decryptJson rows)
  /-- A row of the agent is used, and no default of its provider. -/
  agent : ∀ own ∈ rows, own.isAgentSpecific = true → decrypts decryptJson own = true →
    own ∈ usedRows decryptJson rows ∧
      ∀ row ∈ usedRows decryptJson rows, row.provider = own.provider → row.isAgentSpecific = true
  /-- Different providers do not write the same key. -/
  apart : Apart (keysOf decryptJson) (·.provider) (usedRows decryptJson rows)

/-- **The last row of a provider has the fields of all others, and no provider's name goes on from
another's** in the way of a field. -/
structure Separate (decryptJson : String → String → Except String CredentialData)
    (rows : List SecretRow) : Prop where
  fields : ∀ i last, LastOf (keysOf decryptJson) (·.provider) (usedRows decryptJson rows) i last →
    ∀ row ∈ usedRows decryptJson rows, row.provider = last.provider →
      namesOf decryptJson row ⊆ namesOf decryptJson last
  names : ∀ first ∈ usedRows decryptJson rows, ∀ second ∈ usedRows decryptJson rows,
    first.provider ≠ second.provider → ¬ Dotted decryptJson first second

/-- Rows of a provider have the keys of another one if they have its fields. -/
theorem keysOf_subset_iff {row last : SecretRow} (same : row.provider = last.provider)
    (some : namesOf decryptJson last ≠ []) : keysOf decryptJson row ⊆ keysOf decryptJson last ↔
      namesOf decryptJson row ⊆ namesOf decryptJson last := by
  constructor
  · intro subset name inside
    rcases mem_keysOf.1 (subset (mem_keysOf.2 (.inr ⟨name, inside, rfl⟩))) with ⟨-, equal⟩ | ⟨name', inside', equal⟩
    · rw [same] at equal
      exact absurd equal (compoundKey_ne _ _)
    · rw [same] at equal
      rwa [compoundKey_inj equal]
  · intro subset key held
    rcases mem_keysOf.1 held with ⟨-, rfl⟩ | ⟨name, inside, rfl⟩
    · exact mem_keysOf.2 (.inl ⟨some, same⟩)
    · exact mem_keysOf.2 (.inr ⟨name, subset inside, by rw [same]⟩)

/-- **A provider with a row of the agent uses rows of the agent only.** -/
theorem agent_used {own : SecretRow} (held : own ∈ rows) (specific : own.isAgentSpecific = true)
    (works : decrypts decryptJson own = true) : own ∈ usedRows decryptJson rows ∧
      ∀ row ∈ usedRows decryptJson rows, row.provider = own.provider → row.isAgentSpecific = true := by
  constructor
  · refine List.mem_filter.2 ⟨List.mem_append_left _ (List.mem_filter.2 ⟨held, specific⟩), ?_⟩
    rw [works, specific]
    rfl
  · intro row used same
    have kept := (List.mem_filter.1 used).2
    by_contra default
    have shadowed : (rows.any fun own => own.isAgentSpecific && own.provider == row.provider &&
        decrypts decryptJson own) = true :=
      List.any_eq_true.2 ⟨own, held, by simp [specific, same, works]⟩
    rw [shadowed, eq_false_of_ne_true default] at kept
    simp at kept

/-- **Secrets are never mixed if and only if the rows are separate.** -/
theorem never_mixed_iff (decryptJson : String → String → Except String CredentialData)
    (rows : List SecretRow) : NeverMixed decryptJson rows ↔ Separate decryptJson rows := by
  have apartIff : Apart (keysOf decryptJson) (·.provider) (usedRows decryptJson rows) ↔
      ∀ first ∈ usedRows decryptJson rows, ∀ second ∈ usedRows decryptJson rows,
        first.provider ≠ second.provider → ¬ Dotted decryptJson first second := by
    constructor
    · intro apart first held second held' differ dotted
      obtain ⟨key, inside, inside'⟩ := (common_key_iff differ).2 (.inl dotted)
      exact apart first held second held' differ key inside inside'
    · intro names first held second held' differ key inside inside'
      rcases (common_key_iff differ).1 ⟨key, inside, inside'⟩ with dotted | dotted
      · exact names first held second held' differ dotted
      · exact names second held' first held differ.symm dotted
  have fieldsIff : (∀ i last, LastOf (keysOf decryptJson) (·.provider) (usedRows decryptJson rows) i last →
      ∀ row ∈ usedRows decryptJson rows, row.provider = last.provider →
        keysOf decryptJson row ⊆ keysOf decryptJson last) ↔
      ∀ i last, LastOf (keysOf decryptJson) (·.provider) (usedRows decryptJson rows) i last →
        ∀ row ∈ usedRows decryptJson rows, row.provider = last.provider →
          namesOf decryptJson row ⊆ namesOf decryptJson last := by
    refine forall₃_congr fun i last lastOf => forall₃_congr fun row _ same => ?_
    exact keysOf_subset_iff same fun none => lastOf.writes (keysOf_eq_nil.2 none)
  constructor
  · intro kept
    exact ⟨fieldsIff.1 ((one_source_iff kept.apart).1 kept.one), apartIff.1 kept.apart⟩
  · intro separate
    have apart := apartIff.2 separate.names
    refine ⟨?_, (one_source_iff apart).2 (fieldsIff.2 separate.fields),
      fun own held specific works => agent_used held specific works, apart⟩
    intro key value found
    by_cases unwritten : ∀ row ∈ usedRows decryptJson rows, key ∉ keysOf decryptJson row
    · rw [resolveSecrets_of_unwritten unwritten] at found
      cases found
    · push Not at unwritten
      obtain ⟨row, held, written⟩ := unwritten
      obtain ⟨i, here⟩ := List.mem_iff_getElem?.1 held
      obtain ⟨j, last, -, source⟩ := exists_source here written
      refine ⟨j, last, source, ?_⟩
      rw [← resolveSecrets_of_source source]
      exact found

/-- A row of the agent whose text is the only field and its value. -/
def tokenRow (provider name : String) : SecretRow := ⟨provider, name, some "iv", 2, true⟩

/-- Decrypts the text of such a row. -/
def decryptToken (text _iv : String) : Except String CredentialData := .ok [(text, some text)]

/-- **Two credentials of one provider are mixed**: the secret is the key of the second one, next to the
access token of the first. -/
theorem secrets_mixed :
    ¬ NeverMixed decryptToken [tokenRow "google" "access_token", tokenRow "google" "api_key"] := by
  intro kept
  have used : usedRows decryptToken [tokenRow "google" "access_token", tokenRow "google" "api_key"] =
      [tokenRow "google" "access_token", tokenRow "google" "api_key"] := by decide +kernel
  have one := kept.one
  rw [used] at one
  have first : Source (keysOf decryptToken)
      [tokenRow "google" "access_token", tokenRow "google" "api_key"] "google.access_token" 0
      (tokenRow "google" "access_token") := by
    refine ⟨rfl, by decide +kernel, fun j later behind found => ?_⟩
    match j with
    | 1 =>
        cases found
        decide +kernel
    | j + 2 => cases found
  have second : Source (keysOf decryptToken)
      [tokenRow "google" "access_token", tokenRow "google" "api_key"] "google" 1
      (tokenRow "google" "api_key") := by
    refine ⟨rfl, by decide +kernel, fun j later behind found => ?_⟩
    match j with
    | j + 2 => cases found
  exact absurd (one _ _ 0 1 _ _ first second rfl) Nat.zero_ne_one

end SecretResolver

end Feros
