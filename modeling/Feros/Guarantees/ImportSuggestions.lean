import Feros.Studio.AgentImport
import Feros.Guarantees.CanonicalConfigs
/-! # The suggestions of an import

Whether an imported config passes once the suggested values are in it: the provider always does, the model if
the provider has one for the language, and the voice if it was checked against the model that is there in the
end. -/

namespace Feros

/-! ## Normalizing again -/

/-- The items of a list can be put into a set. -/
def Hashable (value : Option JsonValue) : Prop :=
  ∀ items, value = some (.arr items) → ∀ item ∈ items, ∃ key, item.hashKey = .ok key

/-- Items that are deduplicated are hashable, and what is left are items. -/
theorem hashable_of_dedupFrom {items : List JsonValue} {seen : List JsonValue.HashKey} {result r : List JsonValue}
    (ok : dedupFrom seen result items = .ok r) :
    (∀ item ∈ items, ∃ key, item.hashKey = .ok key) ∧ ∀ item ∈ r, item ∈ result ∨ item ∈ items := by
  induction items generalizing seen result with
  | nil =>
      cases ok
      exact ⟨by rintro _ ⟨⟩, fun _ member => .inl member⟩
  | cons item items ih =>
      rw [dedupFrom, bind_eq_ok] at ok
      obtain ⟨key, hashed, ok⟩ := ok
      split at ok
      · obtain ⟨rest, members⟩ := ih ok
        refine ⟨?_, fun other member => (members other member).imp_right (.tail _)⟩
        rintro _ (_ | ⟨_, member⟩)
        · exact ⟨key, hashed⟩
        · exact rest _ member
      · obtain ⟨rest, members⟩ := ih ok
        refine ⟨?_, fun other member => ?_⟩
        · rintro _ (_ | ⟨_, member⟩)
          · exact ⟨key, hashed⟩
          · exact rest _ member
        · rcases members other member with before | later
          · rcases List.mem_append.1 before with before | new
            · exact .inl before
            · rw [List.mem_singleton.1 new]
              exact .inr (.head _)
          · exact .inr (.tail _ later)

/-- Hashable items can be deduplicated. -/
theorem dedupFrom_of_hashable {items : List JsonValue} (hashable : ∀ item ∈ items, ∃ key, item.hashKey = .ok key)
    (seen : List JsonValue.HashKey) (result : List JsonValue) : ∃ r, dedupFrom seen result items = .ok r := by
  induction items generalizing seen result with
  | nil => exact ⟨result, rfl⟩
  | cons item items ih =>
      obtain ⟨key, hashed⟩ := hashable item (.head _)
      have rest := ih fun other member => hashable other (.tail _ member)
      rw [dedupFrom, hashed, ok_bind]
      split
      · exact rest _ _
      · exact rest _ _

/-- What removing duplicates leaves alone. -/
theorem dedupField_ok {cn cn' : Fields} {field : String} (ok : dedupField cn field = .ok cn') :
    Hashable (Dict.get? cn' field) ∧ ∀ k, k ≠ field → Dict.get? cn' k = Dict.get? cn k := by
  rw [dedupField] at ok
  split at ok
  · rename_i items found
    rw [bind_eq_ok] at ok
    obtain ⟨r, dedup, set⟩ := ok
    cases set
    obtain ⟨all, members⟩ := hashable_of_dedupFrom dedup
    refine ⟨?_, fun k other => Dict.get?_set_of_ne cn _ (Ne.symm other)⟩
    intro items' same item member
    rw [Dict.get?_set, if_pos rfl] at same
    cases same
    rcases members item member with before | inItems
    · cases before
    · exact all item inItems
  · rename_i other
    cases ok
    exact ⟨fun items same => absurd same (other items), fun _ _ => rfl⟩

/-- A field of hashable items can be deduplicated. -/
theorem dedupField_of_hashable {cn : Fields} {field : String} (hashable : Hashable (Dict.get? cn field)) :
    ∃ cn', dedupField cn field = .ok cn' := by
  rw [dedupField]
  split
  · rename_i items found
    obtain ⟨r, dedup⟩ := dedupFrom_of_hashable (hashable items found) [] []
    rw [dedupPreserveOrder, dedup]
    exact ⟨_, rfl⟩
  · exact ⟨cn, rfl⟩

/-- A dictionary in another order has the same values. -/
theorem get?_orderedDict {order : List String} (nodup : order.Nodup) (d : Fields) (k : String) :
    Dict.get? (orderedDict d order) k = Dict.get? d k := by
  rw [orderedDict_eq nodup, Dict.get?_arrange]

/-- **A canonical node has a canonical form.** -/
theorem canonNode_again {node canon : JsonValue} (ok : canonNode node = .ok canon) :
    ∃ again, canonNode canon = .ok again := by
  have nodup : nodeFieldOrder.Nodup := by decide
  cases node with
  | obj fields =>
      rw [canonNode, bind_eq_ok] at ok
      obtain ⟨withTools, tools, ok⟩ := ok
      rw [bind_eq_ok] at ok
      obtain ⟨withEdges, edges, ok⟩ := ok
      cases ok
      obtain ⟨toolsHash, toolsElse⟩ := dedupField_ok tools
      obtain ⟨edgesHash, edgesElse⟩ := dedupField_ok edges
      obtain ⟨first, again⟩ : ∃ first, dedupField (orderedDict withEdges nodeFieldOrder) "tools" = .ok first := by
        apply dedupField_of_hashable
        rw [get?_orderedDict nodup, edgesElse "tools" (by decide)]
        exact toolsHash
      obtain ⟨second, again'⟩ : ∃ second, dedupField first "edges" = .ok second := by
        apply dedupField_of_hashable
        rw [(dedupField_ok again).2 "edges" (by decide), get?_orderedDict nodup]
        exact edgesHash
      refine ⟨.obj second, ?_⟩
      rw [canonNode, again, ok_bind, again', ok_bind]
      rfl
  | null | bool | int | float | str | arr =>
      cases ok
      exact ⟨_, rfl⟩

/-- Every tool has a canonical form. -/
theorem canonTool_ok (tool : JsonValue) : ∃ canon, canonTool tool = .ok canon := by
  cases tool with
  | obj | null | bool | int | float | str | arr => exact ⟨_, rfl⟩

/-- What the loop over the entries leaves. -/
theorem canonEntries_ok {canon : JsonValue → Except PyError JsonValue} {table : Fields} {ids : List String}
    {result r : Fields} (start : ∀ id entry, Dict.get? result id = some entry → ∃ node, canon node = .ok entry)
    (ok : canonEntries canon table result ids = .ok r) (id : String) (entry : JsonValue)
    (there : Dict.get? r id = some entry) : ∃ node, canon node = .ok entry := by
  induction ids generalizing result with
  | nil =>
      cases ok
      exact start id entry there
  | cons first ids ih =>
      rw [canonEntries] at ok
      split at ok
      · rename_i node found
        rw [bind_eq_ok] at ok
        obtain ⟨canonical, canonized, ok⟩ := ok
        refine ih ?_ ok
        intro id' entry' there'
        rw [Dict.get?_set] at there'
        split at there'
        · cases there'
          exact ⟨node, canonized⟩
        · exact start id' entry' there'
      · cases ok

/-- Entries whose nodes have canonical forms have one. -/
theorem canonEntries_of {canon : JsonValue → Except PyError JsonValue} {table : Fields} {ids : List String}
    (known : ∀ id ∈ ids, ∃ node, Dict.get? table id = some node ∧ ∃ canonical, canon node = .ok canonical)
    (result : Fields) : ∃ r, canonEntries canon table result ids = .ok r := by
  induction ids generalizing result with
  | nil => exact ⟨result, rfl⟩
  | cons id ids ih =>
      obtain ⟨node, found, canonical, ok⟩ := known id (.head _)
      rw [canonEntries, found]
      dsimp only
      rw [ok, ok_bind]
      exact ih (fun other member => known other (.tail _ member)) _

/-- The entries of a table, by its keys. -/
theorem canonEntries_keys {canon : JsonValue → Except PyError JsonValue} {table : Fields}
    (known : ∀ id node, Dict.get? table id = some node → ∃ canonical, canon node = .ok canonical) :
    ∃ r, canonEntries canon table [] (sortedStr (Dict.keys table)) = .ok r := by
  refine canonEntries_of (fun id member => ?_) []
  have inTable : id ∈ Dict.keys table := (List.mem_insertionSort _).1 member
  obtain ⟨node, found⟩ := Option.isSome_iff_exists.1 (Dict.mem_keys_iff.1 inTable)
  exact ⟨node, found, known id node found⟩

/-- The other parts are left alone. -/
theorem canonPart_get? {canon : JsonValue → Except PyError JsonValue} {result r : Fields} {name : String}
    (ok : canonPart canon result name = .ok r) (k : String) (other : k ≠ name) :
    Dict.get? r k = Dict.get? result k := by
  rw [canonPart] at ok
  split at ok
  · rw [bind_eq_ok] at ok
    obtain ⟨entries, -, set⟩ := ok
    cases set
    exact Dict.get?_set_of_ne result _ (Ne.symm other)
  · cases ok
    rfl

/-- The entries of a part are canonical forms. -/
theorem canonPart_entries {canon : JsonValue → Except PyError JsonValue} {result r : Fields} {name : String}
    (ok : canonPart canon result name = .ok r) {table : Fields} (found : Dict.get? r name = some (.obj table))
    (id : String) (entry : JsonValue) (there : Dict.get? table id = some entry) :
    ∃ node, canon node = .ok entry := by
  rw [canonPart] at ok
  split at ok
  · rw [bind_eq_ok] at ok
    obtain ⟨entries, loop, set⟩ := ok
    cases set
    rw [Dict.get?_set, if_pos rfl] at found
    cases found
    exact canonEntries_ok (by rintro _ _ ⟨⟩) loop id entry there
  · rename_i other
    cases ok
    exact absurd found (other table)

/-- A part whose nodes have canonical forms has one. -/
theorem canonPart_of {canon : JsonValue → Except PyError JsonValue} {result : Fields} {name : String}
    (known : ∀ table, Dict.get? result name = some (.obj table) →
      ∀ id node, Dict.get? table id = some node → ∃ canonical, canon node = .ok canonical) :
    ∃ r, canonPart canon result name = .ok r := by
  rw [canonPart]
  split
  · rename_i table found
    obtain ⟨r, loop⟩ := canonEntries_keys (known table found)
    rw [loop, ok_bind]
    exact ⟨_, rfl⟩
  · exact ⟨result, rfl⟩

/-- **A canonical form has the fields of the config**, but for the nodes and the tools. -/
theorem canonicalize_get? {config canonical : Fields} (ok : canonicalizeConfig config = .ok canonical) (k : String)
    (noNodes : k ≠ "nodes") (noTools : k ≠ "tools") : Dict.get? canonical k = Dict.get? config k := by
  rw [canonicalizeConfig, bind_eq_ok] at ok
  obtain ⟨withNodes, nodes, tools⟩ := ok
  rw [canonPart_get? tools k noTools, canonPart_get? nodes k noNodes, get?_orderedDict (by decide)]

/-- **A config with canonical nodes has a canonical form.** -/
theorem canonicalize_again {config canonical other : Fields} (ok : canonicalizeConfig config = .ok canonical)
    (same : Dict.get? other "nodes" = Dict.get? canonical "nodes") :
    ∃ again, canonicalizeConfig other = .ok again := by
  have nodup : topLevelOrder.Nodup := by decide
  rw [canonicalizeConfig, bind_eq_ok] at ok
  obtain ⟨withNodes, nodes, tools⟩ := ok
  obtain ⟨first, again⟩ : ∃ first, canonPart canonNode (orderedDict other topLevelOrder) "nodes" = .ok first := by
    refine canonPart_of fun table found id node there => ?_
    rw [get?_orderedDict nodup, same, canonPart_get? tools "nodes" (by decide)] at found
    obtain ⟨node', canonized⟩ := canonPart_entries nodes found id node there
    exact canonNode_again canonized
  obtain ⟨second, again'⟩ : ∃ second, canonPart canonTool first "tools" = .ok second :=
    canonPart_of fun _ _ _ tool _ => canonTool_ok tool
  refine ⟨second, ?_⟩
  rw [canonicalizeConfig, again, ok_bind, again']

namespace AgentImport

/-- The defaults change no other field. -/
theorem get?_defaults (canonical : Fields) {k : String}
    (other : k ≠ "config_schema_version" ∧ k ≠ "language" ∧ k ≠ "timezone") :
    Dict.get? (Dict.setDefault (Dict.setDefault (Dict.set canonical "config_schema_version" (.str "v3_graph")) "language"
      (.str "en")) "timezone" (.str "")) k = Dict.get? canonical k := by
  rw [Dict.get?_setDefault, if_neg (Ne.symm other.2.2), Dict.get?_setDefault, if_neg (Ne.symm other.2.1),
    Dict.get?_set_of_ne _ _ (Ne.symm other.1)]

/-- **What normalizing leaves of a config**: the fields that are checked, with a language. -/
theorem normalizeConfig_get? {config normalized : Fields} (ok : normalizeConfig config = .ok normalized) :
    (∀ k ∈ mappablePaths, Dict.get? normalized k = Dict.get? config k) ∧
      Dict.get? normalized "language" = some ((Dict.get? config "language").getD (.str "en")) := by
  rw [normalizeConfig, bind_eq_ok] at ok
  obtain ⟨canonical, first, second⟩ := ok
  constructor
  · intro k member
    have others : k ≠ "nodes" ∧ k ≠ "tools" ∧ k ≠ "config_schema_version" ∧ k ≠ "language" ∧ k ≠ "timezone" := by
      rw [mappablePaths, List.mem_cons, List.mem_cons, List.mem_singleton] at member
      rcases member with rfl | rfl | rfl <;> decide
    rw [canonicalize_get? second k others.1 others.2.1]
    exact (get?_defaults canonical others.2.2).trans (canonicalize_get? first k others.1 others.2.1)
  · rw [canonicalize_get? second "language" (by decide) (by decide)]
    rw [Dict.get?_setDefault, if_neg (by decide), Dict.get?_setDefault, if_pos rfl,
      Dict.get?_set_of_ne _ _ (by decide), canonicalize_get? first "language" (by decide) (by decide)]

/-- A config with normalized nodes can be normalized. -/
theorem normalizeConfig_again {config normalized other : Fields} (ok : normalizeConfig config = .ok normalized)
    (same : Dict.get? other "nodes" = Dict.get? normalized "nodes") :
    ∃ again, normalizeConfig other = .ok again := by
  rw [normalizeConfig, bind_eq_ok] at ok
  obtain ⟨canonical, -, second⟩ := ok
  obtain ⟨again, first⟩ := canonicalize_again second same
  obtain ⟨last, ok⟩ := canonicalize_again first (get?_defaults again (by decide))
  exact ⟨last, by rw [normalizeConfig, first, ok_bind]; exact ok⟩

/-! ## The values of a config -/

/-- A text field is a matter of the field. -/
theorem textField_congr (env : ImportEnv) {config other : Fields} {name : String}
    (same : Dict.get? other name = Dict.get? config name) : textField env other name = textField env config name := by
  rw [textField, textField, same]

/-- A text is taken without the spaces around it. -/
theorem textField_str (env : ImportEnv) {config : Fields} {name value : String}
    (found : Dict.get? config name = some (.str value)) : textField env config name = strip value := by
  rw [textField, found]
  change strip (env.python.format (if (JsonValue.str value).truthy then .str value else .str "")) = strip value
  by_cases empty : value = ""
  · rw [empty]
    rfl
  · have counts : (JsonValue.str value).truthy = true := by
      simp [JsonValue.truthy, empty]
    rw [if_pos counts]
    rfl

/-! ## Providers -/

/-- **The provider is known and ready.** -/
def ProviderReady (rows : Dict String ProviderRow) (provider : String) : Prop :=
  provider ∈ knownProviders ∧
    (providerRequiresApiKey provider = true → providerHasApiKey (Dict.get? rows provider) = true)

instance (rows : Dict String ProviderRow) (provider : String) : Decidable (ProviderReady rows provider) :=
  inferInstanceAs (Decidable (_ ∧ _))

/-- A provider that is ready has no issue. -/
theorem checkProvider_of_ready {rows : Dict String ProviderRow} {provider : String} (ready : ProviderReady rows provider)
    (suggested : Dict String String) : checkProvider rows suggested provider = none := by
  have named : provider ≠ "" := by
    rintro rfl
    exact absurd ready.1 (by decide)
  rw [checkProvider, if_neg named, if_neg (not_not_intro ready.1), if_neg]
  rintro ⟨requires, lacks⟩
  rw [ready.2 requires] at lacks
  cases lacks

/-- Any other provider is an issue that the suggested one would settle. -/
theorem checkProvider_of_not_ready {rows : Dict String ProviderRow} {provider : String}
    (unready : ¬ ProviderReady rows provider) (suggested : Dict String String) :
    ∃ code message, checkProvider rows suggested provider =
      some (mappableIssue code "tts_provider" message suggested) := by
  rw [checkProvider]
  split
  · exact ⟨_, _, rfl⟩
  · split
    · exact ⟨_, _, rfl⟩
    · rename_i known
      rw [if_pos]
      · exact ⟨_, _, rfl⟩
      · rw [not_not] at known
        by_contra has
        refine unready ⟨known, fun requires => ?_⟩
        rw [not_and, Bool.not_eq_false] at has
        exact has requires

/-- No name of a provider has spaces around it. -/
theorem strip_known {provider : String} (known : provider ∈ knownProviders) : strip provider = provider := by
  revert provider
  decide

/-! ## Models and voices -/

section Offers

variable (env : ImportEnv) (defaults : TtsConfig) (rows : Dict String ProviderRow)

/-- **The model passes the check**: the provider has it, and it supports the language. -/
def Acceptable (language provider model : String) : Prop :=
  model ≠ "" ∧ findModel env provider model ≠ none ∧
    (language = "" ∨ env.checkTtsModelLanguage provider model language = true)

instance (language provider model : String) : Decidable (Acceptable env language provider model) :=
  inferInstanceAs (Decidable (_ ∧ _ ∧ _))

/-- **The voice passes the check**: the model offers it, or has no voices. -/
def VoicePasses (language provider model voiceId : String) : Prop :=
  validVoiceIds env provider model language = [] ∨ voiceId ∈ validVoiceIds env provider model language

instance (language provider model voiceId : String) : Decidable (VoicePasses env language provider model voiceId) :=
  inferInstanceAs (Decidable (_ ∨ _))

/-- The voice that is suggested for a model. -/
def suggestedVoice (language provider model : String) : Option String :=
  let voices := validVoiceIds env provider model language
  if defaults.voiceId ≠ "" ∧ defaults.voiceId ∈ voices then some defaults.voiceId else (sortedStr voices).head?

variable {env defaults rows}

/-- A model that is acceptable has no issue. -/
theorem checkModel_of_acceptable {language provider model : String} (passes : Acceptable env language provider model)
    (suggested : Dict String String) :
    checkModel env defaults language provider model suggested = ([], suggested) := by
  obtain ⟨named, found, supports⟩ := passes
  unfold checkModel
  dsimp only
  rw [if_neg named, if_neg found, if_neg]
  rintro ⟨spoken, lacks⟩
  rcases supports with silent | supports
  · exact spoken silent
  · rw [supports] at lacks
    cases lacks

/-- Any other model is an issue that the suggested one would settle. -/
theorem checkModel_of_not_acceptable {language provider model : String}
    (fails : ¬ Acceptable env language provider model) (suggested : Dict String String) :
    ∃ code message, checkModel env defaults language provider model suggested =
      ([mappableIssue code "tts_model" message (suggestModel env defaults language provider suggested)],
        suggestModel env defaults language provider suggested) := by
  unfold checkModel
  dsimp only
  split
  · exact ⟨_, _, rfl⟩
  · rename_i named
    split
    · exact ⟨_, _, rfl⟩
    · rename_i found
      rw [if_pos]
      · exact ⟨_, _, rfl⟩
      · by_contra supports
        refine fails ⟨named, found, ?_⟩
        rw [not_and_or, not_not, Bool.not_eq_false] at supports
        exact supports

/-- No voice is empty. -/
theorem voice_ne_empty {language provider model voiceId : String}
    (offered : voiceId ∈ validVoiceIds env provider model language) : voiceId ≠ "" := by
  rintro rfl
  rw [validVoiceIds] at offered
  split at offered
  · cases offered
  · dsimp only at offered
    obtain ⟨voice, member, empty⟩ := List.mem_map.1 offered
    have named : voice.voiceId ≠ "" := by
      split at member
      · simpa using List.of_mem_filter member
      · simpa using List.of_mem_filter (List.mem_filter.1 member).1
    exact named empty

/-- A voice that passes is no issue that blocks. -/
theorem checkVoice_of_passes {language provider model voiceId : String}
    (passes : VoicePasses env language provider model voiceId) (suggested : Dict String String) :
    ∀ issue ∈ (checkVoice env defaults language provider model voiceId suggested).1,
      issue.blocking = false ∧ issue.mappable = false := by
  unfold checkVoice
  dsimp only
  split
  · split
    · intro issue member
      rw [List.mem_singleton.1 member]
      exact ⟨rfl, rfl⟩
    · rintro _ ⟨⟩
  · rename_i first more sorted
    have offered : voiceId ∈ validVoiceIds env provider model language := by
      rcases passes with none | offered
      · rw [none] at sorted
        cases sorted
      · exact offered
    rw [if_neg (voice_ne_empty offered), if_neg (not_not_intro offered)]
    rintro _ ⟨⟩

/-- Any other voice is an issue that the suggested one would settle. -/
theorem checkVoice_of_not_passes {language provider model voiceId : String}
    (fails : ¬ VoicePasses env language provider model voiceId) (suggested : Dict String String) :
    ∃ code message better, checkVoice env defaults language provider model voiceId suggested =
        ([mappableIssue code "voice_id" message better], better) ∧
      Dict.get? better "voice_id" = suggestedVoice env defaults language provider model := by
  rw [VoicePasses, not_or] at fails
  unfold checkVoice
  dsimp only
  split
  · rename_i none
    have sameLength := List.length_insertionSort (· ≤ ·) (validVoiceIds env provider model language)
    rw [sortedStr] at none
    rw [none] at sameLength
    exact absurd (List.length_eq_zero_iff.1 sameLength.symm) fails.1
  · rename_i first more sorted
    have offered : first ∈ validVoiceIds env provider model language := by
      refine (List.mem_insertionSort (· ≤ ·)).1 ?_
      change first ∈ sortedStr _
      rw [sorted]
      exact .head _
    have named : (if defaults.voiceId ≠ "" ∧ defaults.voiceId ∈ validVoiceIds env provider model language then
        defaults.voiceId else first) ≠ "" := by
      split
      · rename_i default
        exact default.1
      · exact voice_ne_empty offered
    have best : Dict.get? (Dict.set suggested "voice_id"
        (if defaults.voiceId ≠ "" ∧ defaults.voiceId ∈ validVoiceIds env provider model language then
          defaults.voiceId else first)) "voice_id" = suggestedVoice env defaults language provider model := by
      rw [Dict.get?_set, if_pos rfl, suggestedVoice, sorted]
      split
      · rfl
      · rfl
    rw [if_pos named, if_pos fails.2]
    split
    · exact ⟨_, _, _, rfl, best⟩
    · exact ⟨_, _, _, rfl, best⟩

end Offers

/-! ## The checks of a config -/

section Config

variable (env : ImportEnv) (defaults : TtsConfig) (rows : Dict String ProviderRow) (config : Fields)

/-- The provider that a config is left with. -/
def keptProvider : String :=
  if ProviderReady rows (textField env config "tts_provider") then textField env config "tts_provider"
  else defaults.provider

/-- The model that is suggested to a config. -/
def suggestedModel : Option String :=
  let picked := pickModel env (keptProvider env defaults rows config) (configLanguage env config) defaults.model
  if picked ≠ "" then some picked else Dict.get? (baseSuggestedMappings env defaults config) "tts_model"

/-- The model whose voices are looked at. -/
def checkedModel : String :=
  if findModel env (keptProvider env defaults rows config) (textField env config "tts_model") = none then
    (suggestedModel env defaults rows config).getD ""
  else textField env config "tts_model"

/-- The checks of the model and the voice, for a provider. -/
def modelAndVoice (provider : String) (suggested : Dict String String) : List ImportIssue :=
  let language := configLanguage env config
  let model := textField env config "tts_model"
  let (modelIssues, suggested) := checkModel env defaults language provider model suggested
  let modelForVoice := if findModel env provider model = none then (Dict.get? suggested "tts_model").getD "" else model
  let (voiceIssues, _) :=
    if modelForVoice ≠ "" then
      checkVoice env defaults language provider modelForVoice (textField env config "voice_id") suggested
    else ([], suggested)
  modelIssues ++ voiceIssues

variable {env defaults rows config}

/-- The suggestions begin with the default provider. -/
theorem get?_base_provider (named : defaults.provider ≠ "") :
    Dict.get? (baseSuggestedMappings env defaults config) "tts_provider" = some defaults.provider := by
  have out (model : String) : Dict.get? (if model ≠ "" then Dict.set [("tts_provider", defaults.provider)] "tts_model" model
      else [("tts_provider", defaults.provider)]) "tts_provider" = some defaults.provider := by
    split
    · rfl
    · rfl
  unfold baseSuggestedMappings
  dsimp only
  rw [if_pos named, apply_ite (fun mappings => Dict.get? mappings "tts_provider"),
    Dict.get?_set_of_ne _ _ (by decide), out, ite_self]

/-- The model that is suggested. -/
theorem get?_suggestModel (language provider : String) (suggested : Dict String String) :
    Dict.get? (suggestModel env defaults language provider suggested) "tts_model" =
      if pickModel env provider language defaults.model ≠ "" then some (pickModel env provider language defaults.model)
      else Dict.get? suggested "tts_model" := by
  unfold suggestModel
  dsimp only
  split
  · rw [Dict.get?_set, if_pos rfl]
  · rfl

/-- The suggestions for another provider have its model. -/
theorem get?_remap (language provider : String) (suggested : Dict String String) :
    Dict.get? (remap env defaults language provider suggested) "tts_model" =
      if pickModel env provider language defaults.model ≠ "" then some (pickModel env provider language defaults.model)
      else Dict.get? suggested "tts_model" := by
  unfold remap
  dsimp only
  split
  · rw [apply_ite (fun mappings => Dict.get? mappings "tts_model"), Dict.get?_set_of_ne _ _ (by decide), ite_self,
      Dict.get?_set, if_pos rfl]
  · rfl

/-- The checks, once the provider is known. -/
theorem collect_of (defaults : TtsConfig) {suggested : Dict String String} {issue : Option ImportIssue} {provider : String}
    (check : checkProvider rows suggested (textField env config "tts_provider") = issue)
    (kept : (if issue.isSome then (Dict.get? suggested "tts_provider").getD "" else textField env config "tts_provider") =
      provider) (known : provider ∈ knownProviders) (named : provider ≠ "") :
    (collectFulfillmentIssues env config rows defaults suggested).1 = issue.toList ++
      modelAndVoice env defaults config provider
        (if issue.isSome ∧ provider ≠ textField env config "tts_provider" then
          remap env defaults (configLanguage env config) provider suggested
        else suggested) := by
  unfold collectFulfillmentIssues modelAndVoice
  dsimp only
  rw [check, kept]
  simp only [known, named, true_and, ne_eq, not_false_eq_true, and_true, if_true, List.append_assoc]

/-- **The checks are those of the provider, and then of the provider that is kept.** -/
theorem collect_eq (ready : ProviderReady rows defaults.provider) :
    ∃ suggested, (collectFulfillmentIssues env config rows defaults (baseSuggestedMappings env defaults config)).1 =
        (checkProvider rows (baseSuggestedMappings env defaults config) (textField env config "tts_provider")).toList ++
          modelAndVoice env defaults config (keptProvider env defaults rows config) suggested ∧
      Dict.get? (suggestModel env defaults (configLanguage env config) (keptProvider env defaults rows config) suggested)
        "tts_model" = suggestedModel env defaults rows config := by
  have named {provider : String} (known : provider ∈ knownProviders) : provider ≠ "" := by
    rintro rfl
    exact absurd known (by decide)
  by_cases own : ProviderReady rows (textField env config "tts_provider")
  · have kept : keptProvider env defaults rows config = textField env config "tts_provider" := if_pos own
    have check := checkProvider_of_ready own (baseSuggestedMappings env defaults config)
    have collected := collect_of defaults check rfl own.1 (named own.1)
    rw [kept, check]
    refine ⟨_, collected, ?_⟩
    rw [get?_suggestModel, suggestedModel, kept]
    rfl
  · have kept : keptProvider env defaults rows config = defaults.provider := if_neg own
    obtain ⟨code, message, check⟩ := checkProvider_of_not_ready own (baseSuggestedMappings env defaults config)
    have effective : (if (some (mappableIssue code "tts_provider" message (baseSuggestedMappings env defaults config))).isSome
        then (Dict.get? (baseSuggestedMappings env defaults config) "tts_provider").getD ""
        else textField env config "tts_provider") = defaults.provider := by
      rw [Option.isSome_some, if_pos rfl, get?_base_provider (named ready.1)]
      rfl
    have collected := collect_of defaults check effective ready.1 (named ready.1)
    rw [kept, check]
    refine ⟨_, collected, ?_⟩
    rw [get?_suggestModel, apply_ite (fun mappings => Dict.get? mappings "tts_model"), get?_remap, suggestedModel, kept]
    split
    · rfl
    · exact ite_self _

/-- **What a check finds**: nothing that blocks, or one issue that blocks, with a suggestion. -/
structure Found (passes : Prop) (path : String) (value : Option String) (issues : List ImportIssue) : Prop where
  quiet : passes → ∀ issue ∈ issues, issue.blocking = false ∧ issue.mappable = false
  loud : ¬ passes → ∃ issue : ImportIssue, issues = [issue] ∧ issue.blocking = true ∧ issue.mappable = true ∧
    issue.path = some path ∧ issue.suggestedValue = value

/-- A check that makes an issue of the value. -/
theorem Found.of_issue {passes : Prop} {path : String} {value : Option String} {suggested : Dict String String}
    (fails : ¬ passes) (suggests : Dict.get? suggested path = value) (code message : String) :
    Found passes path value [mappableIssue code path message suggested] where
  quiet holds := absurd holds fails
  loud _ := ⟨_, rfl, rfl, rfl, rfl, suggests⟩

/-- A check that finds nothing. -/
theorem Found.of_passes {passes : Prop} {path : String} {value : Option String} (holds : passes) :
    Found passes path value [] where
  quiet := by rintro - _ ⟨⟩
  loud fails := absurd holds fails

/-- **What the checks of a config find**, one after the other. -/
theorem collect_found (ready : ProviderReady rows defaults.provider) :
    ∃ ofProvider ofModel ofVoice : List ImportIssue,
      (collectFulfillmentIssues env config rows defaults (baseSuggestedMappings env defaults config)).1 =
        ofProvider ++ (ofModel ++ ofVoice) ∧
      Found (ProviderReady rows (textField env config "tts_provider")) "tts_provider" (some defaults.provider)
        ofProvider ∧
      Found (Acceptable env (configLanguage env config) (keptProvider env defaults rows config)
        (textField env config "tts_model")) "tts_model" (suggestedModel env defaults rows config) ofModel ∧
      Found (checkedModel env defaults rows config = "" ∨
          VoicePasses env (configLanguage env config) (keptProvider env defaults rows config)
            (checkedModel env defaults rows config) (textField env config "voice_id")) "voice_id"
        (suggestedVoice env defaults (configLanguage env config) (keptProvider env defaults rows config)
          (checkedModel env defaults rows config)) ofVoice := by
  have checks : ∃ suggested,
      (collectFulfillmentIssues env config rows defaults (baseSuggestedMappings env defaults config)).1 = _ ∧ _ :=
    collect_eq ready
  obtain ⟨suggested, collected, model⟩ := checks
  -- Whatever model the voice is checked for: it passes, or a voice that passes is suggested.
  have ofVoice (better : Dict String String) (checked : String) :
      Found (checked = "" ∨ VoicePasses env (configLanguage env config) (keptProvider env defaults rows config)
          checked (textField env config "voice_id")) "voice_id"
        (suggestedVoice env defaults (configLanguage env config) (keptProvider env defaults rows config) checked)
        (if checked ≠ "" then
          checkVoice env defaults (configLanguage env config) (keptProvider env defaults rows config) checked
            (textField env config "voice_id") better
        else ([], better)).1 := by
    by_cases named : checked = ""
    · rw [if_neg (not_not_intro named)]
      exact .of_passes (.inl named)
    · rw [if_pos named]
      by_cases passes : VoicePasses env (configLanguage env config) (keptProvider env defaults rows config) checked
          (textField env config "voice_id")
      · exact ⟨fun _ => checkVoice_of_passes passes better, fun fails => absurd (.inr passes) fails⟩
      · obtain ⟨code, message, better', issue, suggests⟩ := checkVoice_of_not_passes passes better
        rw [issue]
        exact .of_issue (not_or.2 ⟨named, passes⟩) suggests code message
  -- The model that is checked is the one the config keeps, or else the suggested one.
  have checked : (if findModel env (keptProvider env defaults rows config) (textField env config "tts_model") = none then
        (Dict.get? (checkModel env defaults (configLanguage env config) (keptProvider env defaults rows config)
          (textField env config "tts_model") suggested).2 "tts_model").getD ""
      else textField env config "tts_model") = checkedModel env defaults rows config := by
    rw [checkedModel]
    split
    · rename_i missing
      have fails : ¬ Acceptable env (configLanguage env config) (keptProvider env defaults rows config)
          (textField env config "tts_model") := fun passes => passes.2.1 missing
      obtain ⟨code, message, issue⟩ := checkModel_of_not_acceptable fails suggested
      rw [issue, model]
    · rfl
  have ofProvider : Found (ProviderReady rows (textField env config "tts_provider")) "tts_provider"
      (some defaults.provider)
      (checkProvider rows (baseSuggestedMappings env defaults config) (textField env config "tts_provider")).toList := by
    by_cases passes : ProviderReady rows (textField env config "tts_provider")
    · rw [checkProvider_of_ready passes]
      exact .of_passes passes
    · obtain ⟨code, message, issue⟩ := checkProvider_of_not_ready passes (baseSuggestedMappings env defaults config)
      rw [issue]
      refine .of_issue passes (get?_base_provider ?_) code message
      intro empty
      rw [empty] at ready
      exact absurd ready.1 (by decide)
  have ofModel : Found (Acceptable env (configLanguage env config) (keptProvider env defaults rows config)
      (textField env config "tts_model")) "tts_model" (suggestedModel env defaults rows config)
      (checkModel env defaults (configLanguage env config) (keptProvider env defaults rows config)
        (textField env config "tts_model") suggested).1 := by
    by_cases passes : Acceptable env (configLanguage env config) (keptProvider env defaults rows config)
        (textField env config "tts_model")
    · rw [checkModel_of_acceptable passes]
      exact .of_passes passes
    · obtain ⟨code, message, issue⟩ := checkModel_of_not_acceptable passes suggested
      rw [issue]
      exact .of_issue passes model code message
  refine ⟨_, _, _, collected.trans (congrArg _ ?_), ofProvider, ofModel,
    ofVoice (checkModel env defaults (configLanguage env config) (keptProvider env defaults rows config)
      (textField env config "tts_model") suggested).2 _⟩
  unfold modelAndVoice
  dsimp only
  rw [checked]

/-! ## Taking the suggestions -/

/-- A value that is set, if there is one. -/
def accept (mappings : Dict String String) (path : String) (value : Option String) : Dict String String :=
  match value with
  | some value => Dict.set mappings path value
  | none => mappings

/-- The suggestions of a check are taken if it does not pass. -/
theorem Found.accepted {passes : Prop} [Decidable passes] {path : String} {value : Option String}
    {issues : List ImportIssue} (found : Found passes path value issues) (mappings : Dict String String) :
    issues.foldl acceptIssue mappings = accept mappings path (if passes then none else value) := by
  by_cases holds : passes
  · rw [if_pos holds]
    have quiet := found.quiet holds
    induction issues with
    | nil => rfl
    | cons issue issues ih =>
        rw [List.foldl_cons, acceptIssue, (quiet issue (.head _)).2]
        exact ih ⟨fun holds other member => quiet other (.tail _ member), fun fails => absurd holds fails⟩
          fun other member => quiet other (.tail _ member)
  · obtain ⟨issue, same, blocks, maps, atPath, suggests⟩ := found.loud holds
    rw [if_neg holds, same, List.foldl_cons, List.foldl_nil, acceptIssue, blocks, maps, atPath, suggests]
    cases value with
    | none => rfl
    | some value => rfl

/-- A check passes if and only if it finds nothing that blocks. -/
theorem Found.passes_iff {passes : Prop} {path : String} {value : Option String} {issues : List ImportIssue}
    (found : Found passes path value issues) : (∀ issue ∈ issues, issue.blocking = false) ↔ passes := by
  constructor
  · intro quiet
    by_contra fails
    obtain ⟨issue, same, blocks, -⟩ := found.loud fails
    have off := quiet issue (by rw [same]; exact .head _)
    rw [blocks] at off
    cases off
  · exact fun holds issue member => (found.quiet holds issue member).1

/-- A mapping that is accepted is the only one of its path. -/
theorem nodup_accept {mappings : Dict String String} (unique : (Dict.keys mappings).Nodup) (path : String)
    (value : Option String) : (Dict.keys (accept mappings path value)).Nodup := by
  cases value with
  | none => exact unique
  | some value =>
      rw [accept, Dict.keys_set]
      split
      · exact unique
      · rename_i fresh
        refine List.nodup_append.2 ⟨unique, List.nodup_singleton path, ?_⟩
        rintro k old _ (_ | ⟨_, ⟨⟩⟩) rfl
        exact fresh (Dict.mem_keys_iff.1 old)

/-- What is mapped when a mapping was accepted. -/
theorem get?_accept (mappings : Dict String String) (path : String) (value : Option String) (k : String) :
    Dict.get? (accept mappings path value) k =
      if path = k then value.or (Dict.get? mappings k) else Dict.get? mappings k := by
  cases value with
  | none =>
      rw [Option.none_or, ite_self]
      rfl
  | some value => exact Dict.get?_set mappings path value k

/-- A field of a config, when a suggestion may have been taken. -/
def taken (config : Fields) (path : String) (value : Option String) : Option JsonValue :=
  match value with
  | some value => if value ≠ "" then some (.str value) else Dict.get? config path
  | none => Dict.get? config path

/-- **A config with mappings.** -/
theorem get?_mapped (config : Fields) {mappings : Dict String String} (unique : (Dict.keys mappings).Nodup) (k : String) :
    Dict.get? (mappings.foldl applyMapping config) k =
      if k ∈ mappablePaths then taken config k (Dict.get? mappings k) else Dict.get? config k := by
  induction mappings generalizing config with
  | nil => exact (ite_self _).symm
  | cons entry mappings ih =>
      obtain ⟨path, value⟩ := entry
      obtain ⟨fresh, unique'⟩ := List.nodup_cons.1 unique
      have absent : Dict.get? mappings path = none := Dict.get?_eq_none_iff.2 fresh
      rw [List.foldl_cons, ih _ unique', Dict.get?_cons]
      by_cases here : path = k
      · subst here
        rw [absent, if_pos rfl]
        unfold applyMapping taken
        dsimp only
        by_cases mappable : path ∈ mappablePaths
        · rw [if_pos mappable, if_pos mappable]
          by_cases empty : value = ""
          · rw [if_neg (fun both => both.2 empty), if_neg (not_not_intro empty)]
          · rw [if_pos ⟨mappable, empty⟩, if_pos empty, Dict.get?_set_self]
        · rw [if_neg mappable, if_neg mappable, if_neg (fun both => mappable both.1)]
      · have same : Dict.get? (applyMapping config (path, value)) k = Dict.get? config k := by
          rw [applyMapping, apply_ite (fun mapped => Dict.get? mapped k), Dict.get?_set_of_ne _ _ here, ite_self]
        rw [if_neg here, same]
        unfold taken
        rw [same]

/-- The value of a field once a suggestion has been taken. -/
def settled (own : String) (value : Option String) : String :=
  match value with
  | some value => if value ≠ "" then strip value else own
  | none => own

/-- The text of a field that was mapped. -/
theorem textField_taken (env : ImportEnv) {config other : Fields} {path : String} {value : Option String}
    (same : Dict.get? other path = taken config path value) :
    textField env other path = settled (textField env config path) value := by
  unfold taken at same
  unfold settled
  cases value with
  | none => exact textField_congr env same
  | some value =>
      dsimp only at same ⊢
      split
      · rename_i named
        rw [if_pos named] at same
        exact textField_str env same
      · rename_i empty
        rw [if_neg empty] at same
        exact textField_congr env same

variable (env defaults rows config)

/-- The suggestions that are taken. -/
def takenProvider : Option String :=
  if ProviderReady rows (textField env config "tts_provider") then none else some defaults.provider

def takenModel : Option String :=
  if Acceptable env (configLanguage env config) (keptProvider env defaults rows config) (textField env config "tts_model")
  then none else suggestedModel env defaults rows config

def takenVoice : Option String :=
  if checkedModel env defaults rows config = "" ∨
      VoicePasses env (configLanguage env config) (keptProvider env defaults rows config)
        (checkedModel env defaults rows config) (textField env config "voice_id")
  then none
  else suggestedVoice env defaults (configLanguage env config) (keptProvider env defaults rows config)
    (checkedModel env defaults rows config)

/-- The model and the voice of a config that has the suggestions. -/
def offeredModel : String := settled (textField env config "tts_model") (takenModel env defaults rows config)

def offeredVoice : String := settled (textField env config "voice_id") (takenVoice env defaults rows config)

/-- **The suggestions settle the config**: the provider offers the model, and the model the voice. -/
def Settles : Prop :=
  Acceptable env (configLanguage env config) (keptProvider env defaults rows config)
      (offeredModel env defaults rows config) ∧
    VoicePasses env (configLanguage env config) (keptProvider env defaults rows config)
      (offeredModel env defaults rows config) (offeredVoice env defaults rows config)

/-- A config that takes the suggestions. -/
def withSuggestions : Fields :=
  (acceptedMappings
    (collectFulfillmentIssues env config rows defaults (baseSuggestedMappings env defaults config)).1).foldl
      applyMapping config

variable {env defaults rows config}

/-- **The mappings that are accepted** are those of provider and model. -/
theorem acceptedMappings_collect (ready : ProviderReady rows defaults.provider) :
    acceptedMappings
        (collectFulfillmentIssues env config rows defaults (baseSuggestedMappings env defaults config)).1 =
      accept (accept (accept [] "tts_provider" (takenProvider env defaults rows config)) "tts_model"
        (takenModel env defaults rows config)) "voice_id" (takenVoice env defaults rows config) := by
  have checks : ∃ ofProvider ofModel ofVoice : List ImportIssue,
      (collectFulfillmentIssues env config rows defaults (baseSuggestedMappings env defaults config)).1 = _ ∧ _ :=
    collect_found ready
  obtain ⟨ofProvider, ofModel, ofVoice, collected, provider, model, voice⟩ := checks
  rw [collected, acceptedMappings, List.foldl_append, List.foldl_append, provider.accepted, model.accepted,
    voice.accepted]
  rfl

/-- **The config with the suggestions**, field by field. -/
theorem get?_withSuggestions (ready : ProviderReady rows defaults.provider) :
    Dict.get? (withSuggestions env defaults rows config) "tts_provider" =
        taken config "tts_provider" (takenProvider env defaults rows config) ∧
      Dict.get? (withSuggestions env defaults rows config) "tts_model" =
        taken config "tts_model" (takenModel env defaults rows config) ∧
      Dict.get? (withSuggestions env defaults rows config) "voice_id" =
        taken config "voice_id" (takenVoice env defaults rows config) ∧
      ∀ k ∉ mappablePaths, Dict.get? (withSuggestions env defaults rows config) k = Dict.get? config k := by
  have fresh : (Dict.keys ([] : Dict String String)).Nodup := List.nodup_nil
  have unique := nodup_accept (nodup_accept (nodup_accept fresh "tts_provider"
    (takenProvider env defaults rows config)) "tts_model" (takenModel env defaults rows config)) "voice_id"
    (takenVoice env defaults rows config)
  have field (k : String) := get?_mapped config unique k
  rw [withSuggestions, acceptedMappings_collect ready]
  refine ⟨?_, ?_, ?_, fun k other => ?_⟩
  · rw [field, if_pos (by decide), get?_accept, if_neg (by decide), get?_accept, if_neg (by decide), get?_accept,
      if_pos rfl, Dict.get?_nil, Option.or_none]
  · rw [field, if_pos (by decide), get?_accept, if_neg (by decide), get?_accept, if_pos rfl, get?_accept,
      if_neg (by decide), Dict.get?_nil, Option.or_none]
  · rw [field, if_pos (by decide), get?_accept, if_pos rfl, get?_accept, if_neg (by decide), get?_accept,
      if_neg (by decide), Dict.get?_nil, Option.or_none]
  · rw [field, if_neg other]

/-- **A config passes** if and only if its provider is ready and offers its model, and the model its voice. -/
theorem passes_iff (ready : ProviderReady rows defaults.provider) :
    (∀ issue ∈ (collectFulfillmentIssues env config rows defaults (baseSuggestedMappings env defaults config)).1,
        issue.blocking = false) ↔
      ProviderReady rows (textField env config "tts_provider") ∧
        Acceptable env (configLanguage env config) (textField env config "tts_provider") (textField env config "tts_model") ∧
        VoicePasses env (configLanguage env config) (textField env config "tts_provider") (textField env config "tts_model")
          (textField env config "voice_id") := by
  have checks : ∃ ofProvider ofModel ofVoice : List ImportIssue,
      (collectFulfillmentIssues env config rows defaults (baseSuggestedMappings env defaults config)).1 = _ ∧ _ :=
    collect_found ready
  obtain ⟨ofProvider, ofModel, ofVoice, collected, provider, model, voice⟩ := checks
  rw [collected, List.forall_mem_append, List.forall_mem_append, provider.passes_iff, model.passes_iff,
    voice.passes_iff]
  refine and_congr_right fun own => ?_
  have kept : keptProvider env defaults rows config = textField env config "tts_provider" := if_pos own
  rw [kept]
  refine and_congr_right fun acceptable => ?_
  have checked : checkedModel env defaults rows config = textField env config "tts_model" := by
    rw [checkedModel, kept, if_neg acceptable.2.1]
  rw [checked]
  exact or_iff_right acceptable.1

/-- The checks see a config through its fields and its language. -/
theorem configLanguage_congr (env : ImportEnv) {config other : Fields}
    (same : (Dict.get? other "language").getD (.str "en") = (Dict.get? config "language").getD (.str "en")) :
    configLanguage env other = configLanguage env config := by
  rw [configLanguage, configLanguage, same]

/-- Settling is a matter of the fields that are mapped, and of the language. -/
theorem settles_congr {other : Fields} (same : ∀ k ∈ mappablePaths, Dict.get? other k = Dict.get? config k)
    (language : (Dict.get? other "language").getD (.str "en") = (Dict.get? config "language").getD (.str "en")) :
    Settles env defaults rows other ↔ Settles env defaults rows config := by
  have spoken := configLanguage_congr env language
  have provider := textField_congr env (same "tts_provider" (by decide))
  have model := textField_congr env (same "tts_model" (by decide))
  have voice := textField_congr env (same "voice_id" (by decide))
  have base : baseSuggestedMappings env defaults other = baseSuggestedMappings env defaults config := by
    rw [baseSuggestedMappings, baseSuggestedMappings, language]
  have kept : keptProvider env defaults rows other = keptProvider env defaults rows config := by
    rw [keptProvider, keptProvider, provider]
  have suggested : suggestedModel env defaults rows other = suggestedModel env defaults rows config := by
    rw [suggestedModel, suggestedModel, kept, spoken, base]
  have checked : checkedModel env defaults rows other = checkedModel env defaults rows config := by
    rw [checkedModel, checkedModel, kept, model, suggested]
  rw [Settles, Settles, offeredModel, offeredModel, offeredVoice, offeredVoice, takenModel, takenModel, takenVoice,
    takenVoice, kept, spoken, model, voice, suggested, checked]

/-- **A config with the suggestions passes** if and only if they settle it. -/
theorem withSuggestions_passes_iff (ready : ProviderReady rows defaults.provider) {other : Fields}
    (same : ∀ k ∈ mappablePaths, Dict.get? other k = Dict.get? (withSuggestions env defaults rows config) k)
    (language : (Dict.get? other "language").getD (.str "en") = (Dict.get? config "language").getD (.str "en")) :
    (∀ issue ∈ (collectFulfillmentIssues env other rows defaults (baseSuggestedMappings env defaults other)).1,
        issue.blocking = false) ↔ Settles env defaults rows config := by
  have fields : Dict.get? (withSuggestions env defaults rows config) "tts_provider" = _ ∧ _ := get?_withSuggestions ready
  obtain ⟨ofProvider, ofModel, ofVoice, -⟩ := fields
  have provider : textField env other "tts_provider" = keptProvider env defaults rows config := by
    rw [textField_taken env ((same "tts_provider" (by decide)).trans ofProvider), takenProvider, keptProvider]
    split
    · rfl
    · have named : defaults.provider ≠ "" := by
        intro empty
        rw [empty] at ready
        exact absurd ready.1 (by decide)
      unfold settled
      dsimp only
      rw [if_pos named, strip_known ready.1]
  have model : textField env other "tts_model" = offeredModel env defaults rows config :=
    textField_taken env ((same "tts_model" (by decide)).trans ofModel)
  have voice : textField env other "voice_id" = offeredVoice env defaults rows config :=
    textField_taken env ((same "voice_id" (by decide)).trans ofVoice)
  have kept : ProviderReady rows (keptProvider env defaults rows config) := by
    rw [keptProvider]
    split
    · assumption
    · exact ready
  rw [passes_iff ready, provider, model, voice, configLanguage_congr env language, Settles]
  exact and_iff_right kept

end Config

/-! ## Validating again -/

/-- **The suggestions converge**: once they are applied, nothing blocks. -/
def Converges (env : ImportEnv) (defaults : TtsConfig) (rows : Dict String ProviderRow) (first : ImportValidation) :
    Prop :=
  ∃ mapped second, applyImportMappings first.normalizedConfig (acceptedMappings first.fulfillmentIssues) = .ok mapped ∧
    validateImportConfig env defaults rows mapped = .ok second ∧
    ∀ issue ∈ second.fulfillmentIssues, issue.blocking = false

/-- A config that can be normalized is validated. -/
theorem validateImportConfig_of (env : ImportEnv) (defaults : TtsConfig) (rows : Dict String ProviderRow)
    {config normalized : Fields} (ok : normalizeConfig config = .ok normalized) :
    ∃ result, validateImportConfig env defaults rows config = .ok result ∧ result.normalizedConfig = normalized ∧
      result.fulfillmentIssues = (collectFulfillmentIssues env normalized rows defaults
        (baseSuggestedMappings env defaults normalized)).1 := by
  rw [validateImportConfig, ok, ok_bind]
  refine ⟨_, rfl, ?_, ?_⟩
  · dsimp only
  · dsimp only

/-- A config that is validated was normalized, and its issues are those that are collected. -/
theorem validateImportConfig_ok {env : ImportEnv} {defaults : TtsConfig} {rows : Dict String ProviderRow}
    {config : Fields} {result : ImportValidation} (ok : validateImportConfig env defaults rows config = .ok result) :
    normalizeConfig config = .ok result.normalizedConfig ∧
      result.fulfillmentIssues = (collectFulfillmentIssues env result.normalizedConfig rows defaults
        (baseSuggestedMappings env defaults result.normalizedConfig)).1 := by
  obtain ⟨normalized, normalizes, -⟩ := bind_eq_ok.1 ok
  obtain ⟨result', ok', same, issues⟩ := validateImportConfig_of env defaults rows normalizes
  obtain rfl := Except.ok.inj (ok'.symm.trans ok)
  rw [same]
  exact ⟨normalizes, issues⟩

/-- **The suggestions converge** exactly if they settle. -/
theorem converges_iff {env : ImportEnv} {defaults : TtsConfig} {rows : Dict String ProviderRow} {config : Fields}
    {first : ImportValidation} (ready : ProviderReady rows defaults.provider)
    (ok : validateImportConfig env defaults rows config = .ok first) :
    Converges env defaults rows first ↔ Settles env defaults rows config := by
  obtain ⟨normalizes, issues⟩ := validateImportConfig_ok ok
  obtain ⟨fields, spoken⟩ := normalizeConfig_get? normalizes
  have settles : Settles env defaults rows first.normalizedConfig ↔ Settles env defaults rows config :=
    settles_congr fields (by rw [spoken, Option.getD_some])
  rw [← settles, Converges, issues]
  have others {k : String} (other : k ∉ mappablePaths) :
      Dict.get? (withSuggestions env defaults rows first.normalizedConfig) k = Dict.get? first.normalizedConfig k :=
    (get?_withSuggestions ready).2.2.2 k other
  obtain ⟨mapped, applies⟩ := normalizeConfig_again normalizes (others (k := "nodes") (by decide))
  obtain ⟨again, renormalizes⟩ := normalizeConfig_again applies rfl
  obtain ⟨second, validates, -, issues'⟩ := validateImportConfig_of env defaults rows renormalizes
  have same (k : String) (mappable : k ∈ mappablePaths) :
      Dict.get? again k = Dict.get? (withSuggestions env defaults rows first.normalizedConfig) k :=
    ((normalizeConfig_get? renormalizes).1 k mappable).trans ((normalizeConfig_get? applies).1 k mappable)
  have language : (Dict.get? again "language").getD (.str "en") =
      (Dict.get? first.normalizedConfig "language").getD (.str "en") := by
    rw [(normalizeConfig_get? renormalizes).2, (normalizeConfig_get? applies).2, others (k := "language") (by decide),
      Option.getD_some, Option.getD_some]
  rw [← withSuggestions_passes_iff ready same language, ← issues']
  constructor
  · rintro ⟨mapped', second', applies', validates', quiet⟩
    obtain rfl := Except.ok.inj (applies.symm.trans applies')
    obtain rfl := Except.ok.inj (validates.symm.trans validates')
    exact quiet
  · intro quiet
    exact ⟨mapped, second, applies, validates, quiet⟩

/-! ## A tidy catalogue -/

/-- **The models have names of their own**, and no name has spaces around it. -/
structure Tidy (env : ImportEnv) : Prop where
  named : ∀ entry ∈ env.catalog, entry.modelId ≠ "" ∧ strip entry.modelId = entry.modelId
  unique : ∀ entry ∈ env.catalog, ∀ other ∈ env.catalog,
    entry.provider = other.provider → entry.modelId = other.modelId → entry = other
  voices : ∀ entry ∈ env.catalog, ∀ voice ∈ entry.languageVoices, strip voice.voiceId = voice.voiceId

/-- The check of the engine looks into the catalogue. -/
def Agrees (env : ImportEnv) : Prop :=
  ∀ provider model language, env.checkTtsModelLanguage provider model language =
    (findModel env provider model).any fun entry => entry.supportedLanguages.contains language

/-- **The provider has a model for the language.** -/
def Served (env : ImportEnv) (language provider : String) : Prop :=
  ∃ entry ∈ env.catalog, entry.provider = provider ∧ (language = "" ∨ language ∈ entry.supportedLanguages)

/-- The voice that a config is left with, if it was checked against its own model. -/
def leftVoice (env : ImportEnv) (defaults : TtsConfig) (language provider model voiceId : String) : String :=
  if VoicePasses env language provider model voiceId then voiceId
  else (suggestedVoice env defaults language provider model).getD ""

section Tidy

variable {env : ImportEnv} {defaults : TtsConfig} {rows : Dict String ProviderRow} {config : Fields}

/-- A model that is found is in the catalogue. -/
theorem mem_of_findModel {provider model : String} {entry : TtsModelSpec}
    (found : findModel env provider model = some entry) :
    entry ∈ env.catalog ∧ entry.provider = provider ∧ entry.modelId = model := by
  have fits := List.find?_some found
  rw [Bool.and_eq_true, beq_iff_eq, beq_iff_eq] at fits
  exact ⟨List.mem_of_find?_eq_some found, fits⟩

/-- A model of a tidy catalogue is found. -/
theorem findModel_of_mem (tidy : Tidy env) {entry : TtsModelSpec} (member : entry ∈ env.catalog) :
    findModel env entry.provider entry.modelId = some entry := by
  cases found : findModel env entry.provider entry.modelId with
  | none =>
      have other := List.find?_eq_none.1 found entry member
      rw [beq_self_eq_true, beq_self_eq_true] at other
      exact absurd rfl other
  | some other =>
      obtain ⟨there, sameProvider, sameModel⟩ := mem_of_findModel found
      rw [tidy.unique other there entry member sameProvider sameModel]

/-- A model of the catalogue that serves the language is acceptable. -/
theorem acceptable_of_mem (tidy : Tidy env) (agrees : Agrees env) {language : String} {entry : TtsModelSpec}
    (member : entry ∈ env.catalog) (serves : language = "" ∨ language ∈ entry.supportedLanguages) :
    Acceptable env language entry.provider entry.modelId := by
  have found := findModel_of_mem tidy member
  refine ⟨(tidy.named entry member).1, ?_, serves.imp_right fun supports => ?_⟩
  · rw [found]
    rintro ⟨⟩
  · rw [agrees, found]
    exact List.contains_iff_mem.2 supports

/-- Only a provider with a model for the language offers one. -/
theorem served_of_acceptable (agrees : Agrees env) {language provider model : String}
    (acceptable : Acceptable env language provider model) : Served env language provider := by
  obtain ⟨-, found, supports⟩ := acceptable
  obtain ⟨entry, found⟩ := Option.ne_none_iff_exists'.1 found
  obtain ⟨member, sameProvider, -⟩ := mem_of_findModel found
  refine ⟨entry, member, sameProvider, supports.imp_right fun supports => ?_⟩
  rw [agrees, found] at supports
  exact List.contains_iff_mem.1 supports

/-- **The model that is picked** is one that the provider offers. -/
theorem pickModel_of_served (tidy : Tidy env) (agrees : Agrees env) {language provider : String}
    (known : provider ≠ "") (served : Served env language provider) (preferred : String) :
    Acceptable env language provider (pickModel env provider language preferred) ∧
      strip (pickModel env provider language preferred) = pickModel env provider language preferred := by
  -- An entry of the catalogue that speaks the language passes.
  have offers {entry : TtsModelSpec} (member : entry ∈ env.catalog) (its : entry.provider = provider)
      (serves : language = "" ∨ language ∈ entry.supportedLanguages) :
      Acceptable env language provider entry.modelId ∧ strip entry.modelId = entry.modelId :=
    ⟨its ▸ acceptable_of_mem tidy agrees member serves, (tidy.named entry member).2⟩
  unfold pickModel
  dsimp only
  rw [if_neg known]
  -- The preferred model speaks it.
  by_cases supports : ((if preferred ≠ "" then findModel env provider preferred else none).any
      (·.supportedLanguages.contains language)) = true
  · rw [if_pos supports]
    obtain ⟨entry, found, supports⟩ := (Option.any_eq_true _ _).1 supports
    split at found
    · obtain ⟨member, its, same⟩ := mem_of_findModel found
      rw [← same]
      exact offers member its (.inr (List.contains_iff_mem.1 supports))
    · cases found
  -- Otherwise the first other model that does, or the first of the provider.
  · rw [if_neg supports]
    obtain ⟨entry, member, its, serves⟩ := served
    have candidate : entry ∈ env.catalog.filter (·.provider == provider) :=
      List.mem_filter.2 ⟨member, beq_iff_eq.2 its⟩
    split
    · rename_i none
      rw [none] at candidate
      cases candidate
    · rename_i first more candidates
      have ofCandidate {other : TtsModelSpec} (inList : other ∈ first :: more) :
          other ∈ env.catalog ∧ other.provider = provider := by
        rw [← candidates] at inList
        exact (List.mem_filter.1 inList).imp_right beq_iff_eq.1
      split
      · rename_i picked found
        obtain ⟨there, its⟩ := ofCandidate (List.mem_of_find?_eq_some found)
        have supports := List.find?_some found
        rw [Bool.and_eq_true] at supports
        exact offers there its (.inr (List.contains_iff_mem.1 supports.1))
      -- Only the first one is left, so it is the one that serves.
      · rename_i none
        obtain ⟨there, its'⟩ := ofCandidate (.head more)
        refine offers there its' (serves.imp_right fun supports => ?_)
        rw [candidates] at candidate
        have other := List.find?_eq_none.1 none entry candidate
        rw [List.contains_iff_mem.2 supports, Bool.true_and, bne_iff_ne] at other
        exact absurd (tidy.named entry member).1 other

/-- The voices of a tidy catalogue have no blanks around them. -/
theorem strip_voice (tidy : Tidy env) {language provider model voiceId : String}
    (offered : voiceId ∈ validVoiceIds env provider model language) : strip voiceId = voiceId := by
  rw [validVoiceIds] at offered
  split at offered
  · cases offered
  · rename_i entry found
    dsimp only at offered
    obtain ⟨voice, member, rfl⟩ := List.mem_map.1 offered
    have its : voice ∈ entry.languageVoices := by
      split at member
      · exact List.mem_of_mem_filter member
      · exact List.mem_of_mem_filter (List.mem_of_mem_filter member)
    exact tidy.voices entry (mem_of_findModel found).1 voice its

variable (defaults) in
/-- The voice that is suggested is one of the model's. -/
theorem suggestedVoice_some {language provider model voiceId : String}
    (fails : ¬ VoicePasses env language provider model voiceId) :
    ∃ voice ∈ validVoiceIds env provider model language,
      suggestedVoice env defaults language provider model = some voice := by
  rw [suggestedVoice]
  split
  · rename_i default
    exact ⟨_, default.2, rfl⟩
  · have sorted := List.perm_insertionSort (· ≤ ·) (validVoiceIds env provider model language)
    cases same : sortedStr (validVoiceIds env provider model language) with
    | nil =>
        rw [sortedStr] at same
        rw [same] at sorted
        exact absurd (.inl sorted.symm.eq_nil) fails
    | cons first more =>
        rw [sortedStr] at same
        rw [same] at sorted
        exact ⟨first, sorted.subset (.head more), rfl⟩

variable (defaults) in
/-- A voice that fails is replaced by one that passes. -/
theorem settled_suggestedVoice (tidy : Tidy env) {language provider model voiceId : String}
    (fails : ¬ VoicePasses env language provider model voiceId) :
    settled voiceId (suggestedVoice env defaults language provider model) =
        (suggestedVoice env defaults language provider model).getD "" ∧
      VoicePasses env language provider model ((suggestedVoice env defaults language provider model).getD "") := by
  obtain ⟨voice, offered, suggests⟩ := suggestedVoice_some defaults fails
  rw [suggests]
  refine ⟨?_, .inr offered⟩
  unfold settled
  dsimp only
  rw [if_pos (voice_ne_empty offered), strip_voice tidy offered]
  rfl

/-- The voice, once the model it is checked against is known. -/
theorem offeredVoice_eq (tidy : Tidy env) {model : String} (checked : checkedModel env defaults rows config = model)
    (named : model ≠ "") :
    offeredVoice env defaults rows config = leftVoice env defaults (configLanguage env config)
        (keptProvider env defaults rows config) model (textField env config "voice_id") ∧
      VoicePasses env (configLanguage env config) (keptProvider env defaults rows config) model
        (offeredVoice env defaults rows config) := by
  subst checked
  by_cases passes : VoicePasses env (configLanguage env config) (keptProvider env defaults rows config)
      (checkedModel env defaults rows config) (textField env config "voice_id")
  · rw [offeredVoice, takenVoice, if_pos (.inr passes), leftVoice, if_pos passes]
    exact ⟨rfl, passes⟩
  · obtain ⟨same, good⟩ := settled_suggestedVoice defaults tidy passes
    rw [offeredVoice, takenVoice, if_neg (not_or.2 ⟨named, passes⟩), leftVoice, if_neg passes, same]
    exact ⟨rfl, good⟩

variable (env defaults rows config) in
/-- **The config's own model can stay, or there is one for the language** and the voice, which was checked against
the model to be replaced if the provider has it, goes with it. -/
def Replaceable : Prop :=
  Acceptable env (configLanguage env config) (keptProvider env defaults rows config) (textField env config "tts_model") ∨
  Served env (configLanguage env config) (keptProvider env defaults rows config) ∧
    (findModel env (keptProvider env defaults rows config) (textField env config "tts_model") = none ∨
      VoicePasses env (configLanguage env config) (keptProvider env defaults rows config)
        (pickModel env (keptProvider env defaults rows config) (configLanguage env config) defaults.model)
        (leftVoice env defaults (configLanguage env config) (keptProvider env defaults rows config)
          (textField env config "tts_model") (textField env config "voice_id")))

/-- **When the suggestions settle a config**, in a tidy catalogue. -/
theorem settles_iff (ready : ProviderReady rows defaults.provider) (tidy : Tidy env) (agrees : Agrees env) :
    Settles env defaults rows config ↔ Replaceable env defaults rows config := by
  rw [Replaceable]
  by_cases own : Acceptable env (configLanguage env config) (keptProvider env defaults rows config)
      (textField env config "tts_model")
  -- The config's own model passes, and any voice of it is suggested.
  · have model : offeredModel env defaults rows config = textField env config "tts_model" := by
      rw [offeredModel, takenModel, if_pos own]
      rfl
    have checked : checkedModel env defaults rows config = textField env config "tts_model" := by
      rw [checkedModel, if_neg own.2.1]
    rw [Settles, model]
    exact iff_of_true ⟨own, (offeredVoice_eq tidy checked own.1).2⟩ (.inl own)
  · rw [or_iff_right own]
    by_cases served : Served env (configLanguage env config) (keptProvider env defaults rows config)
    -- A provider that is kept has a name.
    · have known : keptProvider env defaults rows config ≠ "" := by
        rw [keptProvider]
        split
        · rename_i kept
          intro empty
          rw [empty] at kept
          exact absurd kept.1 (by decide)
        · intro empty
          rw [empty] at ready
          exact absurd ready.1 (by decide)
      obtain ⟨acceptable, trimmed⟩ := pickModel_of_served tidy agrees known served defaults.model
      have suggested : suggestedModel env defaults rows config =
          some (pickModel env (keptProvider env defaults rows config) (configLanguage env config) defaults.model) := by
        rw [suggestedModel]
        exact if_pos acceptable.1
      have model : offeredModel env defaults rows config =
          pickModel env (keptProvider env defaults rows config) (configLanguage env config) defaults.model := by
        rw [offeredModel, takenModel, if_neg own, suggested]
        unfold settled
        dsimp only
        rw [if_pos acceptable.1, trimmed]
      rw [Settles, model, and_iff_right acceptable, and_iff_right served]
      -- The named model is unknown, so the voice is checked for the suggested one.
      by_cases missing : findModel env (keptProvider env defaults rows config) (textField env config "tts_model") = none
      · have checked : checkedModel env defaults rows config =
            pickModel env (keptProvider env defaults rows config) (configLanguage env config) defaults.model := by
          rw [checkedModel, if_pos missing, suggested, Option.getD_some]
        exact iff_of_true (offeredVoice_eq tidy checked acceptable.1).2 (.inl missing)
      -- It is known, so the voice is checked for the named one.
      · have checked : checkedModel env defaults rows config = textField env config "tts_model" := by
          rw [checkedModel, if_neg missing]
        have named : textField env config "tts_model" ≠ "" := by
          obtain ⟨entry, found⟩ := Option.ne_none_iff_exists'.1 missing
          obtain ⟨member, -, same⟩ := mem_of_findModel found
          rw [← same]
          exact (tidy.named entry member).1
        rw [or_iff_right missing, (offeredVoice_eq tidy checked named).1]
    · refine iff_of_false ?_ fun both => served both.1
      rintro ⟨acceptable, -⟩
      exact served (served_of_acceptable agrees acceptable)

end Tidy

/-! ## The result -/

/-- A catalogue with a French and an English model, each with its voice. -/
def twoModels : List TtsModelSpec :=
  [{ provider := "deepgram", modelId := "aura-fr", supportedLanguages := ["fr"], languageVoices := [⟨"fr", "amelie"⟩] },
    { provider := "deepgram", modelId := "aura-en", supportedLanguages := ["en"], languageVoices := [⟨"en", "thalia"⟩] }]

def lowerAscii (s : String) : String := String.ofList (s.toList.map Char.toLower)

def twoModelsEnv : ImportEnv where
  catalog := twoModels
  checkTtsModelLanguage provider model language :=
    (twoModels.find? fun entry => entry.provider == provider && entry.modelId == model).any
      fun entry => entry.supportedLanguages.contains language
  python := { parseDict := fun _ => none, str := fun _ => "" }
  lower := lowerAscii

def deepgramDefaults : TtsConfig := { provider := "deepgram", model := "aura-en", voiceId := "thalia" }

def deepgramRows : Dict String ProviderRow := [("deepgram", ⟨[("api_key", .str "dg-key")]⟩)]

/-- An English agent with the French model and its voice. -/
def frenchVoice : Fields :=
  [("tts_provider", .str "deepgram"), ("tts_model", .str "aura-fr"), ("voice_id", .str "amelie")]

/-- The catalogue of two models is tidy. -/
theorem tidy_twoModels : Tidy twoModelsEnv := by
  constructor
  · decide
  · decide
  · decide

/-- Its models are served as they are listed. -/
theorem agrees_twoModels : Agrees twoModelsEnv := fun _ _ _ => rfl

/-- Deepgram is ready. -/
theorem ready_deepgram : ProviderReady deepgramRows deepgramDefaults.provider := by decide

/-- **The suggestions of an import converge** if and only if, for the provider that is left, the model that is left
passes, and the voice passes for that model; in a tidy catalogue, if and only if the model was replaceable. -/
theorem suggestions_converge (env : ImportEnv) (defaults : TtsConfig) (rows : Dict String ProviderRow) (config : Fields)
    (first : ImportValidation) (ready : ProviderReady rows defaults.provider)
    (ok : validateImportConfig env defaults rows config = .ok first) :
    (Converges env defaults rows first ↔ Settles env defaults rows config) ∧
      (Tidy env → Agrees env → (Converges env defaults rows first ↔ Replaceable env defaults rows config)) := by
  have settles := converges_iff ready ok
  exact ⟨settles, fun tidy agrees => settles.trans (settles_iff ready tidy agrees)⟩

/-- A config without any TTS settings gets those of the workspace. -/
theorem suggestions_converge_empty : ∃ first, validateImportConfig twoModelsEnv deepgramDefaults deepgramRows [] =
    .ok first ∧ Converges twoModelsEnv deepgramDefaults deepgramRows first := by
  have normalizes : ∃ normalized, normalizeConfig [] = .ok normalized := ⟨_, rfl⟩
  obtain ⟨normalized, normalizes⟩ := normalizes
  obtain ⟨first, ok, -⟩ := validateImportConfig_of twoModelsEnv deepgramDefaults deepgramRows normalizes
  have served : Served twoModelsEnv (configLanguage twoModelsEnv []) (keptProvider twoModelsEnv deepgramDefaults
      deepgramRows []) := ⟨_, .tail _ (.head _), by decide, by decide⟩
  have converges := (suggestions_converge twoModelsEnv deepgramDefaults deepgramRows [] first ready_deepgram ok).2
    tidy_twoModels agrees_twoModels
  exact ⟨first, ok, converges.2 (.inr ⟨served, .inl (by decide)⟩)⟩

/-- **An English agent with the French model and its voice**: the voice passes for the French model, so that the English
model is suggested alone, and the voice is not one of its. -/
theorem suggestions_not_converge : ∃ env defaults rows config first, Tidy env ∧ Agrees env ∧
    ProviderReady rows defaults.provider ∧
    (∃ entry ∈ env.catalog, entry.provider = defaults.provider ∧
      configLanguage env config ∈ entry.supportedLanguages) ∧
    validateImportConfig env defaults rows config = .ok first ∧ ¬ Converges env defaults rows first := by
  have normalizes : ∃ normalized, normalizeConfig frenchVoice = .ok normalized := ⟨_, rfl⟩
  obtain ⟨normalized, normalizes⟩ := normalizes
  obtain ⟨first, ok, -⟩ := validateImportConfig_of twoModelsEnv deepgramDefaults deepgramRows normalizes
  have fails : ¬ VoicePasses twoModelsEnv (configLanguage twoModelsEnv frenchVoice)
      (keptProvider twoModelsEnv deepgramDefaults deepgramRows frenchVoice)
      (offeredModel twoModelsEnv deepgramDefaults deepgramRows frenchVoice)
      (offeredVoice twoModelsEnv deepgramDefaults deepgramRows frenchVoice) := by decide
  refine ⟨twoModelsEnv, deepgramDefaults, deepgramRows, frenchVoice, first, tidy_twoModels, agrees_twoModels,
    ready_deepgram, ⟨_, .tail _ (.head _), rfl, by decide⟩, ok, ?_⟩
  rw [converges_iff ready_deepgram ok]
  exact fun settles => fails settles.2

end AgentImport

end Feros
