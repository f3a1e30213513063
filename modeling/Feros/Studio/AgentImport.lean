import Feros.Builder.CanonicalConfig
import Feros.Builder.GraphValidation
/-! # Agent import

An imported config is put into canonical form, and its TTS provider, model and voice are checked against the
providers of the workspace and the catalogue of models.  The issues come with values to use instead; those of
the schema, which are collected apart, are not here.

* **`pickModel`**, **`pickVoice`**, **`validVoiceIds`**: what the catalogue offers.
* **`collectFulfillmentIssues`**: the checks, which rewrite the suggestions on their way.
* **`applyImportMappings`**, **`validateImportConfig`**. -/

namespace Feros

/-- A voice of a model. -/
structure LanguageVoice where
  languageCode : String
  voiceId : String
  deriving DecidableEq, Repr

/-- A model of the catalogue. -/
structure TtsModelSpec where
  provider : String
  modelId : String
  supportedLanguages : List String
  languageVoices : List LanguageVoice
  deriving DecidableEq, Repr

/-- The TTS settings of the workspace. -/
structure TtsConfig where
  provider : String := "fish-speech"
  model : String := ""
  voiceId : String := "default"
  deriving DecidableEq, Repr

/-- The settings of a provider. -/
structure ProviderRow where
  configJson : Fields

inductive IssueSource where
  | schema
  | fulfillment
  deriving DecidableEq, Repr

inductive IssueSeverity where
  | error
  | warning
  deriving DecidableEq, Repr

/-- **An issue of an import.** -/
structure ImportIssue where
  source : IssueSource
  code : String
  path : Option String
  message : String
  severity : IssueSeverity := .error
  blocking : Bool := true
  mappable : Bool := false
  suggestedValue : Option String := none
  deriving DecidableEq, Repr

/-- **What an import uses from outside**: the engine's catalogue and its check, and Python's strings. -/
structure ImportEnv where
  catalog : List TtsModelSpec
  checkTtsModelLanguage : String → String → String → Bool
  python : Python
  /-- `str.lower`. -/
  lower : String → String

/-- The TTS providers, with the keys of their fields. -/
def ttsProviders : List (String × List String) :=
  [("fish-speech", []), ("cartesia-ws", ["api_key", "model", "voice_id"]),
    ("elevenlabs-ws", ["api_key", "model", "voice_id"]), ("deepgram-ws", ["api_key", "model"]),
    ("cartesia", ["api_key", "model", "voice_id"]), ("elevenlabs", ["api_key", "model", "voice_id"]),
    ("openai", ["api_key", "model", "voice_id"]), ("deepgram", ["api_key", "model"]),
    ("groq", ["api_key", "model", "voice_id"])]

def knownProviders : List String := ttsProviders.map Prod.fst

def mappablePaths : List String := ["tts_provider", "tts_model", "voice_id"]

namespace AgentImport

/-! ## Providers -/

def providerRequiresApiKey (provider : String) : Bool :=
  match ttsProviders.find? (·.1 == provider) with
  | some option => option.2.contains "api_key"
  | none => false

def normalizeApiKey : JsonValue → String
  | .str s => strip s
  | _ => ""

def providerHasApiKey : Option ProviderRow → Bool
  | none => false
  | some row =>
    ((Dict.get? row.configJson "api_key_encrypted").getD .null).truthy ||
      normalizeApiKey ((Dict.get? row.configJson "api_key").getD (.str "")) != ""

/-! ## The catalogue -/

section Catalog

variable (env : ImportEnv)

def findModel (provider modelId : String) : Option TtsModelSpec :=
  env.catalog.find? fun entry => entry.provider == provider && entry.modelId == modelId

def pickModel (provider language preferredModel : String) : String :=
  if provider = "" then ""
  else
    let preferred := if preferredModel ≠ "" then findModel env provider preferredModel else none
    if preferred.any (·.supportedLanguages.contains language) then preferredModel
    else
      match env.catalog.filter (·.provider == provider) with
      | [] => ""
      | first :: more =>
        match (first :: more).find? fun entry => entry.supportedLanguages.contains language && entry.modelId != "" with
        | some entry => entry.modelId
        | none => first.modelId

def pickVoice (provider model language : String) : String :=
  match findModel env provider model with
  | none => ""
  | some entry =>
    match entry.languageVoices.find? fun voice => voice.languageCode == language && voice.voiceId != "" with
    | some voice => voice.voiceId
    | none =>
      match entry.languageVoices.find? fun voice => voice.voiceId != "" with
      | some voice => voice.voiceId
      | none => ""

/-- The voices of a model for a language, or all its voices if it has none for it. -/
def validVoiceIds (provider model language : String) : List String :=
  match findModel env provider model with
  | none => []
  | some entry =>
    let voices := entry.languageVoices.filter (·.voiceId != "")
    let forLanguage := voices.filter fun voice =>
      env.lower voice.languageCode == "" || env.lower voice.languageCode == language
    (if forLanguage.isEmpty then voices else forLanguage).map (·.voiceId)

end Catalog

/-! ## Suggestions -/

section Checks

variable (env : ImportEnv)

/-- The part of a language code before the region. -/
def baseCode (code : String) : String := env.lower (String.ofList (code.toList.takeWhile (· ≠ '-')))

def baseSuggestedMappings (defaults : TtsConfig) (config : Fields) : Dict String String :=
  let language := baseCode env (env.python.format ((Dict.get? config "language").getD (.str "en")))
  let suggestedModel := pickModel env defaults.provider language defaults.model
  let suggestedVoice :=
    if defaults.voiceId ≠ "" then defaults.voiceId else pickVoice env defaults.provider suggestedModel language
  let out : Dict String String := if defaults.provider ≠ "" then [("tts_provider", defaults.provider)] else []
  let out := if suggestedModel ≠ "" then Dict.set out "tts_model" suggestedModel else out
  if suggestedVoice ≠ "" ∧
      (suggestedModel = "" ∨ suggestedVoice ∈ validVoiceIds env defaults.provider suggestedModel language) then
    Dict.set out "voice_id" suggestedVoice
  else out

/-! ## The checks -/

/-- An issue that another value would settle. -/
def mappableIssue (code path message : String) (suggested : Dict String String) : ImportIssue where
  source := .fulfillment
  code := code
  path := some path
  message := message
  mappable := true
  suggestedValue := Dict.get? suggested path

/-- A text field of the config. -/
def textField (config : Fields) (name : String) : String :=
  let value := (Dict.get? config name).getD (.str "")
  strip (env.python.format (if value.truthy then value else .str ""))

/-- The language of the config. -/
def configLanguage (config : Fields) : String :=
  let value := (Dict.get? config "language").getD (.str "en")
  baseCode env (env.python.format (if value.truthy then value else .str "en"))

/-- The issue of a provider. -/
def checkProvider (rows : Dict String ProviderRow) (suggested : Dict String String) (provider : String) :
    Option ImportIssue :=
  if provider = "" then
    some (mappableIssue "missing_tts_provider" "tts_provider" "Imported config does not define a TTS provider." suggested)
  else if provider ∉ knownProviders then
    some (mappableIssue "unknown_tts_provider" "tts_provider" ("Unknown TTS provider '" ++ provider ++ "'.") suggested)
  else if providerRequiresApiKey provider ∧ providerHasApiKey (Dict.get? rows provider) = false then
    some (mappableIssue "tts_provider_not_ready" "tts_provider"
      ("Provider '" ++ provider ++ "' is missing credentials in workspace settings.") suggested)
  else none

/-- The suggestions for another provider. -/
def remap (defaults : TtsConfig) (language provider : String) (suggested : Dict String String) : Dict String String :=
  let remappedModel := pickModel env provider language defaults.model
  if remappedModel ≠ "" then
    let suggested := Dict.set suggested "tts_model" remappedModel
    let remappedVoice := if defaults.voiceId ≠ "" then defaults.voiceId else pickVoice env provider remappedModel language
    if remappedVoice ≠ "" then Dict.set suggested "voice_id" remappedVoice else suggested
  else suggested

/-- The suggestions with a model of the provider. -/
def suggestModel (defaults : TtsConfig) (language provider : String) (suggested : Dict String String) :
    Dict String String :=
  let suggestedModel := pickModel env provider language defaults.model
  if suggestedModel ≠ "" then Dict.set suggested "tts_model" suggestedModel else suggested

/-- The issue of a model, with the suggestions. -/
def checkModel (defaults : TtsConfig) (language provider model : String) (suggested : Dict String String) :
    List ImportIssue × Dict String String :=
  let better := suggestModel env defaults language provider suggested
  if model = "" then
    ([mappableIssue "missing_tts_model" "tts_model" "Imported config does not define a TTS model." better], better)
  else if findModel env provider model = none then
    ([mappableIssue "invalid_tts_model" "tts_model"
      ("Model '" ++ model ++ "' is not available for provider '" ++ provider ++ "'.") better], better)
  else if language ≠ "" ∧ env.checkTtsModelLanguage provider model language = false then
    ([mappableIssue "tts_model_language_unsupported" "tts_model"
      ("Model '" ++ model ++ "' does not support language '" ++ language ++ "'.") better], better)
  else ([], suggested)

/-- The issue of a voice, with the suggestions. -/
def checkVoice (defaults : TtsConfig) (language provider model voiceId : String) (suggested : Dict String String) :
    List ImportIssue × Dict String String :=
  let validVoices := validVoiceIds env provider model language
  match sortedStr validVoices with
  | [] =>
    if voiceId = "" then
      ([{ source := .fulfillment
          code := "voice_catalog_unavailable"
          path := some "voice_id"
          message := "Unable to validate voice_id for this provider/model from catalog."
          severity := .warning
          blocking := false }], suggested)
    else ([], suggested)
  | first :: _ =>
    let suggestedVoice :=
      if defaults.voiceId ≠ "" ∧ defaults.voiceId ∈ validVoices then defaults.voiceId else first
    let better := if suggestedVoice ≠ "" then Dict.set suggested "voice_id" suggestedVoice else suggested
    if voiceId = "" then
      ([mappableIssue "missing_voice_id" "voice_id" "Imported config does not define a voice ID." better], better)
    else if voiceId ∉ validVoices then
      ([mappableIssue "invalid_voice_id" "voice_id" ("Voice '" ++ voiceId ++ "' is not available for provider '" ++
        provider ++ "' and model '" ++ model ++ "'.") better], better)
    else ([], better)

/-- **The checks of provider, model and voice.** -/
def collectFulfillmentIssues (config : Fields) (rows : Dict String ProviderRow) (defaults : TtsConfig)
    (suggested : Dict String String) : List ImportIssue × Dict String String :=
  let provider := textField env config "tts_provider"
  let model := textField env config "tts_model"
  let voiceId := textField env config "voice_id"
  let language := configLanguage env config
  let providerIssue := checkProvider rows suggested provider
  -- Without an issue of the provider, this is the config's own.
  let effectiveProvider :=
    if providerIssue.isSome then (Dict.get? suggested "tts_provider").getD "" else provider
  let suggested :=
    if providerIssue.isSome ∧ effectiveProvider ∈ knownProviders ∧ effectiveProvider ≠ provider then
      remap env defaults language effectiveProvider suggested
    else suggested
  let (modelIssues, suggested) :=
    if effectiveProvider ≠ "" ∧ effectiveProvider ∈ knownProviders then
      checkModel env defaults language effectiveProvider model suggested
    else ([], suggested)
  let modelForVoice :=
    if findModel env effectiveProvider model = none then (Dict.get? suggested "tts_model").getD "" else model
  let (voiceIssues, suggested) :=
    if effectiveProvider ≠ "" ∧ modelForVoice ≠ "" then
      checkVoice env defaults language effectiveProvider modelForVoice voiceId suggested
    else ([], suggested)
  (providerIssue.toList ++ modelIssues ++ voiceIssues, suggested)

end Checks

/-! ## Validation -/

/-- The canonical form of a config, with defaults. -/
def normalizeConfig (config : Fields) : Except PyError Fields := do
  let normalized ← canonicalizeConfig config
  let normalized := Dict.set normalized "config_schema_version" (.str "v3_graph")
  let normalized := Dict.setDefault normalized "language" (.str "en")
  let normalized := Dict.setDefault normalized "timezone" (.str "")
  canonicalizeConfig normalized

/-- **The result of a validation.** -/
structure ImportValidation where
  fulfillable : Bool
  fulfillmentIssues : List ImportIssue
  suggestedMappings : Dict String String
  normalizedConfig : Fields

/-- **An imported config is validated.** -/
def validateImportConfig (env : ImportEnv) (defaults : TtsConfig) (rows : Dict String ProviderRow) (config : Fields) :
    Except PyError ImportValidation := do
  let normalized ← normalizeConfig config
  let base := baseSuggestedMappings env defaults normalized
  let checked := collectFulfillmentIssues env normalized rows defaults base
  return {
    fulfillable := !checked.1.any fun issue => issue.blocking && issue.severity == .error
    fulfillmentIssues := checked.1
    suggestedMappings := checked.2
    normalizedConfig := normalized }

def applyMapping (mapped : Fields) (entry : String × String) : Fields :=
  if entry.1 ∈ mappablePaths ∧ entry.2 ≠ "" then Dict.set mapped entry.1 (.str entry.2) else mapped

/-- **Top-level mappings are applied to a config.** -/
def applyImportMappings (config : Fields) (mappings : Dict String String) : Except PyError Fields :=
  normalizeConfig (mappings.foldl applyMapping config)

def acceptIssue (mappings : Dict String String) (issue : ImportIssue) : Dict String String :=
  if issue.mappable && issue.blocking then
    match issue.path, issue.suggestedValue with
    | some path, some value => Dict.set mappings path value
    | _, _ => mappings
  else mappings

/-- The suggested values of the mappable blocking issues. -/
def acceptedMappings (issues : List ImportIssue) : Dict String String := issues.foldl acceptIssue []

end AgentImport

end Feros
