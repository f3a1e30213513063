import Mathlib.Data.List.Sort
import Mathlib.Data.String.Basic
import Feros.Agent.Swarm
import Feros.Text
/-! # Running tools

The script engine, the interceptor in front of it, and the task that runs one tool call.  A script
is run by QuickJS, of which only the outcome is known; every run is recorded with the script and the
arguments it got. -/

namespace Feros

/-! ## JSON -/

/-- A JSON value; a number keeps its text. -/
inductive Json where
  | null
  | bool (b : Bool)
  | num (text : String)
  | str (s : String)
  | arr (items : List Json)
  | obj (members : List (String × Json))

namespace Json

/-- A member of an object. -/
def get (key : String) : Json → Option Json
  | .obj members => members.lookup key
  | _ => none

/-- The text of a string. -/
def asStr : Json → Option String
  | .str s => some s
  | _ => none

/-- The value stands for an error: it is neither `null` nor `false`. -/
def isError : Json → Bool
  | .null | .bool false => false
  | _ => true

end Json

/-! ## The script engine -/

/-- Why a tool did not run. -/
inductive ToolError where
  | notFound (name : String)
  | invalidArguments (name reason : String)
  | scriptError (name reason : String)
  deriving DecidableEq, Repr

/-- How the error is displayed. -/
def ToolError.message : ToolError → String
  | .notFound name => "Tool not found: " ++ name
  | .invalidArguments name reason => "Invalid arguments for '" ++ name ++ "': " ++ reason
  | .scriptError name reason => "Script error in '" ++ name ++ "': " ++ reason

/-- **What lies outside**: JSON text, and QuickJS. -/
structure ToolLibrary where
  parse : String → Except String Json
  render : Json → String
  /-- What comes of a script that is evaluated with the arguments as variables. -/
  eval : ToolDef → Json → Except ToolError String

/-- A script that was run. -/
structure ScriptRun where
  tool : ToolDef
  arguments : Json

/-- The script engine: the tools it knows. -/
structure ScriptEngine where
  tools : List (String × ToolDef)

namespace ScriptEngine

/-- The engine for the tools of a graph, if it has any. -/
def ofGraph (graph : AgentGraphDef) : Option ScriptEngine :=
  if graph.tools.isEmpty then none else some ⟨graph.tools⟩

/-- A tool the engine knows. -/
def get (name : String) (engine : ScriptEngine) : Option ToolDef := engine.tools.lookup name

/-- The arguments of a call; there need not be any. -/
def arguments (library : ToolLibrary) (argumentsJson : String) : Except String Json :=
  if argumentsJson = "" ∨ argumentsJson = "\x7b\x7d" then .ok (.obj []) else library.parse argumentsJson

/-- **Run a tool**: the script that was run, if any, and what came of it. -/
def execute (library : ToolLibrary) (name argumentsJson : String) (engine : ScriptEngine) :
    Option ScriptRun × Except ToolError String :=
  match engine.get name with
  | none => (none, .error (.notFound name))
  | some tool =>
    match arguments library argumentsJson with
    | .error reason => (none, .error (.invalidArguments name reason))
    | .ok args => (some ⟨tool, args⟩, library.eval tool args)

end ScriptEngine

/-! ## Interceptors -/

/-- What an interceptor does before a tool is run. -/
inductive BeforeToolCallAction where
  /-- Do not run it; this is its result. -/
  | stub (result : String)
  | proceed
  deriving DecidableEq, Repr

/-- What an interceptor does after a tool was run. -/
inductive AfterToolCallAction where
  | override (result : String)
  | passThrough
  deriving DecidableEq, Repr

/-- An interceptor, with a state of its own. -/
structure ToolInterceptor (σ : Type) where
  beforeToolCall : (name arguments : String) → σ → BeforeToolCallAction × σ
  afterToolCall : (name arguments result : String) → AfterToolCallAction

/-! ## The artifact store -/

/-- The artifacts of a session, by their names. -/
abbrev ArtifactStore : Type := List (String × String)

/-- Name of the tool that saves an artifact. -/
def saveArtifactTool : String := "save_artifact"

/-- Name of the tool that reads an artifact. -/
def readArtifactTool : String := "read_artifact"

/-- Name of the tool that lists the artifacts. -/
def listArtifactsTool : String := "list_artifacts"

/-- Maximum content length, in bytes. -/
def maxArtifactBytes : ℕ := 100000

namespace ArtifactStore

/-- Insert an artifact; one of the same name is replaced. -/
def insert (name content : String) (store : ArtifactStore) : ArtifactStore :=
  (name, content) :: store.filter (·.1 != name)

/-- The string member of the arguments under a key. -/
def argument (key : String) (v : Json) : Option String := (v.get key).bind Json.asStr

/-- The member `name` of the arguments, which must not be empty. -/
def nameArgument (v : Json) : Option String := (argument "name" v).filter (!·.isEmpty)

/-- Save an artifact. -/
def handleSave (library : ToolLibrary) (arguments : String) (store : ArtifactStore) :
    String × ArtifactStore :=
  match library.parse arguments with
  | .error e => ("Error: invalid arguments — " ++ e, store)
  | .ok v =>
    match nameArgument v with
    | none => ("Error: missing or empty 'name' argument", store)
    | some name =>
      match argument "content" v with
      | none => ("Error: missing 'content' argument", store)
      | some content =>
        let len := content.utf8ByteSize
        if len > maxArtifactBytes then
          ("Artifact too large (" ++ toString len ++ " bytes, max " ++ toString maxArtifactBytes ++
            "). Summarize or split it.", store)
        else
          ("Artifact '" ++ name ++ "' saved (" ++ toString len ++ " bytes).",
            store.insert name content)

/-- Read an artifact. -/
def handleRead (library : ToolLibrary) (arguments : String) (store : ArtifactStore) : String :=
  match library.parse arguments with
  | .error e => "Error: invalid arguments — " ++ e
  | .ok v =>
    match nameArgument v with
    | none => "Error: missing or empty 'name' argument"
    | some name =>
      match store.lookup name with
      | some content => content
      | none =>
        let names := (store.map (·.1)).mergeSort (fun a b => decide (a ≤ b))
        let available := if names.isEmpty then "none" else ", ".intercalate names
        "Artifact '" ++ name ++ "' not found. Available: " ++ available

/-- List the artifacts. -/
def handleList (store : ArtifactStore) : String :=
  if store.isEmpty then "No artifacts saved yet."
  else
    let line : String × String → String := fun (name, content) =>
      "- " ++ name ++ " (" ++ toString content.utf8ByteSize ++ " bytes)"
    "\n".intercalate ((store.map line).mergeSort (fun a b => decide (a ≤ b)))

end ArtifactStore

/-- **The interceptor of the artifact tools**: they never reach the script engine. -/
def artifactInterceptor (library : ToolLibrary) : ToolInterceptor ArtifactStore where
  beforeToolCall name arguments store :=
    if name = saveArtifactTool then
      let (result, store) := store.handleSave library arguments
      (.stub result, store)
    else if name = readArtifactTool then (.stub (store.handleRead library arguments), store)
    else if name = listArtifactsTool then (.stub store.handleList, store)
    else (.proceed, store)
  afterToolCall _ _ _ := .passThrough

/-! ## Tool tasks -/

/-- What came of a tool. -/
structure ToolOutcome where
  success : Bool
  result : String
  deriving DecidableEq, Repr

/-- Whether the output of a script is a success or an error, and what it says. -/
def ToolOutcome.classifyScriptResult (library : ToolLibrary) (resultText : String) : ToolOutcome :=
  let unwrap : Json → String
    | .str s => s
    | v => library.render v
  let success : ToolOutcome := ⟨true, resultText⟩
  match library.parse (trim resultText) with
  | .ok (.obj members) =>
    let map := Json.obj members
    match (map.get "error").filter Json.isError with
    | some err => ⟨false, unwrap err⟩
    | none =>
      match ((map.get "result").or (map.get "data")).or (map.get "message") with
      | some val => ⟨true, unwrap val⟩
      | none => success
  | _ => success

/-- **Where a tool task takes its call.** -/
inductive ToolRoute where
  /-- The interceptor has a result for it. -/
  | stub (canned : String)
  /-- The script engine knows the tool. -/
  | script (engine : ScriptEngine)
  /-- Nobody knows the tool. -/
  | undefined

section ToolTask

variable {σ : Type}

/-- The interceptor is asked first, then the script engine. -/
def toolRoute (engine : Option ScriptEngine) (interceptor : Option (ToolInterceptor σ))
    (name args : String) (state : σ) : ToolRoute × σ :=
  let (action, state) := match interceptor with
    | some hook => hook.beforeToolCall name args state
    | none => (.proceed, state)
  match action with
  | .stub canned => (.stub canned, state)
  | .proceed =>
    match engine.filter (fun known => (known.get name).isSome) with
    | some engine => (.script engine, state)
    | none => (.undefined, state)

/-- What a tool task has done: the script it ran, if any, what it sends, and the state of the
interceptor. -/
structure ToolExecution (σ : Type) where
  ran : Option ScriptRun
  outcome : ToolOutcome
  state : σ

/-- **The task that runs a tool call**, within its time limit or not. -/
def spawnToolTask (library : ToolLibrary) (engine : Option ScriptEngine)
    (interceptor : Option (ToolInterceptor σ)) (name args : String) (timedOut : Bool) (state : σ) :
    ToolExecution σ :=
  let limit (outcome : ToolOutcome) : ToolOutcome :=
    if timedOut then ⟨false, "Tool '" ++ name ++ "' execution timed out after 25 seconds."⟩ else outcome
  let afterHook (actual : ToolOutcome) : ToolOutcome :=
    let action : AfterToolCallAction := match interceptor with
      | some hook => hook.afterToolCall name args actual.result
      | none => .passThrough
    match action with
    | .override replaced => .classifyScriptResult library replaced
    | .passThrough => actual
  match toolRoute engine interceptor name args state with
  | (.stub canned, state) => ⟨none, limit (.classifyScriptResult library canned), state⟩
  | (.script engine, state) =>
    let (ran, result) := engine.execute library name args
    let actual : ToolOutcome := match result with
      | .ok r => .classifyScriptResult library r
      | .error e => ⟨false, "Tool error: " ++ e.message⟩
    ⟨ran, limit (afterHook actual), state⟩
  | (.undefined, state) =>
    ⟨none, limit (afterHook ⟨false, "Tool error: '" ++ name ++ "' is not defined in the agent graph."⟩),
      state⟩

end ToolTask

end Feros
