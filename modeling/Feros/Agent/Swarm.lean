import Mathlib.Data.Rat.Init
/-! # Agent graphs

Multi-agent definitions, the active node, and the tool schemas that are offered to the LLM for it.
Maps are association lists with one entry for a key. -/

namespace Feros

/-! ## Graph definition -/

/-- A parameter of a tool. -/
structure ParamDef where
  name : String
  type : String
  description : String
  required : Bool
  options : List String
  deriving DecidableEq, Repr

/-- A tool. -/
structure ToolDef where
  description : String
  script : String
  params : List ParamDef
  sideEffect : Bool
  deriving DecidableEq, Repr

/-- A node in the graph. -/
structure NodeDef where
  systemPrompt : String
  /-- Keys of tools of the graph. -/
  tools : List String
  /-- Nodes this node can transfer to. -/
  edges : List String
  model : Option String
  temperature : Option ℚ
  maxTokens : Option ℕ
  deriving DecidableEq, Repr

/-- **A complete agent graph.** -/
structure AgentGraphDef where
  entry : String
  nodes : List (String × NodeDef)
  tools : List (String × ToolDef)
  timezone : Option String
  deriving DecidableEq, Repr

/-! ## Runtime state -/

/-- The active node in the graph. -/
structure SwarmState where
  activeNode : String
  graph : AgentGraphDef
  deriving DecidableEq, Repr

namespace SwarmState

/-- Start at the entry of the graph. -/
def new (graph : AgentGraphDef) : SwarmState := ⟨graph.entry, graph⟩

/-- The definition of the active node. -/
def activeDef (s : SwarmState) : Option NodeDef := s.graph.nodes.lookup s.activeNode

/-- Transfer to another node, if it exists and is an edge of the active one. -/
def transferTo (target : String) (s : SwarmState) : Bool × SwarmState :=
  if (s.graph.nodes.lookup target).isNone then (false, s)
  else
    match s.activeDef with
    | some current =>
      if current.edges.contains target then (true, { s with activeNode := target }) else (false, s)
    | none => (false, s)

end SwarmState

/-! ## Tool schemas -/

/-- A property of the parameters of a tool schema. -/
structure SchemaProperty where
  name : String
  type : String
  description : Option String
  /-- The values of an enumeration. -/
  options : Option (List String)
  deriving DecidableEq, Repr

/-- An OpenAI-compatible function tool schema. -/
structure ToolSchema where
  name : String
  description : String
  properties : List SchemaProperty
  required : List String
  deriving DecidableEq, Repr

/-- Name of the synthetic transfer tool. -/
def transferToolName : String := "transfer_to"

/-- Name of the synthetic hang-up tool. -/
def hangUpToolName : String := "hang_up"

/-- Name of the synthetic on-hold tool. -/
def onHoldToolName : String := "on_hold"

/-- The schemas of the artifact tools. -/
def makeArtifactToolSchemas : List ToolSchema :=
  [⟨"save_artifact",
      "Save a named artifact (your persistent note) for later reference. Use for: caller name, " ++
        "phone number, email, account ID, confirmed booking details, or any information that must " ++
        "survive context compression. Use descriptive names like 'caller_info.md' or " ++
       "'booking_details.md'. Overwriting an artifact with the same name replaces its content.",
      [⟨"name", "string", some "Artifact name, e.g. 'caller_info.md'", none⟩,
        ⟨"content", "string", some "Content to persist", none⟩], ["name", "content"]⟩,
    ⟨"read_artifact",
      "Read a previously saved artifact by name. Call list_artifacts first if you are unsure what " ++
        "is available.",
      [⟨"name", "string", some "Name of the artifact to read", none⟩], ["name"]⟩,
    ⟨"list_artifacts",
      "List all saved artifacts with their names and sizes. Call this when context seems " ++
       "incomplete to discover what you have saved.", [], []⟩]

/-- The schema of the tool `hang_up`. -/
def makeHangUpToolSchema : ToolSchema where
  name := hangUpToolName
  description := "Ends the current phone call and disconnects immediately.\n\nCall when:\n" ++
    "- The user clearly indicates they are done (e.g. \"that's all, bye\", \"thank you, " ++
    "goodbye\").\n" ++
    "- The task is fully completed and there is nothing left to discuss.\n" ++
    "- The agent has delivered its farewell.\n\nDo not call when:\n" ++
    "- The user asks to hold, transfer, or pause.\n" ++
    "- The intent to end is unclear.\n\n" ++
    "This is the final action. Once called, no further interaction is possible."
  properties := [⟨"reason", "string",
    some "Brief reason for ending the call (e.g. 'user_goodbye', 'task_complete')", none⟩]
  required := ["reason"]

/-- The schema of the tool `on_hold`. -/
def makeOnHoldToolSchema : ToolSchema where
  name := onHoldToolName
  description := "Signal that the user is placing the call on hold or will be away briefly.\n" ++
    "Call this when the user says things like \"hold on\", \"one second\", \"brb\", \"let me " ++
    "check\",\nor otherwise indicates they need a moment before continuing.\n" ++
    "This prevents the call from being ended due to silence while the user is away.\n" ++
    "Do NOT call this if the user is ending the call — use hang_up instead."
  properties := [⟨"duration_mins", "integer",
    some ("Approximate hold duration in minutes (e.g. 5, 2, 10). Estimate based on context, default " ++
      "to 3 if unknown."), none⟩]
  required := ["duration_mins"]

/-- The schema of the tool `transfer_to`, for the edges of a node. -/
def makeTransferToolSchema (edges : List String) : ToolSchema where
  name := transferToolName
  description := "Transfer the conversation to another agent. Available targets: " ++
    ", ".intercalate edges
  properties := [⟨"agent_id", "string", some "The ID of the agent to transfer to", some edges⟩]
  required := ["agent_id"]

/-- Convert a tool definition to a schema. -/
def toolDefToSchema (name : String) (definition : ToolDef) : ToolSchema where
  name := name
  description := definition.description
  properties := definition.params.map fun param =>
    ⟨param.name, param.type, if param.description.isEmpty then none else some param.description,
      if param.options.isEmpty then none else some param.options⟩
  required := (definition.params.filter (·.required)).map (·.name)

/-- The tool schemas of a node: its own tools, `transfer_to` if it has edges, and the tools every
node has.  A name that is no tool of the graph is skipped. -/
def buildNodeToolSchemas (node : NodeDef) (graphTools : List (String × ToolDef)) :
    List ToolSchema :=
  node.tools.filterMap (fun name => (graphTools.lookup name).map (toolDefToSchema name)) ++
    (if node.edges.isEmpty then [] else [makeTransferToolSchema node.edges]) ++
    [makeHangUpToolSchema, makeOnHoldToolSchema] ++ makeArtifactToolSchemas

end Feros
