import Feros.Agent.Calls
import Feros.Agent.NativeBackend
/-! # Tools that are offered and tools that are handled

What the model is offered and what is done with its calls comes from four lists: the schemas of the
node, the names a backend takes itself, those of the interceptor, and the tools of the graph.
`Matches` says that they agree, `Consistent` for which nodes they do. -/

namespace Feros

/-! ## What comes of a call -/

/-- **What comes of a tool call.** -/
inductive ToolHandling where
  /-- The runtime deals with it. -/
  | runtime
  /-- A script is run. -/
  | script (run : ScriptRun)
  /-- The arguments cannot be read. -/
  | refused
  /-- It is answered with an error: there is no such tool in the agent graph. -/
  | undefined

/-- A call that goes to the script engine, if that knows the tool. -/
def ScriptEngine.handling (library : ToolLibrary) (name arguments : String) (engine : ScriptEngine) :
    ToolHandling :=
  match (engine.execute library name arguments).1 with
  | some run => .script run
  | none => .refused

namespace DefaultAgentBackend

/-- The script engine, which is made of the tools of the graph. -/
def scriptEngine (b : DefaultAgentBackend) : Option ScriptEngine :=
  b.swarm.bind fun swarm => ScriptEngine.ofGraph swarm.graph

/-- What comes of a call in the stream, with the artifact interceptor: the backend takes it itself
or spawns a task. -/
def handling (library : ToolLibrary) (b : DefaultAgentBackend) (call : ToolCallEvent) (uuid : String)
    (store : ArtifactStore) : ToolHandling :=
  match (b.handleStreamItem (.toolCall call) uuid).1.toolTasks.drop b.toolTasks.length with
  | [] => .runtime
  | task :: _ =>
    match (toolRoute b.scriptEngine (some (artifactInterceptor library)) task.name task.arguments
      store).1 with
    | .stub _ => .runtime
    | .script engine => engine.handling library task.name task.arguments
    | .undefined => .undefined

end DefaultAgentBackend

namespace NativeMultimodalBackend

/-- What comes of a call: the backend takes it itself or dispatches it. -/
def handling (b : NativeMultimodalBackend) (callId name arguments : String) : ToolHandling :=
  match (b.mapEvent (.toolCall callId name arguments)).1.toolTasks.drop b.toolTasks.length with
  | [] => .runtime
  | task :: _ =>
    match b.scriptEngine.filter (fun known => (known.get task.name).isSome) with
    | some engine => engine.handling b.library task.name task.arguments
    | none => .undefined

end NativeMultimodalBackend

namespace ToolDispatch

/-! ## What is offered -/

/-- The tools every node has. -/
def builtinToolNames : List String :=
  [hangUpToolName, onHoldToolName, saveArtifactTool, readArtifactTool, listArtifactsTool]

section Offer

variable (node : NodeDef) (graphTools : List (String × ToolDef))

/-- The graph has the tool. -/
def Defines (name : String) : Prop := (graphTools.lookup name).isSome = true

instance (name : String) : Decidable (Defines graphTools name) :=
  inferInstanceAs (Decidable (_ = true))

/-- The tools of the graph a node offers. -/
def scriptToolNames : List String := node.tools.filter fun name => (graphTools.lookup name).isSome

/-- The tools of the runtime a node offers. -/
def runtimeToolNames : List String :=
  (if node.edges.isEmpty then [] else [transferToolName]) ++ builtinToolNames

/-- The names of the schemas of a node. -/
theorem offered_names :
    (buildNodeToolSchemas node graphTools).map (·.name) =
      scriptToolNames node graphTools ++ runtimeToolNames node := by
  have scripts (names : List String) :
      (names.filterMap fun name => (graphTools.lookup name).map (toolDefToSchema name)).map (·.name) =
        names.filter fun name => (graphTools.lookup name).isSome := by
    induction names with
    | nil => rfl
    | cons name names ih =>
      cases known : graphTools.lookup name with
      | none =>
        rw [List.filterMap_cons_none (by rw [known]; rfl), List.filter_cons_of_neg (by rw [known]; simp)]
        exact ih
      | some tool =>
        rw [List.filterMap_cons_some (by rw [known]; rfl), List.filter_cons_of_pos (by rw [known]; rfl),
          List.map_cons, ih]
        rfl
  unfold buildNodeToolSchemas scriptToolNames runtimeToolNames
  rw [List.map_append, List.map_append, List.map_append, scripts, List.append_assoc, List.append_assoc]
  congr 1
  cases node.edges <;> rfl

/-- **What is offered is what is handled.** -/
structure Matches {ι : Type} (library : ToolLibrary)
    (handle : ι → (name arguments : String) → ToolHandling) : Prop where
  distinct : ((buildNodeToolSchemas node graphTools).map (·.name)).Nodup
  scripts : ∀ name ∈ node.tools, ∀ tool, graphTools.lookup name = some tool →
    ∀ i arguments args, ScriptEngine.arguments library arguments = .ok args →
      handle i name arguments = .script ⟨tool, args⟩
  runtime : ∀ name ∈ runtimeToolNames node, ∀ i arguments, handle i name arguments = .runtime
  others : ∀ name, name ∉ (buildNodeToolSchemas node graphTools).map (·.name) →
    ∀ i arguments run, handle i name arguments ≠ .script run

/-- **A node whose tools are all handled as they are offered**: it cannot transfer, its tools have
names of their own, and the graph has no tool the node does not offer, unless the runtime takes the
calls of that name. -/
structure Consistent : Prop where
  stays : node.edges = []
  distinct : (scriptToolNames node graphTools).Nodup
  own : ∀ name ∈ node.tools, Defines graphTools name → name ∉ builtinToolNames
  all : ∀ name, Defines graphTools name → name ∈ node.tools ∨ name ∈ builtinToolNames

end Offer

/-! ## What is handled -/

section Handle

variable (library : ToolLibrary) (graphTools : List (String × ToolDef))

/-- What comes of a call that is left to the tools of the graph. -/
def graphHandling (name arguments : String) : ToolHandling :=
  match graphTools.lookup name with
  | some tool =>
    match ScriptEngine.arguments library arguments with
    | .ok args => .script ⟨tool, args⟩
    | .error _ => .refused
  | none => .undefined

variable {library graphTools}

/-- The graph leaves no call to the runtime. -/
theorem graphHandling_ne_runtime (name arguments : String) :
    graphHandling library graphTools name arguments ≠ .runtime := by
  unfold graphHandling
  split
  · split <;> exact nofun
  · exact nofun

/-- A tool of the graph is run if nothing else takes the call. -/
theorem graphHandling_of_defines {name : String} {tool : ToolDef}
    (known : graphTools.lookup name = some tool) {arguments : String} {args : Json}
    (readable : ScriptEngine.arguments library arguments = .ok args) :
    graphHandling library graphTools name arguments = .script ⟨tool, args⟩ := by
  unfold graphHandling
  rw [known]
  dsimp only
  rw [readable]

/-- Where the graph runs a script it defines the tool. -/
theorem defines_of_graphHandling {name arguments : String} {run : ScriptRun}
    (ran : graphHandling library graphTools name arguments = .script run) :
    Defines graphTools name := by
  unfold graphHandling at ran
  unfold Defines
  cases known : graphTools.lookup name with
  | some tool => rfl
  | none =>
    rw [known] at ran
    cases ran

/-- The engine of a graph handles a call as the graph says. -/
theorem handling_ofGraph {graph : AgentGraphDef} (name arguments : String) :
    (match (ScriptEngine.ofGraph graph).filter (fun known => (known.get name).isSome) with
      | some engine => engine.handling library name arguments
      | none => .undefined) = graphHandling library graph.tools name arguments := by
  unfold ScriptEngine.ofGraph graphHandling
  cases tools : graph.tools with
  | nil => rfl
  | cons first rest =>
    rw [if_neg (by simp)]
    cases known : (first :: rest).lookup name with
    | none =>
      rw [Option.filter_some_neg (by unfold ScriptEngine.get; rw [known]; simp)]
    | some tool =>
      have knows : (ScriptEngine.mk (first :: rest)).get name = some tool := known
      rw [Option.filter_some_pos (by rw [knows]; rfl)]
      unfold ScriptEngine.handling ScriptEngine.execute
      dsimp only
      rw [knows]
      cases ScriptEngine.arguments library arguments <;> rfl

/-- The artifact interceptor has a result for the artifact tools. -/
theorem toolRoute_stub (engine : Option ScriptEngine) {name : String}
    (artifact : name ∈ [saveArtifactTool, readArtifactTool, listArtifactsTool]) (args : String)
    (store : ArtifactStore) :
    ∃ canned, (toolRoute engine (some (artifactInterceptor library)) name args store).1 =
      .stub canned := by
  simp only [List.mem_cons, List.not_mem_nil, or_false] at artifact
  rcases artifact with rfl | rfl | rfl
  · exact ⟨_, rfl⟩
  · exact ⟨_, rfl⟩
  · exact ⟨_, rfl⟩

/-- It leaves all other calls alone. -/
theorem toolRoute_proceed (engine : Option ScriptEngine) {name : String}
    (ordinary : name ∉ [saveArtifactTool, readArtifactTool, listArtifactsTool]) (args : String)
    (store : ArtifactStore) :
    (toolRoute engine (some (artifactInterceptor library)) name args store).1 =
      match engine.filter (fun known => (known.get name).isSome) with
      | some engine => .script engine
      | none => .undefined := by
  simp only [List.mem_cons, List.not_mem_nil, or_false, not_or] at ordinary
  obtain ⟨notSave, notRead, notList⟩ := ordinary
  have passes : (artifactInterceptor library).beforeToolCall name args store = (.proceed, store) := by
    simp only [artifactInterceptor, if_neg notSave, if_neg notRead, if_neg notList]
  simp only [toolRoute, passes]
  cases engine.filter fun known => (known.get name).isSome <;> rfl

/-- **What the default backend does with a call.** -/
theorem default_handling {b : DefaultAgentBackend} {swarm : SwarmState} (held : b.swarm = some swarm)
    (call : ToolCallEvent) (uuid : String) (store : ArtifactStore) :
    b.handling library call uuid store =
      if call.name ∈ builtinToolNames then .runtime
      else graphHandling library swarm.graph.tools call.name call.arguments := by
  have engine : b.scriptEngine = ScriptEngine.ofGraph swarm.graph := by
    unfold DefaultAgentBackend.scriptEngine
    rw [held]
    rfl
  unfold DefaultAgentBackend.handling
  by_cases isHangUp : call.name = hangUpToolName
  · have taken : (b.handleStreamItem (.toolCall call) uuid).1.toolTasks = b.toolTasks := by
      simp only [DefaultAgentBackend.handleStreamItem, if_pos isHangUp,
        DefaultAgentBackend.handleHangUp]
      split <;> rfl
    rw [taken, List.drop_length, if_pos (by rw [isHangUp]; decide)]
  by_cases isOnHold : call.name = onHoldToolName
  · have taken : (b.handleStreamItem (.toolCall call) uuid).1.toolTasks = b.toolTasks := by
      simp only [DefaultAgentBackend.handleStreamItem, if_neg isHangUp, if_pos isOnHold]
      rfl
    rw [taken, List.drop_length, if_pos (by rw [isOnHold]; decide)]
  have spawned : (b.handleStreamItem (.toolCall call) uuid).1.toolTasks = b.toolTasks ++
      [⟨call.toolCallId.getD ("call_" ++ uuid), call.name, call.arguments, b.isSideEffect call.name,
        b.turn⟩] := by
    simp only [DefaultAgentBackend.handleStreamItem, if_neg isHangUp, if_neg isOnHold]
    rfl
  rw [spawned, List.drop_left]
  dsimp only
  rw [engine]
  by_cases artifact : call.name ∈ [saveArtifactTool, readArtifactTool, listArtifactsTool]
  · have builtin : call.name ∈ builtinToolNames :=
      List.mem_cons_of_mem _ (List.mem_cons_of_mem _ artifact)
    obtain ⟨canned, stubbed⟩ := toolRoute_stub (ScriptEngine.ofGraph swarm.graph) artifact
      call.arguments store
    rw [stubbed, if_pos builtin]
  · have ordinary : call.name ∉ builtinToolNames := by
      intro builtin
      rcases List.mem_cons.1 builtin with same | builtin
      · exact isHangUp same
      · rcases List.mem_cons.1 builtin with same | builtin
        · exact isOnHold same
        · exact artifact builtin
    rw [if_neg ordinary, ← handling_ofGraph, toolRoute_proceed _ artifact]
    cases (ScriptEngine.ofGraph swarm.graph).filter fun known => (known.get call.name).isSome <;> rfl

/-- **The native backend** takes `hang_up` itself and nothing else. -/
theorem native_handling_ne_runtime (b : NativeMultimodalBackend) (callId arguments : String)
    {name : String} (other : name ≠ hangUpToolName) :
    b.handling callId name arguments ≠ .runtime := by
  have dispatched : (b.mapEvent (.toolCall callId name arguments)).1.toolTasks =
      b.toolTasks ++ [⟨callId, name, arguments⟩] := by
    simp only [NativeMultimodalBackend.mapEvent, if_neg other]
    rfl
  unfold NativeMultimodalBackend.handling
  rw [dispatched, List.drop_left]
  dsimp only
  split
  · unfold ScriptEngine.handling
    split <;> exact nofun
  · exact nofun

end Handle

/-! ## When they match -/

section Match

variable {library : ToolLibrary} {node : NodeDef} {graphTools : List (String × ToolDef)}

/-- A script tool of a node is one of its tools that the graph defines. -/
theorem mem_scriptToolNames {name : String} :
    name ∈ scriptToolNames node graphTools ↔ name ∈ node.tools ∧ Defines graphTools name :=
  List.mem_filter

/-- A node without edges offers what every node has. -/
theorem runtimeToolNames_of_stays (stays : node.edges = []) :
    runtimeToolNames node = builtinToolNames := by
  unfold runtimeToolNames
  rw [stays]
  rfl

/-- **Where only the tools of the runtime are taken from the graph, what is offered is handled exactly
at consistent nodes.** -/
theorem matches_iff_consistent {ι : Type} [Nonempty ι]
    {handle : ι → (name arguments : String) → ToolHandling}
    (handles : ∀ i name arguments, handle i name arguments =
      if name ∈ builtinToolNames then .runtime else graphHandling library graphTools name arguments) :
    Matches node graphTools library handle ↔ Consistent node graphTools := by
  constructor
  · intro fits
    obtain ⟨i⟩ := ‹Nonempty ι›
    have distinct := fits.distinct
    rw [offered_names] at distinct
    have apart := List.disjoint_of_nodup_append distinct
    -- With an edge a transfer is offered, which nothing handles.
    have stays : node.edges = [] := by
      by_contra edges
      have offered : transferToolName ∈ runtimeToolNames node := by
        unfold runtimeToolNames
        rw [if_neg (by simpa using edges)]
        exact List.mem_cons_self
      have taken := fits.runtime transferToolName offered i ""
      rw [handles, if_neg (by decide)] at taken
      exact graphHandling_ne_runtime _ _ taken
    refine ⟨stays, distinct.of_append_left, fun name listed known builtin => ?_, fun name known => ?_⟩
    · rw [runtimeToolNames_of_stays stays] at apart
      exact apart (mem_scriptToolNames.2 ⟨listed, known⟩) builtin
    -- A tool that the graph defines and the node does not list is run all the same.
    · by_contra! foreign
      obtain ⟨unlisted, ordinary⟩ := foreign
      obtain ⟨tool, defined⟩ := Option.isSome_iff_exists.1 known
      have unoffered : name ∉ (buildNodeToolSchemas node graphTools).map (·.name) := by
        rw [offered_names, List.mem_append, mem_scriptToolNames, runtimeToolNames_of_stays stays]
        rintro (⟨listed, -⟩ | builtin)
        · exact unlisted listed
        · exact ordinary builtin
      refine fits.others name unoffered i "" ⟨tool, .obj []⟩ ?_
      rw [handles, if_neg ordinary]
      exact graphHandling_of_defines defined rfl
  · intro consistent
    have names := runtimeToolNames_of_stays consistent.stays
    refine ⟨?_, fun name listed tool defined i arguments args readable => ?_,
      fun name offered i arguments => ?_, fun name unoffered i arguments run ran => ?_⟩
    -- The names of the graph and of the runtime are apart.
    · rw [offered_names, names]
      refine consistent.distinct.append (by decide) fun name script builtin => ?_
      obtain ⟨listed, known⟩ := mem_scriptToolNames.1 script
      exact consistent.own name listed known builtin
    -- The backend looks a tool up in the whole graph.
    · have known : Defines graphTools name := by
        unfold Defines
        rw [defined]
        rfl
      rw [handles, if_neg (consistent.own name listed known)]
      exact graphHandling_of_defines defined readable
    · rw [names] at offered
      rw [handles, if_pos offered]
    · rw [offered_names, names, List.mem_append, mem_scriptToolNames] at unoffered
      rw [handles] at ran
      split at ran
      · cases ran
      · rename_i ordinary
        have known := defines_of_graphHandling ran
        rcases consistent.all name known with listed | builtin
        · exact unoffered (.inl ⟨listed, known⟩)
        · exact ordinary builtin

end Match

/-- What the default backend does with a call, which may have an id, at a time with some artifacts. -/
def defaultHandle (library : ToolLibrary) (b : DefaultAgentBackend)
    (context : ToolCallEvent × String × ArtifactStore) (name arguments : String) : ToolHandling :=
  b.handling library { context.1 with name := name, arguments := arguments } context.2.1 context.2.2

/-- **Tools are handled as they are offered** by the default backend exactly while it is at a
consistent node, and by the native backend at no node. -/
theorem tool_dispatch_iff (library : ToolLibrary) {b : DefaultAgentBackend} {swarm : SwarmState}
    (held : b.swarm = some swarm) (native : NativeMultimodalBackend) (node : NodeDef)
    (graphTools : List (String × ToolDef)) :
    (Matches node swarm.graph.tools library (defaultHandle library b) ↔
        Consistent node swarm.graph.tools) ∧
      ¬ Matches node graphTools native.library native.handling := by
  have : Nonempty (ToolCallEvent × String × ArtifactStore) := ⟨⟨"", "", none, none⟩, "", []⟩
  refine ⟨matches_iff_consistent fun _ name arguments => ?_, fun fits => ?_⟩
  · exact default_handling held _ _ _
  · have offered : onHoldToolName ∈ runtimeToolNames node := List.mem_append_right _ (by decide)
    exact native_handling_ne_runtime native "" "" (by decide)
      (fits.runtime onHoldToolName offered "" "")

/-- A library that reads nothing. -/
def unreadable : ToolLibrary :=
  ⟨fun _ => .error "no JSON", fun _ => "", fun _ _ => .ok ""⟩

/-- The node at which a call begins. -/
def receptionist : NodeDef :=
  ⟨"You are a receptionist.", ["check_availability"], ["booking"], none, none, none⟩

/-- Booking is a node of its own, with a tool of its own. -/
def hotel : AgentGraphDef where
  entry := "receptionist"
  nodes :=
    [("receptionist", receptionist),
      ("booking", ⟨"You are a booking agent.", ["create_reservation"], ["receptionist"], none, none,
        none⟩)]
  tools :=
    [("check_availability", ⟨"Check room availability", "return 1", [], false⟩),
      ("create_reservation", ⟨"Create a reservation", "return 2", [], false⟩)]
  timezone := none

/-- The receptionist answers a call. -/
def reception : DefaultAgentBackend :=
  DefaultAgentBackend.new DefaultAgentBackend.silentLibrary (some hotel) {}

/-- The receptionist is at the entry of the graph. -/
theorem reception_swarm : reception.swarm = some (SwarmState.new hotel) := rfl

/-- The receptionist of the hotel, with a library that reads nothing. -/
theorem tool_dispatch_iff_hotel :
    (Matches receptionist hotel.tools unreadable (defaultHandle unreadable reception) ↔
        Consistent receptionist hotel.tools) ∧
      ¬ Matches receptionist hotel.tools unreadable
        (NativeMultimodalBackend.new unreadable (fun _ => .ok []) (some hotel) "Charon").handling :=
  tool_dispatch_iff unreadable reception_swarm
    (NativeMultimodalBackend.new unreadable (fun _ => .ok []) (some hotel) "Charon") receptionist
    hotel.tools

/-- **The receptionist is offered `transfer_to`, of which the runtime knows nothing**, and may make a
reservation, which is not offered; the native backend does not know `on_hold`. -/
theorem transfer_undefined :
    let offered := (hotel.nodes.lookup hotel.entry).map fun node =>
      (buildNodeToolSchemas node hotel.tools).map (·.name)
    let handle := defaultHandle unreadable reception (⟨"", "", none, none⟩, "", [])
    let native := NativeMultimodalBackend.new unreadable (fun _ => .ok []) (some hotel) "Charon"
    offered = some ["check_availability", "transfer_to", "hang_up", "on_hold", "save_artifact",
        "read_artifact", "list_artifacts"] ∧
      handle "transfer_to" "" = .undefined ∧
      handle "create_reservation" "" =
        .script ⟨⟨"Create a reservation", "return 2", [], false⟩, .obj []⟩ ∧
      native.handling "1" "on_hold" "" = .undefined := by
  refine ⟨by decide +kernel, ?_, ?_, rfl⟩
  · exact default_handling reception_swarm _ _ _
  · exact default_handling reception_swarm _ _ _

end ToolDispatch

end Feros
