import Feros.Builder.EditOps
/-! # Validation of an agent graph

Every graph that the model writes passes through `validate_graph`, which returns a list of errors.  The
checks report and go on, so the later ones run on graphs that the earlier ones found broken.

* **`search`** is the reachability search, with a worklist.
* **`validateGraph`** is all of it; what Python raises is an error of `Except`. -/

namespace Feros

/-- **What validation uses from outside.** -/
structure Python where
  /-- `ParseDict` into an `AgentGraphDef`: the text of its error. -/
  parseDict : Fields → Option String
  /-- `str`, on a value that is no string. -/
  str : JsonValue → String

namespace Python

/-- A value in an f-string. -/
def format (python : Python) : JsonValue → String
  | .str s => s
  | value => python.str value

/-- `repr`. -/
def repr (python : Python) : JsonValue → String
  | .str s => reprStr s
  | value => python.str value

end Python

namespace JsonValue

/-- `value.get(key, default)`. -/
def get (value : JsonValue) (key : String) (default : JsonValue) : Except PyError JsonValue :=
  match value with
  | .obj fields => .ok ((Dict.get? fields key).getD default)
  | _ => .error .attributeError

/-- Whether a value is in a set of strings. -/
def inSet (value : JsonValue) (names : List String) : Except PyError Bool := do
  let key ← value.hashKey
  return decide (key ∈ names.map HashKey.string)

end JsonValue

/-- The errors of all items, one after the other. -/
def collect {α β : Type} (f : α → Except PyError (List β)) : List α → Except PyError (List β)
  | [] => .ok []
  | a :: as => do return (← f a) ++ (← collect f as)

/-! ## Nodes and tools -/

/-- The references of a node, each of which has to be in a set. -/
def refErrors (field notArray : String) (unknown : JsonValue → String) (names : List String) (node : JsonValue) :
    Except PyError (List String) := do
  match ← node.get field (.arr []) with
  | .arr refs => collect (fun ref => do return if ← ref.inSet names then [] else [unknown ref]) refs
  | _ => return [notArray]

/-- Whether a value is a string that is not blank. -/
def hasText : JsonValue → Bool
  | .str s => strip s != ""
  | _ => false

/-- Validate a node. -/
def nodeErrors (python : Python) (nodeIds toolIds : List String) (nodeId : String) (node : JsonValue) :
    Except PyError (List String) :=
  match node with
  | .obj _ => do
    let prompt ← node.get "system_prompt" (.str "")
    let promptErrors :=
      if hasText prompt then [] else ["Node '" ++ nodeId ++ "' is missing a non-empty 'system_prompt'"]
    let edgeErrors ← refErrors "edges" ("Node '" ++ nodeId ++ "'.edges must be an array")
      (fun edge => "Node '" ++ nodeId ++ "' has edge to '" ++ python.format edge ++ "' which is not a valid node")
      nodeIds node
    let toolErrors ← refErrors "tools" ("Node '" ++ nodeId ++ "'.tools must be an array")
      (fun ref => "Node '" ++ nodeId ++ "' references tool '" ++ python.format ref ++
        "' which is not defined in 'tools'")
      toolIds node
    return promptErrors ++ edgeErrors ++ toolErrors
  | _ => .ok ["Node '" ++ nodeId ++ "' must be an object"]

/-- A field that has to be there and true. -/
def missingField (object : JsonValue) (field error : String) : Except PyError (List String) := do
  return if (← object.get field .null).truthy then [] else [error]

/-- Validate the params of a tool, from an index. -/
def paramErrors (toolId : String) : ℕ → List JsonValue → Except PyError (List String)
  | _, [] => .ok []
  | i, param :: params => do
    let name := "Tool '" ++ toolId ++ "'.params[" ++ toString i ++ "]"
    let errors ← match param with
      | .obj _ => missingField param "name" (name ++ " is missing 'name'")
      | _ => .ok [name ++ " must be an object"]
    return errors ++ (← paramErrors toolId (i + 1) params)

/-- Validate the params of a tool, if they are a list. -/
def paramsErrors (toolId : String) (tool : JsonValue) : Except PyError (List String) := do
  match ← tool.get "params" (.arr []) with
  | .arr params => paramErrors toolId 0 params
  | _ => return ["Tool '" ++ toolId ++ "'.params must be an array"]

/-- Validate a tool. -/
def toolErrors (toolId : String) (tool : JsonValue) : Except PyError (List String) :=
  match tool with
  | .obj _ => do
    let description ← missingField tool "description" ("Tool '" ++ toolId ++ "' is missing 'description'")
    let script ← missingField tool "script" ("Tool '" ++ toolId ++ "' is missing 'script'")
    let params ← paramsErrors toolId tool
    return description ++ script ++ params
  | _ => .ok ["Tool '" ++ toolId ++ "' must be an object"]

/-! ## Reachability -/

/-- `nodes.get(current, {}).get("edges", [])`, as the items of a loop. -/
def successors (nodes : Fields) (current : JsonValue) : Except PyError (List JsonValue) := do
  let node := match current with
    | .str nodeId => (Dict.get? nodes nodeId).getD (.obj [])
    | _ => .obj []
  (← node.get "edges" (.arr [])).iterate

/-- Put the edges on the frontier that have not been reached; its last item is first here. -/
def pushEdges (reachable : List JsonValue.HashKey) (frontier : List JsonValue) : List JsonValue → Except PyError (List JsonValue)
  | [] => .ok frontier
  | edge :: edges => do
    if (← edge.hashKey) ∈ reachable then pushEdges reachable frontier edges
    else pushEdges reachable (edge :: frontier) edges

/-- The edges of nodes that have not been reached. -/
def pending (reachable : List JsonValue.HashKey) : Fields → ℕ
  | [] => 0
  | (nodeId, node) :: nodes =>
    let edges := match node.get "edges" (.arr []) with
      | .ok edges => (edges.iterate.toOption.getD []).length
      | .error _ => 0
    (if .string nodeId ∈ reachable then 0 else edges) + pending reachable nodes

/-- The frontier grows by the pushed edges at most. -/
theorem length_pushEdges {reachable : List JsonValue.HashKey} {frontier edges frontier' : List JsonValue}
    (pushed : pushEdges reachable frontier edges = .ok frontier') :
    frontier'.length ≤ frontier.length + edges.length := by
  induction edges generalizing frontier with
  | nil =>
      cases pushed
      exact Nat.le_refl _
  | cons edge edges ih =>
      obtain ⟨key, -, rest⟩ := bind_eq_ok.1 pushed
      split at rest
      · have := ih rest
        simp only [List.length_cons]
        omega
      · have := ih rest
        simp only [List.length_cons] at this ⊢
        omega

/-- One more node that was reached leaves no more of them pending. -/
theorem pending_cons_le (key : JsonValue.HashKey) (reachable : List JsonValue.HashKey) (nodes : Fields) :
    pending (key :: reachable) nodes ≤ pending reachable nodes := by
  induction nodes with
  | nil => exact Nat.le_refl _
  | cons entry nodes ih =>
      obtain ⟨nodeId, node⟩ := entry
      simp only [pending, List.mem_cons]
      refine Nat.add_le_add ?_ ih
      split_ifs with here there there
      · exact Nat.le_refl _
      · exact Nat.zero_le _
      · exact absurd (.inr there) here
      · exact Nat.le_refl _

/-- Reaching a node takes its edges off what is pending. -/
theorem pending_of_get? {nodes : Fields} {nodeId : String} {node : JsonValue} {edges : List JsonValue}
    {reachable : List JsonValue.HashKey} (found : Dict.get? nodes nodeId = some node)
    (fresh : .string nodeId ∉ reachable) (next : (node.get "edges" (.arr []) >>= JsonValue.iterate) = .ok edges) :
    pending (.string nodeId :: reachable) nodes + edges.length ≤ pending reachable nodes := by
  induction nodes with
  | nil => cases found
  | cons entry nodes ih =>
      obtain ⟨nodeId', node'⟩ := entry
      rw [Dict.get?_cons] at found
      by_cases here : nodeId' = nodeId
      · rw [if_pos here] at found
        obtain rfl := Option.some.inj found
        obtain ⟨value, got, items⟩ := bind_eq_ok.1 next
        have rest := pending_cons_le (.string nodeId) reachable nodes
        simp only [pending, here, List.mem_cons_self, if_true, fresh, if_false, got, items,
          Except.toOption, Option.getD_some]
        omega
      · rw [if_neg here] at found
        have rest := ih found
        have same : JsonValue.HashKey.string nodeId' ∈ .string nodeId :: reachable ↔ .string nodeId' ∈ reachable := by
          simp [here]
        simp only [pending, same]
        omega

/-- **A node that is reached pays for its edges.** -/
theorem pending_successors {nodes : Fields} {current : JsonValue} {key : JsonValue.HashKey} {edges : List JsonValue}
    {reachable : List JsonValue.HashKey} (hash : current.hashKey = .ok key) (fresh : key ∉ reachable)
    (next : successors nodes current = .ok edges) :
    pending (key :: reachable) nodes + edges.length ≤ pending reachable nodes := by
  have unknown : (JsonValue.obj []).get "edges" (.arr []) >>= JsonValue.iterate = .ok edges →
      pending (key :: reachable) nodes + edges.length ≤ pending reachable nodes := by
    intro none
    cases none
    exact pending_cons_le key reachable nodes
  cases current with
  | str nodeId =>
      cases hash
      cases found : Dict.get? nodes nodeId with
      | none => exact unknown (by simpa [successors, found] using next)
      | some node => exact pending_of_get? found fresh (by simpa [successors, found] using next)
  | _ => exact unknown next

/-- **The search**: what it reaches, from what it has reached and its frontier. -/
def search (nodes : Fields) (reachable : List JsonValue.HashKey) (frontier : List JsonValue) :
    Except PyError (List JsonValue.HashKey) :=
  match frontier with
  | [] => .ok reachable
  | current :: rest =>
    match _hash : current.hashKey with
    | .error e => .error e
    | .ok key =>
      if _old : key ∈ reachable then search nodes reachable rest
      else
        match _next : successors nodes current with
        | .error e => .error e
        | .ok edges =>
          match _pushed : pushEdges (key :: reachable) rest edges with
          | .error e => .error e
          | .ok frontier => search nodes (key :: reachable) frontier
termination_by pending reachable nodes + frontier.length
decreasing_by
  · simp only [List.length_cons]
    omega
  · have less := pending_successors _hash _old _next
    have short := length_pushEdges _pushed
    simp only [List.length_cons]
    omega

/-- Check for unreachable nodes. -/
def unreachableErrors (nodes : Fields) (entry : JsonValue) : Except PyError (List String) := do
  let reachable ← search nodes [] [entry]
  let unreachable := (Dict.keys nodes).filter fun nodeId => .string nodeId ∉ reachable
  return if unreachable.isEmpty then []
    else ["Unreachable nodes (not connected from entry): " ++ ", ".intercalate (sortedStr unreachable)]

/-! ## The dispatcher star -/

/-- Whether a node lacks an edge back to the entry. -/
def missesBackEdge (entry : String) (node : JsonValue) : Except PyError Bool := do
  let edges ← node.get "edges" (.arr [])
  return !(← edges.contains entry)

/-- The edges of a node to nodes other than the entry. -/
def badTargets (entry : String) (nodeIds : List String) (node : JsonValue) : Except PyError (List JsonValue) := do
  let edges ← (← node.get "edges" (.arr [])).iterate
  collect (fun edge => do return if !edge.isStr entry && (← edge.inSet nodeIds) then [edge] else []) edges

/-- Go through the nodes other than the entry. -/
def specialists (entry : String) (nodes : Fields) : List (String × JsonValue) :=
  nodes.filter fun node => node.1 ≠ entry && node.2.typeName == "dict"

/-- **Topology check**: every non-entry node must have an edge back to the entry node, and must not have
edges to other non-entry nodes. -/
def starErrors (python : Python) (nodes : Fields) (entry : String) : Except PyError (List String) := do
  let found ← collect (fun node => do
    return [(node.1, ← missesBackEdge entry node.2, ← badTargets entry (Dict.keys nodes) node.2)])
    (specialists entry nodes)
  let missing := (found.filter (·.2.1)).map (·.1)
  let bad := (found.filter (!·.2.2.isEmpty)).map fun node =>
    "'" ++ node.1 ++ "' → " ++ ", ".intercalate (node.2.2.map python.repr)
  let missingErrors := if missing.isEmpty then [] else
    ["Dispatcher star topology violated: nodes " ++ ", ".intercalate (sortedStr missing) ++
      " must have an edge back to the entry node '" ++ entry ++ "'. Multi-node graphs must be star-shaped — " ++
      "every specialist node needs an edge back to the dispatcher."]
  let badErrors := if bad.isEmpty then [] else
    ["Specialist-to-specialist edges are FORBIDDEN in a star topology: " ++ "; ".intercalate bad ++
      ". Specialist nodes may ONLY edge back to the dispatcher '" ++ entry ++
      "'. If your flow is linear (e.g. greet → ask → confirm), use a SINGLE node instead."]
  return missingErrors ++ badErrors

/-- The checks of the whole graph, if the entry is one of several nodes. -/
def topologyErrors (python : Python) (nodes : Fields) (entry : JsonValue) : Except PyError (List String) :=
  match entry with
  | .str nodeId => do
    if nodeId ≠ "" ∧ nodeId ∈ Dict.keys nodes ∧ 1 < (Dict.keys nodes).length then
      return (← unreachableErrors nodes entry) ++ (← starErrors python nodes nodeId)
    else return []
  -- No other value is in a set of strings.
  | _ => .ok []

/-! ## All checks -/

def entryErrors (entry : JsonValue) : List String :=
  match entry with
  | .str nodeId => if nodeId ≠ "" then [] else ["Missing or invalid 'entry' field (must be a non-empty string)"]
  | _ => ["Missing or invalid 'entry' field (must be a non-empty string)"]

/-- The tools, and what is wrong with them. -/
def toolsOrError (graph : Fields) : List String × Fields :=
  match Dict.get? graph "tools" with
  | none => ([], [])
  | some (.obj tools) => ([], tools)
  | some _ => (["'tools' must be an object"], [])

/-- The entry must reference a valid node. -/
def unknownEntry (python : Python) (entry : JsonValue) (nodeIds : List String) : Except PyError (List String) := do
  if entry.truthy then
    return if ← entry.inSet nodeIds then []
      else ["Entry '" ++ python.format entry ++ "' does not reference a valid node. Available nodes: " ++
        ", ".intercalate (sortedStr nodeIds)]
  else return []

/-- **Validate an agent graph JSON structure**: a list of error messages, empty for a valid graph. -/
def validateGraph (python : Python) (graph : Fields) : Except PyError (List String) :=
  if graph.isEmpty then .ok ["Graph must be empty"]
  else
    match python.parseDict graph with
    | some error => .ok ["Format compilation error: " ++ error]
    | none =>
      let entry := (Dict.get? graph "entry").getD .null
      match Dict.get? graph "nodes" with
      | some (.obj (node :: more)) => do
        let nodes := node :: more
        let (toolsErrors, tools) := toolsOrError graph
        let unknown ← unknownEntry python entry (Dict.keys nodes)
        let ofNodes ← collect (fun node => nodeErrors python (Dict.keys nodes) (Dict.keys tools) node.1 node.2) nodes
        let ofTools ← collect (fun tool => toolErrors tool.1 tool.2) tools
        let topology ← topologyErrors python nodes entry
        return entryErrors entry ++ toolsErrors ++ unknown ++ ofNodes ++ ofTools ++ topology
      | _ => .ok (entryErrors entry ++ ["'nodes' must be a non-empty object"])

end Feros
