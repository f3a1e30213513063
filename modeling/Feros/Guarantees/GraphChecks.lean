import Feros.Builder.GraphValidation
import Feros.Library.Worklist
/-! # Graph validation is exact, but for null fields

* **`AgentGraphJson`**: what `ParseDict` accepts; `null` stands for a missing field everywhere.
* **`ValidGraph`**: what a valid graph is.
* **`search_reaches`**: the search ends, and reaches what can be reached.
* **`validate_graph_iff`**: validation returns, and returns no error for the valid graphs only, if and only if
  no `null` and no edge of a node to itself gets in its way. -/

namespace Feros

open Relation Worklist

/-! ## Graphs -/

namespace JsonValue

/-- A field of an object. -/
def field (value : JsonValue) (name : String) : Option JsonValue :=
  match value with
  | .obj fields => Dict.get? fields name
  | _ => none

/-- The items of a field; none, if it is no list. -/
def items (value : JsonValue) (name : String) : List JsonValue :=
  match value.field name with
  | some (.arr items) => items
  | _ => []

/-- A field is a string with some property. -/
def HasText (P : String → Prop) (value : JsonValue) (name : String) : Prop :=
  ∃ s, value.field name = some (.str s) ∧ P s

end JsonValue

/-- A field may be missing or `null`, and has its type otherwise. -/
def Optional (P : JsonValue → Prop) (value : Option JsonValue) : Prop := ∀ v, value = some v → v = .null ∨ P v

def IsStr (value : JsonValue) : Prop := ∃ s, value = .str s

def IsStrings (value : JsonValue) : Prop := ∃ l : List String, value = .arr (l.map .str)

/-- A `NodeJson`. -/
structure NodeJson (node : JsonValue) : Prop where
  object : ∃ fields, node = .obj fields
  prompt : Optional IsStr (node.field "system_prompt")
  edges : Optional IsStrings (node.field "edges")
  tools : Optional IsStrings (node.field "tools")

/-- A `ParamJson`. -/
structure ParamJson (param : JsonValue) : Prop where
  object : ∃ fields, param = .obj fields
  name : Optional IsStr (param.field "name")

/-- A `ToolJson`. -/
structure ToolJson (tool : JsonValue) : Prop where
  object : ∃ fields, tool = .obj fields
  description : Optional IsStr (tool.field "description")
  script : Optional IsStr (tool.field "script")
  params : Optional (fun value => ∃ params, value = .arr params ∧ ∀ param ∈ params, ParamJson param)
    (tool.field "params")

/-- A map, with each key once. -/
def MapOf (P : JsonValue → Prop) (value : JsonValue) : Prop :=
  ∃ table : Fields, value = .obj table ∧ (Dict.keys table).Nodup ∧ ∀ entry ∈ table, P entry.2

/-- **An `AgentGraphDef`**, as JSON. -/
structure AgentGraphJson (graph : Fields) : Prop where
  entry : Optional IsStr (Dict.get? graph "entry")
  nodes : Optional (MapOf NodeJson) (Dict.get? graph "nodes")
  tools : Optional (MapOf ToolJson) (Dict.get? graph "tools")

/-- A node has an edge. -/
def Edge (nodes : Fields) (source target : String) : Prop :=
  ∃ node, Dict.get? nodes source = some node ∧ .str target ∈ node.items "edges"

/-- **A valid graph**; a missing or `null` field has no items. -/
structure ValidGraph (graph nodes tools : Fields) (entry : String) : Prop where
  entry_eq : Dict.get? graph "entry" = some (.str entry)
  entry_node : entry ∈ Dict.keys nodes
  prompts : ∀ node ∈ nodes, node.2.HasText (strip · ≠ "") "system_prompt"
  edges : ∀ node ∈ nodes, ∀ target, .str target ∈ node.2.items "edges" → target ∈ Dict.keys nodes
  toolRefs : ∀ node ∈ nodes, ∀ target, .str target ∈ node.2.items "tools" → target ∈ Dict.keys tools
  descriptions : ∀ tool ∈ tools, tool.2.HasText (· ≠ "") "description"
  scripts : ∀ tool ∈ tools, tool.2.HasText (· ≠ "") "script"
  params : ∀ tool ∈ tools, ∀ param ∈ tool.2.items "params", param.HasText (· ≠ "") "name"
  reachable : 1 < nodes.length → ∀ nodeId ∈ Dict.keys nodes, ReflTransGen (Edge nodes) entry nodeId
  back : 1 < nodes.length → ∀ node ∈ nodes, node.1 ≠ entry → .str entry ∈ node.2.items "edges"
  star : 1 < nodes.length → ∀ node ∈ nodes, node.1 ≠ entry → ∀ target, .str target ∈ node.2.items "edges" →
    target ∈ Dict.keys nodes → target = entry ∨ target = node.1

/-- The graph is valid. -/
def Valid (graph : Fields) : Prop :=
  ∃ entry, ValidGraph graph (entries graph "nodes") (entries graph "tools") entry

/-- **What validation takes for an error** in a valid graph: an empty entry, lists or tools that are `null`,
and an edge of a node other than the entry to itself. -/
structure Strict (graph nodes tools : Fields) : Prop where
  entry : Dict.get? graph "entry" ≠ some (.str "")
  toolMap : Dict.get? graph "tools" ≠ some .null
  edges : ∀ node ∈ nodes, node.2.field "edges" ≠ some .null
  toolRefs : ∀ node ∈ nodes, node.2.field "tools" ≠ some .null
  params : ∀ tool ∈ tools, tool.2.field "params" ≠ some .null
  self : 1 < nodes.length → ∀ node ∈ nodes, Dict.get? graph "entry" ≠ some (.str node.1) →
    .str node.1 ∉ node.2.items "edges"

/-- **What makes validation raise**: the edges of a node are `null`, in a graph with several nodes and an
entry. -/
def Raises (graph nodes : Fields) : Prop :=
  (∃ entry, entry ≠ "" ∧ Dict.get? graph "entry" = some (.str entry) ∧ entry ∈ Dict.keys nodes) ∧
    1 < nodes.length ∧ ∃ node ∈ nodes, node.2.field "edges" = some .null

/-! ## Reports -/

/-- **A check returns, and finds nothing wrong if and only if something holds.** -/
def Reports {α : Type} (check : Except PyError (List α)) (good : Prop) : Prop :=
  ∃ errors, check = .ok errors ∧ (errors = [] ↔ good)

section Reports

variable {α β : Type} {check : Except PyError (List α)} {good good' : Prop}

/-- What is checked may be said in another way. -/
theorem Reports.congr (reports : Reports check good) (same : good ↔ good') : Reports check good' := by
  obtain ⟨errors, returns, exact⟩ := reports
  exact ⟨errors, returns, exact.trans same⟩

/-- A check of one condition. -/
theorem reports_ite (p : Prop) [Decidable p] (error : α) :
    Reports (.ok (if p then [] else [error])) p := by
  refine ⟨_, rfl, ?_⟩
  split
  · simpa
  · simpa

/-- All items are good. -/
theorem reports_collect {f : β → Except PyError (List α)} {P : β → Prop} {items : List β}
    (each : ∀ item ∈ items, Reports (f item) (P item)) : Reports (collect f items) (∀ item ∈ items, P item) := by
  induction items with
  | nil => exact ⟨[], rfl, by simp⟩
  | cons item items ih =>
      obtain ⟨first, returns, exact⟩ := each item List.mem_cons_self
      obtain ⟨rest, returns', exact'⟩ := ih fun item' held => each item' (List.mem_cons_of_mem item held)
      refine ⟨first ++ rest, by simp [collect, returns, returns'], ?_⟩
      simp [exact, exact']

/-- One item that makes the check raise. -/
theorem collect_raises {f : β → Except PyError (List α)} {items : List β} {item : β} {e : PyError}
    (held : item ∈ items) (raises : f item = .error e) : ∃ e', collect f items = .error e' := by
  induction items with
  | nil => cases held
  | cons first items ih =>
      cases here : f first with
      | error e' => exact ⟨e', by simp [collect, here]⟩
      | ok errors =>
          rcases List.mem_cons.1 held with rfl | later
          · rw [raises] at here
            cases here
          · obtain ⟨e', rest⟩ := ih later
            exact ⟨e', by simp [collect, here, rest]⟩

end Reports

/-! ## Nodes and tools -/

/-- Names as keys are the same names. -/
theorem mem_map_string {names : List String} {s : String} :
    JsonValue.HashKey.string s ∈ names.map JsonValue.HashKey.string ↔ s ∈ names := by
  simp

/-- A list of strings that is not `null`, as the code gets it. -/
theorem get_items {node : JsonValue} (object : ∃ fields, node = .obj fields) {name : String}
    (typed : Optional IsStrings (node.field name)) (there : node.field name ≠ some .null) :
    ∃ l : List String, node.get name (.arr []) = .ok (.arr (l.map .str)) ∧ node.items name = l.map .str := by
  obtain ⟨fields, rfl⟩ := object
  unfold JsonValue.get JsonValue.items
  cases found : (JsonValue.obj fields).field name with
  | none =>
      have none : Dict.get? fields name = none := found
      exact ⟨[], by simp [none], rfl⟩
  | some value =>
      have some : Dict.get? fields name = some value := found
      rcases typed value found with rfl | ⟨l, rfl⟩
      · exact absurd found there
      · exact ⟨l, by simp [some], rfl⟩

/-- `null` is no list. -/
theorem get_null {node : JsonValue} {name : String} (null : node.field name = some .null) :
    node.get name (.arr []) = .ok .null := by
  cases node with
  | obj fields =>
      have found : Dict.get? fields name = some .null := null
      simp [JsonValue.get, found]
  | _ => cases null

/-- **The references of a node.** -/
theorem refErrors_reports {node : JsonValue} (object : ∃ fields, node = .obj fields) {name : String}
    (typed : Optional IsStrings (node.field name)) (notArray : String) (unknown : JsonValue → String)
    (names : List String) :
    Reports (refErrors name notArray unknown names node)
      (node.field name ≠ some .null ∧ ∀ target, .str target ∈ node.items name → target ∈ names) := by
  unfold refErrors
  by_cases null : node.field name = some .null
  · exact ⟨[notArray], by simp [get_null null], by simp [null]⟩
  · obtain ⟨l, got, items⟩ := get_items object typed null
    simp only [got, ok_bind, items]
    have each : ∀ ref ∈ l.map JsonValue.str,
        Reports (do return if ← ref.inSet names then [] else [unknown ref]) (∀ s, ref = .str s → s ∈ names) := by
      intro ref held
      obtain ⟨s, -, rfl⟩ := List.mem_map.1 held
      have known : (do return if ← (JsonValue.str s).inSet names then [] else [unknown (.str s)]) =
          (.ok (if s ∈ names then [] else [unknown (.str s)]) : Except PyError (List String)) := by
        simp [JsonValue.inSet, JsonValue.hashKey]
      rw [known]
      exact (reports_ite (s ∈ names) (unknown (.str s))).congr (by simp)
    refine (reports_collect each).congr ?_
    simp [null]

/-- A text is a string that is not blank. -/
theorem hasText_iff {value : JsonValue} : hasText value = true ↔ ∃ s, value = .str s ∧ strip s ≠ "" := by
  cases value <;> simp [hasText]

/-- **A node.** -/
theorem nodeErrors_reports {node : JsonValue} (typed : NodeJson node) (python : Python)
    (nodeIds toolIds : List String) (nodeId : String) :
    Reports (nodeErrors python nodeIds toolIds nodeId node)
      (node.HasText (strip · ≠ "") "system_prompt" ∧
        (node.field "edges" ≠ some .null ∧ ∀ target, .str target ∈ node.items "edges" → target ∈ nodeIds) ∧
        (node.field "tools" ≠ some .null ∧ ∀ target, .str target ∈ node.items "tools" → target ∈ toolIds)) := by
  obtain ⟨edgeErrs, edges, edges_iff⟩ := refErrors_reports typed.object typed.edges
    ("Node '" ++ nodeId ++ "'.edges must be an array")
    (fun edge => "Node '" ++ nodeId ++ "' has edge to '" ++ python.format edge ++ "' which is not a valid node")
    nodeIds
  obtain ⟨toolErrs, tools, tools_iff⟩ := refErrors_reports typed.object typed.tools
    ("Node '" ++ nodeId ++ "'.tools must be an array")
    (fun ref => "Node '" ++ nodeId ++ "' references tool '" ++ python.format ref ++
      "' which is not defined in 'tools'") toolIds
  obtain ⟨fields, rfl⟩ := typed.object
  have prompt : hasText ((Dict.get? fields "system_prompt").getD (.str "")) = true ↔
      (JsonValue.obj fields).HasText (strip · ≠ "") "system_prompt" := by
    rw [hasText_iff]
    simp only [JsonValue.HasText, JsonValue.field]
    cases Dict.get? fields "system_prompt" with
    | none =>
        refine iff_of_false ?_ (by simp)
        rintro ⟨s, is, text⟩
        cases is
        exact text rfl
    | some value => simp
  unfold nodeErrors
  simp only [edges, tools, ok_bind, JsonValue.get, pure_eq_ok]
  refine ⟨_, rfl, ?_⟩
  rw [List.append_eq_nil_iff, List.append_eq_nil_iff, edges_iff, tools_iff, ← prompt]
  by_cases text : hasText ((Dict.get? fields "system_prompt").getD (.str "")) = true
  · simp [text]
  · simp [text]

/-- A field that may be missing. -/
theorem missingField_reports {object : JsonValue} (isObject : ∃ fields, object = .obj fields) {name : String}
    (typed : Optional IsStr (object.field name)) (error : String) :
    Reports (missingField object name error) (object.HasText (· ≠ "") name) := by
  obtain ⟨fields, rfl⟩ := isObject
  unfold missingField JsonValue.HasText
  simp only [JsonValue.get, JsonValue.field, ok_bind, pure_eq_ok]
  cases found : Dict.get? fields name with
  | none => exact ⟨[error], rfl, by simp⟩
  | some value =>
      rcases typed value found with rfl | ⟨s, rfl⟩
      · exact ⟨[error], rfl, by simp⟩
      · refine ⟨_, rfl, ?_⟩
        by_cases empty : s = ""
        · simp [JsonValue.truthy, empty]
        · simp [JsonValue.truthy, empty]

/-- The parameters from one on. -/
theorem paramErrors_reports {params : List JsonValue} (typed : ∀ param ∈ params, ParamJson param) (toolId : String)
    (i : ℕ) : Reports (paramErrors toolId i params) (∀ param ∈ params, param.HasText (· ≠ "") "name") := by
  induction params generalizing i with
  | nil => exact ⟨[], rfl, by simp⟩
  | cons param params ih =>
      have here := typed param List.mem_cons_self
      obtain ⟨rest, returns, rest_iff⟩ := ih (fun p held => typed p (List.mem_cons_of_mem param held)) (i + 1)
      obtain ⟨errors, first, first_iff⟩ := missingField_reports here.object here.name
        ("Tool '" ++ toolId ++ "'.params[" ++ toString i ++ "]" ++ " is missing 'name'")
      obtain ⟨fields, rfl⟩ := here.object
      refine ⟨errors ++ rest, by simp only [paramErrors, first, returns, ok_bind, pure_eq_ok], ?_⟩
      simp [first_iff, rest_iff]

/-- The parameters of a tool. -/
theorem paramsErrors_reports {tool : JsonValue} (typed : ToolJson tool) (toolId : String) :
    Reports (paramsErrors toolId tool)
      (tool.field "params" ≠ some .null ∧ ∀ param ∈ tool.items "params", param.HasText (· ≠ "") "name") := by
  obtain ⟨fields, rfl⟩ := typed.object
  unfold paramsErrors JsonValue.items
  cases found : (JsonValue.obj fields).field "params" with
  | none =>
      have none : Dict.get? fields "params" = none := found
      exact ⟨[], by simp [JsonValue.get, none, paramErrors], by simp⟩
  | some value =>
      have some : Dict.get? fields "params" = some value := found
      rcases typed.params value found with rfl | ⟨params, rfl, each⟩
      · exact ⟨_, by simp only [JsonValue.get, some, ok_bind, Option.getD_some, pure_eq_ok]; rfl, by simp⟩
      · obtain ⟨errors, returns, errors_iff⟩ := paramErrors_reports each toolId 0
        exact ⟨errors, by simpa [JsonValue.get, some] using returns, by simp [errors_iff]⟩

/-- **A tool.** -/
theorem toolErrors_reports {tool : JsonValue} (typed : ToolJson tool) (toolId : String) :
    Reports (toolErrors toolId tool)
      (tool.HasText (· ≠ "") "description" ∧ tool.HasText (· ≠ "") "script" ∧
        tool.field "params" ≠ some .null ∧ ∀ param ∈ tool.items "params", param.HasText (· ≠ "") "name") := by
  obtain ⟨first, description, first_iff⟩ := missingField_reports typed.object typed.description
    ("Tool '" ++ toolId ++ "' is missing 'description'")
  obtain ⟨second, script, second_iff⟩ := missingField_reports typed.object typed.script
    ("Tool '" ++ toolId ++ "' is missing 'script'")
  obtain ⟨third, params, third_iff⟩ := paramsErrors_reports typed toolId
  refine ⟨first ++ second ++ third, ?_, ?_⟩
  · obtain ⟨fields, rfl⟩ := typed.object
    simp only [toolErrors, description, script, params, ok_bind, pure_eq_ok]
  · simp [first_iff, second_iff, third_iff]

/-! ## The search -/

section Search

variable {nodes : Fields}

/-- Every node has a list of edges. -/
def EdgesThere (nodes : Fields) : Prop :=
  ∀ nodeId node, Dict.get? nodes nodeId = some node → (∃ fields, node = .obj fields) ∧
    Optional IsStrings (node.field "edges") ∧ node.field "edges" ≠ some .null

/-- The successors of a node are where its edges lead. -/
theorem successors_str (there : EdgesThere nodes) (nodeId : String) :
    ∃ targets : List String, successors nodes (.str nodeId) = .ok (targets.map .str) ∧
      ∀ target, target ∈ targets ↔ Edge nodes nodeId target := by
  cases found : Dict.get? nodes nodeId with
  | none => exact ⟨[], by simp [successors, found, JsonValue.get, JsonValue.iterate], by simp [Edge, found]⟩
  | some node =>
      obtain ⟨object, typed, notNull⟩ := there nodeId node found
      obtain ⟨targets, got, items⟩ := get_items object typed notNull
      exact ⟨targets, by simp [successors, found, got, JsonValue.iterate], by simp [Edge, found, items]⟩

/-- The targets that are new are pushed. -/
theorem pushEdges_str (reachable frontier targets : List String) :
    ∃ frontier' : List String,
      pushEdges (reachable.map .string) (frontier.map .str) (targets.map .str) = .ok (frontier'.map .str) ∧
      ∀ target, target ∈ frontier' ↔ target ∈ frontier ∨ target ∈ targets ∧ target ∉ reachable := by
  induction targets generalizing frontier with
  | nil => exact ⟨frontier, rfl, by simp⟩
  | cons target targets ih =>
      by_cases old : target ∈ reachable
      · obtain ⟨frontier', pushed, mem⟩ := ih frontier
        refine ⟨frontier', by simpa [pushEdges, JsonValue.hashKey, old] using pushed, fun other => ?_⟩
        rw [mem, List.mem_cons]
        by_cases same : other = target
        · simp [same, old]
        · simp [same]
      · obtain ⟨frontier', pushed, mem⟩ := ih (target :: frontier)
        refine ⟨frontier', by simpa [pushEdges, JsonValue.hashKey, old] using pushed, fun other => ?_⟩
        rw [mem, List.mem_cons, List.mem_cons]
        by_cases same : other = target
        · simp [same, old]
        · simp [same]

/-- A node that was reached is passed over. -/
theorem search_old {reachable rest : List String} {nodeId : String} (old : nodeId ∈ reachable) :
    search nodes (reachable.map .string) (.str nodeId :: rest.map .str) =
      search nodes (reachable.map .string) (rest.map .str) := by
  rw [search]
  simp [JsonValue.hashKey, old]

/-- A node that is new is reached, and its edges are followed. -/
theorem search_new {reachable rest targets frontier : List String} {nodeId : String}
    (new : nodeId ∉ reachable) (next : successors nodes (.str nodeId) = .ok (targets.map .str))
    (pushed : pushEdges ((nodeId :: reachable).map .string) (rest.map .str) (targets.map .str) =
      .ok (frontier.map .str)) :
    search nodes (reachable.map .string) (.str nodeId :: rest.map .str) =
      search nodes ((nodeId :: reachable).map .string) (frontier.map .str) := by
  have fresh : JsonValue.HashKey.string nodeId ∉ reachable.map .string := by simpa using new
  rw [search]
  split
  · rename_i impossible
    cases impossible
  · rename_i hash
    cases hash
    rw [dif_neg fresh]
    split
    · rename_i impossible
      rw [next] at impossible
      cases impossible
    · rename_i found
      rw [next] at found
      cases found
      split
      · rename_i impossible
        rw [List.map_cons] at pushed
        rw [pushed] at impossible
        cases impossible
      · rename_i found
        rw [List.map_cons] at pushed
        rw [pushed] at found
        cases found
        rfl

/-- **The search ends, and reaches what can be reached.** -/
theorem search_reaches (there : EdgesThere nodes) {entry : String} {reachable frontier : List String}
    (explored : Explored (Edge nodes) entry reachable frontier) :
    ∃ reachable' : List String, search nodes (reachable.map .string) (frontier.map .str) =
        .ok (reachable'.map .string) ∧ Explored (Edge nodes) entry reachable' [] := by
  -- The edges of the nodes that are not reached, and the frontier, get fewer.
  induction left : pending (reachable.map .string) nodes + frontier.length using Nat.strongRecOn
    generalizing reachable frontier with
  | _ left ih =>
      subst left
      cases frontier with
      | nil => exact ⟨reachable, by rw [List.map_nil, search], explored⟩
      | cons nodeId rest =>
          by_cases old : nodeId ∈ reachable
          · rw [List.map_cons, search_old old]
            exact ih _ (by simp) (explored.skip old) rfl
          · obtain ⟨targets, next, edges⟩ := successors_str there nodeId
            obtain ⟨frontier, pushed, mem⟩ := pushEdges_str (nodeId :: reachable) rest targets
            rw [List.map_cons, search_new old next pushed]
            have fresh : JsonValue.HashKey.string nodeId ∉ reachable.map .string := by simpa using old
            have less := pending_successors rfl fresh next
            have short := length_pushEdges pushed
            refine ih _ ?_ (explored.visit fun target => ?_) rfl
            · simp only [List.length_map, List.map_cons, List.length_cons] at less short ⊢
              omega
            · rw [mem, edges]

end Search

/-- **What is unreachable from the entry.** -/
theorem unreachableErrors_reports {nodes : Fields} (there : EdgesThere nodes) (entry : String) :
    Reports (unreachableErrors nodes (.str entry))
      (∀ nodeId ∈ Dict.keys nodes, ReflTransGen (Edge nodes) entry nodeId) := by
  obtain ⟨reachable, ran, explored⟩ := search_reaches there (Explored.init : Explored (Edge nodes) entry [] [entry])
  have ran' : search nodes [] [.str entry] = .ok (reachable.map .string) := ran
  refine ⟨_, by simp only [unreachableErrors, ran', ok_bind, pure_eq_ok]; rfl, ?_⟩
  have empty : ((Dict.keys nodes).filter fun nodeId => JsonValue.HashKey.string nodeId ∉ reachable.map .string) = [] ↔
      ∀ nodeId ∈ Dict.keys nodes, ReflTransGen (Edge nodes) entry nodeId := by
    simp only [List.filter_eq_nil_iff, mem_map_string, explored.mem_iff, decide_eq_true_eq, not_not]
  rw [← empty]
  generalize (Dict.keys nodes).filter (fun nodeId => JsonValue.HashKey.string nodeId ∉ reachable.map .string) = left
  cases left with
  | nil => simp
  | cons nodeId left => simp

/-! ## The star -/

/-- What is found at a specialist. -/
structure StarNode (entry : String) (nodeIds : List String) (node : String × JsonValue)
    (found : String × Bool × List JsonValue) : Prop where
  missing : found.2.1 = false ↔ .str entry ∈ node.2.items "edges"
  bad : found.2.2 = [] ↔ ∀ target, .str target ∈ node.2.items "edges" → target ∈ nodeIds → target = entry

/-- The targets that are neither the entry nor a specialist. -/
theorem badTargets_reports {node : JsonValue} {l : List String} (got : node.get "edges" (.arr []) = .ok (.arr (l.map .str)))
    (items : node.items "edges" = l.map .str) (entry : String) (nodeIds : List String) :
    Reports (badTargets entry nodeIds node)
      (∀ target, .str target ∈ node.items "edges" → target ∈ nodeIds → target = entry) := by
  unfold badTargets
  simp only [got, ok_bind, JsonValue.iterate]
  have each : ∀ edge ∈ l.map JsonValue.str,
      Reports (do return if !edge.isStr entry && (← edge.inSet nodeIds) then [edge] else [])
        (∀ target, edge = .str target → target ∈ nodeIds → target = entry) := by
    intro edge held
    obtain ⟨target, -, rfl⟩ := List.mem_map.1 held
    refine ⟨if target ≠ entry ∧ target ∈ nodeIds then [.str target] else [], ?_, ?_⟩
    · simp [JsonValue.inSet, JsonValue.hashKey]
    · split
      · rename_i bad
        simp [bad.1, bad.2]
      · rename_i good
        refine iff_of_true rfl ?_
        intro other is held
        cases is
        by_contra wrong
        exact good ⟨wrong, held⟩
  refine (reports_collect each).congr ?_
  rw [items]
  exact ⟨fun all target held => all _ held target rfl, fun all edge held target is => all target (is ▸ held)⟩

/-- What is looked for at a specialist. -/
theorem starNode_found {node : String × JsonValue} (object : ∃ fields, node.2 = .obj fields)
    (typed : Optional IsStrings (node.2.field "edges")) (there : node.2.field "edges" ≠ some .null)
    (entry : String) (nodeIds : List String) :
    ∃ found, (do return [(node.1, ← missesBackEdge entry node.2, ← badTargets entry nodeIds node.2)] :
      Except PyError (List (String × Bool × List JsonValue))) = .ok [found] ∧ StarNode entry nodeIds node found := by
  obtain ⟨l, got, items⟩ := get_items object typed there
  obtain ⟨bad, returns, bad_iff⟩ := badTargets_reports got items entry nodeIds
  refine ⟨(node.1, !(l.map JsonValue.str).any (·.isStr entry), bad), ?_, ?_, bad_iff⟩
  · simp [missesBackEdge, got, JsonValue.contains, returns]
  · simp [items]

/-- What is found at all specialists. -/
theorem collect_found {α β : Type} {f : α → Except PyError (List β)} {Q : α → β → Prop} {as : List α}
    (each : ∀ a ∈ as, ∃ b, f a = .ok [b] ∧ Q a b) : ∃ bs, collect f as = .ok bs ∧ List.Forall₂ Q as bs := by
  induction as with
  | nil => exact ⟨[], rfl, .nil⟩
  | cons a as ih =>
      obtain ⟨b, returns, found⟩ := each a List.mem_cons_self
      obtain ⟨bs, rest, founds⟩ := ih fun a' held => each a' (List.mem_cons_of_mem a held)
      exact ⟨b :: bs, by simp [collect, returns, rest], .cons found founds⟩

/-- A condition on all of two related lists. -/
theorem forall_iff_of_forall₂ {α β : Type} {Q : α → β → Prop} {P : α → Prop} {p : β → Prop}
    (same : ∀ a b, Q a b → (p b ↔ P a)) {as : List α} {bs : List β} (related : List.Forall₂ Q as bs) :
    (∀ b ∈ bs, p b) ↔ ∀ a ∈ as, P a := by
  induction related with
  | nil => simp
  | cons here rest ih => simp [same _ _ here, ih]

/-- The specialists are the other nodes. -/
theorem mem_specialists {entry : String} {nodes : Fields} (typed : ∀ node ∈ nodes, NodeJson node.2)
    {node : String × JsonValue} : node ∈ specialists entry nodes ↔ node ∈ nodes ∧ node.1 ≠ entry := by
  simp only [specialists, List.mem_filter, Bool.and_eq_true, decide_eq_true_eq, beq_iff_eq]
  constructor
  · rintro ⟨held, other, -⟩
    exact ⟨held, other⟩
  · rintro ⟨held, other⟩
    obtain ⟨fields, is⟩ := (typed node held).object
    exact ⟨held, other, by rw [is]; rfl⟩

/-- One error for all that was found. -/
theorem ite_isEmpty {α β : Type} (l : List α) (error : β) :
    (if l.isEmpty then [] else [error]) = [] ↔ l = [] := by
  cases l with
  | nil => simp
  | cons a l => simp

/-- **The star of the specialists.** -/
theorem starErrors_reports {nodes : Fields} (typed : ∀ node ∈ nodes, NodeJson node.2)
    (there : ∀ node ∈ nodes, node.2.field "edges" ≠ some .null) (python : Python) (entry : String) :
    Reports (starErrors python nodes entry)
      ((∀ node ∈ nodes, node.1 ≠ entry → .str entry ∈ node.2.items "edges") ∧
        ∀ node ∈ nodes, node.1 ≠ entry → ∀ target, .str target ∈ node.2.items "edges" →
          target ∈ Dict.keys nodes → target = entry) := by
  have each : ∀ node ∈ specialists entry nodes, ∃ found,
      (do return [(node.1, ← missesBackEdge entry node.2, ← badTargets entry (Dict.keys nodes) node.2)] :
        Except PyError (List (String × Bool × List JsonValue))) = .ok [found] ∧
        StarNode entry (Dict.keys nodes) node found := by
    intro node held
    obtain ⟨held, -⟩ := (mem_specialists typed).1 held
    exact starNode_found (typed node held).object (typed node held).edges (there node held) entry _
  obtain ⟨found, collected, related⟩ := collect_found each
  have missing := forall_iff_of_forall₂ (p := fun f => f.2.1 = false)
    (P := fun node => .str entry ∈ node.2.items "edges") (fun _ _ star => star.missing) related
  have bad := forall_iff_of_forall₂ (p := fun f => f.2.2 = []) (fun _ _ star => star.bad) related
  simp only [mem_specialists typed, and_imp] at missing bad
  rw [← missing, ← bad]
  unfold starErrors
  rw [collected, ok_bind]
  refine ⟨_, rfl, ?_⟩
  rw [List.append_eq_nil_iff]
  refine and_congr ?_ ?_
  · rw [ite_isEmpty, List.map_eq_nil_iff, List.filter_eq_nil_iff]
    simp
  · rw [ite_isEmpty, List.map_eq_nil_iff, List.filter_eq_nil_iff]
    simp

/-! ## The topology -/

/-- **What the topology check asks for**: all nodes can be reached, and every specialist has an edge to the
entry and no other. -/
structure StarShaped (nodes : Fields) (entry : String) : Prop where
  reachable : ∀ nodeId ∈ Dict.keys nodes, ReflTransGen (Edge nodes) entry nodeId
  back : ∀ node ∈ nodes, node.1 ≠ entry → .str entry ∈ node.2.items "edges"
  only : ∀ node ∈ nodes, node.1 ≠ entry → ∀ target, .str target ∈ node.2.items "edges" →
    target ∈ Dict.keys nodes → target = entry

/-- The topology is checked. -/
def Several (nodes : Fields) (entry : String) : Prop :=
  entry ≠ "" ∧ entry ∈ Dict.keys nodes ∧ 1 < (Dict.keys nodes).length

section Topology

variable {nodes : Fields} {entry : String} (python : Python)

/-- With several nodes both errors of the topology are looked for. -/
theorem topologyErrors_several (several : Several nodes entry) :
    topologyErrors python nodes (.str entry) =
      (do return (← unreachableErrors nodes (.str entry)) ++ (← starErrors python nodes entry)) :=
  if_pos several

/-- With one node, or without an entry, nothing is looked for. -/
theorem topologyErrors_skipped (few : ¬Several nodes entry) : topologyErrors python nodes (.str entry) = .ok [] :=
  if_neg few

/-- **The topology.** -/
theorem topologyErrors_reports (several : Several nodes entry) (typed : ∀ node ∈ nodes, NodeJson node.2)
    (there : ∀ node ∈ nodes, node.2.field "edges" ≠ some .null) :
    Reports (topologyErrors python nodes (.str entry)) (StarShaped nodes entry) := by
  have edges : EdgesThere nodes := by
    intro nodeId node found
    have held := Dict.mem_of_get? found
    exact ⟨(typed _ held).object, (typed _ held).edges, there _ held⟩
  obtain ⟨unreachable, searched, unreachable_iff⟩ := unreachableErrors_reports edges entry
  obtain ⟨star, starred, star_iff⟩ := starErrors_reports typed there python entry
  rw [topologyErrors_several python several, searched, starred]
  refine ⟨unreachable ++ star, rfl, ?_⟩
  rw [List.append_eq_nil_iff, unreachable_iff, star_iff]
  constructor
  · rintro ⟨reachable, back, only⟩
    exact ⟨reachable, back, only⟩
  · rintro ⟨reachable, back, only⟩
    exact ⟨reachable, back, only⟩

/-- The search raises at the entry, if its edges are `null`. -/
theorem unreachableErrors_raises {node : JsonValue} (found : Dict.get? nodes entry = some node)
    (null : node.field "edges" = some .null) : unreachableErrors nodes (.str entry) = .error .typeError := by
  have next : successors nodes (.str entry) = .error .typeError := by
    simp [successors, found, get_null null, JsonValue.iterate]
  have raised : search nodes [] [.str entry] = .error .typeError := by
    rw [search]
    split
    · rename_i impossible
      cases impossible
    · rename_i hash
      cases hash
      rw [dif_neg List.not_mem_nil]
      split
      · rename_i e raised
        rw [next] at raised
        rw [Except.error.inj raised]
      · rename_i impossible
        rw [next] at impossible
        cases impossible
  rw [unreachableErrors, raised]
  rfl

/-- The star check raises at a specialist. -/
theorem starErrors_raises {node : String × JsonValue} (held : node ∈ nodes) (other : node.1 ≠ entry)
    (object : ∃ fields, node.2 = .obj fields) (null : node.2.field "edges" = some .null) :
    ∃ e, starErrors python nodes entry = .error e := by
  have special : node ∈ specialists entry nodes := by
    obtain ⟨fields, is⟩ := object
    rw [specialists, List.mem_filter, is]
    exact ⟨held, by simpa using ⟨other, rfl⟩⟩
  have misses : missesBackEdge entry node.2 = .error .typeError := by
    simp [missesBackEdge, get_null null, JsonValue.contains]
  obtain ⟨e, raised⟩ := collect_raises (e := .typeError)
    (f := fun node => do
      return [(node.1, ← missesBackEdge entry node.2, ← badTargets entry (Dict.keys nodes) node.2)])
    special (by rw [misses]; rfl)
  refine ⟨e, ?_⟩
  rw [starErrors, raised]
  rfl

/-- Edges that are `null` let the check of the topology raise. -/
theorem topologyErrors_raises (several : Several nodes entry) (unique : (Dict.keys nodes).Nodup)
    (typed : ∀ node ∈ nodes, NodeJson node.2) {node : String × JsonValue} (held : node ∈ nodes)
    (null : node.2.field "edges" = some .null) : ∃ e, topologyErrors python nodes (.str entry) = .error e := by
  rw [topologyErrors_several python several]
  by_cases here : node.1 = entry
  · have found : Dict.get? nodes entry = some node.2 := Dict.get?_of_mem unique (here ▸ held)
    exact ⟨.typeError, by rw [unreachableErrors_raises found null]; rfl⟩
  · cases searched : unreachableErrors nodes (.str entry) with
    | error e => exact ⟨e, rfl⟩
    | ok unreachable =>
        obtain ⟨e, raised⟩ := starErrors_raises python held here (typed node held).object null
        exact ⟨e, by rw [raised]; rfl⟩

end Topology

/-! ## The whole graph -/

section Whole

variable (python : Python) {graph : Fields}

/-- The tables of a typed graph. -/
theorem entries_typed {P : JsonValue → Prop} {name : String} (typed : Optional (MapOf P) (Dict.get? graph name)) :
    (Dict.keys (entries graph name)).Nodup ∧ ∀ entry ∈ entries graph name, P entry.2 := by
  unfold entries
  cases found : Dict.get? graph name with
  | none => exact ⟨.nil, nofun⟩
  | some value =>
      rcases typed value found with rfl | ⟨table, rfl, unique, each⟩
      · exact ⟨.nil, nofun⟩
      · exact ⟨unique, each⟩

/-- The tools, or the error that they are `null`. -/
theorem toolsOrError_eq (typed : AgentGraphJson graph) :
    ((toolsOrError graph).1 = [] ↔ Dict.get? graph "tools" ≠ some .null) ∧
      (toolsOrError graph).2 = entries graph "tools" := by
  unfold toolsOrError entries
  cases found : Dict.get? graph "tools" with
  | none => simp
  | some value =>
      rcases typed.tools value found with rfl | ⟨tools, rfl, -⟩
      · simp
      · simp

/-- Without nodes, there is an error. -/
theorem validateGraph_noNodes (accepted : python.parseDict graph = none) (empty : entries graph "nodes" = []) :
    ∃ errors, validateGraph python graph = .ok errors ∧ errors ≠ [] := by
  unfold validateGraph
  split
  · exact ⟨_, rfl, List.cons_ne_nil _ _⟩
  · rw [accepted]
    unfold entries at empty
    cases found : Dict.get? graph "nodes" with
    | none => exact ⟨_, rfl, by simp⟩
    | some value =>
        cases value with
        | obj fields =>
            simp only [found] at empty
            subst empty
            exact ⟨_, rfl, by simp⟩
        | _ => exact ⟨_, rfl, by simp⟩

/-- With nodes, all checks are made. -/
theorem validateGraph_nodes (accepted : python.parseDict graph = none) (some : entries graph "nodes" ≠ []) :
    validateGraph python graph = (do
      let entry := (Dict.get? graph "entry").getD .null
      let nodes := entries graph "nodes"
      let tools := (toolsOrError graph).2
      let unknown ← unknownEntry python entry (Dict.keys nodes)
      let ofNodes ← collect (fun node => nodeErrors python (Dict.keys nodes) (Dict.keys tools) node.1 node.2) nodes
      let ofTools ← collect (fun tool => toolErrors tool.1 tool.2) tools
      let topology ← topologyErrors python nodes entry
      return entryErrors entry ++ (toolsOrError graph).1 ++ unknown ++ ofNodes ++ ofTools ++ topology) := by
  have nonempty : ¬graph.isEmpty = true := by
    intro empty
    rw [List.isEmpty_iff] at empty
    subst empty
    exact some rfl
  unfold validateGraph
  rw [if_neg nonempty, accepted]
  unfold entries at some ⊢
  cases found : Dict.get? graph "nodes" with
  | none => simp [found] at some
  | some value =>
      cases value with
      | obj fields =>
          cases fields with
          | nil => simp [found] at some
          | cons node more => rfl
      | _ => simp [found] at some

/-- An entry is missing, or a string. -/
theorem entry_cases (typed : AgentGraphJson graph) :
    (Dict.get? graph "entry").getD .null = .null ∧ (∀ s, Dict.get? graph "entry" ≠ some (.str s)) ∨
      ∃ s, Dict.get? graph "entry" = some (.str s) := by
  cases found : Dict.get? graph "entry" with
  | none => exact .inl ⟨rfl, nofun⟩
  | some value =>
      rcases typed.entry value found with rfl | ⟨s, rfl⟩
      · exact .inl ⟨rfl, by simp⟩
      · exact .inr ⟨s, rfl⟩

/-- An entry that is no node. -/
theorem unknownEntry_reports (entry : String) (nodeIds : List String) :
    Reports (unknownEntry python (.str entry) nodeIds) (entry = "" ∨ entry ∈ nodeIds) := by
  unfold unknownEntry
  by_cases empty : entry = ""
  · exact ⟨[], by simp [empty, JsonValue.truthy], by simp [empty]⟩
  · by_cases known : entry ∈ nodeIds
    · exact ⟨[], by simp [empty, known, JsonValue.truthy, JsonValue.inSet, JsonValue.hashKey], by simp [known]⟩
    · exact ⟨_, by simp only [JsonValue.truthy, bne_iff_ne, ne_eq, empty, not_false_eq_true, if_true, JsonValue.inSet,
        JsonValue.hashKey, mem_map_string, known, decide_false, ok_bind, pure_eq_ok]; rfl, by simp [empty, known]⟩

/-- **What validation finds wrong**, if it returns. -/
structure Checked (graph nodes tools : Fields) (entry : String) : Prop where
  entry_ne : entry ≠ ""
  entry_node : entry ∈ Dict.keys nodes
  toolMap : Dict.get? graph "tools" ≠ some .null
  node : ∀ node ∈ nodes, node.2.HasText (strip · ≠ "") "system_prompt" ∧
    (node.2.field "edges" ≠ some .null ∧
      ∀ target, .str target ∈ node.2.items "edges" → target ∈ Dict.keys nodes) ∧
    node.2.field "tools" ≠ some .null ∧ ∀ target, .str target ∈ node.2.items "tools" → target ∈ Dict.keys tools
  tool : ∀ tool ∈ tools, tool.2.HasText (· ≠ "") "description" ∧ tool.2.HasText (· ≠ "") "script" ∧
    tool.2.field "params" ≠ some .null ∧ ∀ param ∈ tool.2.items "params", param.HasText (· ≠ "") "name"
  topology : 1 < nodes.length → StarShaped nodes entry

/-- A node has one key. -/
theorem length_keys (nodes : Fields) : (Dict.keys nodes).length = nodes.length := List.length_map _

/-- The checks are those of a valid graph, and what else validation asks for. -/
theorem checked_iff {nodes tools : Fields} {entry : String} (is : Dict.get? graph "entry" = some (.str entry)) :
    Checked graph nodes tools entry ↔ ValidGraph graph nodes tools entry ∧ Strict graph nodes tools := by
  constructor
  · intro checked
    refine ⟨⟨is, checked.entry_node, fun node held => (checked.node node held).1,
      fun node held => (checked.node node held).2.1.2, fun node held => (checked.node node held).2.2.2,
      fun tool held => (checked.tool tool held).1, fun tool held => (checked.tool tool held).2.1,
      fun tool held => (checked.tool tool held).2.2.2, fun more => (checked.topology more).reachable,
      fun more => (checked.topology more).back, ?_⟩, ⟨?_, checked.toolMap,
      fun node held => (checked.node node held).2.1.1, fun node held => (checked.node node held).2.2.1,
      fun tool held => (checked.tool tool held).2.2.1, ?_⟩⟩
    · intro more node held other target edge known
      exact .inl ((checked.topology more).only node held other target edge known)
    · rw [is]
      simpa using checked.entry_ne
    · -- An edge of a specialist to itself is an edge to a node that is not the entry.
      intro more node held other edge
      have different : node.1 ≠ entry := by
        rintro rfl
        exact other is
      have known : node.1 ∈ Dict.keys nodes := List.mem_map.2 ⟨node, held, rfl⟩
      exact different ((checked.topology more).only node held different node.1 edge known)
  · rintro ⟨valid, strict⟩
    refine ⟨?_, valid.entry_node, strict.toolMap, ?_, ?_, ?_⟩
    · rintro rfl
      exact strict.entry is
    · intro node held
      exact ⟨valid.prompts node held, ⟨strict.edges node held, valid.edges node held⟩,
        strict.toolRefs node held, valid.toolRefs node held⟩
    · intro tool held
      exact ⟨valid.descriptions tool held, valid.scripts tool held, strict.params tool held,
        valid.params tool held⟩
    · intro more
      refine ⟨valid.reachable more, valid.back more, ?_⟩
      intro node held other target edge known
      rcases valid.star more node held other target edge known with entry | self
      · exact entry
      · refine absurd (self ▸ edge) (strict.self more node held ?_)
        rw [is]
        simpa using Ne.symm other

/-- The topology check, if no `null` is in its way. -/
theorem topologyErrors_calm {nodes : Fields} {entry : String} (is : Dict.get? graph "entry" = some (.str entry))
    (typed : ∀ node ∈ nodes, NodeJson node.2) (calm : ¬Raises graph nodes) :
    Reports (topologyErrors python nodes (.str entry)) (Several nodes entry → StarShaped nodes entry) := by
  by_cases several : Several nodes entry
  · have there : ∀ node ∈ nodes, node.2.field "edges" ≠ some .null := by
      intro node held null
      obtain ⟨nonempty, known, more⟩ := several
      rw [length_keys] at more
      exact calm ⟨⟨entry, nonempty, is, known⟩, more, node, held, null⟩
    exact (topologyErrors_reports python several typed there).congr (by simp [several])
  · exact ⟨[], topologyErrors_skipped python several, by simp [several]⟩

/-- An entry that is empty. -/
theorem entryErrors_str (entry : String) : entryErrors (.str entry) = [] ↔ entry ≠ "" := by
  by_cases empty : entry = ""
  · simp [entryErrors, empty]
  · simp [entryErrors, empty]

/-- **Without a `null` in its way, validation returns**, and finds no error in a checked graph only. -/
theorem validateGraph_reports (accepted : python.parseDict graph = none) (typed : AgentGraphJson graph)
    (calm : ¬Raises graph (entries graph "nodes")) :
    Reports (validateGraph python graph)
      (∃ entry, Dict.get? graph "entry" = some (.str entry) ∧
        Checked graph (entries graph "nodes") (entries graph "tools") entry) := by
  by_cases empty : entries graph "nodes" = []
  -- Without nodes the entry is unknown.
  · obtain ⟨errors, returns, wrong⟩ := validateGraph_noNodes python accepted empty
    refine ⟨errors, returns, iff_of_false wrong ?_⟩
    rintro ⟨entry, -, checked⟩
    have known := checked.entry_node
    rw [empty] at known
    cases known
  obtain ⟨unique, nodesTyped⟩ := entries_typed typed.nodes
  obtain ⟨-, toolsTyped⟩ := entries_typed typed.tools
  obtain ⟨toolMap, tools⟩ := toolsOrError_eq typed
  rw [validateGraph_nodes python accepted empty, tools]
  -- The errors of the nodes and of the tools, each with what no error means.
  obtain ⟨ofNodes, nodesRan, nodes_iff⟩ := reports_collect fun node held =>
    nodeErrors_reports (nodesTyped node held) python (Dict.keys (entries graph "nodes"))
      (Dict.keys (entries graph "tools")) node.1
  obtain ⟨ofTools, toolsRan, tools_iff⟩ := reports_collect fun tool held =>
    toolErrors_reports (toolsTyped tool held) tool.1
  rcases entry_cases typed with ⟨null, missing⟩ | ⟨entry, is⟩
  -- Without an entry there is one error.
  · rw [null]
    have unknown : unknownEntry python .null (Dict.keys (entries graph "nodes")) = .ok [] := rfl
    have topology : topologyErrors python (entries graph "nodes") .null = .ok [] := rfl
    simp only [unknown, nodesRan, toolsRan, topology, ok_bind, pure_eq_ok]
    refine ⟨_, rfl, iff_of_false ?_ ?_⟩
    · simp [entryErrors]
    · rintro ⟨entry, is, -⟩
      exact missing entry is
  -- With one, each part reports what it checks.
  · have entry_eq : (Dict.get? graph "entry").getD .null = .str entry := by rw [is]; rfl
    obtain ⟨unknown, lookedUp, unknown_iff⟩ :=
      unknownEntry_reports python entry (Dict.keys (entries graph "nodes"))
    obtain ⟨topology, shaped, topology_iff⟩ := topologyErrors_calm python is nodesTyped calm
    rw [entry_eq]
    simp only [lookedUp, nodesRan, toolsRan, shaped, ok_bind, pure_eq_ok]
    refine ⟨_, rfl, ?_⟩
    simp only [List.append_eq_nil_iff, entryErrors_str, toolMap, unknown_iff, nodes_iff, tools_iff, topology_iff]
    constructor
    · rintro ⟨⟨⟨⟨⟨nonempty, toolMap⟩, known⟩, node⟩, tool⟩, star⟩
      have known := known.resolve_left nonempty
      refine ⟨entry, is, nonempty, known, toolMap, node, tool, fun more => star ⟨nonempty, known, ?_⟩⟩
      rwa [length_keys]
    · rintro ⟨entry', is', checked⟩
      obtain rfl : entry = entry' := by simpa using is.symm.trans is'
      refine ⟨⟨⟨⟨⟨checked.entry_ne, checked.toolMap⟩, .inr checked.entry_node⟩, checked.node⟩, checked.tool⟩, ?_⟩
      rintro ⟨-, -, more⟩
      rw [length_keys] at more
      exact checked.topology more

/-- **With one, it raises.** -/
theorem validateGraph_raises (accepted : python.parseDict graph = none) (typed : AgentGraphJson graph)
    (raises : Raises graph (entries graph "nodes")) : ∃ e, validateGraph python graph = .error e := by
  obtain ⟨⟨entry, nonempty, is, known⟩, more, node, held, null⟩ := raises
  obtain ⟨unique, nodesTyped⟩ := entries_typed typed.nodes
  have entry_eq : (Dict.get? graph "entry").getD .null = .str entry := by rw [is]; rfl
  have several : Several (entries graph "nodes") entry := ⟨nonempty, known, by rwa [length_keys]⟩
  obtain ⟨e, raised⟩ := topologyErrors_raises python several unique nodesTyped held null
  cases ran : validateGraph python graph with
  | error e => exact ⟨e, rfl⟩
  | ok errors =>
      rw [validateGraph_nodes python accepted (List.ne_nil_of_mem held)] at ran
      obtain ⟨unknown, -, ran⟩ := bind_eq_ok.1 ran
      obtain ⟨ofNodes, -, ran⟩ := bind_eq_ok.1 ran
      obtain ⟨ofTools, -, ran⟩ := bind_eq_ok.1 ran
      obtain ⟨topology, shaped, -⟩ := bind_eq_ok.1 ran
      rw [entry_eq, raised] at shaped
      cases shaped

/-- What is checked is that the graph is valid and strict. -/
theorem valid_and_strict :
    (∃ entry, Dict.get? graph "entry" = some (.str entry) ∧
      Checked graph (entries graph "nodes") (entries graph "tools") entry) ↔
      Valid graph ∧ Strict graph (entries graph "nodes") (entries graph "tools") := by
  constructor
  · rintro ⟨entry, is, checked⟩
    obtain ⟨valid, strict⟩ := (checked_iff is).1 checked
    exact ⟨⟨entry, valid⟩, strict⟩
  · rintro ⟨⟨entry, valid⟩, strict⟩
    exact ⟨entry, valid.entry_eq, (checked_iff valid.entry_eq).2 ⟨valid, strict⟩⟩

/-- **Validation returns, and reports no error for the valid graphs only, if and only if** nothing makes it
raise, and the graph, if it is valid, has nothing that validation takes for an error. -/
theorem validate_graph_iff (python : Python) {graph : Fields} (accepted : python.parseDict graph = none)
    (typed : AgentGraphJson graph) :
    (∃ errors, validateGraph python graph = .ok errors ∧ (errors = [] ↔ Valid graph)) ↔
      ¬Raises graph (entries graph "nodes") ∧
        (Valid graph → Strict graph (entries graph "nodes") (entries graph "tools")) := by
  constructor
  · rintro ⟨errors, returns, exact⟩
    have calm : ¬Raises graph (entries graph "nodes") := by
      intro raises
      obtain ⟨e, raised⟩ := validateGraph_raises python accepted typed raises
      rw [returns] at raised
      cases raised
    obtain ⟨errors', returns', checked⟩ := validateGraph_reports python accepted typed calm
    obtain rfl : errors = errors' := Except.ok.inj (returns.symm.trans returns')
    refine ⟨calm, fun valid => ?_⟩
    exact (valid_and_strict.1 (checked.1 (exact.2 valid))).2
  · rintro ⟨calm, strict⟩
    obtain ⟨errors, returns, checked⟩ := validateGraph_reports python accepted typed calm
    refine ⟨errors, returns, ?_⟩
    rw [checked, valid_and_strict]
    exact ⟨And.left, fun valid => ⟨valid, strict valid⟩⟩

end Whole

/-! ## Two nodes -/

/-- Every graph is accepted. -/
def accepting : Python := { parseDict := fun _ => none, str := fun _ => "" }

/-- A dispatcher with these edges, and one specialist. -/
def twoNodes (edges : JsonValue) : Fields :=
  [("entry", .str "greet"), ("nodes", .obj [
    ("greet", .obj [("system_prompt", .str "Greet."), ("edges", edges)]),
    ("book", .obj [("system_prompt", .str "Book."), ("edges", .arr [.str "greet"])])])]

/-- A graph of two nodes whose edges are strings or `null` is well typed. -/
theorem twoNodes_typed {edges : JsonValue} (typed : edges = .null ∨ IsStrings edges) : AgentGraphJson (twoNodes edges) := by
  have dispatcher : NodeJson (.obj [("system_prompt", .str "Greet."), ("edges", edges)]) := by
    refine ⟨⟨_, rfl⟩, ?_, ?_, nofun⟩
    · rintro v ⟨⟩
      exact .inr ⟨_, rfl⟩
    · rintro v ⟨⟩
      exact typed
  have specialist : NodeJson (.obj [("system_prompt", .str "Book."), ("edges", .arr [.str "greet"])]) := by
    refine ⟨⟨_, rfl⟩, ?_, ?_, nofun⟩
    · rintro v ⟨⟩
      exact .inr ⟨_, rfl⟩
    · rintro v ⟨⟩
      exact .inr ⟨["greet"], rfl⟩
  refine ⟨?_, ?_, nofun⟩
  · rintro v ⟨⟩
    exact .inr ⟨_, rfl⟩
  · rintro v ⟨⟩
    refine .inr ⟨_, rfl, by simp [Dict.keys], ?_⟩
    rintro node held
    rcases List.mem_pair.1 held with rfl | rfl
    · exact dispatcher
    · exact specialist

/-- With an edge each, all is well. -/
theorem validate_graph_iff_star :
    ∃ errors, validateGraph accepting (twoNodes (.arr [.str "book"])) = .ok errors ∧
      (errors = [] ↔ Valid (twoNodes (.arr [.str "book"]))) := by
  refine (validate_graph_iff accepting rfl (twoNodes_typed (.inr ⟨["book"], rfl⟩))).2 ⟨?_, fun _ => ?_⟩
  · rintro ⟨-, -, node, held, null⟩
    rcases List.mem_pair.1 held with rfl | rfl
    · cases null
    · cases null
  · refine ⟨by simp [twoNodes, Dict.get?], nofun, ?_, ?_, nofun, ?_⟩
    · rintro node held null
      rcases List.mem_pair.1 held with rfl | rfl
      · cases null
      · cases null
    · rintro node held null
      rcases List.mem_pair.1 held with rfl | rfl
      · cases null
      · cases null
    · rintro - node held other edge
      rcases List.mem_pair.1 held with rfl | rfl
      · exact other rfl
      · simp [JsonValue.items, JsonValue.field, Dict.get?] at edge

/-- If the edges of the dispatcher are `null`, validation raises. -/
theorem null_edges_raise :
    accepting.parseDict (twoNodes .null) = none ∧ AgentGraphJson (twoNodes .null) ∧
      ¬∃ errors, validateGraph accepting (twoNodes .null) = .ok errors := by
  have typed : AgentGraphJson (twoNodes .null) := twoNodes_typed (.inl rfl)
  refine ⟨rfl, typed, ?_⟩
  rintro ⟨errors, returns⟩
  obtain ⟨e, raised⟩ := validateGraph_raises accepting rfl typed
    ⟨⟨"greet", by decide, rfl, by decide⟩, by decide, _, List.mem_cons_self, rfl⟩
  rw [returns] at raised
  cases raised

end Feros
