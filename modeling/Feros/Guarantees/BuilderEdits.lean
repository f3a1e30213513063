import Feros.Builder.EditOps
import Mathlib.Data.List.Induction
/-! # Edits leave no dangling references

A config is seen as its entry, its nodes and its tools (`view`).

* **`Applied`** says what each edit does to them, and `applyOne_applied` that `applyOne` does it.
* **`Traced`** is the invariant: a reference to something that is not there was written by an edit, after
  the last one that deleted its target.
* **`edits_close`** is what follows for a list of edits. -/

namespace Feros

/-! ## A config as a graph -/

/-- **A config, as far as references go.** -/
structure ConfigView where
  entry : Option JsonValue
  nodes : Fields
  tools : Fields

/-- What a config has. -/
def view (cfg : Fields) : ConfigView :=
  ⟨Dict.get? cfg "entry", entries cfg "nodes", entries cfg "tools"⟩

/-- A node refers to nodes and to tools. -/
inductive RefKind where
  | edge
  | tool
  deriving DecidableEq

namespace RefKind

/-- The field of a node with the references. -/
def field : RefKind → String
  | edge => "edges"
  | tool => "tools"

/-- What they refer to. -/
def targets (kind : RefKind) (v : ConfigView) : Fields :=
  match kind with
  | edge => v.nodes
  | tool => v.tools

/-- The edit that deletes a target. -/
def delete (kind : RefKind) (target : String) : EditOp :=
  match kind with
  | edge => .deleteNode target
  | tool => .deleteTool target

/-- The references of a node. -/
def refs (kind : RefKind) (node : JsonValue) : List JsonValue :=
  match node with
  | .obj fields =>
    match Dict.get? fields kind.field with
    | some (.arr refs) => refs
    | _ => []
  | _ => []

end RefKind

/-- **A node has a reference.** -/
def ConfigView.HasRef (v : ConfigView) (kind : RefKind) (nodeId : String) (ref : JsonValue) : Prop :=
  ∃ node, Dict.get? v.nodes nodeId = some node ∧ ref ∈ kind.refs node

/-- The target of a reference is there. -/
def ConfigView.Defines (v : ConfigView) (kind : RefKind) (ref : JsonValue) : Prop :=
  ∃ target, ref = .str target ∧ Dict.has (kind.targets v) target = true

/-- The entry is a node. -/
def ConfigView.EntryIsNode (v : ConfigView) : Prop :=
  ∃ nodeId, v.entry = some (.str nodeId) ∧ Dict.has v.nodes nodeId = true

/-- **The entry is a node, and all references have their targets.** -/
structure ConfigView.Closed (v : ConfigView) : Prop where
  entry : v.EntryIsNode
  defined : ∀ kind nodeId ref, v.HasRef kind nodeId ref → v.Defines kind ref

/-! ## What an edit does -/

/-- The node that an edit adds. -/
def newNode (fields : Fields) : Fields :=
  Dict.setDefault (Dict.setDefault fields "tools" (.arr [])) "edges" (.arr [])

/-- **What an edit does to the entry, the nodes and the tools.** -/
inductive Applied (v : ConfigView) : EditOp → ConfigView → Prop where
  | setTopLevel {key value valid} : Applied v (.setTopLevel key value valid) v
  | setEntry {nodeId} (found : Dict.has v.nodes nodeId = true) :
      Applied v (.setEntry nodeId) { v with entry := some (.str nodeId) }
  | setNodeFields {nodeId patch fields} (found : Dict.get? v.nodes nodeId = some (.obj fields)) :
      Applied v (.setNodeFields nodeId patch)
        { v with nodes := Dict.set v.nodes nodeId (.obj (Dict.update fields patch.fields)) }
  | upsertTool {toolId patch} (tool : JsonValue) :
      Applied v (.upsertTool toolId patch) { v with tools := Dict.set v.tools toolId tool }
  | deleteTool {toolId} : Applied v (.deleteTool toolId)
      { v with
        nodes := Dict.mapValues (removeRef "tools" toolId) v.nodes
        tools := Dict.erase v.tools toolId }
  | addNode {nodeId patch} (fresh : Dict.has v.nodes nodeId = false) :
      Applied v (.addNode nodeId patch)
        { v with nodes := Dict.set v.nodes nodeId (.obj (newNode patch.fields)) }
  | deleteNode {nodeId} (other : v.entry ≠ some (.str nodeId)) :
      Applied v (.deleteNode nodeId)
        { v with nodes := Dict.mapValues (removeRef "edges" nodeId) (Dict.erase v.nodes nodeId) }

/-- The part that is there. -/
theorem part_of_get? {cfg : Fields} {name : String} {value : JsonValue}
    (found : Dict.get? cfg name = some value) : part cfg name = value := by
  simp [part, found]

/-- The entries that are there. -/
theorem entries_of_get? {cfg : Fields} {name : String} {fields : Fields}
    (found : Dict.get? cfg name = some (.obj fields)) : entries cfg name = fields := by
  simp [entries, found]

/-- The entry of the view is that of the config. -/
@[simp] theorem get?_entry_view (cfg : Fields) : (view cfg).entry = Dict.get? cfg "entry" := rfl

/-- Writing another field changes nothing. -/
theorem view_set {cfg : Fields} {key : String} {value : JsonValue} (entry : key ≠ "entry") (nodes : key ≠ "nodes")
    (tools : key ≠ "tools") : view (Dict.set cfg key value) = view cfg := by
  simp [view, entries, Dict.get?_set, entry, nodes, tools]

/-- The entry is set. -/
theorem view_set_entry (cfg : Fields) (value : JsonValue) :
    view (Dict.set cfg "entry" value) = { view cfg with entry := some value } := by
  simp [view, entries, Dict.get?_set]

/-- The nodes are set. -/
theorem view_set_nodes (cfg nodes : Fields) :
    view (Dict.set cfg "nodes" (.obj nodes)) = { view cfg with nodes := nodes } := by
  simp [view, entries, Dict.get?_set]

/-- The tools are set. -/
theorem view_set_tools (cfg tools : Fields) :
    view (Dict.set cfg "tools" (.obj tools)) = { view cfg with tools := tools } := by
  simp [view, entries, Dict.get?_set]

/-- A key that `set_top_level` may write is none of these. -/
theorem ne_of_validateKey {key : String} (valid : validateKey key = .ok ()) :
    key ≠ "entry" ∧ key ≠ "nodes" ∧ key ≠ "tools" := by
  have allowed : key ∈ topLevelAllowed := by
    by_contra missing
    rw [validateKey, if_neg missing] at valid
    cases valid
  simp only [topLevelAllowed, List.mem_cons, List.not_mem_nil, or_false] at allowed
  rcases allowed with rfl | rfl | rfl <;> decide

/-- The tools of the view are those of the config. -/
theorem view_tools {cfg tools : Fields} (kind : part cfg "tools" = .obj tools) : (view cfg).tools = tools := by
  unfold part at kind
  cases found : Dict.get? cfg "tools" with
  | none => simp [found] at kind
  | some value => exact entries_of_get? (by simpa [found] using kind)

/-- **The code does to the config what the edit says.** -/
theorem applyOne_applied {cfg cfg' nodes : Fields} (there : Dict.get? cfg "nodes" = some (.obj nodes))
    {edit : EditOp} (applied : applyOne cfg edit = .ok cfg') :
    Applied (view cfg) edit (view cfg') ∧ ∃ nodes', Dict.get? cfg' "nodes" = some (.obj nodes') := by
  have view_nodes : (view cfg).nodes = nodes := entries_of_get? there
  unfold applyOne at applied
  rw [part_of_get? there] at applied
  cases edit with
  | setTopLevel key value valid =>
      obtain ⟨entry, nodes', tools⟩ := ne_of_validateKey valid
      obtain rfl := Except.ok.inj applied
      rw [view_set entry nodes' tools]
      exact ⟨.setTopLevel, nodes, by rw [Dict.get?_set_of_ne _ _ nodes', there]⟩
  | setEntry nodeId =>
      by_cases found : Dict.has nodes nodeId = true
      · simp [JsonValue.contains, found] at applied
        subst applied
        rw [view_set_entry]
        exact ⟨.setEntry (view_nodes ▸ found), nodes, by rw [Dict.get?_set_of_ne _ _ (by decide), there]⟩
      · simp [JsonValue.contains, found, JsonValue.keys] at applied
  | setNodeFields nodeId patch =>
      by_cases found : Dict.has nodes nodeId = true
      · obtain ⟨node, here⟩ := Option.isSome_iff_exists.1 found
        cases node with
        | obj fields =>
            simp [JsonValue.contains, found, JsonValue.getItem, here, JsonValue.update, JsonValue.setItem] at applied
            subst applied
            rw [view_set_nodes, ← view_nodes]
            exact ⟨.setNodeFields (view_nodes ▸ here), _, Dict.get?_set_self _ _ _⟩
        | _ => simp [JsonValue.contains, found, JsonValue.getItem, here, JsonValue.update] at applied
      · simp [JsonValue.contains, found] at applied
  | upsertTool toolId patch =>
      have whole : ∃ tool tools, (part cfg "tools").setItem toolId tool = .ok tools ∧
          cfg' = Dict.set cfg "tools" tools := by
        obtain ⟨found, -, rest⟩ := bind_eq_ok.1 applied
        cases found with
        | true =>
            simp only [if_true] at rest
            obtain ⟨item, -, rest⟩ := bind_eq_ok.1 rest
            obtain ⟨tool, -, rest⟩ := bind_eq_ok.1 rest
            obtain ⟨tools, set, rest⟩ := bind_eq_ok.1 rest
            exact ⟨tool, tools, set, (Except.ok.inj rest).symm⟩
        | false =>
            simp only [Bool.false_eq_true, if_false] at rest
            obtain ⟨tools, set, rest⟩ := bind_eq_ok.1 rest
            exact ⟨_, tools, set, (Except.ok.inj rest).symm⟩
      obtain ⟨tool, tools, set, rfl⟩ := whole
      obtain ⟨fields, kind, rfl⟩ := JsonValue.setItem_eq_ok set
      rw [view_set_tools, ← view_tools kind]
      exact ⟨.upsertTool tool, nodes, by rw [Dict.get?_set_of_ne _ _ (by decide), there]⟩
  | deleteTool toolId =>
      obtain ⟨found, -, rest⟩ := bind_eq_ok.1 applied
      cases found with
      | true =>
          simp only [if_true] at rest
          obtain ⟨tools, deleted, rest⟩ := bind_eq_ok.1 rest
          obtain ⟨fields, kind, rfl⟩ := JsonValue.delItem_eq_ok deleted
          simp only [JsonValue.forValues, ok_bind, pure_eq_ok, Except.ok.injEq] at rest
          subst rest
          rw [view_set_nodes, view_set_tools, ← view_tools kind, ← view_nodes]
          exact ⟨.deleteTool, _, Dict.get?_set_self _ _ _⟩
      | false =>
          simp only [Bool.false_eq_true, if_false] at rest
          obtain ⟨names, -, impossible⟩ := bind_eq_ok.1 rest
          cases impossible
  | addNode nodeId patch =>
      by_cases found : Dict.has nodes nodeId = true
      · simp [JsonValue.contains, found] at applied
      · simp [JsonValue.contains, found, JsonValue.setItem] at applied
        subst applied
        rw [view_set_nodes, ← view_nodes]
        refine ⟨.addNode ?_, _, Dict.get?_set_self _ _ _⟩
        rw [view_nodes]
        simpa using found
  | deleteNode nodeId =>
      by_cases found : Dict.has nodes nodeId = true
      · by_cases entry : (part cfg "entry").isStr nodeId = true
        · simp [JsonValue.contains, found, entry] at applied
        · simp [JsonValue.contains, found, entry, JsonValue.delItem, JsonValue.forValues] at applied
          subst applied
          rw [view_set_nodes, ← view_nodes]
          refine ⟨.deleteNode fun same => entry ?_, _, Dict.get?_set_self _ _ _⟩
          rw [part_of_get? same]
          exact JsonValue.isStr_iff.2 rfl
      · simp [JsonValue.contains, found, JsonValue.keys] at applied

/-! ## What becomes of references -/

/-- Items that are validated are strings. -/
theorem strings_of_validateStringItems {fieldName : String} {i : ℕ} {items : List JsonValue}
    (valid : validateStringItems fieldName i items = .ok ()) : ∀ item ∈ items, ∃ s, item = .str s := by
  induction items generalizing i with
  | nil => simp
  | cons item items ih =>
      intro item' held
      cases item with
      | str s =>
          rcases List.mem_cons.1 held with rfl | later
          · exact ⟨s, rfl⟩
          · exact ih valid item' later
      | _ => cases valid

/-- An edit refers by strings. -/
theorem refs_str {fields : Fields} (valid : validateNodeFieldTypes fields = .ok ()) (kind : RefKind) :
    ∀ ref ∈ kind.refs (.obj fields), ∃ target, ref = .str target := by
  obtain ⟨_, tools, rest⟩ := bind_eq_ok.1 valid
  obtain ⟨_, edges, _⟩ := bind_eq_ok.1 rest
  have checked : validateField fields kind.field (fun value => validateStringList value kind.field) = .ok () := by
    cases kind with
    | edge => exact edges
    | tool => exact tools
  intro ref held
  unfold RefKind.refs at held
  unfold validateField at checked
  cases found : Dict.get? fields kind.field with
  | none => simp [found] at held
  | some value =>
      rw [found] at checked
      cases value with
      | arr items =>
          simp only [found] at held
          exact strings_of_validateStringItems checked ref held
      | _ => simp [found] at held

/-- The references of a node that an edit added. -/
theorem refs_newNode (kind : RefKind) (fields : Fields) :
    kind.refs (.obj (newNode fields)) = kind.refs (.obj fields) := by
  have lookup : Dict.get? (newNode fields) kind.field = some ((Dict.get? fields kind.field).getD (.arr [])) := by
    cases kind <;> simp [newNode, Dict.get?_setDefault, RefKind.field]
  unfold RefKind.refs
  simp only [lookup]
  cases Dict.get? fields kind.field with
  | none => rfl
  | some value => rfl

/-- The references of a node that an edit updated. -/
theorem refs_update (kind : RefKind) (fields : Fields) {patch : Fields} (unique : (Dict.keys patch).Nodup) :
    kind.refs (.obj (Dict.update fields patch)) = kind.refs (.obj patch) ∨
      kind.refs (.obj (Dict.update fields patch)) = kind.refs (.obj fields) := by
  have lookup := Dict.get?_update fields unique kind.field
  unfold RefKind.refs
  simp only [lookup]
  cases Dict.get? patch kind.field with
  | none => exact .inr rfl
  | some value => exact .inl rfl

/-- **A deletion removes all references to what it deletes, and no others.** -/
theorem mem_refs_removeRef {kind kind' : RefKind} {target : String} {node ref : JsonValue}
    (held : ref ∈ kind.refs (removeRef kind'.field target node)) :
    ref ∈ kind.refs node ∧ (kind = kind' → ref ≠ .str target) := by
  cases node with
  | obj fields =>
      unfold removeRef at held
      cases found : Dict.get? fields kind'.field with
      | none =>
          simp only [found, RefKind.refs, Dict.get?_set] at held
          by_cases same : kind'.field = kind.field
          · simp [same] at held
          · simp only [same, if_false] at held
            exact ⟨held, fun here => absurd (congrArg RefKind.field here.symm) same⟩
      | some value =>
          cases value with
          | arr refs =>
              simp only [found, RefKind.refs, Dict.get?_set] at held
              by_cases same : kind'.field = kind.field
              · simp only [same, if_true, List.mem_filter] at held
                refine ⟨?_, fun _ is => ?_⟩
                · simp only [RefKind.refs, ← same, found]
                  exact held.1
                · simp [is] at held
              · simp only [same, if_false] at held
                exact ⟨held, fun here => absurd (congrArg RefKind.field here.symm) same⟩
          | _ =>
              simp only [found] at held
              refine ⟨held, fun here => ?_⟩
              subst here
              simp [RefKind.refs, found] at held
  | _ => cases held

/-- **An edit writes a reference.** -/
def EditOp.Writes (kind : RefKind) (nodeId target : String) : EditOp → Prop
  | .setNodeFields nodeId' patch => nodeId' = nodeId ∧ .str target ∈ kind.refs (.obj patch.fields)
  | .addNode nodeId' patch => nodeId' = nodeId ∧ .str target ∈ kind.refs (.obj patch.fields)
  | _ => False

/-- The fields of a patch have their types. -/
theorem validateNodeFieldTypes_of_patch (patch : Patch validateNodePatch) :
    validateNodeFieldTypes patch.fields = .ok () := by
  obtain ⟨_, _, valid⟩ := bind_eq_ok.1 patch.valid
  exact valid

/-- The fields of a new node have their types. -/
theorem validateNodeFieldTypes_of_newNode (patch : Patch validateNewNode) :
    validateNodeFieldTypes patch.fields = .ok () := by
  obtain ⟨_, _, rest⟩ := bind_eq_ok.1 patch.valid
  obtain ⟨_, valid, _⟩ := bind_eq_ok.1 rest
  exact valid

variable {v v' : ConfigView} {edit : EditOp}

/-- **A reference that is there after an edit** was there before and is not to what the edit deletes, or
the edit writes it. -/
theorem Applied.hasRef (applied : Applied v edit v') {kind : RefKind} {nodeId : String} {ref : JsonValue}
    (has : v'.HasRef kind nodeId ref) :
    (v.HasRef kind nodeId ref ∧ ∀ target, ref = .str target → edit ≠ kind.delete target) ∨
      ∃ target, ref = .str target ∧ edit.Writes kind nodeId target := by
  obtain ⟨node, found, held⟩ := has
  cases applied with
  | setTopLevel => exact .inl ⟨⟨node, found, held⟩, fun target _ => by cases kind <;> exact nofun⟩
  | setEntry => exact .inl ⟨⟨node, found, held⟩, fun target _ => by cases kind <;> exact nofun⟩
  | upsertTool => exact .inl ⟨⟨node, found, held⟩, fun target _ => by cases kind <;> exact nofun⟩
  | @setNodeFields nodeId' patch fields here =>
      rw [Dict.get?_set] at found
      by_cases same : nodeId' = nodeId
      · rw [if_pos same] at found
        obtain rfl := Option.some.inj found
        -- The patch replaces all references of this kind, or none.
        rcases refs_update kind fields patch.unique with written | kept
        · rw [written] at held
          obtain ⟨target, rfl⟩ := refs_str (validateNodeFieldTypes_of_patch patch) kind ref held
          exact .inr ⟨target, rfl, same, held⟩
        · rw [kept] at held
          exact .inl ⟨⟨_, same ▸ here, held⟩, fun target _ => by cases kind <;> exact nofun⟩
      · rw [if_neg same] at found
        exact .inl ⟨⟨node, found, held⟩, fun target _ => by cases kind <;> exact nofun⟩
  | @addNode nodeId' patch fresh =>
      rw [Dict.get?_set] at found
      by_cases same : nodeId' = nodeId
      · rw [if_pos same] at found
        obtain rfl := Option.some.inj found
        rw [refs_newNode] at held
        obtain ⟨target, rfl⟩ := refs_str (validateNodeFieldTypes_of_newNode patch) kind ref held
        exact .inr ⟨target, rfl, same, held⟩
      · rw [if_neg same] at found
        exact .inl ⟨⟨node, found, held⟩, fun target _ => by cases kind <;> exact nofun⟩
  | @deleteTool toolId =>
      rw [Dict.get?_mapValues] at found
      obtain ⟨node', here, rfl⟩ := Option.map_eq_some_iff.1 found
      obtain ⟨before, other⟩ : ref ∈ kind.refs node' ∧ (kind = .tool → ref ≠ .str toolId) :=
        mem_refs_removeRef held
      refine .inl ⟨⟨node', here, before⟩, fun target is deleted => ?_⟩
      cases kind with
      | edge => cases deleted
      | tool =>
          cases deleted
          exact other rfl is
  | @deleteNode nodeId' =>
      rw [Dict.get?_mapValues] at found
      obtain ⟨node', here, rfl⟩ := Option.map_eq_some_iff.1 found
      obtain ⟨before, other⟩ : ref ∈ kind.refs node' ∧ (kind = .edge → ref ≠ .str nodeId') :=
        mem_refs_removeRef held
      rw [Dict.get?_erase] at here
      split at here
      · cases here
      · refine .inl ⟨⟨node', here, before⟩, fun target is deleted => ?_⟩
        cases kind with
        | edge =>
            cases deleted
            exact other rfl is
        | tool => cases deleted

/-- **A target stays**, unless the edit deletes it. -/
theorem Applied.has_targets (applied : Applied v edit v') {kind : RefKind} {target : String}
    (has : Dict.has (kind.targets v) target = true) (kept : edit ≠ kind.delete target) :
    Dict.has (kind.targets v') target = true := by
  cases applied with
  | setTopLevel => exact has
  | setEntry => cases kind <;> exact has
  | setNodeFields => cases kind with
    | edge => exact Dict.has_set.2 (.inr has)
    | tool => exact has
  | upsertTool => cases kind with
    | edge => exact has
    | tool => exact Dict.has_set.2 (.inr has)
  | @deleteTool toolId => cases kind with
    | edge => exact (Dict.has_mapValues _ _ _).trans has
    | tool => exact Dict.has_erase.2 ⟨fun same => kept (congrArg EditOp.deleteTool same), has⟩
  | addNode => cases kind with
    | edge => exact Dict.has_set.2 (.inr has)
    | tool => exact has
  | @deleteNode nodeId => cases kind with
    | edge =>
        refine (Dict.has_mapValues _ _ _).trans (Dict.has_erase.2 ⟨fun same => kept ?_, has⟩)
        exact congrArg EditOp.deleteNode same
    | tool => exact has

/-- **The entry stays a node.** -/
theorem Applied.entryIsNode (applied : Applied v edit v') (entry : v.EntryIsNode) : v'.EntryIsNode := by
  obtain ⟨nodeId, is, node⟩ := entry
  have stays : edit ≠ RefKind.edge.delete nodeId → Dict.has (RefKind.edge.targets v') nodeId = true :=
    applied.has_targets node
  cases applied with
  | setEntry found => exact ⟨_, rfl, found⟩
  | deleteNode other =>
      refine ⟨nodeId, is, stays fun same => other ?_⟩
      cases same
      exact is
  | _ => exact ⟨nodeId, is, stays nofun⟩

/-! ## The invariant -/

/-- **A reference was written by an edit**, after the last one that deleted its target. -/
def Written (done : List EditOp) (kind : RefKind) (nodeId target : String) : Prop :=
  ∃ (i : ℕ) (edit : EditOp), done[i]? = some edit ∧ edit.Writes kind nodeId target ∧
    ∀ j : ℕ, i < j → done[j]? ≠ some (kind.delete target)

/-- A reference that was written stays so until its target is deleted. -/
theorem Written.concat {done : List EditOp} {kind : RefKind} {nodeId target : String}
    (written : Written done kind nodeId target) (kept : edit ≠ kind.delete target) :
    Written (done ++ [edit]) kind nodeId target := by
  obtain ⟨i, writer, at_i, writes, after⟩ := written
  have inside : i < done.length := (List.getElem?_eq_some_iff.1 at_i).1
  refine ⟨i, writer, by rw [List.getElem?_append_left inside, at_i], writes, fun j later => ?_⟩
  by_cases old : j < done.length
  · rw [List.getElem?_append_left old]
    exact after j later
  · rw [List.getElem?_append_right (Nat.not_lt.1 old)]
    intro deleted
    obtain ⟨_, same⟩ := List.getElem?_eq_some_iff.1 deleted
    simp only [List.getElem_singleton] at same
    exact kept same

/-- A reference that is written now. -/
theorem Written.of_writes (done : List EditOp) {kind : RefKind} {nodeId target : String}
    (writes : edit.Writes kind nodeId target) : Written (done ++ [edit]) kind nodeId target := by
  refine ⟨done.length, edit, List.getElem?_concat_length, writes, fun j later deleted => ?_⟩
  obtain ⟨inside, -⟩ := List.getElem?_eq_some_iff.1 deleted
  rw [List.length_append, List.length_singleton] at inside
  omega

/-- **The entry is a node, and a reference has its target or was written by an edit.** -/
structure Traced (done : List EditOp) (v : ConfigView) : Prop where
  entry : v.EntryIsNode
  traced : ∀ kind nodeId ref, v.HasRef kind nodeId ref → ∃ target, ref = .str target ∧
    (Dict.has (kind.targets v) target = true ∨ Written done kind nodeId target)

/-- In a closed config every reference has its target. -/
theorem Traced.of_closed (closed : v.Closed) : Traced [] v := by
  refine ⟨closed.entry, fun kind nodeId ref has => ?_⟩
  obtain ⟨target, is, defined⟩ := closed.defined kind nodeId ref has
  exact ⟨target, is, .inl defined⟩

/-- An edit keeps the invariant. -/
theorem Traced.step {done : List EditOp} (traced : Traced done v) (applied : Applied v edit v') :
    Traced (done ++ [edit]) v' := by
  refine ⟨applied.entryIsNode traced.entry, fun kind nodeId ref has => ?_⟩
  rcases applied.hasRef has with ⟨before, kept⟩ | ⟨target, is, writes⟩
  · obtain ⟨target, is, defined | written⟩ := traced.traced kind nodeId ref before
    · exact ⟨target, is, .inl (applied.has_targets defined (kept target is))⟩
    · exact ⟨target, is, .inr (written.concat (kept target is))⟩
  · exact ⟨target, is, .inr (.of_writes done writes)⟩

/-! ## Lists of edits -/

/-- The nodes are an object. -/
def NodesThere (cfg : Fields) : Prop := ∃ nodes, Dict.get? cfg "nodes" = some (.obj nodes)

/-- One edit of a list, and the rest. -/
theorem applyFrom_cons {cfg result : Fields} {i : ℕ} {edits : List EditOp}
    (applied : applyFrom cfg i (edit :: edits) = .ok result) :
    ∃ cfg', applyOne cfg edit = .ok cfg' ∧ applyFrom cfg' (i + 1) edits = .ok result := by
  rw [applyFrom] at applied
  split at applied
  · exact ⟨_, by assumption, applied⟩
  · cases applied
  · cases applied

/-- A list of edits, and the rest. -/
theorem applyFrom_append {cfg result : Fields} {i : ℕ} {front rest : List EditOp}
    (applied : applyFrom cfg i (front ++ rest) = .ok result) :
    ∃ cfg', applyFrom cfg i front = .ok cfg' ∧ applyFrom cfg' (i + front.length) rest = .ok result := by
  induction front generalizing cfg i with
  | nil => exact ⟨cfg, rfl, applied⟩
  | cons edit front ih =>
      obtain ⟨next, one, later⟩ := applyFrom_cons applied
      obtain ⟨cfg', done, last⟩ := ih later
      refine ⟨cfg', ?_, ?_⟩
      · rw [applyFrom, one]
        exact done
      · rwa [List.length_cons, Nat.add_comm front.length 1, ← Nat.add_assoc]

/-- **A list of edits keeps what each of them keeps.** -/
theorem applyFrom_keeps {P : List EditOp → ConfigView → Prop} {edits : List EditOp}
    (step : ∀ done v v' edit, edit ∈ edits → P done v → Applied v edit v' → P (done ++ [edit]) v')
    {cfg result : Fields} {i : ℕ} {done : List EditOp} (there : NodesThere cfg) (start : P done (view cfg))
    (applied : applyFrom cfg i edits = .ok result) :
    P (done ++ edits) (view result) ∧ NodesThere result := by
  induction edits generalizing cfg i done with
  | nil =>
      cases applied
      rw [List.append_nil]
      exact ⟨start, there⟩
  | cons edit edits ih =>
      obtain ⟨nodes, found⟩ := there
      obtain ⟨cfg', one, later⟩ := applyFrom_cons applied
      obtain ⟨does, there'⟩ := applyOne_applied found one
      have next := step done _ _ edit List.mem_cons_self start does
      have whole := ih (fun done v v' edit' held => step done v v' edit' (List.mem_cons_of_mem edit held))
        there' next later
      rwa [List.append_assoc] at whole

/-! ## The guarantee -/

/-- An empty part that is put where none was has no entries. -/
theorem entries_setDefault (cfg : Fields) (name name' : String) :
    entries (Dict.setDefault cfg name (.obj [])) name' = entries cfg name' := by
  unfold entries
  rw [Dict.get?_setDefault]
  by_cases same : name = name'
  · subst same
    rw [if_pos rfl]
    cases Dict.get? cfg name with
    | none => rfl
    | some value => rfl
  · rw [if_neg same]

/-- Making room for nodes and tools changes no reference. -/
theorem view_start (baseConfig : Fields) :
    view (Dict.setDefault (Dict.setDefault baseConfig "nodes" (.obj [])) "tools" (.obj [])) =
      view baseConfig := by
  simp [view, entries_setDefault, Dict.get?_setDefault]

/-- The nodes of a closed config are there when the edits begin. -/
theorem nodesThere_start {baseConfig : Fields} (closed : (view baseConfig).Closed) :
    NodesThere (Dict.setDefault (Dict.setDefault baseConfig "nodes" (.obj [])) "tools" (.obj [])) := by
  obtain ⟨nodeId, -, node⟩ := closed.entry
  have there : ∃ nodes, Dict.get? baseConfig "nodes" = some (.obj nodes) := by
    simp only [view, entries] at node
    split at node
    · exact ⟨_, by assumption⟩
    · cases node
  obtain ⟨nodes, found⟩ := there
  refine ⟨nodes, ?_⟩
  rw [Dict.get?_setDefault, if_neg (by decide), Dict.get?_setDefault, if_pos rfl, found]
  rfl

/-- **Edits of a closed config leave no dangling references behind**: the entry is a node; a reference
without its target was written after the last edit that deleted it; a deletion leaves no reference to what
it deletes; and if the edits refer to what is there, when they are applied or in the end, the result is
closed. -/
theorem edits_close {baseConfig result : Fields} {edits : List EditOp} (closed : (view baseConfig).Closed)
    (applied : applyEdits baseConfig edits = .ok result) :
    (view result).EntryIsNode ∧
    (∀ kind nodeId ref, (view result).HasRef kind nodeId ref → ¬ (view result).Defines kind ref →
      ∃ target, ref = .str target ∧ Written edits kind nodeId target) ∧
    (∀ kind target front rest, edits = front ++ RefKind.delete kind target :: rest →
      ∃ cfg, applyEdits baseConfig (front ++ [kind.delete target]) = .ok cfg ∧
        ∀ nodeId, ¬ (view cfg).HasRef kind nodeId (.str target)) ∧
    ((∀ (i : ℕ) (edit : EditOp) kind nodeId target, edits[i]? = some edit → edit.Writes kind nodeId target →
        (view result).Defines kind (.str target) ∨
        ∃ cfg, applyEdits baseConfig (edits.take (i + 1)) = .ok cfg ∧ (view cfg).Defines kind (.str target)) →
      (view result).Closed) := by
  have start : Traced [] (view (Dict.setDefault (Dict.setDefault baseConfig "nodes" (.obj [])) "tools" (.obj []))) :=
    view_start baseConfig ▸ .of_closed closed
  have there := nodesThere_start closed
  unfold applyEdits at applied ⊢
  generalize Dict.setDefault (Dict.setDefault baseConfig "nodes" (.obj [])) "tools" (.obj []) = first
    at start there applied ⊢
  have traced : ∀ {edits cfg}, applyFrom first 0 edits = .ok cfg → Traced edits (view cfg) ∧ NodesThere cfg :=
    fun ran => applyFrom_keeps (fun done v v' edit _ traced does => traced.step does) there start ran
  have last := (traced applied).1
  -- A reference is defined, or an edit wrote it.
  have dangling : ∀ kind nodeId ref, (view result).HasRef kind nodeId ref → ¬ (view result).Defines kind ref →
      ∃ target, ref = .str target ∧ Written edits kind nodeId target := by
    intro kind nodeId ref has missing
    obtain ⟨target, is, defined | written⟩ := last.traced kind nodeId ref has
    · exact absurd ⟨target, is, defined⟩ missing
    · exact ⟨target, is, written⟩
  refine ⟨last.entry, dangling, ?_, ?_⟩
  · intro kind target front rest split
    -- The edits are cut behind the deletion.
    have whole : edits = (front ++ [kind.delete target]) ++ rest := by simp [split]
    rw [whole] at applied
    obtain ⟨cfg, ran, -⟩ := applyFrom_append applied
    obtain ⟨before, ran', later⟩ := applyFrom_append ran
    obtain ⟨cfg', one, last'⟩ := applyFrom_cons later
    obtain rfl := Except.ok.inj last'
    obtain ⟨nodes, found⟩ := (traced ran').2
    obtain ⟨does, -⟩ := applyOne_applied found one
    refine ⟨cfg', ran, fun nodeId has => ?_⟩
    rcases does.hasRef has with ⟨-, kept⟩ | ⟨target', -, writes⟩
    · exact kept target rfl rfl
    · cases kind <;> exact writes
  · intro named
    refine ⟨last.entry, fun kind nodeId ref has => ?_⟩
    by_contra missing
    obtain ⟨target, rfl, i, edit, at_i, writes, after⟩ := dangling kind nodeId ref has missing
    rcases named i edit kind nodeId target at_i writes with defined | ⟨cfg, ran, target', same, defined⟩
    · exact missing defined
    · -- The target was there after the edit that wrote the reference, and nothing deleted it later.
      have parts := List.take_append_drop (i + 1) edits
      rw [← parts] at applied
      obtain ⟨cfg', ran', later⟩ := applyFrom_append applied
      obtain rfl := Except.ok.inj (ran.symm.trans ran')
      have stays := @applyFrom_keeps (fun _ v => Dict.has (kind.targets v) target = true)
        (edits.drop (i + 1)) ?_ cfg result _ [] (traced ran).2 ?_ later
      · exact missing ⟨target, rfl, stays.1⟩
      · intro done v v' edit' held has' does
        refine does.has_targets has' fun deleted => ?_
        obtain ⟨j, at_j⟩ := List.mem_iff_getElem?.1 held
        rw [List.getElem?_drop, deleted] at at_j
        exact after (i + 1 + j) (by omega) at_j
      · obtain rfl := JsonValue.str.inj same
        exact defined

/-- A config with one node, that uses a tool. -/
def bookingConfig : Fields :=
  [("entry", .str "main"),
    ("nodes", .obj [("main", .obj [("system_prompt", .str "Book rooms."), ("tools", .arr [.str "book"])])]),
    ("tools", .obj [("book", .obj [("description", .str "Book a room."), ("script", .str "return 1")])])]

/-- A helper is added, linked and deleted, and the tool as well. -/
def bookingEdits : List EditOp :=
  [.addNode "help" ⟨[("system_prompt", .str "Help."), ("edges", .arr [.str "main"])], by decide, rfl⟩,
    .setNodeFields "main" ⟨[("edges", .arr [.str "help"])], by decide, rfl⟩,
    .deleteNode "help", .deleteTool "book"]

/-- The references of the config. -/
theorem bookingConfig_closed : (view bookingConfig).Closed := by
  refine ⟨⟨"main", rfl, rfl⟩, ?_⟩
  rintro kind nodeId ref ⟨node, found, held⟩
  change Dict.get? [("main", _)] nodeId = some node at found
  rw [Dict.get?_cons] at found
  split at found
  · obtain rfl := Option.some.inj found
    cases kind with
    | edge => cases held
    | tool =>
        obtain rfl := List.mem_singleton.1 held
        exact ⟨"book", rfl, rfl⟩
  · cases found

/-- The edits succeed, and the entry is a node. -/
theorem bookingEdits_close : ∃ result, applyEdits bookingConfig bookingEdits = .ok result ∧
    (view result).EntryIsNode := by
  have ran : ∃ result, applyEdits bookingConfig bookingEdits = .ok result := ⟨_, rfl⟩
  obtain ⟨result, applied⟩ := ran
  exact ⟨result, applied, (edits_close bookingConfig_closed applied).1⟩

end Feros
