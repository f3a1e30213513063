import Feros.Builder.Json
/-! # Edits of an agent config

The model that builds an agent emits a list of edits, and the server applies them to the current config:
all or none.  Deleting a node or a tool removes the references to it.

* **`EditOp`** has the seven edits; an edit carries that it passed its own check.
* **`applyOne`** applies one edit, and **`applyEdits`** a list of them.

The config is one object, as the source's `nodes` and `tools` are parts of it. -/

namespace Feros

/-- The fields of an object. -/
abbrev Fields := Dict String JsonValue

/-- The entries of a part of the config; none, if it is no object. -/
def entries (cfg : Fields) (name : String) : Fields :=
  match Dict.get? cfg name with
  | some (.obj fields) => fields
  | _ => []

/-! ## Checks -/

def topLevelAllowed : List String := ["language", "timezone", "voice_id"]

def nodeFieldAllowed : List String := ["system_prompt", "greeting", "tools", "edges"]

def toolFieldAllowed : List String := ["description", "params", "script", "side_effect"]

/-- The items of a list that has to be one of strings, from an index. -/
def validateStringItems (fieldName : String) : ℕ → List JsonValue → Except PyError Unit
  | _, [] => .ok ()
  | i, .str _ :: items => validateStringItems fieldName (i + 1) items
  | i, item :: _ =>
    .error (.valueError ("'" ++ fieldName ++ "[" ++ toString i ++ "]' must be a string, got " ++ item.typeName))

/-- Validate that a value is a list of strings. -/
def validateStringList (value : JsonValue) (fieldName : String) : Except PyError Unit :=
  match value with
  | .arr items => validateStringItems fieldName 0 items
  | _ => .error (.valueError ("'" ++ fieldName ++ "' must be a list, got " ++ value.typeName))

/-- The items of a list that has to be one of objects, from an index. -/
def validateParamItems : ℕ → List JsonValue → Except PyError Unit
  | _, [] => .ok ()
  | i, .obj _ :: items => validateParamItems (i + 1) items
  | i, item :: _ =>
    .error (.valueError ("'params[" ++ toString i ++ "]' must be an object, got " ++ item.typeName))

/-- Validate that params is a list of objects. -/
def validateParamsList (value : JsonValue) : Except PyError Unit :=
  match value with
  | .arr items => validateParamItems 0 items
  | _ => .error (.valueError ("'params' must be a list, got " ++ value.typeName))

/-- A field that has to be a string, if it is there. -/
def validateString (fields : Fields) (field : String) : Except PyError Unit :=
  match Dict.get? fields field with
  | none | some (.str _) => .ok ()
  | some _ => .error (.valueError ("'" ++ field ++ "' must be a string"))

/-- A check of a field, if it is there. -/
def validateField (fields : Fields) (field : String) (check : JsonValue → Except PyError Unit) :
    Except PyError Unit :=
  match Dict.get? fields field with
  | none => .ok ()
  | some value => check value

/-- Validate types of well-known node fields. -/
def validateNodeFieldTypes (fields : Fields) : Except PyError Unit := do
  validateField fields "tools" fun value => validateStringList value "tools"
  validateField fields "edges" fun value => validateStringList value "edges"
  validateString fields "system_prompt"
  validateString fields "greeting"

/-- Only some fields are allowed. -/
def validateAllowed (op : String) (allowed : List String) (fields : Fields) : Except PyError Unit :=
  let bad := (Dict.keys fields).filter (· ∉ allowed)
  if bad.isEmpty then .ok ()
  else .error (.valueError (op ++ " only allows fields: " ++ reprList (sortedStr allowed) ++
    ". Got disallowed: " ++ reprList (sortedStr bad) ++ "."))

/-- The check of a `set_top_level` edit. -/
def validateKey (key : String) : Except PyError Unit :=
  if key ∈ topLevelAllowed then .ok ()
  else .error (.valueError ("set_top_level only allows keys: " ++ reprList (sortedStr topLevelAllowed) ++
    ". Got '" ++ key ++ "'."))

/-- The check of a `set_node_fields` edit. -/
def validateNodePatch (fields : Fields) : Except PyError Unit := do
  validateAllowed "set_node_fields" nodeFieldAllowed fields
  validateNodeFieldTypes fields

/-- The check of an `upsert_tool` edit. -/
def validateToolPatch (fields : Fields) : Except PyError Unit := do
  validateAllowed "upsert_tool" toolFieldAllowed fields
  validateField fields "params" validateParamsList
  validateString fields "script"
  validateString fields "description"
  validateField fields "side_effect" fun
    | .bool _ => .ok ()
    | _ => .error (.valueError "'side_effect' must be a boolean")

/-- The check of an `add_node` edit. -/
def validateNewNode (fields : Fields) : Except PyError Unit := do
  validateAllowed "add_node" nodeFieldAllowed fields
  validateNodeFieldTypes fields
  match Dict.get? fields "system_prompt" with
  | none => .error (.valueError "add_node requires 'system_prompt' in fields.")
  | some (.str prompt) =>
    if strip prompt = "" then .error (.valueError "system_prompt must be non-empty.") else .ok ()
  | some _ => .error .attributeError

/-! ## Edits -/

/-- **The fields of an edit**, that passed its check. -/
structure Patch (check : Fields → Except PyError Unit) where
  fields : Fields
  unique : (Dict.keys fields).Nodup
  valid : check fields = .ok ()

/-- **An edit.** -/
inductive EditOp where
  | setTopLevel (key : String) (value : JsonValue) (valid : validateKey key = .ok ())
  | setEntry (nodeId : String)
  | setNodeFields (nodeId : String) (patch : Patch validateNodePatch)
  | upsertTool (toolId : String) (patch : Patch validateToolPatch)
  | deleteTool (toolId : String)
  | addNode (nodeId : String) (patch : Patch validateNewNode)
  | deleteNode (nodeId : String)

/-- The tag of an edit. -/
def EditOp.op : EditOp → String
  | .setTopLevel _ _ _ => "set_top_level"
  | .setEntry _ => "set_entry"
  | .setNodeFields _ _ => "set_node_fields"
  | .upsertTool _ _ => "upsert_tool"
  | .deleteTool _ => "delete_tool"
  | .addNode _ _ => "add_node"
  | .deleteNode _ => "delete_node"

/-! ## Applying them -/

/-- Remove all occurrences of a reference from a field of a node. -/
def removeRef (field target : String) (node : JsonValue) : JsonValue :=
  match node with
  | .obj fields =>
    match Dict.get? fields field with
    | none => .obj (Dict.set fields field (.arr []))
    | some (.arr refs) => .obj (Dict.set fields field (.arr (refs.filter fun ref => !ref.isStr target)))
    | some _ => node
  | _ => node

/-- A part of the config. -/
def part (cfg : Fields) (name : String) : JsonValue := (Dict.get? cfg name).getD .null

/-- **Apply a single edit.** -/
def applyOne (cfg : Fields) (edit : EditOp) : Except PyError Fields :=
  let nodes := part cfg "nodes"
  let tools := part cfg "tools"
  match edit with
  | .setTopLevel key value _ => .ok (Dict.set cfg key value)
  | .setEntry nodeId => do
    if ← nodes.contains nodeId then return Dict.set cfg "entry" (.str nodeId)
    else
      throw (.valueError ("Cannot set entry to '" ++ nodeId ++ "': node does not exist. Available: " ++
        reprList (sortedStr (← nodes.keys))))
  | .setNodeFields nodeId patch => do
    if ← nodes.contains nodeId then
      let node ← (← nodes.getItem nodeId).update patch.fields
      return Dict.set cfg "nodes" (← nodes.setItem nodeId node)
    else
      throw (.valueError ("Node '" ++ nodeId ++ "' does not exist. Use add_node to create it first."))
  | .upsertTool toolId patch => do
    if ← tools.contains toolId then
      let tool ← (← tools.getItem toolId).update patch.fields
      return Dict.set cfg "tools" (← tools.setItem toolId tool)
    else return Dict.set cfg "tools" (← tools.setItem toolId (.obj patch.fields))
  | .deleteTool toolId => do
    if ← tools.contains toolId then
      let cfg := Dict.set cfg "tools" (← tools.delItem toolId)
      return Dict.set cfg "nodes" (← nodes.forValues (removeRef "tools" toolId))
    else
      throw (.valueError ("Tool '" ++ toolId ++ "' does not exist. Available: " ++
        reprList (sortedStr (← tools.keys))))
  | .addNode nodeId patch => do
    if ← nodes.contains nodeId then
      throw (.valueError ("Node '" ++ nodeId ++ "' already exists. Use set_node_fields to modify it."))
    else
      let node := Dict.setDefault (Dict.setDefault patch.fields "tools" (.arr [])) "edges" (.arr [])
      return Dict.set cfg "nodes" (← nodes.setItem nodeId (.obj node))
  | .deleteNode nodeId => do
    if ← nodes.contains nodeId then
      if (part cfg "entry").isStr nodeId then
        throw (.valueError ("Cannot delete entry node '" ++ nodeId ++
          "'. Call set_entry(...) first to change the entry."))
      else
        let nodes ← nodes.delItem nodeId
        return Dict.set cfg "nodes" (← nodes.forValues (removeRef "edges" nodeId))
    else
      throw (.valueError ("Node '" ++ nodeId ++ "' does not exist. Available: " ++
        reprList (sortedStr (← nodes.keys))))

/-- What `apply_edits` raises. -/
inductive ApplyError where
  /-- A `ValueError` with the text `Edit #index (op): cause`. -/
  | edit (index : ℕ) (op : String) (cause : PyError)
  /-- Anything else that an edit raises. -/
  | uncaught (cause : PyError)
  deriving DecidableEq, Repr

/-- The loop over the edits, from an index. -/
def applyFrom (cfg : Fields) : ℕ → List EditOp → Except ApplyError Fields
  | _, [] => .ok cfg
  | i, edit :: edits =>
    match applyOne cfg edit with
    | .ok cfg' => applyFrom cfg' (i + 1) edits
    | .error .attributeError => .error (.uncaught .attributeError)
    | .error cause => .error (.edit i edit.op cause)

/-- **Apply a sequence of edits to a base config.** -/
def applyEdits (baseConfig : Fields) (edits : List EditOp) : Except ApplyError Fields :=
  let cfg := Dict.setDefault (Dict.setDefault baseConfig "nodes" (.obj [])) "tools" (.obj [])
  applyFrom cfg 0 edits

end Feros
