import Feros.Builder.EditOps
/-! # The canonical form of an agent config

Versions of a config are compared as text, so a config is stored with its keys in a fixed order and
without repeated references.

* **`orderedDict`** puts the keys of an object in order.
* **`dedupPreserveOrder`** drops repeated items of a list.
* **`canonicalizeConfig`** does both at the three levels of a config. -/

namespace Feros

def topLevelOrder : List String :=
  ["config_schema_version", "entry", "nodes", "tools", "language", "timezone", "voice_id"]

def nodeFieldOrder : List String := ["system_prompt", "greeting", "tools", "edges"]

def toolFieldOrder : List String := ["description", "params", "script", "side_effect"]

/-- `result[k] = d[k]`, if `d` has the key. -/
def copyKey (d result : Fields) (k : String) : Fields :=
  match Dict.get? d k with
  | some value => Dict.set result k value
  | none => result

/-- **The keys in the specified order, then the remaining keys sorted.** -/
def orderedDict (d : Fields) (keyOrder : List String) : Fields :=
  let result := keyOrder.foldl (copyKey d) []
  (sortedStr (Dict.keys d)).foldl (fun result k => if Dict.has result k then result else copyKey d result k)
    result

/-- The loop over the items, with what has been seen. -/
def dedupFrom (seen : List JsonValue.HashKey) (result : List JsonValue) : List JsonValue → Except PyError (List JsonValue)
  | [] => .ok result
  | item :: items => do
    let key ← item.hashKey
    if key ∈ seen then dedupFrom seen result items
    else dedupFrom (key :: seen) (result ++ [item]) items

/-- **Remove duplicates from a list, preserving the order.** -/
def dedupPreserveOrder (lst : List JsonValue) : Except PyError (List JsonValue) := dedupFrom [] [] lst

/-- Remove the duplicates from a field of a node, if it is a list. -/
def dedupField (cn : Fields) (field : String) : Except PyError Fields :=
  match Dict.get? cn field with
  | some (.arr items) => do return Dict.set cn field (.arr (← dedupPreserveOrder items))
  | _ => .ok cn

/-- A node in canonical form. -/
def canonNode (node : JsonValue) : Except PyError JsonValue :=
  match node with
  | .obj fields => do
    let cn := orderedDict fields nodeFieldOrder
    let cn ← dedupField cn "tools"
    let cn ← dedupField cn "edges"
    return .obj cn
  | _ => .ok node

/-- A tool in canonical form. -/
def canonTool (tool : JsonValue) : Except PyError JsonValue :=
  match tool with
  | .obj fields => .ok (.obj (orderedDict fields toolFieldOrder))
  | _ => .ok tool

/-- The loop over the entries of a table, by their keys. -/
def canonEntries (canon : JsonValue → Except PyError JsonValue) (table result : Fields) :
    List String → Except PyError Fields
  | [] => .ok result
  | id :: ids =>
    match Dict.get? table id with
    | some entry => do canonEntries canon table (Dict.set result id (← canon entry)) ids
    | none => .error (.keyError id)

/-- The nodes or the tools in canonical form, if they are an object. -/
def canonPart (canon : JsonValue → Except PyError JsonValue) (result : Fields) (name : String) :
    Except PyError Fields :=
  match Dict.get? result name with
  | some (.obj table) => do
    return Dict.set result name (.obj (← canonEntries canon table [] (sortedStr (Dict.keys table))))
  | _ => .ok result

/-- **Produce a canonical form of an agent config.** -/
def canonicalizeConfig (config : Fields) : Except PyError Fields := do
  let result := orderedDict config topLevelOrder
  let result ← canonPart canonNode result "nodes"
  canonPart canonTool result "tools"

end Feros
