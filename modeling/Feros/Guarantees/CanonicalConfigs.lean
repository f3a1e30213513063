import Feros.Builder.CanonicalConfig
import Feros.Library.NormalForms
/-! # The canonical form of a config is a normal form

* **`orderedDict_eq`**: the two loops put the keys in order.
* **`canonicalize_eq`**: canonicalization is the normal form at the three levels.
* **`canonical_form`** is what follows: it is idempotent, keeps all keys and values, and does not depend
  on the order of the keys. -/

namespace Feros

/-! ## Keys in order -/

/-- What has been copied is as it was. -/
def Agrees (d result : Fields) : Prop := ∀ k, Dict.has result k = true → Dict.get? result k = Dict.get? d k

/-- The second loop leaves a key that is there. -/
def copyNew (d result : Fields) (k : String) : Fields := if Dict.has result k then result else copyKey d result k

/-- A key that is copied agrees. -/
theorem Agrees.step {d result : Fields} (agrees : Agrees d result) (k : String) :
    Agrees d (copyKey d result k) := by
  unfold copyKey
  cases found : Dict.get? d k with
  | none => exact agrees
  | some v =>
      intro k' there
      rw [Dict.get?_set]
      by_cases same : k = k'
      · rw [if_pos same, ← same, found]
      · rw [if_neg same]
        exact agrees k' ((Dict.has_set.1 there).resolve_left same)

/-- Copying a key again changes nothing. -/
theorem copyKey_eq_copyNew {d result : Fields} (agrees : Agrees d result) (k : String) :
    copyKey d result k = copyNew d result k := by
  unfold copyNew
  by_cases there : Dict.has result k = true
  · rw [if_pos there]
    have same := agrees k there
    unfold copyKey
    cases found : Dict.get? d k with
    | none => rfl
    | some v => exact Dict.set_of_get? (same.trans found)
  · rw [if_neg there]

/-- The keys that are copied agree, and each is copied once. -/
theorem Agrees.loop {d result : Fields} (agrees : Agrees d result) (ks : List String) :
    Agrees d (ks.foldl (copyKey d) result) ∧ ks.foldl (copyKey d) result = ks.foldl (copyNew d) result := by
  induction ks generalizing result with
  | nil => exact ⟨agrees, rfl⟩
  | cons k ks ih =>
      obtain ⟨agrees', same⟩ := ih (agrees.step k)
      refine ⟨agrees', ?_⟩
      rw [List.foldl_cons, List.foldl_cons, same, copyKey_eq_copyNew agrees]

/-- The keys after the first loop. -/
theorem keys_foldl_copyKey {d result : Fields} {ks : List String} (nodup : ks.Nodup)
    (new : ∀ k ∈ ks, k ∉ Dict.keys result) :
    Dict.keys (ks.foldl (copyKey d) result) = Dict.keys result ++ ks.filter (Dict.has d) := by
  induction ks generalizing result with
  | nil => simp
  | cons k ks ih =>
      obtain ⟨once, nodup'⟩ := List.nodup_cons.1 nodup
      have fresh : Dict.has result k = false := by
        simpa [Dict.mem_keys_iff] using new k List.mem_cons_self
      cases found : Dict.get? d k with
      | none =>
          have step : copyKey d result k = result := by simp [copyKey, found]
          rw [List.foldl_cons, step, ih nodup' fun k' held => new k' (List.mem_cons_of_mem k held)]
          simp [Dict.has, found]
      | some v =>
          have step : copyKey d result k = Dict.set result k v := by simp [copyKey, found]
          have keys_step : Dict.keys (Dict.set result k v) = Dict.keys result ++ [k] := by
            simp [Dict.keys_set, fresh]
          rw [List.foldl_cons, step, ih nodup', keys_step]
          · simp [Dict.has, found]
          · intro k' held
            rw [keys_step, List.mem_append, List.mem_singleton]
            rintro (old | rfl)
            · exact new k' (List.mem_cons_of_mem k held) old
            · exact once held

/-- **The keys after the second loop**: those that are new, sorted. -/
theorem keys_foldl_copyNew (d : Fields) {ks : List String} (sorted : ks.Pairwise (· ≤ ·)) (result : Fields) :
    ∃ rest : List String, Dict.keys (ks.foldl (copyNew d) result) = Dict.keys result ++ rest ∧
      rest.Pairwise (· < ·) ∧
      ∀ k, k ∈ rest ↔ k ∈ ks ∧ Dict.has d k = true ∧ Dict.has result k = false := by
  induction ks generalizing result with
  | nil => exact ⟨[], by simp, .nil, by simp⟩
  | cons k ks ih =>
      obtain ⟨least, sorted'⟩ := List.pairwise_cons.1 sorted
      by_cases add : Dict.has d k = true ∧ Dict.has result k = false
      · obtain ⟨here, fresh⟩ := add
        obtain ⟨v, found⟩ := Option.isSome_iff_exists.1 here
        have step : copyNew d result k = Dict.set result k v := by simp [copyNew, copyKey, fresh, found]
        obtain ⟨rest, keys_eq, strict, mem⟩ := ih sorted' (Dict.set result k v)
        -- The keys that are added later are above this one.
        have behind : ∀ k' ∈ rest, k < k' := by
          intro k' held
          obtain ⟨later, -, new⟩ := (mem k').1 held
          refine lt_of_le_of_ne (least k' later) fun same => ?_
          rw [Dict.has_set.2 (.inl same)] at new
          cases new
        refine ⟨k :: rest, ?_, List.pairwise_cons.2 ⟨behind, strict⟩, fun k' => ?_⟩
        · rw [List.foldl_cons, step, keys_eq, Dict.keys_set, if_neg (by simp [fresh]), List.append_assoc]
          rfl
        · rw [List.mem_cons, mem, List.mem_cons]
          by_cases same : k' = k
          · subst same
            simp [here, fresh]
          · have other : Dict.has (Dict.set result k v) k' = Dict.has result k' := by
              simp [Dict.has, Dict.get?_set, Ne.symm same]
            simp [same, other]
      -- The key is there already, or the config lacks it: nothing is added.
      · have step : copyNew d result k = result := by
          unfold copyNew
          by_cases there : Dict.has result k = true
          · rw [if_pos there]
          · rw [if_neg there]
            have none : Dict.get? d k = none := by
              cases found : Dict.get? d k with
              | none => rfl
              | some v => exact absurd ⟨by simp [Dict.has, found], by simpa using there⟩ add
            simp [copyKey, none]
        obtain ⟨rest, keys_eq, strict, mem⟩ := ih sorted' result
        refine ⟨rest, by rw [List.foldl_cons, step, keys_eq], strict, fun k' => ?_⟩
        rw [mem, List.mem_cons]
        by_cases same : k' = k
        · subst same
          simp [add]
        · simp [same]

/-- **The two loops put the keys in order.** -/
theorem orderedDict_eq {keyOrder : List String} (nodup : keyOrder.Nodup) (d : Fields) :
    orderedDict d keyOrder = Dict.arrange keyOrder d := by
  have start : Agrees d [] := fun k there => by cases there
  obtain ⟨first, -⟩ := start.loop keyOrder
  have keys_first : Dict.keys (keyOrder.foldl (copyKey d) []) = keyOrder.filter (Dict.has d) :=
    keys_foldl_copyKey nodup (by simp [Dict.keys])
  have sorted : (sortedStr (Dict.keys d)).Pairwise (· ≤ ·) := List.pairwise_insertionSort _ _
  obtain ⟨agrees, same⟩ := first.loop (sortedStr (Dict.keys d))
  obtain ⟨rest, keys_eq, strict, mem⟩ := keys_foldl_copyNew d sorted (keyOrder.foldl (copyKey d) [])
  rw [← same, keys_first] at keys_eq
  have whole : orderedDict d keyOrder =
      (sortedStr (Dict.keys d)).foldl (copyKey d) (keyOrder.foldl (copyKey d) []) := same.symm
  rw [whole]
  generalize (sortedStr (Dict.keys d)).foldl (copyKey d) (keyOrder.foldl (copyKey d) []) = result
    at agrees keys_eq ⊢
  -- What the second loop adds are the keys that are not in the order.
  have rest_eq : rest = ((Dict.keys d).dedup.filter (· ∉ keyOrder)).insertionSort (· ≤ ·) := by
    refine Dict.eq_of_sorted strict (Dict.sorted_insertionSort ((List.nodup_dedup _).filter _)) fun k => ?_
    have new : Dict.has (keyOrder.foldl (copyKey d) []) k = false ↔ ¬ (k ∈ keyOrder ∧ Dict.has d k = true) := by
      rw [← Bool.not_eq_true, ← Dict.mem_keys_iff, keys_first, List.mem_filter]
    rw [mem, new]
    simp only [sortedStr, List.mem_insertionSort, List.mem_filter, List.mem_dedup, Dict.mem_keys_iff,
      decide_eq_true_eq]
    tauto
  have keys_result : Dict.keys result = Dict.arrangedKeys keyOrder d := by
    rw [keys_eq, rest_eq, Dict.arrangedKeys]
  refine Dict.eq_of_get? (keys_result ▸ Dict.nodup_arrangedKeys nodup d) ?_ fun k => ?_
  · rw [keys_result, Dict.keys_arrange]
  · rw [Dict.get?_arrange]
    by_cases there : Dict.has d k = true
    · refine agrees k (Dict.mem_keys_iff.1 ?_)
      rw [keys_result]
      exact Dict.mem_arrangedKeys.2 there
    · have missing : k ∉ Dict.keys result := by
        rw [keys_result, Dict.mem_arrangedKeys]
        exact there
      rw [Dict.get?_eq_none_iff.2 missing]
      exact (Option.not_isSome_iff_eq_none.1 there).symm

/-! ## Lists without repetitions -/

/-- The loop over the strings behind those that have been seen. -/
theorem dedupFrom_strings (front back : List String) {seen : List JsonValue.HashKey}
    (known : ∀ s, .string s ∈ seen ↔ s ∈ front) :
    dedupFrom seen ((firsts front).map .str) (back.map .str) = .ok ((firsts (front ++ back)).map .str) := by
  induction back generalizing front seen with
  | nil => simp [dedupFrom]
  | cons s back ih =>
      have split : front ++ s :: back = (front ++ [s]) ++ back := by simp
      rw [List.map_cons, dedupFrom, split]
      simp only [JsonValue.hashKey, ok_bind, known]
      by_cases old : s ∈ front
      · rw [if_pos old]
        have same : firsts (front ++ [s]) = firsts front := by rw [firsts_concat, if_pos old]
        rw [← same]
        refine ih (front ++ [s]) fun s' => ?_
        rw [known, List.mem_append, List.mem_singleton]
        exact ⟨.inl, fun either => either.elim id fun is => is ▸ old⟩
      · rw [if_neg old]
        have more : (firsts front).map JsonValue.str ++ [.str s] = (firsts (front ++ [s])).map .str := by
          simp [firsts_concat, old]
        rw [more]
        refine ih (front ++ [s]) fun s' => ?_
        simp [known, or_comm]

/-- **Of a list of strings the first occurrences are kept.** -/
theorem dedupPreserveOrder_strings (l : List String) :
    dedupPreserveOrder (l.map .str) = .ok ((firsts l).map .str) :=
  dedupFrom_strings [] l (by simp)

/-! ## The normal form -/

/-- A list without repetitions; as it is, if it has no such form. -/
def normalList (items : List JsonValue) : List JsonValue :=
  match dedupPreserveOrder items with
  | .ok items' => items'
  | .error _ => items

/-- The normal form of a field of a node. -/
def normalField (field : String) (value : JsonValue) : JsonValue :=
  match value with
  | .arr items => if field = "tools" ∨ field = "edges" then .arr (normalList items) else value
  | _ => value

/-- The normal form of a node. -/
def normalNode : JsonValue → JsonValue
  | .obj fields => .obj (Dict.normal nodeFieldOrder normalField fields)
  | value => value

/-- The normal form of a tool. -/
def normalTool : JsonValue → JsonValue
  | .obj fields => .obj (Dict.normal toolFieldOrder (fun _ value => value) fields)
  | value => value

/-- The normal form of the nodes or the tools. -/
def normalTable (f : JsonValue → JsonValue) : JsonValue → JsonValue
  | .obj table => .obj (Dict.normal [] (fun _ => f) table)
  | value => value

/-- The normal form of a part of a config. -/
def normalPart (name : String) (value : JsonValue) : JsonValue :=
  if name = "nodes" then normalTable normalNode value
  else if name = "tools" then normalTable normalTool value
  else value

/-- **The normal form of a config.** -/
def normalConfig (config : Fields) : Fields := Dict.normal topLevelOrder normalPart config

/-- The lists of references of a node are lists of strings. -/
def NodeStrings (node : JsonValue) : Prop :=
  ∀ fields, node = .obj fields → ∀ field, field = "tools" ∨ field = "edges" →
    ∀ items, Dict.get? fields field = some (.arr items) → ∃ l : List String, items = l.map .str

/-- **All lists of references are lists of strings.** -/
def StringLists (config : Fields) : Prop :=
  ∀ nodes, Dict.get? config "nodes" = some (.obj nodes) →
    ∀ id node, Dict.get? nodes id = some node → NodeStrings node

/-- A field without repetitions. -/
theorem dedupField_eq {order : List String} (nodup : order.Nodup) {fields : Fields} {field : String}
    (refs : field = "tools" ∨ field = "edges")
    (strings : ∀ items, Dict.get? fields field = some (.arr items) → ∃ l : List String, items = l.map .str) :
    dedupField (Dict.arrange order fields) field =
      .ok (Dict.arrange order (Dict.changeAt field (normalField field) fields)) := by
  unfold dedupField
  rw [Dict.get?_arrange]
  cases found : Dict.get? fields field with
  | none =>
      rw [Dict.arrange_changeAt]
      simp [found]
  | some value =>
      rw [← Dict.set_arrange_changeAt nodup found]
      cases value with
      | arr items =>
          obtain ⟨l, rfl⟩ := strings items found
          simp [dedupPreserveOrder_strings, normalField, refs, normalList]
      | _ => exact congrArg Except.ok (Dict.set_of_get? ((Dict.get?_arrange _ _ _).trans found)).symm

/-- **The canonical form of a node is its normal form.** -/
theorem canonNode_eq {node : JsonValue} (strings : NodeStrings node) : canonNode node = .ok (normalNode node) := by
  cases node with
  | obj fields =>
      have nodup : nodeFieldOrder.Nodup := by decide
      have tools := dedupField_eq nodup (.inl rfl) (strings fields rfl "tools" (.inl rfl))
      have edges : dedupField (Dict.arrange nodeFieldOrder (Dict.changeAt "tools" (normalField "tools") fields))
          "edges" = _ :=
        dedupField_eq nodup (.inr rfl) (by simpa using strings fields rfl "edges" (.inr rfl))
      unfold canonNode
      simp only [orderedDict_eq nodup, tools, edges, ok_bind, pure_eq_ok]
      refine congrArg (Except.ok ∘ JsonValue.obj) (Dict.arrange_congr fun k => ?_)
      simp only [Dict.get?_changeAt, Dict.get?_mapEntries]
      cases Dict.get? fields k with
      | none => rfl
      | some value =>
          by_cases first : k = "tools"
          · subst first
            simp
          · by_cases second : k = "edges"
            · subst second
              simp
            · cases value <;> simp [normalField, first, second]
  | _ => rfl

/-- The canonical form of a tool is its normal form. -/
theorem canonTool_eq (tool : JsonValue) : canonTool tool = .ok (normalTool tool) := by
  cases tool with
  | obj fields =>
      have nodup : toolFieldOrder.Nodup := by decide
      unfold canonTool
      simp only [orderedDict_eq nodup]
      refine congrArg (Except.ok ∘ JsonValue.obj) (Dict.arrange_congr fun k => ?_)
      simp
  | _ => rfl

/-- The loop over the entries of a table. -/
theorem canonEntries_eq {canon : JsonValue → Except PyError JsonValue} {f : JsonValue → JsonValue} {table : Fields}
    (good : ∀ id entry, Dict.get? table id = some entry → canon entry = .ok (f entry)) {ids : List String}
    (there : ∀ id ∈ ids, Dict.has table id = true) (result : Fields) :
    canonEntries canon table result ids =
      .ok (ids.foldl (copyKey (Dict.mapEntries (fun _ => f) table)) result) := by
  induction ids generalizing result with
  | nil => rfl
  | cons id ids ih =>
      obtain ⟨entry, found⟩ := Option.isSome_iff_exists.1 (there id List.mem_cons_self)
      have step : copyKey (Dict.mapEntries (fun _ => f) table) result id = Dict.set result id (f entry) := by
        simp [copyKey, found]
      rw [canonEntries, found, List.foldl_cons, step]
      simp only [good id entry found, ok_bind]
      exact ih (fun id' held => there id' (List.mem_cons_of_mem id held)) _

/-- A table in canonical form. -/
theorem canonTable_eq {canon : JsonValue → Except PyError JsonValue} {f : JsonValue → JsonValue} {table : Fields}
    (good : ∀ id entry, Dict.get? table id = some entry → canon entry = .ok (f entry)) :
    canonEntries canon table [] (sortedStr (Dict.keys table)) =
      .ok (Dict.normal [] (fun _ => f) table) := by
  have there : ∀ id ∈ sortedStr (Dict.keys table), Dict.has table id = true := by
    intro id held
    exact Dict.mem_keys_iff.1 (List.mem_insertionSort _ |>.1 held)
  have keys : Dict.keys table = Dict.keys (Dict.mapEntries (fun _ => f) table) := by
    simp [Dict.keys, Dict.mapEntries]
  have start : Agrees (Dict.mapEntries (fun _ => f) table) [] := fun k there => by cases there
  rw [canonEntries_eq good there, (start.loop _).2, keys, Dict.normal, ← orderedDict_eq List.nodup_nil]
  rfl

/-- The canonical form of a part is its normal form. -/
theorem canonPart_eq {order : List String} (nodup : order.Nodup) {canon : JsonValue → Except PyError JsonValue}
    {f : JsonValue → JsonValue} {config : Fields} {name : String}
    (good : ∀ table, Dict.get? config name = some (.obj table) →
      ∀ id entry, Dict.get? table id = some entry → canon entry = .ok (f entry)) :
    canonPart canon (Dict.arrange order config) name =
      .ok (Dict.arrange order (Dict.changeAt name (normalTable f) config)) := by
  unfold canonPart
  rw [Dict.get?_arrange]
  cases found : Dict.get? config name with
  | none =>
      rw [Dict.arrange_changeAt]
      simp [found]
  | some value =>
      rw [← Dict.set_arrange_changeAt nodup found]
      cases value with
      | obj table => simp [canonTable_eq (good table found), normalTable]
      | _ => exact congrArg Except.ok (Dict.set_of_get? ((Dict.get?_arrange _ _ _).trans found)).symm

/-- **Canonicalization is the normal form.** -/
theorem canonicalize_eq {config : Fields} (strings : StringLists config) :
    canonicalizeConfig config = .ok (normalConfig config) := by
  have nodup : topLevelOrder.Nodup := by decide
  have nodes : canonPart canonNode (Dict.arrange topLevelOrder config) "nodes" = _ :=
    canonPart_eq nodup fun table found id node here => canonNode_eq (strings table found id node here)
  have tools : canonPart canonTool
      (Dict.arrange topLevelOrder (Dict.changeAt "nodes" (normalTable normalNode) config)) "tools" = _ :=
    canonPart_eq nodup fun _ _ _ tool _ => canonTool_eq tool
  unfold canonicalizeConfig
  simp only [orderedDict_eq nodup, nodes, tools, ok_bind]
  refine congrArg Except.ok (Dict.arrange_congr fun k => ?_)
  simp only [Dict.get?_changeAt, Dict.get?_mapEntries]
  cases Dict.get? config k with
  | none => rfl
  | some value =>
      by_cases first : k = "nodes"
      · subst first
        simp [normalPart]
      · by_cases second : k = "tools"
        · subst second
          simp [normalPart]
        · simp [normalPart, first, second]

/-! ## The guarantee -/

/-- **Objects with related fields**, or the same value. -/
inductive FieldsRel (R : String → JsonValue → JsonValue → Prop) : JsonValue → JsonValue → Prop where
  | obj {fields fields' : Fields}
      (related : ∀ k, Option.Rel (R k) (Dict.get? fields k) (Dict.get? fields' k)) :
      FieldsRel R (.obj fields) (.obj fields')
  | other {value : JsonValue} (scalar : ∀ fields, value ≠ .obj fields) : FieldsRel R value value

/-- How the values of a key of the config are related, given how the fields of nodes are. -/
def PartRel (R : String → JsonValue → JsonValue → Prop) (name : String) (value value' : JsonValue) : Prop :=
  if name = "nodes" then FieldsRel (fun _ => FieldsRel R) value value'
  else if name = "tools" then FieldsRel (fun _ => FieldsRel fun _ => Eq) value value'
  else value = value'

/-- **Configs with the same keys at every level**, and values that are the same, but for the fields of
nodes. -/
def ConfigRel (R : String → JsonValue → JsonValue → Prop) (config config' : Fields) : Prop :=
  ∀ k, Option.Rel (PartRel R k) (Dict.get? config k) (Dict.get? config' k)

/-- **Configs that differ in the order of their keys only.** -/
def SameConfig : Fields → Fields → Prop := ConfigRel fun _ => Eq

/-- Of a list of references the first occurrences stay; any other field keeps its value. -/
def KeptField (field : String) (before after : JsonValue) : Prop :=
  ((field = "tools" ∨ field = "edges") ∧
    ∃ l : List String, before = .arr (l.map .str) ∧ after = .arr ((firsts l).map .str)) ∨
  ((field = "tools" ∨ field = "edges") → ∀ items, before ≠ .arr items) ∧ before = after

/-- What is related is related by a wider relation. -/
theorem rel_imp {α : Type} {R S : α → α → Prop} (imp : ∀ a b, R a b → S a b) {x y : Option α}
    (related : Option.Rel R x y) : Option.Rel S x y := by
  cases related with
  | some values => exact .some (imp _ _ values)
  | none => exact .none

/-- What is kept stays a list of strings. -/
theorem ConfigRel.strings {R : String → JsonValue → JsonValue → Prop}
    (lists : ∀ field before items, R field before (.arr items) →
      before = .arr items ∨ ∃ l : List String, items = l.map .str)
    {config config' : Fields} (kept : ConfigRel R config config') (strings : StringLists config) :
    StringLists config' := by
  intro nodes' found' id node' here' fields' is' field refs items' there'
  have part := kept "nodes"
  rw [found'] at part
  generalize found : Dict.get? config "nodes" = nodes at part
  cases part with
  | @some nodes _ part =>
      cases (show FieldsRel (fun _ => FieldsRel R) nodes (.obj nodes') from part) with
      | other scalar => exact absurd rfl (scalar nodes')
      | @obj nodes _ entries =>
          have entry := entries id
          rw [here'] at entry
          generalize here : Dict.get? nodes id = node at entry
          cases entry with
          | @some node _ entry =>
              rw [is'] at entry
              cases entry with
              | other scalar => exact absurd rfl (scalar fields')
              | @obj fields _ values =>
                  have value := values field
                  rw [there'] at value
                  generalize there : Dict.get? fields field = items at value
                  cases value with
                  | @some items _ value =>
                      rcases lists field items items' value with rfl | strings'
                      · exact strings nodes found id _ here fields rfl field refs items' there
                      · exact strings'

/-- **Configs that differ in the order of their keys have one normal form.** -/
theorem SameConfig.normal_eq {config config' : Fields} (same : SameConfig config config') :
    normalConfig config = normalConfig config' := by
  refine Dict.normal_congr fun k => rel_imp (fun value value' related => ?_) (same k)
  have table : ∀ {f : JsonValue → JsonValue} {value value' : JsonValue},
      (∀ a b, FieldsRel (fun _ => Eq) a b → f a = f b) →
      FieldsRel (fun _ => FieldsRel fun _ => Eq) value value' → normalTable f value = normalTable f value' := by
    intro f value value' entry related
    cases related with
    | obj fields => exact congrArg JsonValue.obj (Dict.normal_congr fun id => rel_imp entry (fields id))
    | other scalar => rfl
  unfold PartRel at related
  unfold normalPart
  by_cases nodes : k = "nodes"
  · rw [if_pos nodes] at related ⊢
    rw [if_pos nodes]
    refine table (fun a b related => ?_) related
    cases related with
    | obj fields =>
        refine congrArg JsonValue.obj (Dict.normal_congr fun field => rel_imp (fun x y same => ?_) (fields field))
        rw [same]
    | other scalar => rfl
  · rw [if_neg nodes] at related ⊢
    rw [if_neg nodes]
    by_cases tools : k = "tools"
    · rw [if_pos tools] at related ⊢
      rw [if_pos tools]
      refine table (fun a b related => ?_) related
      cases related with
      | obj fields => exact congrArg JsonValue.obj (Dict.normal_congr fields)
      | other scalar => rfl
    · rw [if_neg tools] at related ⊢
      rw [if_neg tools]
      exact related

/-- The normal form of a list of strings holds its first occurrences. -/
theorem normalList_strings (l : List String) : normalList (l.map .str) = (firsts l).map .str := by
  simp [normalList, dedupPreserveOrder_strings]

/-- What is mapped is related to what it was. -/
theorem rel_map {α : Type} {R : α → α → Prop} {g : α → α} {x : Option α}
    (related : ∀ a, x = some a → R a (g a)) : Option.Rel R x (x.map g) := by
  cases x with
  | none => exact .none
  | some a => exact .some (related a rfl)

/-- The normal form of a table keeps what that of its entries keeps. -/
theorem normalTable_kept {R : String → JsonValue → JsonValue → Prop} {f : JsonValue → JsonValue} {value : JsonValue}
    (entries : ∀ table, value = .obj table → ∀ id entry, Dict.get? table id = some entry →
      FieldsRel R entry (f entry)) : FieldsRel (fun _ => FieldsRel R) value (normalTable f value) := by
  cases value with
  | obj table =>
      refine .obj fun id => ?_
      rw [Dict.get?_normal]
      exact rel_map (entries table rfl id)
  | _ => exact .other nofun

/-- **The normal form keeps all keys and values.** -/
theorem normalConfig_kept {config : Fields} (strings : StringLists config) :
    ConfigRel KeptField config (normalConfig config) := by
  intro k
  rw [normalConfig, Dict.get?_normal]
  refine rel_map fun value found => ?_
  unfold PartRel normalPart
  by_cases nodes : k = "nodes"
  · subst nodes
    rw [if_pos rfl, if_pos rfl]
    refine normalTable_kept fun table is id node here => ?_
    subst is
    cases node with
    | obj fields =>
        refine .obj fun field => ?_
        rw [Dict.get?_normal]
        refine rel_map fun value there => ?_
        cases value with
        | arr items =>
            by_cases refs : field = "tools" ∨ field = "edges"
            · obtain ⟨l, rfl⟩ := strings table found id _ here fields rfl field refs items there
              exact .inl ⟨refs, l, rfl, by simp [normalField, refs, normalList_strings]⟩
            · exact .inr ⟨fun listed => absurd listed refs, by simp [normalField, refs]⟩
        | _ => exact .inr ⟨fun _ => nofun, rfl⟩
    | _ => exact .other nofun
  · rw [if_neg nodes, if_neg nodes]
    by_cases tools : k = "tools"
    · rw [if_pos tools, if_pos tools]
      refine normalTable_kept fun table _ id tool _ => ?_
      cases tool with
      | obj fields =>
          refine .obj fun field => ?_
          rw [Dict.get?_normal]
          exact rel_map fun _ _ => rfl
      | _ => exact .other nofun
    · rw [if_neg tools, if_neg tools]

/-- A table of normal forms is one. -/
theorem normalTable_idem {f : JsonValue → JsonValue} {value : JsonValue}
    (idem : ∀ table, value = .obj table → ∀ id entry, Dict.get? table id = some entry →
      f (f entry) = f entry) : normalTable f (normalTable f value) = normalTable f value := by
  cases value with
  | obj table => exact congrArg JsonValue.obj (Dict.normal_idem (idem table rfl))
  | _ => rfl

/-- The normal form of a node is one. -/
theorem normalNode_idem {node : JsonValue} (strings : NodeStrings node) :
    normalNode (normalNode node) = normalNode node := by
  cases node with
  | obj fields =>
      refine congrArg JsonValue.obj (Dict.normal_idem fun field value found => ?_)
      cases value with
      | arr items =>
          by_cases refs : field = "tools" ∨ field = "edges"
          · obtain ⟨l, rfl⟩ := strings fields rfl field refs items found
            simp [normalField, refs, normalList_strings, firsts_firsts]
          · simp [normalField, refs]
      | _ => rfl
  | _ => rfl

/-- The normal form of a tool is one. -/
theorem normalTool_idem (tool : JsonValue) : normalTool (normalTool tool) = normalTool tool := by
  cases tool with
  | obj fields => exact congrArg JsonValue.obj (Dict.normal_idem fun _ _ _ => rfl)
  | _ => rfl

/-- **The normal form is one.** -/
theorem normalConfig_idem {config : Fields} (strings : StringLists config) :
    normalConfig (normalConfig config) = normalConfig config := by
  refine Dict.normal_idem fun k value found => ?_
  unfold normalPart
  by_cases nodes : k = "nodes"
  · subst nodes
    simp only [if_true]
    refine normalTable_idem fun table is id node here => ?_
    subst is
    exact normalNode_idem (strings table found id node here)
  · by_cases tools : k = "tools"
    · subst tools
      simp only [nodes, if_false, if_true]
      exact normalTable_idem fun _ _ _ tool _ => normalTool_idem tool
    · simp only [nodes, tools, if_false]

/-- **Canonicalization succeeds; it is idempotent, keeps every key and value but for repeated references,
and gives configs that differ in the order of their keys the same form.** -/
theorem canonical_form {config : Fields} (strings : StringLists config) :
    ∃ canon, canonicalizeConfig config = .ok canon ∧ canonicalizeConfig canon = .ok canon ∧
      ConfigRel KeptField config canon ∧
      ∀ config', SameConfig config config' → canonicalizeConfig config' = .ok canon := by
  have kept := normalConfig_kept strings
  refine ⟨normalConfig config, canonicalize_eq strings, ?_, kept, fun config' same => ?_⟩
  · have strings' : StringLists (normalConfig config) := by
      refine ConfigRel.strings (fun field before items related => ?_) kept strings
      rcases related with ⟨-, l, -, after⟩ | ⟨-, same⟩
      · exact .inr ⟨firsts l, JsonValue.arr.inj after⟩
      · exact .inl same
    rw [canonicalize_eq strings', normalConfig_idem strings]
  · have strings' : StringLists config' :=
      ConfigRel.strings (R := fun _ => Eq) (fun _ _ _ => .inl) same strings
    rw [canonicalize_eq strings', same.normal_eq]

/-- A node refers to a tool twice. -/
def repeatedConfig : Fields :=
  [("zeta", .int 1), ("nodes", .obj [("main", .obj [("tools", .arr [.str "b", .str "a", .str "b"])])])]

/-- A config with repeated edges has a canonical form. -/
theorem canonical_form_repeated : ∃ canon, canonicalizeConfig repeatedConfig = .ok canon ∧
    canonicalizeConfig canon = .ok canon := by
  have strings : StringLists repeatedConfig := by
    intro nodes found id node here fields is field refs items there
    obtain rfl := JsonValue.obj.inj (Option.some.inj found)
    rw [Dict.get?_cons] at here
    split at here
    · obtain rfl := Option.some.inj here
      obtain rfl := JsonValue.obj.inj is
      rw [Dict.get?_cons] at there
      split at there
      · exact ⟨["b", "a", "b"], (JsonValue.arr.inj (Option.some.inj there)).symm⟩
      · cases there
    · cases here
  obtain ⟨canon, forms, again, -⟩ := canonical_form strings
  exact ⟨canon, forms, again⟩

end Feros
