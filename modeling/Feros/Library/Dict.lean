import Mathlib.Data.List.Basic
import Mathlib.Data.List.Nodup
/-! # Dictionaries in insertion order

A dictionary is a list of keys with values, of which the first one with a key counts.  Writing a key
that is there keeps its place; a new key goes to the end.

* **`get?_set`**, **`get?_erase`**, **`get?_update`** say what a lookup finds after an operation.
* **`eq_of_get?`**: the order of the keys and what the lookups find determine a dictionary. -/

/-- **A dictionary**, in insertion order. -/
abbrev Dict (κ α : Type*) := List (κ × α)

namespace Dict

variable {κ α β : Type*}

/-- The keys, in insertion order. -/
def keys (d : Dict κ α) : List κ := d.map Prod.fst

/-- Apply a function to every value. -/
def mapValues (f : α → β) (d : Dict κ α) : Dict κ β := d.map fun entry => (entry.1, f entry.2)

variable [DecidableEq κ]

/-- The value of a key. -/
def get? : Dict κ α → κ → Option α
  | [], _ => none
  | (k', v) :: d, k => if k' = k then some v else get? d k

/-- Whether there is such a key. -/
def has (d : Dict κ α) (k : κ) : Bool := (get? d k).isSome

/-- Write a key. -/
def set : Dict κ α → κ → α → Dict κ α
  | [], k, v => [(k, v)]
  | (k', v') :: d, k, v => if k' = k then (k', v) :: d else (k', v') :: set d k v

/-- Remove a key. -/
def erase (d : Dict κ α) (k : κ) : Dict κ α := d.filter fun entry => entry.1 ≠ k

/-- Write a key that is not there. -/
def setDefault (d : Dict κ α) (k : κ) (v : α) : Dict κ α := if has d k then d else set d k v

/-- Write all keys of another dictionary. -/
def update (d other : Dict κ α) : Dict κ α := other.foldl (fun d entry => set d entry.1 entry.2) d

/-- Nothing is found in the empty dictionary. -/
@[simp] theorem get?_nil (k : κ) : get? ([] : Dict κ α) k = none := rfl

/-- The first key is looked at first. -/
theorem get?_cons (k' : κ) (v : α) (d : Dict κ α) (k : κ) :
    get? ((k', v) :: d) k = if k' = k then some v else get? d k := rfl

/-- **A lookup after a write.** -/
theorem get?_set (d : Dict κ α) (k : κ) (v : α) (k' : κ) :
    get? (set d k v) k' = if k = k' then some v else get? d k' := by
  induction d with
  | nil => simp [set, get?_cons]
  | cons entry d ih =>
      obtain ⟨k₀, v₀⟩ := entry
      by_cases here : k₀ = k
      · subst here
        by_cases same : k₀ = k'
        · simp [set, get?_cons, same]
        · simp [set, get?_cons, same]
      · by_cases same : k₀ = k'
        · subst same
          simp [set, get?_cons, here, Ne.symm here]
        · simp [set, get?_cons, here, same, ih]

/-- What was set is found. -/
@[simp] theorem get?_set_self (d : Dict κ α) (k : κ) (v : α) : get? (set d k v) k = some v := by
  simp [get?_set]

/-- The other keys keep their values. -/
theorem get?_set_of_ne (d : Dict κ α) {k k' : κ} (v : α) (other : k ≠ k') :
    get? (set d k v) k' = get? d k' := by
  simp [get?_set, other]

/-- **A lookup after a removal.** -/
theorem get?_erase (d : Dict κ α) (k k' : κ) :
    get? (erase d k) k' = if k = k' then none else get? d k' := by
  induction d with
  | nil => simp [erase]
  | cons entry d ih =>
      obtain ⟨k₀, v₀⟩ := entry
      unfold erase at ih ⊢
      by_cases here : k₀ = k
      · subst here
        by_cases same : k₀ = k'
        · simpa [get?_cons, same] using ih
        · simpa [get?_cons, same] using ih
      · by_cases same : k₀ = k'
        · subst same
          simp [get?_cons, here, Ne.symm here]
        · simpa [get?_cons, here, same] using ih

/-- Removing keys one after the other leaves what a key has, or nothing. -/
theorem get?_foldl_erase (ks : List κ) (d : Dict κ α) (k : κ) :
    get? (ks.foldl erase d) k = get? d k ∨ get? (ks.foldl erase d) k = none := by
  induction ks generalizing d with
  | nil => exact .inl rfl
  | cons k' ks ih =>
      rw [List.foldl_cons]
      rcases ih (erase d k') with kept | gone
      · rw [kept, get?_erase]
        by_cases same : k' = k
        · exact .inr (if_pos same)
        · exact .inl (if_neg same)
      · exact .inr gone

/-- A default is set where nothing was. -/
theorem get?_setDefault (d : Dict κ α) (k : κ) (v : α) (k' : κ) :
    get? (setDefault d k v) k' = if k = k' then some ((get? d k).getD v) else get? d k' := by
  unfold setDefault has
  cases found : get? d k with
  | none => simp [get?_set]
  | some v' =>
      by_cases same : k = k'
      · subst same
        simp [found]
      · simp [same]

/-- The values are mapped. -/
@[simp] theorem get?_mapValues (f : α → β) (d : Dict κ α) (k : κ) :
    get? (mapValues f d) k = (get? d k).map f := by
  induction d with
  | nil => rfl
  | cons entry d ih =>
      obtain ⟨k₀, v₀⟩ := entry
      unfold mapValues at ih ⊢
      by_cases here : k₀ = k
      · simp [get?_cons, here]
      · simp [get?_cons, here, ih]

/-- Writing what is there changes nothing. -/
theorem set_of_get? {d : Dict κ α} {k : κ} {v : α} (found : get? d k = some v) : set d k v = d := by
  induction d with
  | nil => cases found
  | cons entry d ih =>
      obtain ⟨k₀, v₀⟩ := entry
      rw [get?_cons] at found
      by_cases here : k₀ = k
      · rw [if_pos here] at found
        simp [set, here, Option.some.inj found]
      · rw [if_neg here] at found
        simp [set, here, ih found]

/-- A key that is set is there. -/
theorem has_set {d : Dict κ α} {k : κ} {v : α} {k' : κ} :
    has (set d k v) k' = true ↔ k = k' ∨ has d k' = true := by
  by_cases same : k = k'
  · simp [has, same]
  · simp [has, get?_set, same]

/-- A key that is erased is not there. -/
theorem has_erase {d : Dict κ α} {k k' : κ} :
    has (erase d k) k' = true ↔ k ≠ k' ∧ has d k' = true := by
  by_cases same : k = k'
  · simp [has, get?_erase, same]
  · simp [has, get?_erase, same]

/-- Mapping the values keeps the keys. -/
@[simp] theorem has_mapValues (f : α → β) (d : Dict κ α) (k : κ) : has (mapValues f d) k = has d k := by
  simp [has]

/-- The keys are those that are there. -/
theorem mem_keys_iff {d : Dict κ α} {k : κ} : k ∈ keys d ↔ has d k = true := by
  induction d with
  | nil => simp [keys, has]
  | cons entry d ih =>
      obtain ⟨k₀, v₀⟩ := entry
      unfold keys has at ih ⊢
      by_cases here : k₀ = k
      · simp [get?_cons, here]
      · simp only [List.map_cons, List.mem_cons, Ne.symm here, false_or, get?_cons, here, if_false]
        exact ih

/-- Nothing is found exactly where no key is. -/
theorem get?_eq_none_iff {d : Dict κ α} {k : κ} : get? d k = none ↔ k ∉ keys d := by
  rw [mem_keys_iff, has]
  simp

/-- What is found is an entry. -/
theorem mem_of_get? {d : Dict κ α} {k : κ} {v : α} (found : get? d k = some v) : (k, v) ∈ d := by
  induction d with
  | nil => cases found
  | cons entry d ih =>
      obtain ⟨k₀, v₀⟩ := entry
      rw [get?_cons] at found
      by_cases here : k₀ = k
      · rw [if_pos here] at found
        simp [here, Option.some.inj found]
      · rw [if_neg here] at found
        exact List.mem_cons_of_mem _ (ih found)

/-- An entry is found, if the keys are different. -/
theorem get?_of_mem {d : Dict κ α} (unique : (keys d).Nodup) {k : κ} {v : α} (held : (k, v) ∈ d) :
    get? d k = some v := by
  induction d with
  | nil => cases held
  | cons entry d ih =>
      obtain ⟨k₀, v₀⟩ := entry
      obtain ⟨fresh, unique'⟩ := List.nodup_cons.1 unique
      rw [get?_cons]
      rcases List.mem_cons.1 held with here | later
      · cases here
        rw [if_pos rfl]
      · rw [if_neg, ih unique' later]
        rintro rfl
        exact fresh (List.mem_map.2 ⟨_, later, rfl⟩)

/-- **A lookup after an update** finds what the other dictionary has, if it has the key. -/
theorem get?_update (d : Dict κ α) {other : Dict κ α} (unique : (keys other).Nodup) (k : κ) :
    get? (update d other) k = (get? other k).or (get? d k) := by
  induction other generalizing d with
  | nil => simp [update]
  | cons entry other ih =>
      obtain ⟨k₀, v₀⟩ := entry
      obtain ⟨fresh, unique'⟩ := List.nodup_cons.1 unique
      have rest := ih (set d k₀ v₀) unique'
      have unfolded : update d ((k₀, v₀) :: other) = update (set d k₀ v₀) other := rfl
      rw [unfolded, rest, get?_set, get?_cons]
      by_cases here : k₀ = k
      · subst here
        simp [get?_eq_none_iff.2 fresh]
      · simp [here]

/-- The keys after a write. -/
theorem keys_set (d : Dict κ α) (k : κ) (v : α) :
    keys (set d k v) = if has d k then keys d else keys d ++ [k] := by
  induction d with
  | nil => simp [keys, set, has]
  | cons entry d ih =>
      obtain ⟨k₀, v₀⟩ := entry
      unfold keys has at ih ⊢
      by_cases here : k₀ = k
      · simp [set, get?_cons, here]
      · simp only [set, get?_cons, here, if_false, List.map_cons, ih]
        split
        · rfl
        · rfl

/-- **The keys, each once and in this order, and what the lookups find determine a dictionary.** -/
theorem eq_of_get? {d d' : Dict κ α} (unique : (keys d).Nodup) (same : keys d = keys d')
    (lookups : ∀ k, get? d k = get? d' k) : d = d' := by
  induction d generalizing d' with
  | nil =>
      cases d' with
      | nil => rfl
      | cons entry d' => cases same
  | cons entry d ih =>
      cases d' with
      | nil => cases same
      | cons entry' d' =>
          obtain ⟨k, v⟩ := entry
          obtain ⟨k', v'⟩ := entry'
          obtain ⟨fresh, unique'⟩ := List.nodup_cons.1 unique
          obtain ⟨rfl, same'⟩ := List.cons.inj same
          have here := lookups k
          simp only [get?_cons, if_true, Option.some.injEq] at here
          have rest : d = d' := by
            refine ih unique' same' fun k₁ => ?_
            by_cases again : k = k₁
            · subst again
              have fresh' : k ∉ keys d' := by
                unfold keys
                rwa [← same']
              rw [get?_eq_none_iff.2 fresh, get?_eq_none_iff.2 fresh']
            · have later := lookups k₁
              simpa [get?_cons, again] using later
          rw [here, rest]

/-! ## Dictionaries of dictionaries -/

section Nested

variable {κ' : Type*} [DecidableEq κ']

/-- The value at two keys. -/
def find (d : Dict κ (Dict κ' α)) (k : κ) (k' : κ') : Option α := (get? d k).bind fun inner => get? inner k'

/-- Write at two keys. -/
def put (d : Dict κ (Dict κ' α)) (k : κ) (k' : κ') (v : α) : Dict κ (Dict κ' α) :=
  set d k (set ((get? d k).getD []) k' v)

/-- Remove what is at two keys. -/
def drop (d : Dict κ (Dict κ' α)) (k : κ) (k' : κ') : Dict κ (Dict κ' α) :=
  match get? d k with
  | none => d
  | some inner => set d k (erase inner k')

/-- Nothing is found in the empty dictionary. -/
@[simp] theorem find_nil (k : κ) (k' : κ') : find ([] : Dict κ (Dict κ' α)) k k' = none := rfl

/-- A dictionary is set under a key. -/
theorem find_set (d : Dict κ (Dict κ' α)) (k : κ) (inner : Dict κ' α) (k₁ : κ) (k₂ : κ') :
    find (set d k inner) k₁ k₂ = if k = k₁ then get? inner k₂ else find d k₁ k₂ := by
  unfold find
  rw [get?_set]
  split
  · rfl
  · rfl

/-- A value is put under two keys. -/
theorem find_put (d : Dict κ (Dict κ' α)) (k : κ) (k' : κ') (v : α) (k₁ : κ) (k₂ : κ') :
    find (put d k k' v) k₁ k₂ = if k = k₁ ∧ k' = k₂ then some v else find d k₁ k₂ := by
  unfold put
  rw [find_set]
  by_cases here : k = k₁
  · subst here
    rw [if_pos rfl, get?_set]
    by_cases same : k' = k₂
    · rw [if_pos same, if_pos ⟨rfl, same⟩]
    · rw [if_neg same, if_neg fun both => same both.2]
      unfold find
      cases get? d k with
      | none => rfl
      | some inner => rfl
  · rw [if_neg here, if_neg fun both => here both.1]

/-- A value is dropped under two keys. -/
theorem find_drop (d : Dict κ (Dict κ' α)) (k : κ) (k' : κ') (k₁ : κ) (k₂ : κ') :
    find (drop d k k') k₁ k₂ = if k = k₁ ∧ k' = k₂ then none else find d k₁ k₂ := by
  unfold drop
  cases found : get? d k with
  | none =>
      by_cases both : k = k₁ ∧ k' = k₂
      · rw [if_pos both, ← both.1]
        unfold find
        rw [found]
        rfl
      · rw [if_neg both]
  | some inner =>
      dsimp only
      rw [find_set]
      by_cases here : k = k₁
      · subst here
        rw [if_pos rfl, get?_erase]
        unfold find
        rw [found]
        by_cases same : k' = k₂
        · rw [if_pos same, if_pos ⟨rfl, same⟩]
        · rw [if_neg same, if_neg fun both => same both.2]
          rfl
      · rw [if_neg here, if_neg fun both => here both.1]

/-- A dictionary is erased with its key. -/
theorem find_erase (d : Dict κ (Dict κ' α)) (k k₁ : κ) (k₂ : κ') :
    find (erase d k) k₁ k₂ = if k = k₁ then none else find d k₁ k₂ := by
  unfold find
  rw [get?_erase]
  split
  · rfl
  · rfl

end Nested

end Dict
