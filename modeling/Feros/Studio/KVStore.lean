import Feros.Types
import Feros.Library.Dict
import Feros.Library.Run
/-! # The key-value store of the API server

Short-lived data such as OAuth states, with a time to live.  The store in memory drops expired entries only
when something is stored, so that every reader checks the end of an entry again. -/

namespace Feros

/-- **`InMemoryKVStore`**: the value of a key, and when it expires. -/
structure InMemoryKVStore (α : Type) where
  store : Dict String (α × Instant)
  unique : (Dict.keys store).Nodup

namespace InMemoryKVStore

variable {α : Type}

/-- An empty store. -/
def empty : InMemoryKVStore α := ⟨[], List.nodup_nil⟩

/-- The keys differ where one was erased. -/
theorem nodup_erase {d : Dict String (α × Instant)} (unique : (Dict.keys d).Nodup) (key : String) :
    (Dict.keys (Dict.erase d key)).Nodup :=
  unique.sublist (List.filter_sublist.map _)

/-- The keys differ where several were erased. -/
theorem nodup_foldl_erase {d : Dict String (α × Instant)} (unique : (Dict.keys d).Nodup) (keys : List String) :
    (Dict.keys (keys.foldl Dict.erase d)).Nodup := by
  induction keys generalizing d with
  | nil => exact unique
  | cons key keys ih => exact ih (nodup_erase unique key)

/-- The keys differ where an entry was set. -/
theorem nodup_set {d : Dict String (α × Instant)} (unique : (Dict.keys d).Nodup) (key : String)
    (entry : α × Instant) : (Dict.keys (Dict.set d key entry)).Nodup := by
  rw [Dict.keys_set]
  split
  · exact unique
  · next fresh =>
    have new : key ∉ Dict.keys d := fun held => fresh (Dict.mem_keys_iff.1 held)
    exact unique.append (List.nodup_singleton key) (List.disjoint_singleton.2 new)

/-- The keys whose entries have expired. -/
def expired (now : Instant) (s : InMemoryKVStore α) : List String :=
  (s.store.filter fun entry => entry.2.2 ≤ now).map (·.1)

/-- `_evict_expired`. -/
def evictExpired (now : Instant) (s : InMemoryKVStore α) : InMemoryKVStore α where
  store := (s.expired now).foldl Dict.erase s.store
  unique := nodup_foldl_erase s.unique _

/-- `set`: the clock is read once to evict, and once for the new entry. -/
def set (key : String) (value : α) (ttl : Duration) (evicted written : Instant) (s : InMemoryKVStore α) :
    InMemoryKVStore α where
  store := Dict.set (s.evictExpired evicted).store key (value, written + ttl)
  unique := nodup_set (s.evictExpired evicted).unique key _

/-- `delete`. -/
def delete (key : String) (s : InMemoryKVStore α) : InMemoryKVStore α where
  store := Dict.erase s.store key
  unique := nodup_erase s.unique key

/-- `get`: an entry that has expired is dropped. -/
def get (key : String) (now : Instant) (s : InMemoryKVStore α) : Option α × InMemoryKVStore α :=
  match Dict.get? s.store key with
  | none => (none, s)
  | some (value, expiresAt) => if expiresAt ≤ now then (none, s.delete key) else (some value, s)

/-- `pop`: retrieve and delete. -/
def pop (key : String) (now : Instant) (s : InMemoryKVStore α) : Option α × InMemoryKVStore α :=
  match Dict.get? s.store key with
  | none => (none, s)
  | some (value, expiresAt) => (if expiresAt ≤ now then none else some value, s.delete key)

end InMemoryKVStore

end Feros
