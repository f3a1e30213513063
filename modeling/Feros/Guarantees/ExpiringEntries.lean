import Feros.Studio.KVStore
/-! # Dropping expired entries does not show

`TtlMap` is a map whose entries end and are never dropped for that.  Whatever is asked of the store in memory,
with a clock that does not go back, it answers as such a map does: when it drops what has expired does not
show. -/

namespace Feros

open Run

/-- **A map whose entries end.** -/
abbrev TtlMap (α : Type) := String → Option (α × Instant)

/-- What can be asked of a store. -/
inductive KvCall (α : Type) where
  /-- The clock is read to evict, and again for the entry. -/
  | set (key : String) (value : α) (ttl : Duration) (evicted written : Instant)
  | get (key : String) (now : Instant)
  | pop (key : String) (now : Instant)
  | delete (key : String) (now : Instant)
  deriving DecidableEq, Repr

namespace KvCall

variable {α : Type}

/-- The first reading of the clock. -/
def starts : KvCall α → Instant
  | set _ _ _ evicted _ => evicted
  | get _ now => now
  | pop _ now => now
  | delete _ now => now

/-- The last reading of the clock. -/
def ends : KvCall α → Instant
  | set _ _ _ _ written => written
  | get _ now => now
  | pop _ now => now
  | delete _ now => now

end KvCall

namespace TtlMap

variable {α : Type}

/-- The value of a key, unless it has ended. -/
def live (m : TtlMap α) (key : String) (now : Instant) : Option α :=
  (m key).bind fun entry => if entry.2 ≤ now then none else some entry.1

/-- What a call does to the map. -/
def step (m : TtlMap α) : KvCall α → TtlMap α
  | .set key value ttl _ written => Function.update m key (some (value, written + ttl))
  | .get _ _ => m
  | .pop key _ => Function.update m key none
  | .delete key _ => Function.update m key none

/-- What a call is answered. -/
def answer (m : TtlMap α) : KvCall α → List (Option α)
  | .get key now => [m.live key now]
  | .pop key now => [m.live key now]
  | .set .. => []
  | .delete .. => []

end TtlMap

namespace InMemoryKVStore

variable {α : Type}

/-- What a call does to the store. -/
def step (s : InMemoryKVStore α) : KvCall α → InMemoryKVStore α
  | .set key value ttl evicted written => s.set key value ttl evicted written
  | .get key now => (s.get key now).2
  | .pop key now => (s.pop key now).2
  | .delete key _ => s.delete key

/-- What a call is answered. -/
def answer (s : InMemoryKVStore α) : KvCall α → List (Option α)
  | .get key now => [(s.get key now).1]
  | .pop key now => [(s.pop key now).1]
  | .set .. => []
  | .delete .. => []

/-- A key has expired where its entry has ended. -/
theorem mem_expired {s : InMemoryKVStore α} {now : Instant} {key : String} :
    key ∈ s.expired now ↔ ∃ entry, Dict.get? s.store key = some entry ∧ entry.2 ≤ now := by
  unfold expired
  constructor
  · intro held
    obtain ⟨⟨_, entry⟩, inside, rfl⟩ := List.mem_map.1 held
    obtain ⟨there, past⟩ := List.mem_filter.1 inside
    exact ⟨entry, Dict.get?_of_mem s.unique there, of_decide_eq_true past⟩
  · rintro ⟨entry, found, past⟩
    exact List.mem_map.2 ⟨(key, entry), List.mem_filter.2 ⟨Dict.mem_of_get? found, decide_eq_true past⟩, rfl⟩

/-- A key that was erased is gone. -/
theorem get?_foldl_erase_of_mem {keys : List String} {key : String} (d : Dict String (α × Instant))
    (held : key ∈ keys) : Dict.get? (keys.foldl Dict.erase d) key = none := by
  induction keys generalizing d with
  | nil => cases held
  | cons first keys ih =>
      rw [List.foldl_cons]
      rcases List.mem_cons.1 held with rfl | later
      · rcases Dict.get?_foldl_erase keys (Dict.erase d key) key with kept | gone
        · rw [kept, Dict.get?_erase, if_pos rfl]
        · exact gone
      · exact ih _ later

/-- A key that was not erased is still there. -/
theorem get?_foldl_erase_of_not_mem {keys : List String} {key : String} (d : Dict String (α × Instant))
    (other : key ∉ keys) : Dict.get? (keys.foldl Dict.erase d) key = Dict.get? d key := by
  induction keys generalizing d with
  | nil => rfl
  | cons first keys ih =>
      have here : key ≠ first := fun same => other (same ▸ List.mem_cons_self)
      have later : key ∉ keys := fun held => other (List.mem_cons_of_mem _ held)
      rw [List.foldl_cons, ih _ later, Dict.get?_erase, if_neg (Ne.symm here)]

/-- **What is left after an eviction.** -/
theorem get?_evictExpired (s : InMemoryKVStore α) (now : Instant) (key : String) :
    Dict.get? (s.evictExpired now).store key = (Dict.get? s.store key).filter fun entry => now < entry.2 := by
  unfold evictExpired
  dsimp only
  by_cases gone : key ∈ s.expired now
  · rw [get?_foldl_erase_of_mem _ gone]
    obtain ⟨entry, found, past⟩ := mem_expired.1 gone
    rw [found, Option.filter_some, if_neg (by simpa using past)]
  · rw [get?_foldl_erase_of_not_mem _ gone]
    rcases found : Dict.get? s.store key with - | entry
    · rfl
    · have still : now < entry.2 := Nat.lt_of_not_le fun past => gone (mem_expired.2 ⟨entry, found, past⟩)
      rw [Option.filter_some, if_pos (decide_eq_true still)]

/-- The store and the map hold the same of what has not ended. -/
def Agrees (now : Instant) (s : InMemoryKVStore α) (m : TtlMap α) : Prop :=
  ∀ key entry, now < entry.2 → (Dict.get? s.store key = some entry ↔ m key = some entry)

/-- A reader finds the same. -/
theorem Agrees.live {before now : Instant} {s : InMemoryKVStore α} {m : TtlMap α} (agrees : Agrees before s m)
    (later : before ≤ now) (key : String) :
    ((Dict.get? s.store key).bind fun entry => if entry.2 ≤ now then none else some entry.1) =
      m.live key now := by
  unfold TtlMap.live
  rcases found : Dict.get? s.store key with - | entry
  · rcases there : m key with - | entry
    · rfl
    · rw [Option.bind_none, Option.bind_some]
      by_cases past : entry.2 ≤ now
      · rw [if_pos past]
      · have held := (agrees key entry (later.trans_lt (Nat.lt_of_not_le past))).2 there
        rw [found] at held
        cases held
  · rw [Option.bind_some]
    by_cases past : entry.2 ≤ now
    · rw [if_pos past]
      rcases there : m key with - | other
      · rfl
      · rw [Option.bind_some]
        by_cases gone : other.2 ≤ now
        · rw [if_pos gone]
        · have held := (agrees key other (later.trans_lt (Nat.lt_of_not_le gone))).2 there
          rw [found] at held
          cases held
          exact absurd past gone
    · rw [if_neg past, (agrees key entry (later.trans_lt (Nat.lt_of_not_le past))).1 found, Option.bind_some,
        if_neg past]

/-- **A get answers an entry that has not ended.** -/
theorem get_fst (s : InMemoryKVStore α) (key : String) (now : Instant) :
    (s.get key now).1 =
      (Dict.get? s.store key).bind fun entry => if entry.2 ≤ now then none else some entry.1 := by
  unfold get
  rcases found : Dict.get? s.store key with - | ⟨value, expiresAt⟩
  · rfl
  · dsimp only
    split <;> simp_all

/-- **A pop answers an entry that has not ended.** -/
theorem pop_fst (s : InMemoryKVStore α) (key : String) (now : Instant) :
    (s.pop key now).1 =
      (Dict.get? s.store key).bind fun entry => if entry.2 ≤ now then none else some entry.1 := by
  unfold pop
  rcases found : Dict.get? s.store key with - | ⟨value, expiresAt⟩
  · rfl
  · rfl

/-- A key that is dropped from both. -/
theorem Agrees.drop {now : Instant} {s : InMemoryKVStore α} {m : TtlMap α} (agrees : Agrees now s m)
    (key : String) : Agrees now (s.delete key) (Function.update m key none) := by
  intro other entry live
  unfold delete
  dsimp only
  rw [Dict.get?_erase]
  by_cases same : key = other
  · subst same
    rw [if_pos rfl, Function.update_self]
  · rw [if_neg same, Function.update_of_ne (Ne.symm same)]
    exact agrees other entry live

/-- Two stores that agree still agree later. -/
theorem Agrees.mono {before now : Instant} {s : InMemoryKVStore α} {m : TtlMap α} (agrees : Agrees before s m)
    (later : before ≤ now) : Agrees now s m :=
  fun key entry live => agrees key entry (later.trans_lt live)

/-- **One call.** -/
theorem Agrees.step {before : Instant} {s : InMemoryKVStore α} {m : TtlMap α} (agrees : Agrees before s m)
    {call : KvCall α} (later : before ≤ call.starts) (forth : call.starts ≤ call.ends) :
    Agrees call.ends (s.step call) (m.step call) ∧ s.answer call = m.answer call := by
  cases call with
  | set key value ttl evicted written =>
      refine ⟨fun other entry live => ?_, rfl⟩
      change Dict.get? (Dict.set (s.evictExpired evicted).store key (value, written + ttl)) other = some entry ↔ _
      change _ ↔ Function.update m key (some (value, written + ttl)) other = some entry
      rw [Dict.get?_set]
      -- The key itself holds the new value; of the others those that still live were not evicted.
      by_cases same : key = other
      · subst same
        rw [if_pos rfl, Function.update_self]
      · rw [if_neg same, Function.update_of_ne (Ne.symm same), get?_evictExpired, Option.filter_eq_some_iff,
          decide_eq_true_iff, agrees other entry ((later.trans forth).trans_lt live)]
        exact and_iff_left (Nat.lt_of_le_of_lt forth live)
  | get key now =>
      refine ⟨?_, congrArg (fun found => [found]) ((s.get_fst key now).trans (agrees.live later key))⟩
      have now_ := agrees.mono later
      change Agrees now (s.get key now).2 m
      unfold InMemoryKVStore.get
      rcases found : Dict.get? s.store key with - | ⟨value, expiresAt⟩
      · exact now_
      · dsimp only
        split
        -- The entry has ended, so the key holds nothing in both stores.
        · next past =>
          intro other entry live
          refine Iff.trans ?_ (now_ other entry live)
          unfold delete
          dsimp only
          rw [Dict.get?_erase]
          by_cases same : key = other
          · subst same
            rw [if_pos rfl, found]
            refine iff_of_false nofun fun held => ?_
            cases held
            exact absurd past (Nat.not_le_of_lt live)
          · rw [if_neg same]
        · exact now_
  | pop key now =>
      refine ⟨?_, congrArg (fun found => [found]) ((s.pop_fst key now).trans (agrees.live later key))⟩
      have dropped := (agrees.mono later).drop key
      change Agrees now (s.pop key now).2 (Function.update m key none)
      unfold InMemoryKVStore.pop
      rcases found : Dict.get? s.store key with - | ⟨value, expiresAt⟩
      · -- There is nothing to drop.
        intro other entry live
        refine Iff.trans ?_ (dropped other entry live)
        unfold delete
        dsimp only
        rw [Dict.get?_erase]
        by_cases same : key = other
        · subst same
          rw [if_pos rfl, found]
        · rw [if_neg same]
      · exact dropped
  | delete key now => exact ⟨(agrees.mono later).drop key, rfl⟩

/-- **The clock does not go back.** -/
def Forth : Instant → List (KvCall α) → Prop
  | _, [] => True
  | before, call :: calls => before ≤ call.starts ∧ call.starts ≤ call.ends ∧ Forth call.ends calls

/-- **When expired entries are dropped does not show.** -/
theorem answers_agree {calls : List (KvCall α)} (forth : Forth 0 calls) :
    outputs step answer (empty : InMemoryKVStore α) calls =
      outputs TtlMap.step TtlMap.answer (fun _ => none) calls := by
  have agrees : Agrees 0 (empty : InMemoryKVStore α) fun _ => none := fun _ _ _ => iff_of_false nofun nofun
  generalize (0 : Instant) = before at forth agrees
  generalize (empty : InMemoryKVStore α) = s at agrees ⊢
  generalize (fun _ => none : TtlMap α) = m at agrees ⊢
  induction calls generalizing before s m with
  | nil => rfl
  | cons call calls ih =>
      obtain ⟨later, within, rest⟩ := forth
      obtain ⟨next, same⟩ := agrees.step later within
      exact congrArg₂ (· ++ ·) same (ih call.ends rest _ _ next)

/-- Three keys: one is asked for after it has ended, one is popped twice. -/
theorem answers_agree_twice :
    outputs step answer (empty : InMemoryKVStore ℕ)
        [.set "a" 1 5 0 1, .set "b" 2 9 2 2, .get "a" 7, .set "c" 3 1 7 7, .pop "a" 8, .pop "b" 8, .pop "b" 8] =
      outputs TtlMap.step TtlMap.answer (fun _ => none)
        [.set "a" 1 5 0 1, .set "b" 2 9 2 2, .get "a" 7, .set "c" 3 1 7 7, .pop "a" 8, .pop "b" 8, .pop "b" 8] :=
  answers_agree (by simp [Forth, KvCall.starts, KvCall.ends])

end InMemoryKVStore

end Feros
