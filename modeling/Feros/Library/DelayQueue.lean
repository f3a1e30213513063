import Mathlib.Data.Multiset.AddSub
/-!
# A keyed delay queue

A queue of values, each due at a deadline, in which `insert` hands out a key and the key's
holder may take the entry back with `remove` before it fires.  Keys name entries: the keys of
the queue are pairwise different, which the structure carries as a field.  A key may come back
once its entry has left the queue, as with slab-allocated keys.

Removing a key that is not in the queue is an error of the caller; the queue remembers it in
`panicked` rather than hiding it, so that the absence of such calls can be stated.

`held` forgets deadlines and order.  Every lemma below speaks about `held`, so that a proof about
who owns which key is multiset arithmetic.
-/

/-- One queued value. -/
structure Delayed (α : Type*) where
  /-- The token the inserter keeps. -/
  key : ℕ
  /-- What the queue yields when the entry fires. -/
  value : α
  /-- The instant from which the entry may fire. -/
  deadline : ℕ
  deriving DecidableEq, Repr

/-- **A delay queue**: entries under pairwise different keys. -/
structure DelayQueue (α : Type*) where
  /-- The queued entries, newest first. -/
  entries : List (Delayed α)
  /-- No two entries share a key. -/
  nodup : (entries.map Delayed.key).Nodup
  /-- Some caller removed a key that was not there. -/
  panicked : Bool

namespace DelayQueue

variable {α : Type*}

/-- The empty queue. -/
def empty : DelayQueue α := ⟨[], List.nodup_nil, false⟩

/-- The keys in use. -/
def keys (q : DelayQueue α) : List ℕ := q.entries.map Delayed.key

/-- A key no entry uses: one more than the largest. -/
def freshKey (q : DelayQueue α) : ℕ := q.keys.foldr (fun k m => max (k + 1) m) 0

/-- Every key is below the fresh key. -/
theorem lt_freshKey {q : DelayQueue α} {k : ℕ} (h : k ∈ q.keys) : k < q.freshKey := by
  unfold freshKey
  generalize q.keys = ks at h ⊢
  induction ks with
  | nil => simp at h
  | cons a as ih =>
    simp only [List.foldr_cons]
    rcases List.mem_cons.1 h with rfl | h
    · omega
    · have := ih h
      omega

/-- The fresh key is new. -/
theorem freshKey_notMem (q : DelayQueue α) : q.freshKey ∉ q.keys :=
  fun h => Nat.lt_irrefl _ (lt_freshKey h)

/-- Queue `value` until `deadline`; the first component is its key. -/
def insert (q : DelayQueue α) (value : α) (deadline : ℕ) : ℕ × DelayQueue α :=
  (q.freshKey,
    { entries := ⟨q.freshKey, value, deadline⟩ :: q.entries
      nodup := List.nodup_cons.2 ⟨q.freshKey_notMem, q.nodup⟩
      panicked := q.panicked })

/-- What is filtered keeps its keys apart. -/
theorem nodup_filter (q : DelayQueue α) (p : Delayed α → Bool) :
    ((q.entries.filter p).map Delayed.key).Nodup :=
  (List.filter_sublist.map Delayed.key).nodup q.nodup

/-- Drop the entry under `key`, whether or not there is one. -/
def erase (q : DelayQueue α) (key : ℕ) : DelayQueue α where
  entries := q.entries.filter fun e => e.key != key
  nodup := q.nodup_filter _
  panicked := q.panicked

/-- Take the entry under `key` back.  An absent key panics. -/
def remove (q : DelayQueue α) (key : ℕ) : DelayQueue α :=
  { q.erase key with panicked := q.panicked || !q.keys.contains key }

/-- The entry under `key`, once its deadline has passed. -/
def due (q : DelayQueue α) (key now : ℕ) : Option (Delayed α) :=
  q.entries.find? fun e => e.key == key && e.deadline ≤ now

/-- **Who holds what**: the queued values under their keys. -/
def held (q : DelayQueue α) : Multiset (ℕ × α) :=
  (q.entries.map fun e => (e.key, e.value) : List (ℕ × α))

/-- An empty queue holds nothing. -/
@[simp] theorem held_empty : (empty : DelayQueue α).held = 0 := rfl

/-- An empty queue has not panicked. -/
@[simp] theorem panicked_empty : (empty : DelayQueue α).panicked = false := rfl

/-- Inserting adds one held entry, under the returned key. -/
@[simp] theorem held_insert (q : DelayQueue α) (value : α) (deadline : ℕ) :
    (q.insert value deadline).2.held = ((q.insert value deadline).1, value) ::ₘ q.held := rfl

/-- An insertion does not panic. -/
@[simp] theorem panicked_insert (q : DelayQueue α) (value : α) (deadline : ℕ) :
    (q.insert value deadline).2.panicked = q.panicked := rfl

/-- Erasing does not panic. -/
@[simp] theorem panicked_erase (q : DelayQueue α) (key : ℕ) :
    (q.erase key).panicked = q.panicked := rfl

/-- A removal leaves what erasing leaves. -/
@[simp] theorem held_remove (q : DelayQueue α) (key : ℕ) :
    (q.remove key).held = (q.erase key).held := rfl

/-- What is held is at a key. -/
theorem mem_keys_of_held {q : DelayQueue α} {key : ℕ} {value : α}
    (h : (key, value) ∈ q.held) : key ∈ q.keys := by
  simp only [held, Multiset.mem_coe, List.mem_map, Prod.mk.injEq] at h
  obtain ⟨e, he, rfl, -⟩ := h
  exact List.mem_map_of_mem he

/-- A key that is held can be removed without a panic. -/
theorem panicked_remove_of_held {q : DelayQueue α} {key : ℕ} {value : α}
    (h : (key, value) ∈ q.held) : (q.remove key).panicked = q.panicked := by
  simp [remove, mem_keys_of_held h]

/-- Erasing a held key takes exactly its entry away, since no other entry has the key. -/
theorem cons_held_erase {q : DelayQueue α} {key : ℕ} {value : α}
    (h : (key, value) ∈ q.held) : (key, value) ::ₘ (q.erase key).held = q.held := by
  obtain ⟨entries, nodup, panicked⟩ := q
  simp only [held, erase] at h ⊢
  induction entries with
  | nil => simp at h
  | cons e es ih =>
    obtain ⟨fresh, nodup⟩ := List.nodup_cons.1 nodup
    by_cases hk : e.key = key
    · -- The head is the entry; no later entry is filtered out.
      have keep : es.filter (fun e => e.key != key) = es := by
        refine List.filter_eq_self.2 fun a ha => ?_
        have : a.key ≠ key := fun h' => fresh (List.mem_map.2 ⟨a, ha, h'.trans hk.symm⟩)
        simpa using this
      have value_eq : e.value = value := by
        rcases List.mem_cons.1 h with h | h
        · exact (Prod.mk.inj h).2.symm
        · obtain ⟨a, ha, h'⟩ := List.mem_map.1 h
          exact absurd (List.mem_map.2 ⟨a, ha, (Prod.mk.inj h').1.trans hk.symm⟩) fresh
      simp [hk, keep, value_eq]
    · have h' : (key, value) ∈ (es.map fun e => (e.key, e.value) : Multiset (ℕ × α)) := by
        rcases List.mem_cons.1 h with h | h
        · exact absurd (Prod.mk.inj h).1.symm hk
        · exact h
      have := ih nodup h'
      rw [List.filter_cons_of_pos (by simpa using hk), List.map_cons, List.map_cons,
        ← Multiset.cons_coe, ← Multiset.cons_coe, Multiset.cons_swap, this]

/-- **Removing a held entry** leaves the rest. -/
theorem held_erase {q : DelayQueue α} {key : ℕ} {value : α} {rest : Multiset (ℕ × α)}
    (h : q.held = (key, value) ::ₘ rest) : (q.erase key).held = rest := by
  have mem : (key, value) ∈ q.held := h ▸ Multiset.mem_cons_self _ _
  exact (Multiset.cons_inj_right _).1 ((cons_held_erase mem).trans h)

/-- A due entry is a held entry. -/
theorem held_of_due {q : DelayQueue α} {key now : ℕ} {e : Delayed α}
    (h : q.due key now = some e) : (key, e.value) ∈ q.held := by
  have hk : e.key = key := by
    have := List.find?_some h
    simp only [Bool.and_eq_true, beq_iff_eq] at this
    exact this.1
  have he : e ∈ q.entries := List.mem_of_find?_eq_some h
  exact Multiset.mem_coe.2 (List.mem_map.2 ⟨e, he, by rw [hk]⟩)

/-- A key names one value. -/
theorem value_unique {q : DelayQueue α} {key : ℕ} {value value' : α}
    (h : (key, value) ∈ q.held) (h' : (key, value') ∈ q.held) : value = value' := by
  simp only [held, Multiset.mem_coe, List.mem_map, Prod.mk.injEq] at h h'
  obtain ⟨e, mem, rfl, rfl⟩ := h
  obtain ⟨e', mem', same, rfl⟩ := h'
  rw [List.inj_on_of_nodup_map q.nodup mem' mem same]

/-! ## Owners -/

/-- **The queue holds exactly what its owners hold**, and nobody has removed an absent key. -/
structure OwnedBy (q : DelayQueue α) (owned : Multiset (ℕ × α)) : Prop where
  held_eq : q.held = owned
  sound : q.panicked = false

namespace OwnedBy

variable {q : DelayQueue α} {owned rest : Multiset (ℕ × α)} {key : ℕ} {value : α}

/-- What is owned by the same is owned. -/
theorem congr (h : q.OwnedBy owned) (same : owned = rest) : q.OwnedBy rest := same ▸ h

/-- The inserter becomes an owner. -/
theorem insert (h : q.OwnedBy owned) (value : α) (deadline : ℕ) :
    (q.insert value deadline).2.OwnedBy ({((q.insert value deadline).1, value)} + owned) where
  held_eq := by rw [held_insert, h.held_eq, Multiset.singleton_add]
  sound := h.sound

/-- An owner takes its entry back. -/
theorem remove (h : q.OwnedBy ({(key, value)} + rest)) : (q.remove key).OwnedBy rest where
  held_eq := by
    rw [held_remove]
    exact held_erase (h.held_eq.trans (Multiset.singleton_add _ _))
  sound := by
    have mem : (key, value) ∈ q.held := by
      rw [h.held_eq]
      exact Multiset.mem_add.2 (.inl (Multiset.mem_singleton_self _))
    rw [panicked_remove_of_held mem]
    exact h.sound

/-- The entry of an owner fires. -/
theorem erase (h : q.OwnedBy ({(key, value)} + rest)) : (q.erase key).OwnedBy rest where
  held_eq := held_erase (h.held_eq.trans (Multiset.singleton_add _ _))
  sound := h.sound

/-- What fires was owned. -/
theorem mem_of_due (h : q.OwnedBy owned) {now : ℕ} {entry : Delayed α}
    (due : q.due key now = some entry) : (key, entry.value) ∈ owned :=
  h.held_eq ▸ held_of_due due

end OwnedBy

end DelayQueue
