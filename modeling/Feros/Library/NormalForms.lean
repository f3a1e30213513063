import Feros.Library.Dict
import Mathlib.Data.List.Dedup
import Mathlib.Data.List.Induction
import Mathlib.Data.List.Sort
/-! # Normal forms of dictionaries and of lists

A dictionary is in normal form if its keys are in order: some of them in a given order, behind them the
others sorted.  A list is in normal form if nothing in it repeats.

* **`arrange`** orders the keys, and **`normal`** also normalizes the values.
* **`normal_congr`**: dictionaries with the same lookups have one normal form, in whatever order their
  keys are; so **`normal_idem`**.
* **`firsts`** keeps the first occurrence of each item. -/

namespace Dict

variable {κ α : Type*} [LinearOrder κ]

/-! ## Dictionaries -/

/-- Change each value, in a way that depends on its key. -/
def mapEntries (f : κ → α → α) (d : Dict κ α) : Dict κ α := d.map fun entry => (entry.1, f entry.1 entry.2)

/-- An entry that was mapped is the mapped entry. -/
@[simp] theorem get?_mapEntries (f : κ → α → α) (d : Dict κ α) (k : κ) :
    get? (mapEntries f d) k = (get? d k).map (f k) := by
  induction d with
  | nil => rfl
  | cons entry d ih =>
      obtain ⟨k₀, v₀⟩ := entry
      unfold mapEntries at ih ⊢
      by_cases here : k₀ = k
      · subst here
        simp [get?_cons]
      · simp [get?_cons, here, ih]

/-- The keys in order: those of `order` first, behind them the others, sorted. -/
def arrangedKeys (order : List κ) (d : Dict κ α) : List κ :=
  order.filter (has d) ++ ((keys d).dedup.filter (· ∉ order)).insertionSort (· ≤ ·)

/-- **The dictionary with its keys in order.** -/
def arrange (order : List κ) (d : Dict κ α) : Dict κ α :=
  (arrangedKeys order d).filterMap fun k => (get? d k).map (k, ·)

/-- The arranged keys are the keys. -/
theorem mem_arrangedKeys {order : List κ} {d : Dict κ α} {k : κ} :
    k ∈ arrangedKeys order d ↔ has d k = true := by
  simp only [arrangedKeys, List.mem_append, List.mem_filter, List.mem_insertionSort, List.mem_dedup,
    mem_keys_iff, decide_eq_true_eq]
  tauto

/-- An arranged key comes once. -/
theorem nodup_arrangedKeys {order : List κ} (nodup : order.Nodup) (d : Dict κ α) :
    (arrangedKeys order d).Nodup := by
  refine List.Nodup.append (nodup.filter _) ?_ ?_
  · exact (List.perm_insertionSort _ _).nodup_iff.2 ((List.nodup_dedup _).filter _)
  · intro k first second
    simp only [List.mem_insertionSort, List.mem_filter, decide_eq_true_eq] at first second
    exact second.2 first.1

/-- Lists that are sorted strictly are the same if they have the same items. -/
theorem eq_of_sorted {ks ks' : List κ} (sorted : ks.Pairwise (· < ·)) (sorted' : ks'.Pairwise (· < ·))
    (same : ∀ k, k ∈ ks ↔ k ∈ ks') : ks = ks' := by
  have perm : ks.Perm ks' := (List.perm_ext_iff_of_nodup (sorted.imp ne_of_lt) (sorted'.imp ne_of_lt)).2 same
  exact perm.eq_of_pairwise (fun a b _ _ below above => absurd below (lt_asymm above)) sorted sorted'

/-- Keys that are sorted and differ ascend. -/
theorem sorted_insertionSort {ks : List κ} (nodup : ks.Nodup) :
    (ks.insertionSort (· ≤ ·)).Pairwise (· < ·) := by
  have distinct : (ks.insertionSort (· ≤ ·)).Nodup := (List.perm_insertionSort _ _).nodup_iff.2 nodup
  have sorted := List.pairwise_insertionSort (· ≤ ·) ks
  exact (sorted.and distinct).imp fun both => lt_of_le_of_ne both.1 both.2

/-- The order of the keys depends on what keys there are. -/
theorem arrangedKeys_congr (order : List κ) {d d' : Dict κ α} (same : ∀ k, has d k = has d' k) :
    arrangedKeys order d = arrangedKeys order d' := by
  have rest : ((keys d).dedup.filter (· ∉ order)).insertionSort (· ≤ ·) =
      ((keys d').dedup.filter (· ∉ order)).insertionSort (· ≤ ·) := by
    refine eq_of_sorted (sorted_insertionSort ((List.nodup_dedup _).filter _))
      (sorted_insertionSort ((List.nodup_dedup _).filter _)) fun k => ?_
    simp [mem_keys_iff, same k]
  rw [arrangedKeys, arrangedKeys, rest]
  congr 1
  exact List.filter_congr fun k _ => same k

/-- The keys that were kept are those that were asked for. -/
theorem keys_filterMap {ks : List κ} {d : Dict κ α} (there : ∀ k ∈ ks, has d k = true) :
    keys (ks.filterMap fun k => (get? d k).map (k, ·)) = ks := by
  induction ks with
  | nil => rfl
  | cons k ks ih =>
      obtain ⟨v, found⟩ := Option.isSome_iff_exists.1 (there k List.mem_cons_self)
      have rest := ih fun k' held => there k' (List.mem_cons_of_mem k held)
      simp only [List.filterMap_cons, found, Option.map_some, keys, List.map_cons] at rest ⊢
      rw [rest]

/-- An entry that was kept is the entry there was. -/
theorem get?_filterMap (ks : List κ) (d : Dict κ α) (k : κ) :
    get? (ks.filterMap fun k => (get? d k).map (k, ·)) k = if k ∈ ks then get? d k else none := by
  induction ks with
  | nil => rfl
  | cons k' ks ih =>
      cases found : get? d k' with
      | none =>
          rw [List.filterMap_cons, found]
          simp only [Option.map_none, ih, List.mem_cons]
          by_cases here : k = k'
          · subst here
            simp [found]
          · simp [here]
      | some v =>
          rw [List.filterMap_cons, found]
          simp only [Option.map_some, get?_cons, ih, List.mem_cons]
          by_cases here : k' = k
          · subst here
            simp [found]
          · simp [here, Ne.symm here]

/-- **Ordering the keys changes no lookup.** -/
@[simp] theorem get?_arrange (order : List κ) (d : Dict κ α) (k : κ) :
    get? (arrange order d) k = get? d k := by
  rw [arrange, get?_filterMap]
  by_cases there : has d k = true
  · rw [if_pos (mem_arrangedKeys.2 there)]
  · rw [if_neg fun held => there (mem_arrangedKeys.1 held)]
    exact (Option.not_isSome_iff_eq_none.1 there).symm

/-- A dictionary that was arranged has the arranged keys. -/
theorem keys_arrange (order : List κ) (d : Dict κ α) : keys (arrange order d) = arrangedKeys order d :=
  keys_filterMap fun _ held => mem_arrangedKeys.1 held

/-- **The keys in order depend on the lookups only.** -/
theorem arrange_congr {order : List κ} {d d' : Dict κ α} (same : ∀ k, get? d k = get? d' k) :
    arrange order d = arrange order d' := by
  have keys : arrangedKeys order d = arrangedKeys order d' :=
    arrangedKeys_congr order fun k => congrArg Option.isSome (same k)
  rw [arrange, arrange, keys]
  congr 1
  funext k
  rw [same k]

/-- A value may be written before or after the keys are put in order. -/
theorem set_arrange {order : List κ} (nodup : order.Nodup) {d : Dict κ α} {k : κ} (there : has d k = true)
    (v : α) : set (arrange order d) k v = arrange order (set d k v) := by
  have there' : has (arrange order d) k = true := by rw [has, get?_arrange]; exact there
  have keys_eq : keys (set (arrange order d) k v) = arrangedKeys order d := by
    rw [keys_set, if_pos there', keys_arrange]
  refine eq_of_get? (keys_eq ▸ nodup_arrangedKeys nodup d) ?_ fun k' => ?_
  · rw [keys_eq, keys_arrange]
    refine arrangedKeys_congr order fun k' => Bool.eq_iff_iff.2 ?_
    rw [has_set]
    exact ⟨.inr, fun either => either.elim (fun same => same ▸ there) id⟩
  · simp [get?_set]

/-- Change the value of one key. -/
def changeAt (k : κ) (g : α → α) (d : Dict κ α) : Dict κ α :=
  mapEntries (fun k' v => if k' = k then g v else v) d

/-- One entry changes, the others stay. -/
@[simp] theorem get?_changeAt (k : κ) (g : α → α) (d : Dict κ α) (k' : κ) :
    get? (changeAt k g d) k' = (get? d k').map fun v => if k' = k then g v else v := by
  simp [changeAt]

/-- **A value may be changed before or after the keys are put in order.** -/
theorem set_arrange_changeAt {order : List κ} (nodup : order.Nodup) {d : Dict κ α} {k : κ} {v : α}
    (found : get? d k = some v) (g : α → α) :
    set (arrange order d) k (g v) = arrange order (changeAt k g d) := by
  rw [set_arrange nodup (by simp [has, found])]
  refine arrange_congr fun k' => ?_
  rw [get?_set, get?_changeAt]
  by_cases same : k = k'
  · subst same
    simp [found]
  · simp [same, Ne.symm same]

/-- A change that does nothing. -/
theorem arrange_changeAt {order : List κ} {d : Dict κ α} {k : κ} {g : α → α}
    (same : ∀ v, get? d k = some v → g v = v) : arrange order (changeAt k g d) = arrange order d := by
  refine arrange_congr fun k' => ?_
  rw [get?_changeAt]
  by_cases here : k' = k
  · subst here
    cases found : get? d k' with
    | none => rfl
    | some v => simp [same v found]
  · simp [here]

/-- **The normal form** of a dictionary, given that of its values. -/
def normal (order : List κ) (f : κ → α → α) (d : Dict κ α) : Dict κ α := arrange order (mapEntries f d)

/-- **An entry of the normal form is the normal form of the entry.** -/
@[simp] theorem get?_normal (order : List κ) (f : κ → α → α) (d : Dict κ α) (k : κ) :
    get? (normal order f d) k = (get? d k).map (f k) := by
  simp [normal]

/-- **Dictionaries whose values have the same normal forms have the same normal form.** -/
theorem normal_congr {order : List κ} {f : κ → α → α} {d d' : Dict κ α}
    (same : ∀ k, Option.Rel (fun v v' => f k v = f k v') (get? d k) (get? d' k)) :
    normal order f d = normal order f d' := by
  refine arrange_congr fun k => ?_
  have here := same k
  rw [get?_mapEntries, get?_mapEntries]
  generalize get? d k = found, get? d' k = found' at here ⊢
  cases here with
  | some values => exact congrArg some values
  | none => rfl

/-- **Normalizing again changes nothing.** -/
theorem normal_idem {order : List κ} {f : κ → α → α} {d : Dict κ α}
    (idem : ∀ k v, get? d k = some v → f k (f k v) = f k v) :
    normal order f (normal order f d) = normal order f d := by
  refine normal_congr fun k => ?_
  rw [get?_normal]
  cases found : get? d k with
  | none => exact .none
  | some v => exact .some (idem k v found)

end Dict

/-! ## Lists -/

section Firsts

variable {α : Type*} [DecidableEq α]

/-- **The first occurrences**: the items that do not stand in front of themselves. -/
def firsts (l : List α) : List α := (l.zipIdx.filter fun entry => entry.1 ∉ l.take entry.2).map Prod.fst

/-- Nothing has no first occurrences. -/
@[simp] theorem firsts_nil : firsts ([] : List α) = [] := rfl

/-- An item at the end is kept if it is new. -/
theorem firsts_concat (l : List α) (x : α) :
    firsts (l ++ [x]) = if x ∈ l then firsts l else firsts l ++ [x] := by
  have front : l.zipIdx.filter (fun entry => entry.1 ∉ (l ++ [x]).take entry.2) =
      l.zipIdx.filter fun entry => entry.1 ∉ l.take entry.2 := by
    refine List.filter_congr fun entry held => ?_
    have inside : entry.2 ≤ l.length := le_of_lt (List.snd_lt_of_mem_zipIdx held)
    rw [List.take_append_of_le_length inside]
  unfold firsts
  rw [List.zipIdx_append, List.filter_append, front, List.map_append]
  by_cases old : x ∈ l
  · simp [old]
  · simp [old]

/-- What occurs has a first occurrence. -/
theorem mem_firsts {l : List α} {x : α} : x ∈ firsts l ↔ x ∈ l := by
  induction l using List.reverseRecOn with
  | nil => simp
  | append_singleton l y ih =>
      rw [firsts_concat]
      by_cases old : y ∈ l
      · rw [if_pos old, ih, List.mem_append, List.mem_singleton]
        exact ⟨.inl, fun either => either.elim id fun same => same ▸ old⟩
      · simp [old, ih]

/-- A first occurrence comes once. -/
theorem nodup_firsts (l : List α) : (firsts l).Nodup := by
  induction l using List.reverseRecOn with
  | nil => simp
  | append_singleton l y ih =>
      rw [firsts_concat]
      by_cases old : y ∈ l
      · rwa [if_pos old]
      · rw [if_neg old]
        exact ih.append (List.nodup_singleton y) (by simpa [mem_firsts] using old)

/-- Where nothing repeats, nothing is dropped. -/
theorem firsts_of_nodup {l : List α} (nodup : l.Nodup) : firsts l = l := by
  induction l using List.reverseRecOn with
  | nil => rfl
  | append_singleton l y ih =>
      obtain ⟨front, -, apart⟩ := List.nodup_append.1 nodup
      have new : y ∉ l := fun held => apart y held y (List.mem_singleton_self y) rfl
      rw [firsts_concat, if_neg new, ih front]

/-- **Dropping repetitions again changes nothing.** -/
theorem firsts_firsts (l : List α) : firsts (firsts l) = firsts l := firsts_of_nodup (nodup_firsts l)

end Firsts
