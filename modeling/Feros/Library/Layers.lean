import Mathlib.Data.List.Induction
/-! # Layers

A map is filled by layers, one after the other; each writes its keys, and a later one covers what an
earlier one wrote.  Layers have owners, and the layers of different owners may be apart.

* **`Source`**: the layer a key has its value from.
* **`one_source_iff`**: every owner has one layer that all its keys come from, if and only if none of its
  layers has a key that its last one lacks. -/

namespace Layers

variable {Layer Key Owner : Type*} (keys : Layer → List Key) (owner : Layer → Owner)

/-- **The layer `i` is the last one with this key.** -/
structure Source (layers : List Layer) (key : Key) (i : ℕ) (layer : Layer) : Prop where
  here : layers[i]? = some layer
  written : key ∈ keys layer
  uncovered : ∀ j later, i < j → layers[j]? = some later → key ∉ keys later

/-- **Layers of different owners have no key in common.** -/
def Apart (layers : List Layer) : Prop :=
  ∀ first ∈ layers, ∀ second ∈ layers, owner first ≠ owner second →
    ∀ key ∈ keys first, key ∉ keys second

/-- **All keys of an owner come from one layer.** -/
def OneSource (layers : List Layer) : Prop :=
  ∀ key key' i j layer layer', Source keys layers key i layer → Source keys layers key' j layer' →
    owner layer = owner layer' → i = j

/-- **The layer `i` is the last one of its owner that has keys.** -/
structure LastOf (layers : List Layer) (i : ℕ) (layer : Layer) : Prop where
  here : layers[i]? = some layer
  writes : keys layer ≠ []
  last : ∀ j later, i < j → layers[j]? = some later → owner later = owner layer → keys later = []

variable {keys owner} {layers : List Layer}

/-- There is a last one among the layers with a property. -/
theorem exists_last {P : Layer → Prop} {i : ℕ} {layer : Layer} (here : layers[i]? = some layer)
    (holds : P layer) : ∃ j last, i ≤ j ∧ layers[j]? = some last ∧ P last ∧
      ∀ k later, j < k → layers[k]? = some later → ¬ P later := by
  induction layers using List.reverseRecOn generalizing i layer with
  | nil => cases here
  | append_singleton front final ih =>
      have bound : i < front.length + 1 := by
        have := (List.getElem?_eq_some_iff.1 here).1
        rwa [List.length_append] at this
      have behind : ∀ k later, front.length < k → (front ++ [final])[k]? ≠ some later := by
        intro k later beyond found
        have inside := (List.getElem?_eq_some_iff.1 found).1
        rw [List.length_append, List.length_singleton] at inside
        omega
      by_cases ends : P final
      · refine ⟨front.length, final, Nat.le_of_lt_succ bound, List.getElem?_concat_length, ends, ?_⟩
        exact fun k later beyond found => absurd found (behind k later beyond)
      · have inside : i < front.length := by
          by_contra outside
          have same : i = front.length := by omega
          rw [same, List.getElem?_concat_length] at here
          cases here
          exact ends holds
        rw [List.getElem?_append_left inside] at here
        obtain ⟨j, last, after, found, holds', later⟩ := ih here holds
        have below : j < front.length := (List.getElem?_eq_some_iff.1 found).1
        refine ⟨j, last, after, by rw [List.getElem?_append_left below, found], holds', ?_⟩
        intro k layer' beyond found'
        rcases Nat.lt_trichotomy k front.length with before | same | outside'
        · rw [List.getElem?_append_left before] at found'
          exact later k layer' beyond found'
        · rw [same, List.getElem?_concat_length] at found'
          cases found'
          exact ends
        · exact absurd found' (behind k layer' outside')

/-- A key that some layer writes has a source. -/
theorem exists_source {key : Key} {i : ℕ} {layer : Layer} (here : layers[i]? = some layer)
    (written : key ∈ keys layer) : ∃ j last, i ≤ j ∧ Source keys layers key j last := by
  obtain ⟨j, last, after, found, holds, later⟩ := exists_last (P := fun l => key ∈ keys l) here written
  exact ⟨j, last, after, found, holds, later⟩

/-- An owner with keys has a last layer. -/
theorem exists_lastOf {i : ℕ} {layer : Layer} (here : layers[i]? = some layer) (some : keys layer ≠ []) :
    ∃ j last, i ≤ j ∧ owner last = owner layer ∧ LastOf keys owner layers j last := by
  obtain ⟨j, last, after, found, ⟨same, has⟩, later⟩ := exists_last
    (P := fun l => owner l = owner layer ∧ keys l ≠ []) here ⟨rfl, some⟩
  refine ⟨j, last, after, same, found, has, fun k layer' beyond found' owned => ?_⟩
  by_contra keys'
  exact later k layer' beyond found' ⟨owned.trans same, keys'⟩

/-- **The keys of an owner come from one layer if and only if its last layer with keys has all of
them.** -/
theorem one_source_iff (apart : Apart keys owner layers) :
    OneSource keys owner layers ↔ ∀ i layer, LastOf keys owner layers i layer →
      ∀ other ∈ layers, owner other = owner layer → keys other ⊆ keys layer := by
  have owned : ∀ {key i layer other}, Source keys layers key i layer → other ∈ layers →
      key ∈ keys other → owner layer = owner other := by
    intro key i layer other source held written
    by_contra differ
    exact apart layer (List.mem_of_getElem? source.here) other held differ key source.written written
  constructor
  · intro one i layer last other held same key written
    obtain ⟨k, found⟩ := List.mem_iff_getElem?.1 held
    obtain ⟨j, from', after, source⟩ := exists_source found written
    obtain ⟨key', own⟩ := List.exists_mem_of_ne_nil _ last.writes
    obtain ⟨i', layer', after', source'⟩ := exists_source last.here own
    have owner' := owned source' (List.mem_of_getElem? last.here) own
    -- No later layer of the owner has keys, so `key'` comes from the last one.
    have place : i' = i := by
      by_contra other'
      have none := last.last i' layer' (Nat.lt_of_le_of_ne after' (Ne.symm other')) source'.here owner'
      have impossible := source'.written
      rw [none] at impossible
      cases impossible
    have from'' := one key key' j i' from' layer' source source'
      ((owned source held written).trans (same.trans owner'.symm))
    rw [from'', place] at source
    have this := source.here.symm.trans last.here
    cases this
    exact source.written
  · intro covers key key' i j layer layer' source source' same
    have final : ∀ {key i layer}, Source keys layers key i layer →
        LastOf keys owner layers i layer := by
      intro key i layer source
      obtain ⟨m, last, after, same, lastOf⟩ := exists_lastOf source.here
        (List.ne_nil_of_mem source.written)
      have place : m = i := by
        by_contra beyond
        have written := covers m last lastOf layer (List.mem_of_getElem? source.here) same.symm
          source.written
        exact source.uncovered m last (Nat.lt_of_le_of_ne after (Ne.symm beyond)) lastOf.here written
      rw [place] at lastOf
      have this := source.here.symm.trans lastOf.here
      cases this
      exact lastOf
    rcases Nat.lt_trichotomy i j with before | equal | behind
    · exact absurd ((final source).last j layer' before source'.here same.symm) (final source').writes
    · exact equal
    · exact absurd ((final source').last i layer behind source.here same) (final source).writes

end Layers
