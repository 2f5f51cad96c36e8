import ChainStorage.Storage.CacherAdapterRefinement

/-! # `Len` of the adapter

`Len` adds the cacher's length and `numValuesInStorage`, a counter `Put` raises for every value it
writes to the persister and `Remove` lowers for every `Remove` of the persister that succeeds. It
counts the adapter's keys while the counter counts the persister's values (`HoldsCounted`): every
`Put` keeps the two parts apart, so each value it writes lands on a key the persister did not
hold, and every `Remove` names a key the adapter holds (`countsAlong`).

Otherwise the counter drifts: a persister that is a map removes a key it does not hold without an
error, so a `Remove` of a key held nowhere lowers the counter, and `Len` goes below zero; and a key
evicted to the persister a second time overwrites its value there but is counted again
(`len_miscounts_absent_remove_and_second_eviction`).
-/

namespace ChainStorage.Storage

section Bindings

variable {α : Type}

theorem restrict_ne_of_not_mem {bindings : List (String × α)} {key : String}
    (absent : key ∉ bindings.map (·.1)) : restrict bindings (· != key) = bindings :=
  List.filter_eq_self.2 fun binding mem => bne_iff_ne.2 fun same => absent (List.mem_map.2 ⟨binding, mem, same⟩)

theorem length_bind_of_lookup_eq_none {bindings : List (String × α)} {key : String}
    (absent : bindings.lookup key = none) (value : α) : (bind bindings key value).length = bindings.length + 1 := by
  rw [bind, List.length_cons, restrict_ne_of_not_mem (by rw [mem_keys_iff_lookup, absent]; exact Bool.false_ne_true)]

theorem length_restrict_ne {bindings : List (String × α)} (nodup : (bindings.map (·.1)).Nodup) {key : String}
    (present : (bindings.lookup key).isSome) : (restrict bindings (· != key)).length + 1 = bindings.length := by
  induction bindings with
  | nil => simp at present
  | cons binding bindings inductionHypothesis =>
    obtain ⟨k, v⟩ := binding
    rw [List.map_cons, List.nodup_cons] at nodup
    by_cases same : key = k
    · subst same
      have unchanged := restrict_ne_of_not_mem nodup.1
      simp only [restrict] at unchanged
      simp [restrict, List.filter_cons, unchanged]
    · have kept := inductionHypothesis nodup.2 (by rwa [List.lookup_cons, beq_false_of_ne same] at present)
      simp only [restrict, List.filter_cons] at kept ⊢
      simp only [bne_iff_ne, ne_eq, Ne.symm same, not_false_eq_true, if_true, List.length_cons]
      omega

end Bindings

namespace StorageCacherAdapter

variable {V : Type} (getBytes : V → List UInt8)

/-- `Holds`, and the counter counting the persister's values. -/
structure HoldsCounted (adapter : StorageCacherAdapter V) (m : List (String × V))
    extends Holds getBytes adapter m : Prop where
  counted : adapter.numValuesInStorage = adapter.db.length

/-- A run in which `Len` keeps counting: each `Put` keeps the parts apart and each `Remove` names a
key the adapter holds, at the state the run reaches it in. -/
def countsAlong : StorageCacherAdapter V → List (Operation V) → Bool
  | _, [] => true
  | adapter, .put key value evict :: operations =>
    keepsLayersApart getBytes adapter key value evict &&
      countsAlong (adapter.put getBytes key value evict).2 operations
  | adapter, .remove key :: operations => adapter.has key && countsAlong (adapter.remove key) operations

variable {getBytes}

theorem has_iff_mem_keys {adapter : StorageCacherAdapter V} (opened : adapter.dbIsClosed = false) (key : String) :
    adapter.has key = true ↔ key ∈ adapter.keys := by
  simp only [has, keys, opened, Bool.not_false, Bool.true_and, Bool.or_eq_true, Bool.false_eq_true, if_false,
    List.mem_append, mem_keys_iff_lookup]

theorem HoldsCounted.len_eq {adapter : StorageCacherAdapter V} {m : List (String × V)}
    (holds : HoldsCounted getBytes adapter m) :
    adapter.keys.Nodup ∧ (∀ key, key ∈ adapter.keys ↔ adapter.has key = true) ∧
      adapter.len = adapter.keys.length := by
  refine ⟨holds.keys_nodup, fun key => (has_iff_mem_keys holds.dbOpen key).symm, ?_⟩
  simp [len, keys, holds.dbOpen, holds.counted]

variable (getBytes)

theorem foldl_persistEvicted_counted : ∀ (evicted : List (String × V)) (adapter : StorageCacherAdapter V),
    (∀ entry ∈ evicted, (getBytes entry.2).isEmpty = false) → (evicted.map (·.1)).Nodup →
    (∀ entry ∈ evicted, adapter.db.lookup entry.1 = none) →
    (evicted.foldl (persistEvicted getBytes) adapter).numValuesInStorage =
        adapter.numValuesInStorage + evicted.length ∧
      (evicted.foldl (persistEvicted getBytes) adapter).db.length = adapter.db.length + evicted.length
  | [], adapter, _, _, _ => ⟨by simp, by simp⟩
  | (k, v) :: evicted, adapter, nonempty, nodup, absent => by
    rw [List.map_cons, List.nodup_cons] at nodup
    have step : persistEvicted getBytes adapter (k, v) =
        { adapter with db := bind adapter.db k (getBytes v),
                       numValuesInStorage := adapter.numValuesInStorage + 1 } := by
      simp [persistEvicted, nonempty (k, v) (List.mem_cons_self _ _)]
    have later : ∀ entry ∈ evicted, (bind adapter.db k (getBytes v)).lookup entry.1 = none := fun entry mem => by
      have other : entry.1 ≠ k := fun same => nodup.1 (List.mem_map.2 ⟨entry, mem, same⟩)
      rw [lookup_bind, if_neg other]
      exact absent entry (List.mem_cons_of_mem _ mem)
    obtain ⟨count, length⟩ := foldl_persistEvicted_counted evicted (persistEvicted getBytes adapter (k, v))
      (fun entry mem => nonempty entry (List.mem_cons_of_mem _ mem)) nodup.2 (step ▸ later)
    rw [List.foldl_cons, count, length, step]
    have grows := length_bind_of_lookup_eq_none (absent (k, v) (List.mem_cons_self _ _)) (getBytes v)
    simp only [List.length_cons, grows]
    constructor <;> omega

theorem put_holdsCounted {adapter : StorageCacherAdapter V} {m : List (String × V)}
    (holds : HoldsCounted getBytes adapter m) {key : String} {value : V} {evict : List String}
    (apart : keepsLayersApart getBytes adapter key value evict = true) :
    HoldsCounted getBytes (adapter.put getBytes key value evict).2 (bind m key value) := by
  have kept := put_holds getBytes holds.toHolds apart
  simp only [keepsLayersApart, Bool.and_eq_true, Option.isNone_iff_eq_none, List.all_eq_true,
    Bool.not_eq_true'] at apart
  obtain ⟨absent, nonempty⟩ := apart
  have evictedAbsent : ∀ entry ∈ (addSizedAndReturnEvicted adapter.cacher key value evict).1,
      adapter.db.lookup entry.1 = none := fun entry mem => by
    have cached : ((bind adapter.cacher key value).lookup entry.1).isSome := by
      rw [← mem_keys_iff_lookup]
      exact (keys_restrict_sublist (bind adapter.cacher key value) (· ∈ evict)).subset (List.mem_map_of_mem (·.1) mem)
    rw [lookup_bind] at cached
    by_cases same : entry.1 = key
    · rw [same]
      exact absent
    · rw [if_neg same, Option.isSome_iff_exists] at cached
      obtain ⟨cachedValue, found⟩ := cached
      have binding := holds.binding entry.1
      rw [found] at binding
      exact binding.persisted_of_cached
  obtain ⟨count, length⟩ := foldl_persistEvicted_counted getBytes
    (addSizedAndReturnEvicted adapter.cacher key value evict).1
    { adapter with cacher := (addSizedAndReturnEvicted adapter.cacher key value evict).2 } nonempty
    ((keys_bind_nodup holds.cacherNodup key value).sublist
      (keys_restrict_sublist (bind adapter.cacher key value) (· ∈ evict))) evictedAbsent
  refine ⟨kept, ?_⟩
  rw [put_of_open getBytes holds.dbOpen, count, length]
  simp [holds.counted]

theorem remove_holdsCounted {adapter : StorageCacherAdapter V} {m : List (String × V)}
    (holds : HoldsCounted getBytes adapter m) {key : String} (held : adapter.has key = true) :
    HoldsCounted getBytes (adapter.remove key) (restrict m (· != key)) := by
  refine ⟨remove_holds getBytes holds.toHolds key, ?_⟩
  unfold remove
  cases cachedKey : adapter.cacher.lookup key with
  | some value => simpa using holds.counted
  | none =>
    have persisted : (adapter.db.lookup key).isSome := by
      simpa only [has, cachedKey, holds.dbOpen, Option.isSome_none, Bool.false_or, Bool.not_false,
        Bool.true_and] using held
    have shrinks := length_restrict_ne holds.dbNodup persisted
    simp only [Option.isSome_none, Bool.false_or, holds.dbOpen, Bool.false_eq_true, if_false]
    rw [holds.counted]
    omega

theorem newStorageCacherAdapter_holdsCounted :
    HoldsCounted getBytes (newStorageCacherAdapter : StorageCacherAdapter V) [] :=
  ⟨newStorageCacherAdapter_holds getBytes, rfl⟩

/-- Along a run in which `Len` keeps counting, from an adapter that holds a map with the count,
`Keys` lists each key `Has` finds once and no other, and `Len` is their number. -/
theorem run_len_counts : ∀ (operations : List (Operation V)) {adapter : StorageCacherAdapter V}
    {m : List (String × V)}, HoldsCounted getBytes adapter m → countsAlong getBytes adapter operations = true →
    (adapter.run getBytes operations).keys.Nodup ∧
      (∀ key, key ∈ (adapter.run getBytes operations).keys ↔ (adapter.run getBytes operations).has key = true) ∧
      (adapter.run getBytes operations).len = (adapter.run getBytes operations).keys.length
  | [], _, _, holds, _ => holds.len_eq
  | .put key value evict :: operations, _, _, holds, counts => by
    simp only [countsAlong, Bool.and_eq_true] at counts
    exact run_len_counts operations (put_holdsCounted getBytes holds counts.1) counts.2
  | .remove key :: operations, _, _, holds, counts => by
    simp only [countsAlong, Bool.and_eq_true] at counts
    exact run_len_counts operations (remove_holdsCounted getBytes holds counts.1) counts.2

/-- With a capacity of one value, the cacher evicts `k` for `j`, `j` for `k` again, then `k` for
`i`: `k` reaches the persister twice. -/
def evictedTwice : List (Operation (List UInt8)) :=
  [.put "k" [1] [], .put "j" [2] ["k"], .put "k" [3] ["j"], .put "i" [4] ["k"]]

/-- From an empty adapter, a `Remove` of a key held nowhere leaves `Len` at -1 while `Has` finds no
key; and after `evictedTwice`, `Has` finds three keys while `Len` is 4. -/
theorem len_miscounts_absent_remove_and_second_eviction :
    (newStorageCacherAdapter.run id [.remove "x"]).len = -1 ∧
      (∀ key, (newStorageCacherAdapter.run id [.remove "x"]).has key = false) ∧
      (newStorageCacherAdapter.run id evictedTwice).len = 4 ∧
      (∀ key, (newStorageCacherAdapter.run id evictedTwice).has key = true ↔ key ∈ ["i", "k", "j"]) := by
  have removed : newStorageCacherAdapter.run id [.remove "x"] =
      { cacher := [], db := [], dbIsClosed := false, numValuesInStorage := -1 } := by decide
  have evicted : newStorageCacherAdapter.run id evictedTwice =
      { cacher := [("i", [4])], db := [("k", [3]), ("j", [2])], dbIsClosed := false,
        numValuesInStorage := 3 } := by decide
  refine ⟨by rw [removed]; rfl, fun key => by simp [removed, has], by rw [evicted]; rfl, fun key => ?_⟩
  rw [has_iff_mem_keys (by rw [evicted]), evicted]
  exact Iff.rfl

end StorageCacherAdapter

end ChainStorage.Storage
