import ChainStorage.Storage.CacherAdapter

/-! # The adapter as one map

`Holds` relates the adapter to the plain map it stands for: every key of the map is in exactly one
of the two parts, in the cacher with its value or in the persister with its bytes, and no other
key is in either. `Has`, `Get` and `Keys` then answer as the map does (`Holds.has_iff`,
`Holds.get_of_lookup`, `Holds.keys_nodup`, `Holds.mem_keys`), and `Remove` keeps `Holds`
(`remove_holds`).

`Put` keeps it only while the two parts stay apart. A key `Put` again after the cacher evicted it
to the persister is then in both parts, and `Remove`, which returns as soon as the cacher held the
key, leaves the persisted copy behind (`remove_leaves_persisted_copy`). A value whose bytes are
empty is not written to the persister when evicted, and is lost. `keepsLayersApart` excludes both.
-/

namespace ChainStorage.Storage

namespace StorageCacherAdapter

variable {V : Type} (getBytes : V → List UInt8)

/-- How the adapter holds one key of the map: with its value in the cacher and not in the
persister, or with its bytes in the persister and not in the cacher; a key the map lacks is in
neither. -/
def HoldsBinding : Option V → Option V → Option (List UInt8) → Prop
  | none, cached, persisted => cached = none ∧ persisted = none
  | some value, cached, persisted =>
    (cached = some value ∧ persisted = none) ∨ (cached = none ∧ persisted = some (getBytes value))

/-- The adapter holds the map `m`: the persister open, each part holding a key once, and every
key held as `HoldsBinding` says. -/
structure Holds (adapter : StorageCacherAdapter V) (m : List (String × V)) : Prop where
  dbOpen : adapter.dbIsClosed = false
  cacherNodup : (adapter.cacher.map (·.1)).Nodup
  dbNodup : (adapter.db.map (·.1)).Nodup
  binding : ∀ key, HoldsBinding getBytes (m.lookup key) (adapter.cacher.lookup key) (adapter.db.lookup key)

/-- A `Put` that keeps the two parts apart: its key is not in the persister, and every entry the
cacher evicts has some bytes. -/
def keepsLayersApart (adapter : StorageCacherAdapter V) (key : String) (value : V) (evict : List String) :
    Bool :=
  (adapter.db.lookup key).isNone &&
    (addSizedAndReturnEvicted adapter.cacher key value evict).1.all fun evicted => !(getBytes evicted.2).isEmpty

/-- Every `Put` of a run keeps the parts apart, at the state the run reaches it in. -/
def keepsLayersApartAlong : StorageCacherAdapter V → List (Operation V) → Bool
  | _, [] => true
  | adapter, .put key value evict :: operations =>
    keepsLayersApart getBytes adapter key value evict &&
      keepsLayersApartAlong (adapter.put getBytes key value evict).2 operations
  | adapter, .remove key :: operations => keepsLayersApartAlong (adapter.remove key) operations

/-! ## What the adapter answers -/

section Answers

variable {getBytes} {adapter : StorageCacherAdapter V} {m : List (String × V)}
  (holds : Holds getBytes adapter m)
include holds

theorem Holds.has_iff (key : String) : adapter.has key = true ↔ (m.lookup key).isSome := by
  have binding := holds.binding key
  simp only [has, holds.dbOpen, Bool.not_false, Bool.true_and, Bool.or_eq_true]
  cases found : m.lookup key with
  | none =>
    rw [found] at binding
    simp [binding.1, binding.2]
  | some value =>
    rw [found] at binding
    rcases binding with ⟨cached, persisted⟩ | ⟨cached, persisted⟩ <;> simp [cached, persisted]

theorem Holds.get_of_lookup (getData : List UInt8 → Option V)
    (roundTrip : ∀ value, ∃ read, getData (getBytes value) = some read ∧ getBytes read = getBytes value)
    (key : String) :
    match m.lookup key with
    | some value => ∃ read, adapter.get getData key = some read ∧ getBytes read = getBytes value
    | none => adapter.get getData key = none := by
  have binding := holds.binding key
  revert binding
  cases m.lookup key with
  | none =>
    rintro ⟨cached, persisted⟩
    simp [get, cached, persisted]
  | some value =>
    rintro (⟨cached, -⟩ | ⟨cached, persisted⟩)
    · exact ⟨value, by simp [get, cached], rfl⟩
    · obtain ⟨read, readBack, same⟩ := roundTrip value
      exact ⟨read, by simp [get, cached, persisted, holds.dbOpen, readBack], same⟩

theorem Holds.mem_keys (key : String) : key ∈ adapter.keys ↔ (m.lookup key).isSome := by
  have binding := holds.binding key
  simp only [keys, holds.dbOpen, Bool.false_eq_true, if_false, List.mem_append, mem_keys_iff_lookup]
  revert binding
  cases m.lookup key with
  | none =>
    rintro ⟨cached, persisted⟩
    simp only [cached, persisted, Option.isSome_none, Bool.false_eq_true, or_self]
  | some value =>
    rintro (⟨cached, persisted⟩ | ⟨cached, persisted⟩) <;>
      simp only [cached, persisted, Option.isSome_some, Option.isSome_none, or_true, true_or]

theorem Holds.keys_nodup : adapter.keys.Nodup := by
  simp only [keys, holds.dbOpen, Bool.false_eq_true, if_false, List.append_nil]
  refine holds.cacherNodup.append holds.dbNodup fun key inCacher inDb => ?_
  rw [mem_keys_iff_lookup, Option.isSome_iff_exists] at inCacher inDb
  obtain ⟨_, cached⟩ := inCacher
  obtain ⟨_, persisted⟩ := inDb
  have binding := holds.binding key
  rw [cached, persisted] at binding
  revert binding
  cases m.lookup key <;> simp [HoldsBinding]

end Answers

/-! ## What the operations keep -/

theorem HoldsBinding.persisted_of_cached {mapped : Option V} {value : V} {persisted : Option (List UInt8)}
    (binding : HoldsBinding getBytes mapped (some value) persisted) : persisted = none := by
  revert binding
  cases mapped <;> simp [HoldsBinding]

theorem foldl_persistEvicted : ∀ (evicted : List (String × V)) (adapter : StorageCacherAdapter V),
    (∀ entry ∈ evicted, (getBytes entry.2).isEmpty = false) → (evicted.map (·.1)).Nodup →
    (evicted.foldl (persistEvicted getBytes) adapter).cacher = adapter.cacher ∧
      (evicted.foldl (persistEvicted getBytes) adapter).dbIsClosed = adapter.dbIsClosed ∧
      ((adapter.db.map (·.1)).Nodup →
        ((evicted.foldl (persistEvicted getBytes) adapter).db.map (·.1)).Nodup) ∧
      ∀ key, (evicted.foldl (persistEvicted getBytes) adapter).db.lookup key =
        ((evicted.lookup key).map getBytes).or (adapter.db.lookup key)
  | [], adapter, _, _ => ⟨rfl, rfl, id, fun key => by simp⟩
  | (k, v) :: evicted, adapter, nonempty, nodup => by
    have step : persistEvicted getBytes adapter (k, v) =
        { adapter with db := bind adapter.db k (getBytes v),
                       numValuesInStorage := adapter.numValuesInStorage + 1 } := by
      simp [persistEvicted, nonempty (k, v) (List.mem_cons_self _ _)]
    obtain ⟨cacher, closed, keysNodup, lookup⟩ := foldl_persistEvicted evicted
      (persistEvicted getBytes adapter (k, v)) (fun entry mem => nonempty entry (List.mem_cons_of_mem _ mem))
      (List.nodup_cons.1 nodup).2
    rw [step] at cacher closed keysNodup lookup
    rw [List.foldl_cons, step]
    refine ⟨cacher, closed, fun dbNodup => keysNodup (keys_bind_nodup dbNodup _ _), fun key => ?_⟩
    rw [lookup key, lookup_bind]
    by_cases same : key = k
    · subst same
      have absent : evicted.lookup key = none :=
        Option.not_isSome_iff_eq_none.1 (mt mem_keys_iff_lookup.2 (List.nodup_cons.1 nodup).1)
      simp [absent]
    · simp [same, List.lookup_cons, beq_false_of_ne same]

theorem put_of_open {adapter : StorageCacherAdapter V} (opened : adapter.dbIsClosed = false) (key : String)
    (value : V) (evict : List String) :
    (adapter.put getBytes key value evict).2 =
      (addSizedAndReturnEvicted adapter.cacher key value evict).1.foldl (persistEvicted getBytes)
        { adapter with cacher := (addSizedAndReturnEvicted adapter.cacher key value evict).2 } := by
  simp [put, opened]

theorem put_holds {adapter : StorageCacherAdapter V} {m : List (String × V)}
    (holds : Holds getBytes adapter m) {key : String} {value : V} {evict : List String}
    (apart : keepsLayersApart getBytes adapter key value evict = true) :
    Holds getBytes (adapter.put getBytes key value evict).2 (bind m key value) := by
  simp only [keepsLayersApart, Bool.and_eq_true, Option.isNone_iff_eq_none, List.all_eq_true,
    Bool.not_eq_true'] at apart
  obtain ⟨absent, nonempty⟩ := apart
  have inserted := keys_bind_nodup holds.cacherNodup key value
  obtain ⟨cacher, closed, dbNodup, lookup⟩ := foldl_persistEvicted getBytes
    (addSizedAndReturnEvicted adapter.cacher key value evict).1
    { adapter with cacher := (addSizedAndReturnEvicted adapter.cacher key value evict).2 } nonempty
    (inserted.sublist (keys_restrict_sublist (bind adapter.cacher key value) (· ∈ evict)))
  rw [put_of_open getBytes holds.dbOpen]
  refine ⟨closed.trans holds.dbOpen,
    cacher ▸ inserted.sublist (keys_restrict_sublist (bind adapter.cacher key value) (· ∉ evict)),
    dbNodup holds.dbNodup, fun j => ?_⟩
  rw [cacher, lookup j]
  have binding := holds.binding j
  simp only [addSizedAndReturnEvicted, lookup_restrict, lookup_bind]
  by_cases same : j = key
  · subst same
    by_cases evicted : j ∈ evict <;> simp [HoldsBinding, absent, evicted]
  · simp only [same, if_false]
    revert binding
    cases m.lookup j with
    | none =>
      rintro ⟨cached, persisted⟩
      by_cases evicted : j ∈ evict <;> simp [HoldsBinding, cached, persisted, evicted]
    | some w =>
      rintro (⟨cached, persisted⟩ | ⟨cached, persisted⟩) <;>
        by_cases evicted : j ∈ evict <;> simp [HoldsBinding, cached, persisted, evicted]

theorem remove_holds {adapter : StorageCacherAdapter V} {m : List (String × V)}
    (holds : Holds getBytes adapter m) (key : String) :
    Holds getBytes (adapter.remove key) (restrict m (· != key)) := by
  have binding := holds.binding key
  unfold remove
  cases cachedKey : adapter.cacher.lookup key with
  | some value =>
    rw [cachedKey] at binding
    simp only [Option.isSome_some, Bool.true_or, if_true]
    refine ⟨holds.dbOpen, holds.cacherNodup.sublist (keys_restrict_sublist adapter.cacher (· != key)),
      holds.dbNodup, fun j => ?_⟩
    simp only [lookup_restrict]
    by_cases same : j = key
    · subst same
      simpa [HoldsBinding] using binding.persisted_of_cached
    · simpa [same] using holds.binding j
  | none =>
    simp only [Option.isSome_none, Bool.false_or, holds.dbOpen, Bool.false_eq_true, if_false]
    refine ⟨rfl, holds.cacherNodup.sublist (keys_restrict_sublist adapter.cacher (· != key)),
      holds.dbNodup.sublist (keys_restrict_sublist adapter.db (· != key)), fun j => ?_⟩
    simp only [lookup_restrict]
    by_cases same : j = key
    · subst same
      simp [HoldsBinding, cachedKey]
    · simpa [same] using holds.binding j

/-- Along a run whose `Put`s keep the parts apart, the adapter holds the plain map. -/
theorem run_holds : ∀ (operations : List (Operation V)) {adapter : StorageCacherAdapter V}
    {m : List (String × V)}, Holds getBytes adapter m →
    keepsLayersApartAlong getBytes adapter operations = true →
    Holds getBytes (adapter.run getBytes operations) (operations.foldl Operation.applyMap m)
  | [], _, _, holds, _ => holds
  | .put key value evict :: operations, _, _, holds, apart => by
    simp only [keepsLayersApartAlong, Bool.and_eq_true] at apart
    exact run_holds operations (put_holds getBytes holds apart.1) apart.2
  | .remove key :: operations, _, _, holds, apart =>
    run_holds operations (remove_holds getBytes holds key) apart

theorem newStorageCacherAdapter_holds : Holds getBytes (newStorageCacherAdapter : StorageCacherAdapter V) [] :=
  ⟨rfl, List.nodup_nil, List.nodup_nil, fun _ => ⟨rfl, rfl⟩⟩

/-! ## The adapter as one map -/

/-- Along every run from an adapter that holds a map, whose `Put`s keep the two parts apart,
with `getData` reading back what `getBytes` writes, the adapter answers as the plain map the run
makes of it: `Has` says whether the map holds the key, `Get` finds the map's keys, with values
that serialise like the map's, and no other, and `Keys` lists each key of the map once and no
other key. -/
theorem run_refines_map (getData : List UInt8 → Option V)
    (roundTrip : ∀ value, ∃ read, getData (getBytes value) = some read ∧ getBytes read = getBytes value)
    {adapter : StorageCacherAdapter V} {m : List (String × V)} (holds : Holds getBytes adapter m)
    (operations : List (Operation V)) (apart : keepsLayersApartAlong getBytes adapter operations = true)
    (key : String) :
    ((adapter.run getBytes operations).has key = true ↔
        ((operations.foldl Operation.applyMap m).lookup key).isSome) ∧
      (match (operations.foldl Operation.applyMap m).lookup key with
        | some value => ∃ read, (adapter.run getBytes operations).get getData key = some read ∧
            getBytes read = getBytes value
        | none => (adapter.run getBytes operations).get getData key = none) ∧
      (adapter.run getBytes operations).keys.Nodup ∧
      (key ∈ (adapter.run getBytes operations).keys ↔
        ((operations.foldl Operation.applyMap m).lookup key).isSome) := by
  have holds := run_holds getBytes operations holds apart
  exact ⟨holds.has_iff key, holds.get_of_lookup getData roundTrip key, holds.keys_nodup, holds.mem_keys key⟩

/-- `a` put, evicted to the persister by the `Put` of `b`, then removed. -/
def evictThenRemove : List (Operation (List UInt8)) :=
  [.put "a" [1] [], .put "b" [2] ["a"], .remove "a"]

example :
    keepsLayersApartAlong id newStorageCacherAdapter evictThenRemove = true ∧
      (newStorageCacherAdapter.run id evictThenRemove).has "b" = true :=
  ⟨by decide, (run_refines_map id some (fun value => ⟨value, rfl, rfl⟩) (newStorageCacherAdapter_holds id)
    evictThenRemove (by decide) "b").1.mpr rfl⟩

/-- `k` put and evicted to the persister by its own `Put`, put again, then removed. -/
def putAgainThenRemove : List (Operation (List UInt8)) :=
  [.put "k" [1] ["k"], .put "k" [2] [], .remove "k"]

/-- After the second `Put`, `k` is in both parts and `Keys` lists it twice; `Remove` takes it out
of the cacher only, and `Has` and `Get` then answer with the persisted copy of the first value,
while the map holds no `k`. An evicted value with no bytes, `e`'s, is not persisted: `Has`
answers false while the map holds `e`. -/
theorem remove_leaves_persisted_copy :
    (newStorageCacherAdapter.run id (putAgainThenRemove.take 2)).keys = ["k", "k"] ∧
      (runMap putAgainThenRemove).lookup "k" = none ∧
      (newStorageCacherAdapter.run id putAgainThenRemove).has "k" = true ∧
      (newStorageCacherAdapter.run id putAgainThenRemove).get some "k" = some [1] ∧
      (runMap [.put "e" ([] : List UInt8) ["e"]]).lookup "e" = some [] ∧
      (newStorageCacherAdapter.run id [.put "e" ([] : List UInt8) ["e"]]).has "e" = false := by
  decide

end StorageCacherAdapter

end ChainStorage.Storage
