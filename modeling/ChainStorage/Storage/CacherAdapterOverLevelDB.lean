import ChainStorage.Storage.CacherAdapterRefinement
import ChainStorage.Storage.LevelDBRefinement

/-! # The adapter over the leveldb persister

`storageCacherAdapter` writes to any `types.Persister`, and `leveldb.DB` is one. Here its
persister is the leveldb model: `Put` puts each evicted entry's bytes with the `DB`'s `Put` and
counts the entry in `numValuesInStorage` when the `DB` answers no error; `Get` and `Has` read the
`DB`; `Remove` removes from it and counts the removal when it answers no error. The adapter's calls
hold its lock, but the `DB`'s timer goroutine does not take it: it writes the batch between the
adapter's calls, between the critical sections of each `DB` call they make, and between the reads
of the `DB`'s `Get` and `Has`.

Read through its view (the files with the pending batch written over them), the `DB` is the
adapter's plain persister (`Agrees`): the `DB`'s `Put` and `Remove` move the view as a map's do,
whatever their writes return and wherever the timer fires, and the timer's writes leave it
(`DB.view_putAmid`, `DB.view_removeAmid`, `DB.view_batchTimeoutHandle`). The adapter never puts a
nil slice, since it skips entries whose bytes are empty, so no key's last pending operation is a
`Put` of nil and the `DB`'s `Get` and `Has` answer from the view across the timer's writes. Each
adapter call keeps the agreement and `Get` and `Has` answer alike, so the adapter over leveldb
answers as the one map its calls make. `numValuesInStorage` agrees as well while every write
succeeds; a `Put` whose write fails leaves its entry in the batch, where `Get` finds it, uncounted.

**Main result:** `run_over_levelDB_refines_map`.
-/

namespace ChainStorage.Storage

open LevelDB

/-! ## The leveldb calls the adapter makes -/

namespace LevelDB.DB

theorem putAmid_eq_runSteps (written : Bool) (timers : List Bool × List Bool) (s : DB) (key : String)
    (val : Option (List UInt8)) :
    (s.putAmid written timers key val).2 =
      runSteps s (timers.1.map .batchTimeoutHandle ++ .batchPut key val :: timers.2.map .batchTimeoutHandle ++
        [.updateBatchWithIncrement written]) := by
  rw [runSteps_append]
  rfl

theorem removeAmid_eq_runSteps (written : Bool) (timers : List Bool × List Bool) (s : DB) (key : String) :
    (s.removeAmid written timers key).2 =
      runSteps s (timers.1.map .batchTimeoutHandle ++ .batchDelete key :: timers.2.map .batchTimeoutHandle ++
        [.updateBatchWithIncrement written]) := by
  rw [runSteps_append]
  rfl

theorem view_putAmid (written : Bool) (timers : List Bool × List Bool) (s : DB) (key : String)
    (val : Option (List UInt8)) : (s.putAmid written timers key val).2.view = bind s.view key (val.getD []) := by
  rw [putAmid_eq_runSteps, (runSteps_view_isOpen _ s).1]
  simp [List.foldl_append, foldl_applyMap_timeouts, Step.applyMap]

theorem isOpen_putAmid (written : Bool) (timers : List Bool × List Bool) (s : DB) (key : String)
    (val : Option (List UInt8)) : (s.putAmid written timers key val).2.isOpen = s.isOpen := by
  rw [putAmid_eq_runSteps]
  exact (runSteps_view_isOpen _ s).2

theorem putsNil_putAmid (written : Bool) (timers : List Bool × List Bool) (s : DB) (key : String)
    (bytes : List UInt8) {k : String} (notNil : s.batch.putsNil k = false) :
    (s.putAmid written timers key (some bytes)).2.batch.putsNil k = false := by
  rw [putAmid_eq_runSteps]
  exact runSteps_putsNil _ s notNil (by simp)

theorem view_removeAmid (written : Bool) (timers : List Bool × List Bool) (s : DB) (key : String) :
    (s.removeAmid written timers key).2.view = restrict s.view (· != key) := by
  rw [removeAmid_eq_runSteps, (runSteps_view_isOpen _ s).1]
  simp [List.foldl_append, foldl_applyMap_timeouts, Step.applyMap]

theorem isOpen_removeAmid (written : Bool) (timers : List Bool × List Bool) (s : DB) (key : String) :
    (s.removeAmid written timers key).2.isOpen = s.isOpen := by
  rw [removeAmid_eq_runSteps]
  exact (runSteps_view_isOpen _ s).2

theorem putsNil_removeAmid (written : Bool) (timers : List Bool × List Bool) (s : DB) (key : String) {k : String}
    (notNil : s.batch.putsNil k = false) : (s.removeAmid written timers key).2.batch.putsNil k = false := by
  rw [removeAmid_eq_runSteps]
  exact runSteps_putsNil _ s notNil (by simp)

theorem view_batchTimeoutHandle (written : Bool) (s : DB) : (s.batchTimeoutHandle written).view = s.view :=
  (runSteps_view_isOpen [.batchTimeoutHandle written] s).1

theorem isOpen_batchTimeoutHandle (written : Bool) (s : DB) :
    (s.batchTimeoutHandle written).isOpen = s.isOpen :=
  (runSteps_view_isOpen [.batchTimeoutHandle written] s).2

theorem updateBatchWithIncrement_true_ok (s : DB) (opened : s.isOpen = true) :
    (s.updateBatchWithIncrement true).1 = .ok () := by
  simp only [updateBatchWithIncrement]
  split
  · rfl
  · simp [putBatch, opened]

theorem putAmid_true_ok (timers : List Bool × List Bool) (s : DB) (opened : s.isOpen = true) (key : String)
    (val : Option (List UInt8)) : (s.putAmid true timers key val).1 = .ok () :=
  updateBatchWithIncrement_true_ok _ ((runSteps_view_isOpen _ s).2.trans opened)

theorem removeAmid_true_ok (timers : List Bool × List Bool) (s : DB) (opened : s.isOpen = true) (key : String) :
    (s.removeAmid true timers key).1 = .ok () :=
  updateBatchWithIncrement_true_ok _ ((runSteps_view_isOpen _ s).2.trans opened)

end LevelDB.DB

/-! ## The adapter -/

/-- `storageCacherAdapter` whose persister is the leveldb `DB`. -/
structure LevelDBCacherAdapter (V : Type) where
  cacher : List (String × V)
  db : DB
  dbIsClosed : Bool
  numValuesInStorage : Int
  deriving DecidableEq, Repr

namespace LevelDBCacherAdapter

variable {V : Type} (getBytes : V → List UInt8)

/-- One step of `Put`'s loop over the evicted entries: the entry's bytes, unless there are none,
put in the `DB` with the timer firing around its critical sections, and counted when the `DB`
answers no error. -/
def persistEvicted (written : Bool) (timers : List Bool × List Bool) (adapter : LevelDBCacherAdapter V)
    (evicted : String × V) : LevelDBCacherAdapter V :=
  if (getBytes evicted.2).isEmpty then adapter
  else
    match adapter.db.putAmid written timers evicted.1 (some (getBytes evicted.2)) with
    | (.ok _, db) => { adapter with db := db, numValuesInStorage := adapter.numValuesInStorage + 1 }
    | (.error _, db) => { adapter with db := db }

/-- `Put`'s loop: the `n`-th evicted entry's `DB` call sees the timer's firings `timers[n]`, and
none past the end of `timers`. -/
def persistAll (written : Bool) :
    List (List Bool × List Bool) → LevelDBCacherAdapter V → List (String × V) → LevelDBCacherAdapter V
  | _, adapter, [] => adapter
  | timers, adapter, evicted :: rest =>
    persistAll written timers.tail (persistEvicted getBytes written (timers.headD ([], [])) adapter evicted) rest

/-- `Put`: answers whether the cacher evicted something. -/
def put (written : Bool) (timers : List (List Bool × List Bool)) (adapter : LevelDBCacherAdapter V) (key : String)
    (value : V) (evict : List String) : Bool × LevelDBCacherAdapter V :=
  let added := StorageCacherAdapter.addSizedAndReturnEvicted adapter.cacher key value evict
  let adapter := { adapter with cacher := added.2 }
  if adapter.dbIsClosed then (!added.1.isEmpty, adapter)
  else (!added.1.isEmpty, persistAll getBytes written timers adapter added.1)

/-- `Get`: the cacher's value, else the `DB`'s bytes read back by `getData`, unless the `DB`
answers an error; the timer fires between the `DB`'s reads as `reads` says. -/
def get (getData : List UInt8 → Option V) (reads : List Bool × List Bool × List Bool)
    (adapter : LevelDBCacherAdapter V) (key : String) : Option V :=
  match adapter.cacher.lookup key with
  | some value => some value
  | none =>
    if adapter.dbIsClosed then none
    else
      match adapter.db.getAmid reads key with
      | .ok bytes => getData bytes
      | .error _ => none

/-- `Has`: in the cacher, or the `DB`'s `Has` answers no error. -/
def has (reads : List Bool × List Bool × List Bool) (adapter : LevelDBCacherAdapter V) (key : String) : Bool :=
  (adapter.cacher.lookup key).isSome ||
    (!adapter.dbIsClosed &&
      match adapter.db.hasAmid reads key with
      | .ok _ => true
      | .error _ => false)

/-- `Remove`: from the cacher, and only when the cacher did not hold the key, from the `DB`,
counted when the `DB` answers no error. -/
def remove (written : Bool) (timers : List Bool × List Bool) (adapter : LevelDBCacherAdapter V) (key : String) :
    LevelDBCacherAdapter V :=
  let removed := (adapter.cacher.lookup key).isSome
  let adapter := { adapter with cacher := restrict adapter.cacher (· != key) }
  if removed || adapter.dbIsClosed then adapter
  else
    match adapter.db.removeAmid written timers key with
    | (.ok _, db) => { adapter with db := db, numValuesInStorage := adapter.numValuesInStorage - 1 }
    | (.error _, db) => { adapter with db := db }

def len (adapter : LevelDBCacherAdapter V) : Int :=
  adapter.cacher.length + adapter.numValuesInStorage

/-- What happens next: an adapter call, with whether the `DB`'s writes in it succeed and the
timer's firings around each `DB` call it makes, in order; or a firing of the `DB`'s timer between
calls. -/
inductive Event (V : Type) where
  | call (operation : StorageCacherAdapter.Operation V) (written : Bool) (timers : List (List Bool × List Bool))
  | timer (written : Bool)
  deriving DecidableEq, Repr

def Event.called : Event V → Option (StorageCacherAdapter.Operation V)
  | .call operation _ _ => some operation
  | .timer _ => none

def Event.written : Event V → Bool
  | .call _ written _ | .timer written => written

def apply (adapter : LevelDBCacherAdapter V) : Event V → LevelDBCacherAdapter V
  | .call (.put key value evict) written timers => (adapter.put getBytes written timers key value evict).2
  | .call (.remove key) written timers => adapter.remove written (timers.headD ([], [])) key
  | .timer written => { adapter with db := adapter.db.batchTimeoutHandle written }

def run (adapter : LevelDBCacherAdapter V) (events : List (Event V)) : LevelDBCacherAdapter V :=
  events.foldl (apply getBytes) adapter

/-! ## The adapter over a plain persister -/

/-- The adapter over leveldb agrees with the adapter over a plain persister: the same cacher and
flag, the `DB`'s view as the plain persister, the `DB` open, and no pending `Put` of nil. -/
structure Agrees (adapter : LevelDBCacherAdapter V) (plain : StorageCacherAdapter V) : Prop where
  cacher : adapter.cacher = plain.cacher
  db : adapter.db.view = plain.db
  dbIsClosed : adapter.dbIsClosed = plain.dbIsClosed
  isOpen : adapter.db.isOpen = true
  nilFree : ∀ key, adapter.db.batch.putsNil key = false

variable {getBytes} {adapter : LevelDBCacherAdapter V} {plain : StorageCacherAdapter V}

namespace Agrees

theorem persistEvicted (agrees : Agrees adapter plain) (written : Bool) (timers : List Bool × List Bool)
    (evicted : String × V) :
    Agrees (adapter.persistEvicted getBytes written timers evicted) (plain.persistEvicted getBytes evicted) := by
  unfold LevelDBCacherAdapter.persistEvicted StorageCacherAdapter.persistEvicted
  split
  · exact agrees
  · have view := DB.view_putAmid written timers adapter.db evicted.1 (some (getBytes evicted.2))
    have opened := DB.isOpen_putAmid written timers adapter.db evicted.1 (some (getBytes evicted.2))
    have nilFree := fun key =>
      DB.putsNil_putAmid written timers adapter.db evicted.1 (getBytes evicted.2) (agrees.nilFree key)
    rcases put : adapter.db.putAmid written timers evicted.1 (some (getBytes evicted.2)) with ⟨answer, db⟩
    simp only [put] at view opened nilFree
    cases answer <;>
      exact ⟨agrees.cacher, by simpa [agrees.db] using view, agrees.dbIsClosed, opened.trans agrees.isOpen, nilFree⟩

theorem persistAll (written : Bool) :
    ∀ (timers : List (List Bool × List Bool)) (evicted : List (String × V)) {adapter : LevelDBCacherAdapter V}
      {plain : StorageCacherAdapter V}, Agrees adapter plain →
      Agrees (adapter.persistAll getBytes written timers evicted)
        (evicted.foldl (StorageCacherAdapter.persistEvicted getBytes) plain)
  | _, [], _, _, agrees => agrees
  | timers, entry :: evicted, _, _, agrees =>
    persistAll written timers.tail evicted (agrees.persistEvicted written _ entry)

theorem put (agrees : Agrees adapter plain) (written : Bool) (timers : List (List Bool × List Bool)) (key : String)
    (value : V) (evict : List String) :
    (adapter.put getBytes written timers key value evict).1 = (plain.put getBytes key value evict).1 ∧
      Agrees (adapter.put getBytes written timers key value evict).2 (plain.put getBytes key value evict).2 := by
  simp only [LevelDBCacherAdapter.put, StorageCacherAdapter.put, agrees.cacher, agrees.dbIsClosed]
  split
  · exact ⟨rfl, rfl, agrees.db, rfl, agrees.isOpen, agrees.nilFree⟩
  · exact ⟨rfl, persistAll written timers _ ⟨rfl, agrees.db, rfl, agrees.isOpen, agrees.nilFree⟩⟩

theorem remove (agrees : Agrees adapter plain) (written : Bool) (timers : List Bool × List Bool) (key : String) :
    Agrees (adapter.remove written timers key) (plain.remove key) := by
  simp only [LevelDBCacherAdapter.remove, StorageCacherAdapter.remove, agrees.cacher, agrees.dbIsClosed]
  split
  · exact ⟨rfl, agrees.db, rfl, agrees.isOpen, agrees.nilFree⟩
  · have view := DB.view_removeAmid written timers adapter.db key
    have opened := DB.isOpen_removeAmid written timers adapter.db key
    have nilFree := fun k => DB.putsNil_removeAmid written timers adapter.db key (agrees.nilFree k)
    rcases removed : adapter.db.removeAmid written timers key with ⟨answer, db⟩
    simp only [removed] at view opened nilFree
    cases answer <;>
      exact ⟨rfl, by simpa [agrees.db] using view, rfl, opened.trans agrees.isOpen, nilFree⟩

theorem apply (agrees : Agrees adapter plain) :
    ∀ event : Event V, Agrees (adapter.apply getBytes event)
      (match event.called with
        | some operation => plain.apply getBytes operation
        | none => plain)
  | .call (.put key value evict) written timers => (agrees.put written timers key value evict).2
  | .call (.remove key) written timers => agrees.remove written _ key
  | .timer written =>
    ⟨agrees.cacher, (DB.view_batchTimeoutHandle written adapter.db).trans agrees.db, agrees.dbIsClosed,
      (DB.isOpen_batchTimeoutHandle written adapter.db).trans agrees.isOpen,
      fun key => Step.putsNil_apply adapter.db (.batchTimeoutHandle written) (agrees.nilFree key) (by simp)⟩

theorem run : ∀ (events : List (Event V)) {adapter : LevelDBCacherAdapter V} {plain : StorageCacherAdapter V},
    Agrees adapter plain →
    Agrees (adapter.run getBytes events) (plain.run getBytes (events.filterMap Event.called))
  | [], _, _, agrees => agrees
  | .call operation written timers :: events, _, _, agrees => run events (agrees.apply (.call operation written timers))
  | .timer written :: events, _, _, agrees => run events (agrees.apply (.timer written))

theorem get (agrees : Agrees adapter plain) (getData : List UInt8 → Option V)
    (reads : List Bool × List Bool × List Bool) (key : String) :
    adapter.get getData reads key = plain.get getData key := by
  simp only [LevelDBCacherAdapter.get, StorageCacherAdapter.get, agrees.cacher, agrees.dbIsClosed,
    DB.getAmid_of_not_putsNil reads adapter.db (agrees.nilFree key),
    DB.get_eq_getAnswer_view adapter.db agrees.isOpen (agrees.nilFree key), agrees.db]
  cases plain.db.lookup key <;> rfl

theorem has (agrees : Agrees adapter plain) (reads : List Bool × List Bool × List Bool) (key : String) :
    adapter.has reads key = plain.has key := by
  simp only [LevelDBCacherAdapter.has, StorageCacherAdapter.has, agrees.cacher, agrees.dbIsClosed,
    DB.hasAmid_eq_getAmid, DB.getAmid_of_not_putsNil reads adapter.db (agrees.nilFree key),
    DB.get_eq_getAnswer_view adapter.db agrees.isOpen (agrees.nilFree key), agrees.db]
  cases plain.db.lookup key <;> rfl

end Agrees

/-! ## What the adapter counts -/

structure AgreesCounted (adapter : LevelDBCacherAdapter V) (plain : StorageCacherAdapter V)
    extends Agrees adapter plain : Prop where
  numValuesInStorage : adapter.numValuesInStorage = plain.numValuesInStorage

namespace AgreesCounted

theorem persistAll :
    ∀ (timers : List (List Bool × List Bool)) (evicted : List (String × V)) {adapter : LevelDBCacherAdapter V}
      {plain : StorageCacherAdapter V}, AgreesCounted adapter plain →
      AgreesCounted (adapter.persistAll getBytes true timers evicted)
        (evicted.foldl (StorageCacherAdapter.persistEvicted getBytes) plain)
  | _, [], _, _, agrees => agrees
  | timers, entry :: evicted, adapter, _, agrees => by
    refine persistAll timers.tail evicted ⟨agrees.persistEvicted true _ entry, ?_⟩
    unfold LevelDBCacherAdapter.persistEvicted StorageCacherAdapter.persistEvicted
    split
    · exact agrees.numValuesInStorage
    · have ok := DB.putAmid_true_ok (timers.headD ([], [])) adapter.db agrees.isOpen entry.1 (some (getBytes entry.2))
      rcases put : adapter.db.putAmid true (timers.headD ([], [])) entry.1 (some (getBytes entry.2)) with ⟨answer, db⟩
      rw [put] at ok
      subst ok
      simpa using agrees.numValuesInStorage

theorem put (agrees : AgreesCounted adapter plain) (timers : List (List Bool × List Bool)) (key : String) (value : V)
    (evict : List String) :
    AgreesCounted (adapter.put getBytes true timers key value evict).2 (plain.put getBytes key value evict).2 := by
  refine ⟨(agrees.toAgrees.put true timers key value evict).2, ?_⟩
  simp only [LevelDBCacherAdapter.put, StorageCacherAdapter.put, agrees.cacher, agrees.dbIsClosed]
  split
  · exact agrees.numValuesInStorage
  · have inserted : AgreesCounted
        { cacher := (StorageCacherAdapter.addSizedAndReturnEvicted plain.cacher key value evict).2, db := adapter.db,
          dbIsClosed := plain.dbIsClosed, numValuesInStorage := adapter.numValuesInStorage }
        { plain with cacher := (StorageCacherAdapter.addSizedAndReturnEvicted plain.cacher key value evict).2 } :=
      ⟨⟨rfl, agrees.db, rfl, agrees.isOpen, agrees.nilFree⟩, agrees.numValuesInStorage⟩
    exact (persistAll timers _ inserted).numValuesInStorage

theorem remove (agrees : AgreesCounted adapter plain) (timers : List Bool × List Bool) (key : String) :
    AgreesCounted (adapter.remove true timers key) (plain.remove key) := by
  refine ⟨agrees.toAgrees.remove true timers key, ?_⟩
  simp only [LevelDBCacherAdapter.remove, StorageCacherAdapter.remove, agrees.cacher, agrees.dbIsClosed]
  split
  · exact agrees.numValuesInStorage
  · have ok := DB.removeAmid_true_ok timers adapter.db agrees.isOpen key
    rcases removed : adapter.db.removeAmid true timers key with ⟨answer, db⟩
    rw [removed] at ok
    subst ok
    simpa using agrees.numValuesInStorage

theorem apply (agrees : AgreesCounted adapter plain) :
    ∀ event : Event V, event.written = true → AgreesCounted (adapter.apply getBytes event)
      (match event.called with
        | some operation => plain.apply getBytes operation
        | none => plain)
  | .call (.put key value evict) _ timers, rfl => agrees.put timers key value evict
  | .call (.remove key) _ timers, rfl => agrees.remove (timers.headD ([], [])) key
  | .timer written, _ => ⟨agrees.toAgrees.apply (.timer written), agrees.numValuesInStorage⟩

theorem run : ∀ (events : List (Event V)) {adapter : LevelDBCacherAdapter V} {plain : StorageCacherAdapter V},
    AgreesCounted adapter plain → (∀ event ∈ events, event.written = true) →
    AgreesCounted (adapter.run getBytes events) (plain.run getBytes (events.filterMap Event.called))
  | [], _, _, agrees, _ => agrees
  | .call operation written timers :: events, _, _, agrees, succeed =>
    run events (agrees.apply (.call operation written timers) (succeed _ (List.mem_cons_self _ _)))
      fun event mem => succeed event (List.mem_cons_of_mem _ mem)
  | .timer written :: events, _, _, agrees, succeed =>
    run events (agrees.apply (.timer written) (succeed _ (List.mem_cons_self _ _)))
      fun event mem => succeed event (List.mem_cons_of_mem _ mem)

end AgreesCounted

/-! ## The adapter over leveldb as one map -/

/-- Along every run of the adapter whose persister is the leveldb `DB`, from a state that agrees
with an adapter over a plain persister holding a map, whose `Put`s keep the two parts apart, and
with `getData` reading back what `getBytes` writes: whatever the `DB`'s writes return and
wherever the timer fires, between the adapter's calls, inside the `DB` calls they make and between
the reads of `Get` and `Has`, `Has` says whether the map the calls make holds the key, and `Get`
finds the map's keys, with values that serialise like the map's, and no other key. When every
write succeeds, `Len` is what the adapter over the plain persister counts. -/
theorem run_over_levelDB_refines_map (getData : List UInt8 → Option V)
    (roundTrip : ∀ value, ∃ read, getData (getBytes value) = some read ∧ getBytes read = getBytes value)
    {m : List (String × V)} (agrees : AgreesCounted adapter plain) (holds : StorageCacherAdapter.Holds getBytes plain m)
    (events : List (Event V))
    (apart : StorageCacherAdapter.keepsLayersApartAlong getBytes plain (events.filterMap Event.called) = true)
    (reads : List Bool × List Bool × List Bool) (key : String) :
    ((adapter.run getBytes events).has reads key = true ↔
        (((events.filterMap Event.called).foldl StorageCacherAdapter.Operation.applyMap m).lookup key).isSome) ∧
      (match ((events.filterMap Event.called).foldl StorageCacherAdapter.Operation.applyMap m).lookup key with
        | some value => ∃ read, (adapter.run getBytes events).get getData reads key = some read ∧
            getBytes read = getBytes value
        | none => (adapter.run getBytes events).get getData reads key = none) ∧
      ((∀ event ∈ events, event.written = true) →
        (adapter.run getBytes events).len = (plain.run getBytes (events.filterMap Event.called)).len) := by
  have ran : Agrees (adapter.run getBytes events) (plain.run getBytes (events.filterMap Event.called)) :=
    Agrees.run events agrees.toAgrees
  have mapped := StorageCacherAdapter.run_holds getBytes (events.filterMap Event.called) holds apart
  refine ⟨?_, ?_, fun succeed => ?_⟩
  · rw [ran.has]
    exact mapped.has_iff key
  · rw [ran.get]
    exact mapped.get_of_lookup getData roundTrip key
  · have counted : AgreesCounted (adapter.run getBytes events) (plain.run getBytes (events.filterMap Event.called)) :=
      AgreesCounted.run events agrees succeed
    simp only [len, StorageCacherAdapter.len, counted.cacher, counted.numValuesInStorage]

def emptyOverLevelDB : LevelDBCacherAdapter (List UInt8) :=
  { cacher := [], db := { store := [], isOpen := true, batch := .empty, sizeBatch := 0, maxBatchSize := 1 },
    dbIsClosed := false, numValuesInStorage := 0 }

/-- A `Put` whose entry the cacher evicts at once while the `DB`'s write fails, with the timer
firing before and inside the `DB`'s `Put`; the timer's write; and a `Remove` of the entry, with
the timer firing inside the `DB`'s `Remove`. -/
def putEvictRemove : List (Event (List UInt8)) :=
  [.call (.put "k" [1] ["k"]) false [([true], [true])], .timer true, .call (.remove "k") true [([], [true])]]

theorem run_over_levelDB_refines_map_putEvictRemove :
    (∀ value : List UInt8, ∃ read, some (id value) = some read ∧ id read = id value) ∧
      AgreesCounted emptyOverLevelDB StorageCacherAdapter.newStorageCacherAdapter ∧
      StorageCacherAdapter.Holds id StorageCacherAdapter.newStorageCacherAdapter [] ∧
      StorageCacherAdapter.keepsLayersApartAlong id StorageCacherAdapter.newStorageCacherAdapter
        (putEvictRemove.filterMap Event.called) = true ∧
      ((emptyOverLevelDB.run id putEvictRemove).has ([true], [], [true]) "k" = true ↔
          (((putEvictRemove.filterMap Event.called).foldl StorageCacherAdapter.Operation.applyMap []).lookup
            "k").isSome) ∧
        (match ((putEvictRemove.filterMap Event.called).foldl StorageCacherAdapter.Operation.applyMap []).lookup
            "k" with
          | some value => ∃ read, (emptyOverLevelDB.run id putEvictRemove).get some ([true], [], [true]) "k" = some read ∧
              id read = id value
          | none => (emptyOverLevelDB.run id putEvictRemove).get some ([true], [], [true]) "k" = none) ∧
        ((∀ event ∈ putEvictRemove, event.written = true) →
          (emptyOverLevelDB.run id putEvictRemove).len =
            (StorageCacherAdapter.newStorageCacherAdapter.run id (putEvictRemove.filterMap Event.called)).len) :=
  have roundTrip : ∀ value : List UInt8, ∃ read, some (id value) = some read ∧ id read = id value :=
    fun value => ⟨value, rfl, rfl⟩
  have agrees : AgreesCounted emptyOverLevelDB StorageCacherAdapter.newStorageCacherAdapter :=
    ⟨⟨rfl, rfl, rfl, rfl, fun _ => rfl⟩, rfl⟩
  have apart : StorageCacherAdapter.keepsLayersApartAlong id StorageCacherAdapter.newStorageCacherAdapter
      (putEvictRemove.filterMap Event.called) = true := by decide
  ⟨roundTrip, agrees, StorageCacherAdapter.newStorageCacherAdapter_holds id, apart,
    run_over_levelDB_refines_map some roundTrip agrees (StorageCacherAdapter.newStorageCacherAdapter_holds id)
      putEvictRemove apart ([true], [], [true]) "k"⟩

/-- A `Put` whose entry the cacher evicts while the `DB`'s write fails: the entry stays in the
batch and `Get` finds it, but it is not counted, and `Len` answers 0 where the adapter over a plain
persister answers 1. -/
theorem failed_write_leaves_entry_uncounted :
    (emptyOverLevelDB.run id [.call (.put "k" [1] ["k"]) false []]).get some ([], [], []) "k" = some [1] ∧
      (emptyOverLevelDB.run id [.call (.put "k" [1] ["k"]) false []]).len = 0 ∧
      (StorageCacherAdapter.newStorageCacherAdapter.run id [.put "k" [1] ["k"]]).len = 1 := by
  decide

end LevelDBCacherAdapter

end ChainStorage.Storage
