import Mathlib

/-! # The cacher over a persister

`storageCacherAdapter` keeps values in a sized LRU cacher and writes the values the cacher evicts,
serialised, to a persister. Neither part is in the repository's sources: each is taken by its
contract. The cacher is a map whose `AddSizedAndReturnEvicted` inserts the entry and returns the
entries it evicted; which entries it evicts is its own choice, so here the choice is an argument
of `put` (`evict`). The persister is a map from keys to bytes. A value is serialised by
`getBytes` (`GetSerialized`, or the marshalizer, whose error gives no bytes) and read back by
`getData`.

Each part is a list of bindings, newest first, read with `List.lookup`; `restrict` keeps the
bindings of some keys, and `lookup_restrict` is the one lemma about it the proofs use.
-/

namespace ChainStorage.Storage

section Bindings

variable {α : Type}

/-- The bindings of the keys `keep` accepts. -/
def restrict (bindings : List (String × α)) (keep : String → Bool) : List (String × α) :=
  bindings.filter fun binding => keep binding.1

/-- A map's `Put`: the new binding, and the key's old one removed. -/
def bind (bindings : List (String × α)) (key : String) (value : α) : List (String × α) :=
  (key, value) :: restrict bindings (· != key)

@[simp] theorem lookup_restrict (bindings : List (String × α)) (keep : String → Bool) (key : String) :
    (restrict bindings keep).lookup key = if keep key then bindings.lookup key else none := by
  induction bindings with
  | nil => simp [restrict]
  | cons binding bindings inductionHypothesis =>
    obtain ⟨k, v⟩ := binding
    rw [restrict] at inductionHypothesis ⊢
    by_cases same : key = k
    · subst same
      cases keepKey : keep key
      · simp only [List.filter_cons, keepKey, Bool.false_eq_true, if_false, inductionHypothesis]
      · simp [List.filter_cons, keepKey]
    · have different : (key == k) = false := beq_false_of_ne same
      cases keepK : keep k <;>
        simp [List.filter_cons, List.lookup_cons, keepK, different, inductionHypothesis]

@[simp] theorem lookup_bind (bindings : List (String × α)) (key : String) (value : α) (other : String) :
    (bind bindings key value).lookup other = if other = key then some value else bindings.lookup other := by
  by_cases same : other = key
  · subst same
    rw [bind, List.lookup_cons_self, if_pos rfl]
  · simp only [bind, List.lookup_cons, beq_false_of_ne same, lookup_restrict, bne_iff_ne, ne_eq, same,
      not_false_eq_true, if_true, if_false]

theorem keys_restrict_sublist (bindings : List (String × α)) (keep : String → Bool) :
    ((restrict bindings keep).map (·.1)).Sublist (bindings.map (·.1)) :=
  (List.filter_sublist _).map _

theorem mem_keys_iff_lookup {bindings : List (String × α)} {key : String} :
    key ∈ bindings.map (·.1) ↔ (bindings.lookup key).isSome := by
  rw [List.lookup_isSome_iff, List.mem_map]
  constructor
  · rintro ⟨binding, mem, rfl⟩
    exact ⟨binding, mem, beq_self_eq_true _⟩
  · rintro ⟨binding, mem, same⟩
    exact ⟨binding, mem, (beq_iff_eq.1 same).symm⟩

theorem keys_bind_nodup {bindings : List (String × α)} (nodup : (bindings.map (·.1)).Nodup)
    (key : String) (value : α) : ((bind bindings key value).map (·.1)).Nodup := by
  rw [bind, List.map_cons]
  refine List.nodup_cons.2 ⟨fun mem => ?_, nodup.sublist (keys_restrict_sublist _ _)⟩
  rw [mem_keys_iff_lookup, lookup_restrict] at mem
  simp at mem

end Bindings

/-- The adapter's state: the cacher's and the persister's bindings, whether the persister is
closed, and `numValuesInStorage`. -/
structure StorageCacherAdapter (V : Type) where
  cacher : List (String × V)
  db : List (String × List UInt8)
  dbIsClosed : Bool
  numValuesInStorage : Int
  deriving DecidableEq, Repr

namespace StorageCacherAdapter

variable {V : Type} (getBytes : V → List UInt8)

/-- `NewStorageCacherAdapter` over an empty cacher and an empty persister. -/
def newStorageCacherAdapter : StorageCacherAdapter V :=
  { cacher := [], db := [], dbIsClosed := false, numValuesInStorage := 0 }

/-- `AddSizedAndReturnEvicted` by its contract: the entry inserted, then the entries of the keys
the cacher chooses to evict taken out and returned, before the cacher's new bindings. -/
def addSizedAndReturnEvicted (cacher : List (String × V)) (key : String) (value : V)
    (evict : List String) : List (String × V) × List (String × V) :=
  (restrict (bind cacher key value) (· ∈ evict), restrict (bind cacher key value) (· ∉ evict))

/-- One step of `Put`'s loop over the evicted entries: the entry's bytes, unless there are none,
written to the persister and counted. -/
def persistEvicted (adapter : StorageCacherAdapter V) (evicted : String × V) : StorageCacherAdapter V :=
  if (getBytes evicted.2).isEmpty then adapter
  else { adapter with db := bind adapter.db evicted.1 (getBytes evicted.2),
                      numValuesInStorage := adapter.numValuesInStorage + 1 }

/-- `Put`: answers whether the cacher evicted something. -/
def put (adapter : StorageCacherAdapter V) (key : String) (value : V) (evict : List String) :
    Bool × StorageCacherAdapter V :=
  let added := addSizedAndReturnEvicted adapter.cacher key value evict
  let adapter := { adapter with cacher := added.2 }
  if adapter.dbIsClosed then (!added.1.isEmpty, adapter)
  else (!added.1.isEmpty, added.1.foldl (persistEvicted getBytes) adapter)

/-- `Get`: the cacher's value, else the persister's bytes read back by `getData`. -/
def get (getData : List UInt8 → Option V) (adapter : StorageCacherAdapter V) (key : String) : Option V :=
  match adapter.cacher.lookup key with
  | some value => some value
  | none => if adapter.dbIsClosed then none else (adapter.db.lookup key).bind getData

def has (adapter : StorageCacherAdapter V) (key : String) : Bool :=
  (adapter.cacher.lookup key).isSome || (!adapter.dbIsClosed && (adapter.db.lookup key).isSome)

/-- `Peek`: the cacher only. -/
def peek (adapter : StorageCacherAdapter V) (key : String) : Option V :=
  adapter.cacher.lookup key

/-- `HasOrAdd`: `Has`, then `Put` when absent; answers `(has, added)`. -/
def hasOrAdd (adapter : StorageCacherAdapter V) (key : String) (value : V) (evict : List String) :
    (Bool × Bool) × StorageCacherAdapter V :=
  if adapter.has key then ((true, false), adapter)
  else
    let added := adapter.put getBytes key value evict
    ((false, added.1), added.2)

/-- `Remove`: from the cacher, and only when the cacher did not hold the key, from the
persister. -/
def remove (adapter : StorageCacherAdapter V) (key : String) : StorageCacherAdapter V :=
  let removed := (adapter.cacher.lookup key).isSome
  let adapter := { adapter with cacher := restrict adapter.cacher (· != key) }
  if removed || adapter.dbIsClosed then adapter
  else { adapter with db := restrict adapter.db (· != key),
                      numValuesInStorage := adapter.numValuesInStorage - 1 }

/-- `Keys`: the cacher's keys, then the persister's. -/
def keys (adapter : StorageCacherAdapter V) : List String :=
  adapter.cacher.map (·.1) ++ if adapter.dbIsClosed then [] else adapter.db.map (·.1)

def len (adapter : StorageCacherAdapter V) : Int :=
  adapter.cacher.length + adapter.numValuesInStorage

/-- `Clear` purges the cacher only. -/
def clear (adapter : StorageCacherAdapter V) : StorageCacherAdapter V :=
  { adapter with cacher := [] }

def close (adapter : StorageCacherAdapter V) : StorageCacherAdapter V :=
  { adapter with dbIsClosed := true, numValuesInStorage := 0 }

/-! ## Runs -/

/-- The adapter's operations that change what it holds. -/
inductive Operation (V : Type) where
  | put (key : String) (value : V) (evict : List String)
  | remove (key : String)
  deriving DecidableEq, Repr

def apply (adapter : StorageCacherAdapter V) : Operation V → StorageCacherAdapter V
  | .put key value evict => (adapter.put getBytes key value evict).2
  | .remove key => adapter.remove key

def run (adapter : StorageCacherAdapter V) (operations : List (Operation V)) : StorageCacherAdapter V :=
  operations.foldl (apply getBytes) adapter

/-- The plain map the adapter stands for. -/
def Operation.applyMap (m : List (String × V)) : Operation V → List (String × V)
  | .put key value _ => bind m key value
  | .remove key => restrict m (· != key)

def runMap (operations : List (Operation V)) : List (String × V) :=
  operations.foldl Operation.applyMap []

end StorageCacherAdapter

end ChainStorage.Storage
