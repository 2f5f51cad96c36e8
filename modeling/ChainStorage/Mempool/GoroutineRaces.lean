import ChainStorage.Mempool.GoroutineLocks
import ChainStorage.Mempool.Capacity

/-! # Listed transactions stay stored, unless goroutines race

Over every run of one call at a time, every listed transaction is stored under its hash
(`StoredInvariant.listedStored`), and the capacity bound rests on it. With calls interleaved,
`AddTx` may insert a transaction in `txListBySender` after another goroutine took it out of the
lists and before that goroutine removes its hash from `txByHash`: the eviction between its cut and
its bulk removal, or another `AddTx` between its insertion and the removal of what its sender's
list evicted. The transaction then stays listed with no entry in `txByHash`.

A goroutine that inserts such a transaction races the goroutine that is yet to remove its hash
(`Calls.racing`). Each goroutine has obligations in the cache (`Goroutine.Expects`): the hashes
it is yet to remove are listed only where its pass has still to cut them, and `AddTx` finds its
hash stored between its two insertions. `StoredAcrossCalls` collects them with the transactions'
origin, and every step taken while no goroutine races keeps it.

**Main results:**

- `run_storedAcrossCalls`: over every interleaving from a new cache in which hashes identify the
  calls' transactions and no step is taken while goroutines race, every listed transaction is
  stored under its hash, but the one a `RemoveTxByHash` has taken out of `txByHash` and not yet
  out of its sender's list; when no goroutine holds `mutTxOperation`, the cache has no more
  senders than transactions.
- `run_racing_leaves_listed_unstored`: an `AddTx` that inserts again the transaction the eviction
  of another `AddTx` has just cut: once every call has returned, the transaction is listed and not
  stored, and the cache has more senders than transactions.
- `overflowingCalls_exceed_countThreshold`: `AddTx` skips its eviction while another one's is in
  progress, so calls that do not race can leave the cache past `CountThreshold + 1`.
-/

namespace ChainStorage.Mempool

/-! ## Races -/

def Goroutine.pendingRemovals : Goroutine → List String
  | .evictionCut _ hashes _ _ | .addTxRemoveEvicted _ hashes | .removeTxByHashRemoveEvicted hashes => hashes
  | _ => []

namespace Calls

/-- Whether a goroutine between the two insertions of `AddTx` inserts a transaction whose hash
some goroutine is yet to remove from `txByHash`. -/
def racing (calls : Calls) : Bool :=
  calls.goroutines.any fun g =>
    match g with
    | .addTxToSender tx _ => calls.goroutines.any fun other => decide (tx.txHash ∈ other.pendingRemovals)
    | _ => false

variable (less : WrappedTransaction → WrappedTransaction → Bool)

/-- Whether no event of the run is taken while goroutines race. -/
def raceFree (calls : Calls) : List Event → Bool
  | [] => true
  | event :: events => !calls.racing && (calls.apply less event).raceFree events

theorem not_pending_of_racing_eq_false {calls : Calls} (notRacing : calls.racing = false)
    {tx : WrappedTransaction} {addedInByHash : Bool} (inserting : .addTxToSender tx addedInByHash ∈ calls.goroutines)
    {other : Goroutine} (mem : other ∈ calls.goroutines) : tx.txHash ∉ other.pendingRemovals := by
  simp only [racing, List.any_eq_false] at notRacing
  have := notRacing _ inserting
  simp only [List.any_eq_true, decide_eq_true_eq, not_exists, not_and] at this
  exact this other mem

end Calls

/-! ## What each goroutine expects -/

section Expects

variable (supplied : List WrappedTransaction)

namespace Goroutine

/-- What the goroutine carries comes from `supplied`, and its heap has one cursor per sender. -/
def Carries : Goroutine → Prop
  | addTx tx | addTxToSender tx _ | removeTxByHashFromSender tx => tx ∈ supplied
  | evictionPass heap andThen | evictionCut _ _ heap andThen =>
    Cursors heap ∧ (∀ t ∈ heapTransactions heap, t ∈ supplied) ∧ ∀ tx ∈ andThen, tx ∈ supplied
  | doEviction andThen | checkCapacity andThen | lockEviction andThen | setEvictionInProgress andThen
  | recheckCapacity andThen | evict andThen | resetEvictionInProgress andThen | unlockEviction andThen =>
    ∀ tx ∈ andThen, tx ∈ supplied
  | _ => True

/-- What the goroutine needs of a listed transaction: that its hash is not one it is yet to
remove, unless the range of its pass is still to cut it; and, between the two calls of `Clear`,
that there is none. -/
def Allows (t : WrappedTransaction) : Goroutine → Prop
  | addTxRemoveEvicted _ evicted | removeTxByHashRemoveEvicted evicted => t.txHash ∉ evicted
  | evictionCut lowest hashes _ _ => t.txHash ∈ hashes → ∃ n, (t.tx.sndAddr, n) ∈ lowest ∧ n ≤ t.tx.nonce
  | clearTxByHash => False
  | _ => True

/-- What the goroutine needs of the keys of `txByHash`: between its two insertions, `AddTx` finds
its transaction's hash there. -/
def Stores (keys : List String) : Goroutine → Prop
  | addTxToSender tx _ => tx.txHash ∈ keys
  | _ => True

/-- The goroutine's obligations in the cache. -/
structure Expects (cache : TxCache) (g : Goroutine) : Prop where
  carries : g.Carries supplied
  stores : g.Stores cache.txByHash.keys
  allows : ∀ t ∈ cache.txListBySender.listed, g.Allows t

variable {supplied}

theorem Expects.frame {cache cache' : TxCache} {g : Goroutine} (expects : g.Expects supplied cache)
    (listed : ∀ t ∈ cache'.txListBySender.listed, t ∈ cache.txListBySender.listed ∨ g.Allows t)
    (keys : g.Stores cache.txByHash.keys → g.Stores cache'.txByHash.keys) : g.Expects supplied cache' :=
  ⟨expects.carries, keys expects.stores, fun t mem => (listed t mem).elim (expects.allows t) id⟩

theorem Stores.of_holdsTxOperation {g : Goroutine} (free : g.holdsTxOperation = false) (keys : List String) :
    g.Stores keys := by
  cases g <;> trivial

theorem Stores.mono {g : Goroutine} {keys keys' : List String} (sub : ∀ h ∈ keys, h ∈ keys') :
    g.Stores keys → g.Stores keys' := by
  cases g <;> first | exact sub _ | exact id

theorem Allows.of_not_pending {g : Goroutine} (notClearing : g.holdsTxOperation = false ∨ g ≠ clearTxByHash)
    {t : WrappedTransaction} (notPending : t.txHash ∉ g.pendingRemovals) : g.Allows t := by
  cases g <;> first
    | trivial
    | exact notPending
    | exact fun pending => absurd pending notPending

theorem expects_of_carries {g : Goroutine} {cache : TxCache} (carries : g.Carries supplied)
    (stores : g.Stores cache.txByHash.keys) (allows : ∀ t, g.Allows t) : g.Expects supplied cache :=
  ⟨carries, stores, fun t _ => allows t⟩

theorem afterEviction_expects {andThen : Option WrappedTransaction} (carries : ∀ tx ∈ andThen, tx ∈ supplied)
    (cache : TxCache) : (afterEviction andThen).Expects supplied cache := by
  cases andThen with
  | none => exact expects_of_carries trivial trivial fun _ => trivial
  | some tx => exact expects_of_carries (carries tx rfl) trivial fun _ => trivial

end Goroutine

/-- What every interleaving keeps, while no goroutines race: the transactions come from
`supplied`; every listed transaction is stored under its hash, or is the one a `RemoveTxByHash` has
taken out of `txByHash`; and every goroutine's obligations hold. -/
structure StoredAcrossCalls (calls : Calls) : Prop where
  listed : ∀ t ∈ calls.cache.txListBySender.listed, t ∈ supplied
  stored : ∀ t ∈ calls.cache.txByHash.items, t ∈ supplied
  listedStored : ∀ t ∈ calls.cache.txListBySender.listed,
    t.txHash ∈ calls.cache.txByHash.keys ∨ Goroutine.removeTxByHashFromSender t ∈ calls.goroutines
  goroutines : ∀ g ∈ calls.goroutines, g.Expects supplied calls.cache

end Expects

/-! ## The keys of the map by hash -/

namespace TxByHashMap

theorem mem_keys_addTx_of_mem {m : TxByHashMap} {txHash : String} (mem : txHash ∈ m.keys)
    (tx : WrappedTransaction) : txHash ∈ (m.addTx tx).2.keys := by
  obtain ⟨t, tMem, rfl⟩ := List.mem_map.1 mem
  exact List.mem_map_of_mem _ (mem_addTx_of_mem tMem tx)

theorem txHash_mem_keys_addTx (m : TxByHashMap) (tx : WrappedTransaction) : tx.txHash ∈ (m.addTx tx).2.keys := by
  by_cases present : tx.txHash ∈ m.keys
  · exact mem_keys_addTx_of_mem present tx
  · rw [addTx_of_absent present]
    exact List.mem_cons_self _ _

theorem mem_keys_removeTxsBulk {m : TxByHashMap} {txHash : String} {txHashes : List String} :
    txHash ∈ (m.removeTxsBulk txHashes).2.keys ↔ txHash ∈ m.keys ∧ txHash ∉ txHashes := by
  simp only [keys, removeTxsBulk_items, List.mem_map, List.mem_filter, decide_eq_true_eq]
  constructor
  · rintro ⟨t, ⟨mem, absent⟩, rfl⟩
    exact ⟨⟨t, mem, rfl⟩, absent⟩
  · rintro ⟨⟨t, mem, rfl⟩, absent⟩
    exact ⟨t, ⟨mem, absent⟩, rfl⟩

theorem removeTx_fst (m : TxByHashMap) (txHash : String) : (m.removeTx txHash).1 = m.getTx txHash := by
  unfold removeTx
  split <;> simp_all

theorem mem_keys_removeTx {m : TxByHashMap} {txHash other : String} (mem : other ∈ m.keys) (ne : other ≠ txHash) :
    other ∈ (m.removeTx txHash).2.keys := by
  obtain ⟨t, tMem, rfl⟩ := List.mem_map.1 mem
  exact List.mem_map_of_mem _ (by rw [removeTx_items]; exact List.mem_filter.2 ⟨tMem, by simpa using ne⟩)

end TxByHashMap

/-! ## One step -/

namespace StoredAcrossCalls

variable {supplied : List WrappedTransaction} {calls : Calls} (inv : StoredAcrossCalls supplied calls)
  {i : Nat} {g : Goroutine} (get : calls.goroutines[i]? = some g)
include inv get

theorem move (cache' : TxCache) (flag' : Bool) {g' : Goroutine}
    (listed : ∀ t ∈ cache'.txListBySender.listed, t ∈ supplied)
    (stored : ∀ t ∈ cache'.txByHash.items, t ∈ supplied)
    (listedStored : ∀ t ∈ cache'.txListBySender.listed, t.txHash ∈ cache'.txByHash.keys ∨
      (Goroutine.removeTxByHashFromSender t ∈ calls.goroutines ∧ g ≠ .removeTxByHashFromSender t) ∨
        g' = .removeTxByHashFromSender t)
    (others : ∀ j x, j ≠ i → calls.goroutines[j]? = some x → x.Expects supplied calls.cache →
      x.Expects supplied cache')
    (own : g'.Expects supplied cache') :
    StoredAcrossCalls supplied { cache := cache', isEvictionInProgress := flag', goroutines := calls.goroutines.set i g' } := by
  refine ⟨listed, stored, fun t mem => ?_, fun x mem => ?_⟩
  · rcases listedStored t mem with stored | ⟨removing, other⟩ | rfl
    · exact .inl stored
    · obtain ⟨j, get'⟩ := List.mem_iff_getElem?.1 removing
      refine .inr (mem_set_of_getElem? (fun same => other ?_) get')
      subst same
      rw [get] at get'
      exact Option.some.inj get'
    · exact .inr (mem_set_self get)
  · rcases mem_set_cases mem with ⟨j, other, get'⟩ | rfl
    · exact others j x other get' (inv.goroutines x (mem_of_getElem? get'))
    · exact own

theorem keep (flag' : Bool) (notRemoving : ∀ t, g ≠ .removeTxByHashFromSender t) {g' : Goroutine}
    (own : g'.Expects supplied calls.cache) :
    StoredAcrossCalls supplied { cache := calls.cache, isEvictionInProgress := flag', goroutines := calls.goroutines.set i g' } :=
  inv.move get calls.cache flag' inv.listed inv.stored
    (fun t mem => (inv.listedStored t mem).imp_right fun removing => .inl ⟨removing, notRemoving t⟩)
    (fun _ _ _ _ => id) own

theorem removeTxsBulk (notRacing : calls.racing = false) (flag' : Bool) {hashes : List String}
    (pending : g.pendingRemovals = hashes) (notRemoving : ∀ t, g ≠ .removeTxByHashFromSender t) (notListed : ∀ t ∈ calls.cache.txListBySender.listed, t.txHash ∉ hashes)
    {g' : Goroutine} (own : g'.Expects supplied { calls.cache with txByHash := (calls.cache.txByHash.removeTxsBulk hashes).2 }) :
    StoredAcrossCalls supplied
      { cache := { calls.cache with txByHash := (calls.cache.txByHash.removeTxsBulk hashes).2 },
        isEvictionInProgress := flag', goroutines := calls.goroutines.set i g' } := by
  have mine : g ∈ calls.goroutines := mem_of_getElem? get
  refine inv.move get _ flag' inv.listed (fun t mem => ?_) (fun t mem => ?_) (fun j x _ get' expects => ?_) own
  · rw [TxByHashMap.removeTxsBulk_items] at mem
    exact inv.stored t (List.mem_of_mem_filter mem)
  · rcases inv.listedStored t mem with stored | removing
    · exact .inl (TxByHashMap.mem_keys_removeTxsBulk.2 ⟨stored, notListed t mem⟩)
    · exact .inr (.inl ⟨removing, notRemoving t⟩)
  · refine expects.frame (fun t mem => .inl mem) fun stores => ?_
    cases x with
    | addTxToSender tx addedInByHash =>
      exact TxByHashMap.mem_keys_removeTxsBulk.2 ⟨stores, pending ▸
        Calls.not_pending_of_racing_eq_false notRacing (mem_of_getElem? get') mine⟩
    | _ => trivial

theorem shrinkLists (flag' : Bool) {lists : TxListBySenderMap}
    (shrinks : ∀ t ∈ lists.listed, t ∈ calls.cache.txListBySender.listed)
    (notRemoving : ∀ t ∈ lists.listed, g ≠ .removeTxByHashFromSender t)
    {g' : Goroutine} (own : g'.Expects supplied { calls.cache with txListBySender := lists }) :
    StoredAcrossCalls supplied
      { cache := { calls.cache with txListBySender := lists },
        isEvictionInProgress := flag', goroutines := calls.goroutines.set i g' } :=
  inv.move get _ flag' (fun t mem => inv.listed t (shrinks t mem)) inv.stored
    (fun t mem => (inv.listedStored t (shrinks t mem)).imp_right fun removing =>
      .inl ⟨removing, notRemoving t mem⟩)
    (fun _ _ _ _ expects => expects.frame (fun t mem => .inl (shrinks t mem)) id) own

omit inv get in
theorem identified_insertion (identified : HashesIdentify supplied) (inv : StoredAcrossCalls supplied calls)
    {tx : WrappedTransaction} (carried : tx ∈ supplied) : HashesIdentify (tx :: calls.cache.transactions) :=
  identified.of_subset fun t mem => by
    rcases List.mem_cons.1 mem with rfl | old
    · exact carried
    · rcases List.mem_append.1 old with stored | listed
      · exact inv.stored t stored
      · exact inv.listed t listed

variable (less : WrappedTransaction → WrappedTransaction → Bool) {config : ConfigSourceMe}
  (identified : HashesIdentify supplied) (locks : LocksHeld config calls)
include identified locks

omit get locks in
theorem resumed_evictionPass {heap : List TransactionsHeapItem} {andThen : Option WrappedTransaction}
    (get : calls.goroutines[i]? = some (.evictionPass heap andThen)) (entry : Nat) :
    StoredAcrossCalls supplied (calls.resumed less i (.evictionPass heap andThen) entry) := by
  obtain ⟨⟨cursors, fromHeap, carried⟩, -, -⟩ := inv.goroutines _ (mem_of_getElem? get)
  dsimp only [Calls.resumed, Goroutine.step]
  split
  · obtain ⟨cursors', within, descending⟩ :=
      selectTransactionsToEvict_cursors less calls.cache.config.numItemsToPreemptivelyEvict cursors
    refine inv.keep get _ (by simp) ⟨⟨cursors', fun t mem => fromHeap t (within t (List.mem_append_right _ mem)),
      carried⟩, trivial, fun t listed pending => ?_⟩
    obtain ⟨c, collected, same⟩ := List.mem_map.1 pending
    obtain rfl := identified c (fromHeap c (within c (List.mem_append_left _ collected))) t
      (inv.listed t listed) same
    exact lowestToEvictBySender_le descending collected
  · exact inv.keep get _ (by simp) (Goroutine.expects_of_carries carried trivial fun _ => trivial)

omit get identified in
theorem resumed_evictionCut {lowest : List (String × Nat)} {hashes : List String}
    {heap : List TransactionsHeapItem} {andThen : Option WrappedTransaction}
    (get : calls.goroutines[i]? = some (.evictionCut lowest hashes heap andThen)) (notRacing : calls.racing = false)
    (entry : Nat) : StoredAcrossCalls supplied (calls.resumed less i (.evictionCut lowest hashes heap andThen) entry) := by
  have own := inv.goroutines _ (mem_of_getElem? get)
  have wellFormed := locks.maps.lists
  dsimp only [Calls.resumed, Goroutine.step]
  split
  · next sender nonce _ =>
    have shrinks := fun t (mem : t ∈ (calls.cache.txListBySender.removeTransactionsWithHigherOrEqualNonce
        sender nonce).listed) =>
      TxListBySenderMap.mem_listed_removeTransactionsWithHigherOrEqualNonce wellFormed.exact mem
    refine inv.shrinkLists get _ shrinks (by simp) ⟨own.carries, trivial, fun t mem pending => ?_⟩
    obtain ⟨n, cut, le⟩ := own.allows t (shrinks t mem) pending
    by_cases reached : (t.tx.sndAddr, n) = (sender, nonce)
    · obtain ⟨sender, rfl⟩ := Prod.mk.inj reached
      exact absurd le (Nat.not_le_of_lt
        (TxListBySenderMap.nonce_lt_of_mem_listed_removeTransactionsWithHigherOrEqualNonce wellFormed mem sender))
    · exact ⟨n, (List.mem_erase_of_ne reached).2 cut, le⟩
  · split
    · next ended =>
      refine inv.removeTxsBulk get notRacing _ rfl (by simp) (fun t mem pending => ?_)
        (Goroutine.expects_of_carries own.carries trivial fun _ => trivial)
      obtain ⟨n, cut, -⟩ := own.allows t mem pending
      simp [List.isEmpty_iff.1 ended] at cut
    · exact inv.keep get _ (by simp) own

omit get identified locks in
theorem resumed_addTx {tx : WrappedTransaction} (get : calls.goroutines[i]? = some (.addTx tx)) (entry : Nat) :
    StoredAcrossCalls supplied (calls.resumed less i (.addTx tx) entry) := by
  have carried : tx ∈ supplied := (inv.goroutines _ (mem_of_getElem? get)).carries
  refine inv.move get _ _ inv.listed (fun t mem => ?_) (fun t mem => ?_)
    (fun _ _ _ _ expects => expects.frame (fun t mem => .inl mem)
      (Goroutine.Stores.mono fun _ stored => TxByHashMap.mem_keys_addTx_of_mem stored tx))
    ⟨carried, TxByHashMap.txHash_mem_keys_addTx _ tx, fun _ _ => trivial⟩
  · rcases TxByHashMap.mem_of_mem_addTx mem with rfl | old
    · exact carried
    · exact inv.stored t old
  · exact (inv.listedStored t mem).imp (fun stored => TxByHashMap.mem_keys_addTx_of_mem stored tx)
      fun removing => .inl ⟨removing, by simp⟩

omit get in
theorem resumed_addTxToSender {tx : WrappedTransaction} {addedInByHash : Bool}
    (get : calls.goroutines[i]? = some (.addTxToSender tx addedInByHash)) (notRacing : calls.racing = false)
    (entry : Nat) : StoredAcrossCalls supplied (calls.resumed less i (.addTxToSender tx addedInByHash) entry) := by
  have own := inv.goroutines _ (mem_of_getElem? get)
  have wellFormed := locks.maps.lists
  have fromLists := fun t (mem : t ∈ (calls.cache.txListBySender.addTxReturnEvicted tx).2.2.listed) =>
    TxListBySenderMap.mem_listed_addTxReturnEvicted wellFormed.exact mem
  refine inv.move get _ _ (fun t mem => ?_) inv.stored (fun t mem => ?_) (fun j x other get' expects => ?_) ?_
  · rcases fromLists t mem with rfl | old
    · exact own.carries
    · exact inv.listed t old
  · rcases fromLists t mem with rfl | old
    · exact .inl own.stores
    · exact (inv.listedStored t old).imp_right fun removing => .inl ⟨removing, by simp⟩
  · refine expects.frame (fun t mem => (fromLists t mem).symm.imp_right ?_) id
    rintro rfl
    refine Goroutine.Allows.of_not_pending (.inr ?_)
      (Calls.not_pending_of_racing_eq_false notRacing (mem_of_getElem? get) (mem_of_getElem? get'))
    rintro rfl
    exact other (locks.txOperation.unique j i _ _ get' get rfl rfl)
  · dsimp only [Goroutine.step]
    split
    · refine ⟨trivial, trivial, fun t mem dropped => ?_⟩
      exact (TxCache.addTxAfterEviction_dropped_absent (identified_insertion identified inv own.carries)
        wellFormed t.txHash dropped).2 (List.mem_map_of_mem _ mem)
    · exact Goroutine.expects_of_carries trivial trivial fun _ => trivial

omit get locks in
theorem resumed_removeTxByHash {txHash : String} (get : calls.goroutines[i]? = some (.removeTxByHash txHash))
    (free : calls.blocked (.removeTxByHash txHash) = false) (entry : Nat) :
    StoredAcrossCalls supplied (calls.resumed less i (.removeTxByHash txHash) entry) := by
  have txOperationFree := (Calls.not_holds_of_takes free).1 rfl
  dsimp only [Calls.resumed, Goroutine.step]
  split
  · exact inv.keep get _ (by simp) (Goroutine.expects_of_carries trivial trivial fun _ => trivial)
  · next tx txByHash removed =>
    have found : calls.cache.txByHash.getTx txHash = some tx := by rw [← TxByHashMap.removeTx_fst, removed]
    obtain ⟨txStored, rfl⟩ := TxByHashMap.mem_of_getTx found
    have rest : (calls.cache.txByHash.removeTx tx.txHash).2 = txByHash := by rw [removed]
    subst rest
    refine inv.move get _ _ inv.listed (fun t mem => ?_) (fun t mem => ?_)
      (fun j x _ get' expects => expects.frame (fun t mem => .inl mem) fun _ =>
        Goroutine.Stores.of_holdsTxOperation (txOperationFree x (mem_of_getElem? get')) _)
      ⟨inv.stored tx txStored, trivial, fun _ _ => trivial⟩
    · rw [TxByHashMap.removeTx_items] at mem
      exact inv.stored t (List.mem_of_mem_filter mem)
    · rcases inv.listedStored t mem with stored | removing
      · by_cases same : t.txHash = tx.txHash
        · rw [identified t (inv.listed t mem) tx (inv.stored tx txStored) same]
          exact .inr (.inr rfl)
        · exact .inl (TxByHashMap.mem_keys_removeTx stored same)
      · exact .inr (.inl ⟨removing, by simp⟩)

omit get in
theorem resumed_removeTxByHashFromSender {tx : WrappedTransaction}
    (get : calls.goroutines[i]? = some (.removeTxByHashFromSender tx)) (entry : Nat) :
    StoredAcrossCalls supplied (calls.resumed less i (.removeTxByHashFromSender tx) entry) := by
  have wellFormed := locks.maps.lists
  have shrinks := fun t (mem : t ∈ (calls.cache.txListBySender.removeTransactionsWithLowerOrEqualNonceReturnHashes
      tx).2.listed) =>
    TxListBySenderMap.mem_listed_removeTransactionsWithLowerOrEqualNonceReturnHashes wellFormed.exact mem
  have above := fun t (mem : t ∈ (calls.cache.txListBySender.removeTransactionsWithLowerOrEqualNonceReturnHashes
      tx).2.listed) =>
    TxListBySenderMap.nonce_gt_of_mem_listed_removeTransactionsWithLowerOrEqualNonceReturnHashes wellFormed mem
  refine inv.shrinkLists get _ shrinks (fun t mem same => ?_) ?_
  · injection same with same
    subst same
    exact Nat.lt_irrefl _ (above _ mem rfl)
  · dsimp only [Goroutine.step]
    split
    · refine ⟨trivial, trivial, fun t mem removed => ?_⟩
      obtain ⟨y, yListed, same, sender, nonce⟩ :=
        TxListBySenderMap.mem_removeTransactionsWithLowerOrEqualNonceReturnHashes_fst wellFormed removed
      obtain rfl := identified y (inv.listed y yListed) t (inv.listed t (shrinks t mem)) same
      exact Nat.lt_irrefl _ (Nat.lt_of_lt_of_le (above y mem sender) nonce)
    · exact Goroutine.expects_of_carries trivial trivial fun _ => trivial

omit get identified in
theorem resumed_clearTxByHash (get : calls.goroutines[i]? = some .clearTxByHash) (entry : Nat) :
    StoredAcrossCalls supplied (calls.resumed less i .clearTxByHash entry) := by
  have empty : ∀ t, t ∉ calls.cache.txListBySender.listed := (inv.goroutines _ (mem_of_getElem? get)).allows
  refine inv.move get _ _ inv.listed (fun t mem => ?_) (fun t mem => absurd mem (empty t))
    (fun j x other get' expects => expects.frame (fun t mem => .inl mem) fun _ =>
      Goroutine.Stores.of_holdsTxOperation (locks.txOperation.eq_false_of_ne get rfl other get') _)
    (Goroutine.expects_of_carries trivial trivial fun _ => trivial)
  simp [Goroutine.step, TxByHashMap.clear] at mem

theorem resumed (notRacing : calls.racing = false) (free : calls.blocked g = false) (entry : Nat) :
    StoredAcrossCalls supplied (calls.resumed less i g entry) := by
  have own := inv.goroutines g (mem_of_getElem? get)
  cases g with
  | doEviction andThen =>
    refine inv.keep get _ (by simp) ?_
    dsimp only [Goroutine.step]
    split
    · exact Goroutine.afterEviction_expects own.carries _
    · exact Goroutine.expects_of_carries own.carries trivial fun _ => trivial
  | checkCapacity andThen =>
    refine inv.keep get _ (by simp) ?_
    dsimp only [Goroutine.step]
    split
    · exact Goroutine.expects_of_carries own.carries trivial fun _ => trivial
    · exact Goroutine.afterEviction_expects own.carries _
  | lockEviction andThen | setEvictionInProgress andThen | resetEvictionInProgress andThen =>
    exact inv.keep get _ (by simp) (Goroutine.expects_of_carries own.carries trivial fun _ => trivial)
  | recheckCapacity andThen =>
    refine inv.keep get _ (by simp) ?_
    dsimp only [Goroutine.step]
    split <;> exact Goroutine.expects_of_carries own.carries trivial fun _ => trivial
  | unlockEviction andThen => exact inv.keep get _ (by simp) (Goroutine.afterEviction_expects own.carries _)
  | evict andThen =>
    exact inv.keep get _ (by simp) (Goroutine.expects_of_carries
      ⟨cursors_bunches locks.maps.lists, fun t mem => inv.listed t (mem_heapTransactions_bunches.1 mem), own.carries⟩
      trivial fun _ => trivial)
  | evictionPass heap andThen => exact inv.resumed_evictionPass less identified get entry
  | evictionCut lowest hashes heap andThen => exact inv.resumed_evictionCut less locks get notRacing entry
  | addTx tx => exact inv.resumed_addTx less get entry
  | addTxToSender tx addedInByHash => exact inv.resumed_addTxToSender less identified locks get notRacing entry
  | addTxRemoveEvicted added evicted =>
    exact inv.removeTxsBulk get notRacing _ rfl (by simp) own.allows
      (Goroutine.expects_of_carries trivial trivial fun _ => trivial)
  | removeTxByHash txHash => exact inv.resumed_removeTxByHash less identified get free entry
  | removeTxByHashFromSender tx => exact inv.resumed_removeTxByHashFromSender less identified locks get entry
  | removeTxByHashRemoveEvicted evicted =>
    exact inv.removeTxsBulk get notRacing _ rfl (by simp) own.allows
      (Goroutine.expects_of_carries trivial trivial fun _ => trivial)
  | clear =>
    refine inv.shrinkLists get _ (fun t mem => ?_) (fun t mem => ?_) ⟨trivial, trivial, fun t mem => ?_⟩ <;>
      simp [TxListBySenderMap.clear, TxListBySenderMap.listed] at mem
  | clearTxByHash => exact inv.resumed_clearTxByHash less locks get entry
  | returned answer => exact inv.keep get _ (by simp) own

end StoredAcrossCalls

/-! ## Runs -/

namespace StoredAcrossCalls

variable (less : WrappedTransaction → WrappedTransaction → Bool) {config : ConfigSourceMe}
  {supplied : List WrappedTransaction} (identified : HashesIdentify supplied)

theorem initial (config : ConfigSourceMe) : StoredAcrossCalls supplied (Calls.initial config) :=
  ⟨by simp [Calls.initial, newTxCache, TxListBySenderMap.listed], by simp [Calls.initial, newTxCache],
    by simp [Calls.initial, newTxCache, TxListBySenderMap.listed], by simp [Calls.initial]⟩

theorem start_expects (cache : TxCache) {operation : Operation} (added : ∀ tx ∈ operation.added, tx ∈ supplied) :
    (operation.start cache.config).Expects supplied cache := by
  cases operation with
  | addTx tx =>
    cases tx with
    | none => exact Goroutine.expects_of_carries trivial trivial fun _ => trivial
    | some tx =>
      have carried := added tx (by simp [Operation.added])
      simp only [Operation.start]
      split
      · exact Goroutine.expects_of_carries (fun x (mem : x ∈ some tx) => Option.mem_some_iff.1 mem ▸ carried)
          trivial fun _ => trivial
      · exact Goroutine.expects_of_carries carried trivial fun _ => trivial
  | doEviction =>
    exact Goroutine.expects_of_carries (fun _ mem => absurd mem (Option.not_mem_none _)) trivial fun _ => trivial
  | _ => exact Goroutine.expects_of_carries trivial trivial fun _ => trivial

include identified

theorem apply {calls : Calls} (locks : LocksHeld config calls) (inv : StoredAcrossCalls supplied calls)
    (notRacing : calls.racing = false) :
    ∀ event : Event, (∀ tx ∈ event.added, tx ∈ supplied) → StoredAcrossCalls supplied (calls.apply less event)
  | .call operation, added =>
    ⟨inv.listed, inv.stored, fun t mem => (inv.listedStored t mem).imp_right fun removing =>
        List.mem_append_left _ removing,
      fun g mem => (List.mem_append.1 mem).elim (inv.goroutines g) fun new => by
        rw [List.mem_singleton.1 new]
        exact start_expects calls.cache added⟩
  | .resume i entry, _ => by
    rcases calls.apply_resume less i entry with same | ⟨g, get, free, resumed⟩
    · rw [same]
      exact inv
    · rw [resumed]
      exact inv.resumed get less identified locks notRacing free entry

theorem run : ∀ (events : List Event) {calls : Calls}, LocksHeld config calls →
    StoredAcrossCalls supplied calls → calls.raceFree less events = true →
    (∀ tx ∈ events.flatMap Event.added, tx ∈ supplied) → StoredAcrossCalls supplied (calls.run less events)
  | [], _, _, inv, _, _ => inv
  | event :: events, calls, locks, inv, raceFree, added => by
    simp only [Calls.raceFree, Bool.and_eq_true, Bool.not_eq_true'] at raceFree
    exact run events (locks.apply less event)
      (inv.apply less identified locks raceFree.1 event fun tx mem => added tx (by simp [mem]))
      raceFree.2 fun tx mem => added tx (by simp [mem])

end StoredAcrossCalls

/-- Over every interleaving of calls on a new cache in which hashes identify the calls'
transactions and no step is taken while a goroutine between the insertions of `AddTx` inserts a
transaction whose hash another goroutine is yet to remove: every listed transaction is stored
under its hash, or is the one a `RemoveTxByHash` has taken out of `txByHash` and not yet out of its
sender's list; and whenever no goroutine holds `mutTxOperation`, there are no more senders than
transactions. -/
theorem run_storedAcrossCalls (less : WrappedTransaction → WrappedTransaction → Bool)
    (config : ConfigSourceMe) (events : List Event) (identified : HashesIdentify (events.flatMap Event.added))
    (raceFree : (Calls.initial config).raceFree less events = true) :
    (∀ t ∈ ((Calls.initial config).run less events).cache.txListBySender.listed,
      t.txHash ∈ ((Calls.initial config).run less events).cache.txByHash.keys ∨
        Goroutine.removeTxByHashFromSender t ∈ ((Calls.initial config).run less events).goroutines) ∧
    ((∀ g ∈ ((Calls.initial config).run less events).goroutines, g.holdsTxOperation = false) →
      ((Calls.initial config).run less events).cache.countSenders ≤
        ((Calls.initial config).run less events).cache.countTx) := by
  have locks := LocksHeld.run less events (LocksHeld.initial config)
  have inv := StoredAcrossCalls.run less identified events (LocksHeld.initial config)
    (StoredAcrossCalls.initial config) raceFree fun _ => id
  refine ⟨inv.listedStored, fun free => StoredInvariant.countSenders_le_countTx identified
    ⟨⟨locks.maps.lists, locks.maps.constraints_eq, inv.listed⟩, locks.maps.txByHash, inv.stored,
      fun t mem => (inv.listedStored t mem).resolve_right fun removing => ?_⟩⟩
  simpa [Goroutine.holdsTxOperation] using free _ removing

def interleavedConfig : ConfigSourceMe :=
  { numBytesThreshold := 1000000, countThreshold := 10, numBytesPerSenderThreshold := 1000000,
    countPerSenderThreshold := 1000, evictionEnabled := false, numItemsToPreemptivelyEvict := 1 }

/-- `AddTx` of `alice`'s `a` and of `bob`'s `b` interleaved, and `RemoveTxByHash` of `a`: each
insertion waits on `mutTxOperation` while the other holds it. -/
def interleavedCalls : List Event :=
  [.call (.addTx (some (sampleTx "alice" "a" 1 1))), .call (.addTx (some (sampleTx "bob" "b" 1 2))),
    .resume 0 0, .resume 1 0, .resume 0 0, .resume 1 0, .call (.removeTxByHash "a"), .resume 2 0,
    .resume 1 0, .resume 2 0, .resume 2 0, .resume 2 0]

theorem run_storedAcrossCalls_interleavedCalls :
    HashesIdentify (interleavedCalls.flatMap Event.added) ∧
      (Calls.initial interleavedConfig).raceFree minTransactionsHeapLess interleavedCalls = true ∧
      (∀ t ∈ ((Calls.initial interleavedConfig).run minTransactionsHeapLess interleavedCalls).cache.txListBySender.listed,
        t.txHash ∈ ((Calls.initial interleavedConfig).run minTransactionsHeapLess interleavedCalls).cache.txByHash.keys ∨
          Goroutine.removeTxByHashFromSender t ∈
            ((Calls.initial interleavedConfig).run minTransactionsHeapLess interleavedCalls).goroutines) ∧
      ((∀ g ∈ ((Calls.initial interleavedConfig).run minTransactionsHeapLess interleavedCalls).goroutines,
          g.holdsTxOperation = false) →
        ((Calls.initial interleavedConfig).run minTransactionsHeapLess interleavedCalls).cache.countSenders ≤
          ((Calls.initial interleavedConfig).run minTransactionsHeapLess interleavedCalls).cache.countTx) :=
  have identified : HashesIdentify (interleavedCalls.flatMap Event.added) := by decide
  have raceFree : (Calls.initial interleavedConfig).raceFree minTransactionsHeapLess interleavedCalls = true := by
    decide
  ⟨identified, raceFree,
    run_storedAcrossCalls minTransactionsHeapLess interleavedConfig interleavedCalls identified raceFree⟩

def raceConfig : ConfigSourceMe :=
  { numBytesThreshold := 1000000, countThreshold := 0, numBytesPerSenderThreshold := 1000000,
    countPerSenderThreshold := 1000, evictionEnabled := true, numItemsToPreemptivelyEvict := 1 }

/-- `alice`'s `a` is added; `bob`'s `AddTx` evicts and cuts `a` from the lists; a third goroutine
adds `a` again, finds its hash stored and lists it; the eviction then removes `a`'s hash, and `bob`'s
`AddTx` inserts `b`. -/
def racingCalls : List Event :=
  [.call (.addTx (some (sampleTx "alice" "a" 1 1)))] ++ List.replicate 4 (.resume 0 0) ++
    [.call (.addTx (some (sampleTx "bob" "b" 1 2)))] ++ List.replicate 8 (.resume 1 0) ++
    [.call (.addTx (some (sampleTx "alice" "a" 1 1)))] ++ List.replicate 3 (.resume 2 0) ++
    List.replicate 6 (.resume 1 0)

/-- The race cannot be left out of `run_storedAcrossCalls`: hashes identify the transactions, every
call returns, and `a` is listed with no entry in `txByHash`, leaving more senders than
transactions. -/
theorem run_racing_leaves_listed_unstored :
    HashesIdentify (racingCalls.flatMap Event.added) ∧
      (Calls.initial raceConfig).raceFree minTransactionsHeapLess racingCalls = false ∧
      ((Calls.initial raceConfig).run minTransactionsHeapLess racingCalls).goroutines =
        [.returned (.addTx true true), .returned (.addTx true true), .returned (.addTx true true)] ∧
      "a" ∈ ((Calls.initial raceConfig).run minTransactionsHeapLess racingCalls).cache.txListBySender.listed.map
        (·.txHash) ∧
      "a" ∉ ((Calls.initial raceConfig).run minTransactionsHeapLess racingCalls).cache.txByHash.keys ∧
      ((Calls.initial raceConfig).run minTransactionsHeapLess racingCalls).cache.countTx <
        ((Calls.initial raceConfig).run minTransactionsHeapLess racingCalls).cache.countSenders := by
  decide

/-- `alice`'s `a` is added; `bob`'s `AddTx` evicts `a` and stops before the deferred reset of
`isEvictionInProgress`; `carol`'s and `dave`'s `AddTx` find the flag set and skip the eviction;
`bob`'s `AddTx` then inserts `b`. -/
def overflowingCalls : List Event :=
  [.call (.addTx (some (sampleTx "alice" "a" 1 1)))] ++ List.replicate 4 (.resume 0 0) ++
    [.call (.addTx (some (sampleTx "bob" "b" 1 2)))] ++ List.replicate 10 (.resume 1 0) ++
    [.call (.addTx (some (sampleTx "carol" "c" 1 3)))] ++ List.replicate 3 (.resume 2 0) ++
    [.call (.addTx (some (sampleTx "dave" "d" 1 4)))] ++ List.replicate 3 (.resume 3 0) ++
    List.replicate 4 (.resume 1 0)

/-- The bound `CountThreshold + 1` that every run of one call at a time keeps does not hold of
interleaved calls: with no race, every call returned and no eviction in progress, the cache holds
three transactions under a count threshold of zero. -/
theorem overflowingCalls_exceed_countThreshold :
    HashesIdentify (overflowingCalls.flatMap Event.added) ∧
      (Calls.initial raceConfig).raceFree minTransactionsHeapLess overflowingCalls = true ∧
      ((Calls.initial raceConfig).run minTransactionsHeapLess overflowingCalls).goroutines =
        [.returned (.addTx true true), .returned (.addTx true true), .returned (.addTx true true),
          .returned (.addTx true true)] ∧
      ((Calls.initial raceConfig).run minTransactionsHeapLess overflowingCalls).isEvictionInProgress = false ∧
      ((Calls.initial raceConfig).run minTransactionsHeapLess overflowingCalls).cache.countTx =
        raceConfig.countThreshold + 3 := by
  decide

end ChainStorage.Mempool
