import ChainStorage.Mempool.EvictionPasses
import ChainStorage.Mempool.AddTx
import ChainStorage.Mempool.RemoveTxByHash

/-! # The capacity bound

With eviction enabled and at least one transaction to evict per pass, no operation leaves the
cache with more than `CountThreshold + 1` transactions or senders. `AddTx` inserts one
transaction at most, after an eviction that leaves at most `CountThreshold`: when the count is
one over the threshold, some transaction is listed, so the heap of the snapshot is not empty,
the first pass collects a listed transaction, and since it is stored under its hash the bulk
removal lowers the count. There are no more senders than transactions, since the first
transaction of each sender's bunch is stored under a hash of its own.

None of this needs the two maps to agree, which eviction does not keep
(`evictionPass_orphans_same_nonce_sibling`): it needs only that every listed transaction is
stored under its hash (`StoredInvariant.listedStored`).
-/

namespace ChainStorage.Mempool

/-- The maps along a run whose transactions come from `supplied`: the lists well formed, the map
by hash exact, both holding supplied transactions, and every listed transaction stored under its
hash. -/
structure StoredInvariant (constraints : SenderConstraints) (supplied : List WrappedTransaction)
    (cache : TxCache) : Prop where
  senders : SendersInvariant constraints supplied cache
  exact : cache.txByHash.Exact
  stored : ∀ t ∈ cache.txByHash.items, t ∈ supplied
  listedStored : ∀ t ∈ cache.txListBySender.listed, t.txHash ∈ cache.txByHash.keys

section Stored

variable {constraints : SenderConstraints} {supplied : List WrappedTransaction}
  (identified : HashesIdentify supplied)

theorem clear_storedInvariant {cache : TxCache}
    (constraints_eq : cache.txListBySender.constraints = constraints) :
    StoredInvariant constraints supplied cache.clear :=
  ⟨⟨TxListBySenderMap.clear_wellFormed _, constraints_eq,
      by simp [TxCache.clear, TxListBySenderMap.clear, TxListBySenderMap.listed]⟩,
    TxByHashMap.clear_exact cache.txByHash, by simp [TxCache.clear, TxByHashMap.clear],
    by simp [TxCache.clear, TxListBySenderMap.clear, TxListBySenderMap.listed]⟩

include identified

theorem StoredInvariant.countSenders_le_countTx {cache : TxCache}
    (invariant : StoredInvariant constraints supplied cache) : cache.countSenders ≤ cache.countTx := by
  have wellFormed := invariant.senders.wellFormed
  have senders := filterMap_bunches_senders fun l mem =>
    ⟨(wellFormed.lists l mem).2, (wellFormed.lists l mem).1.ownSender⟩
  have listed : ∀ item ∈ cache.bunches.filterMap newTransactionsHeapItem,
      item.currentTransaction ∈ cache.txListBySender.listed := fun item mem =>
    mem_heapTransactions_bunches.1 (List.mem_flatMap.2 ⟨item, mem, List.mem_cons_self _ _⟩)
  have firsts : ((cache.bunches.filterMap newTransactionsHeapItem).map (·.currentTransaction)).Nodup :=
    List.Nodup.of_map (·.tx.sndAddr) (by rw [List.map_map]; exact senders ▸ wellFormed.exact.nodup)
  have hashes := firsts.map_on fun a aMem b bMem same => by
    obtain ⟨x, xMem, rfl⟩ := List.mem_map.1 aMem
    obtain ⟨y, yMem, rfl⟩ := List.mem_map.1 bMem
    exact identified _ (invariant.senders.fromUniverse _ (listed x xMem)) _
      (invariant.senders.fromUniverse _ (listed y yMem)) same
  calc cache.countSenders
      = (((cache.bunches.filterMap newTransactionsHeapItem).map (·.currentTransaction)).map
          (·.txHash)).length := by
        have lengths := congrArg List.length senders
        simp only [List.length_map] at lengths
        rw [TxCache.countSenders, wellFormed.exact.counter_eq, List.length_map, List.length_map]
        exact lengths.symm
    _ ≤ cache.txByHash.keys.length := (List.subperm_of_subset hashes fun h mem => by
        obtain ⟨t, tMem, rfl⟩ := List.mem_map.1 mem
        obtain ⟨item, itemMem, rfl⟩ := List.mem_map.1 tMem
        exact invariant.listedStored _ (listed item itemMem)).length_le
    _ = cache.countTx := by
        rw [TxByHashMap.keys, List.length_map, TxCache.countTx, invariant.exact.counter_eq]

theorem StoredInvariant.mem_items_of_listed {cache : TxCache}
    (invariant : StoredInvariant constraints supplied cache) {t : WrappedTransaction}
    (listed : t ∈ cache.txListBySender.listed) : t ∈ cache.txByHash.items := by
  obtain ⟨e, eMem, same⟩ := List.mem_map.1 (invariant.listedStored t listed)
  rw [← identified e (invariant.stored e eMem) t (invariant.senders.fromUniverse t listed) same]
  exact eMem

theorem removeTxByHash_storedInvariant {cache : TxCache}
    (invariant : StoredInvariant constraints supplied cache) {txHash : String}
    {target : WrappedTransaction} (found : cache.getByTxHash txHash = some target) :
    StoredInvariant constraints supplied (cache.removeTxByHash txHash).2 ∧
      (cache.removeTxByHash txHash).2.countTx < cache.countTx := by
  have senders := removeTxByHash_sendersInvariant invariant.senders txHash
  have wellFormed := invariant.senders.wellFormed
  obtain ⟨targetStored, targetHash⟩ := TxByHashMap.mem_of_getTx found
  rw [TxCache.removeTxByHash_of_stored found] at senders ⊢
  have exact := TxByHashMap.removeTxsBulk_exact (TxByHashMap.removeTx_exact invariant.exact txHash)
    (cache.txListBySender.removeTransactionsWithLowerOrEqualNonceReturnHashes target).1
  have items := TxByHashMap.removeTxsBulk_items (cache.txByHash.removeTx txHash).2
    (cache.txListBySender.removeTransactionsWithLowerOrEqualNonceReturnHashes target).1
  rw [TxByHashMap.removeTx_items] at items
  refine ⟨⟨senders, exact, fun t mem => ?_, fun t listed => ?_⟩, ?_⟩
  · rw [items] at mem
    exact invariant.stored t (List.mem_of_mem_filter (List.mem_of_mem_filter mem))
  · have old := TxListBySenderMap.mem_listed_removeTransactionsWithLowerOrEqualNonceReturnHashes
      wellFormed.exact listed
    have above := fun own =>
      TxListBySenderMap.nonce_gt_of_mem_listed_removeTransactionsWithLowerOrEqualNonceReturnHashes
        wellFormed listed own
    have identifies : ∀ y ∈ supplied, y.txHash = t.txHash → y = t := fun y yMem same =>
      identified y yMem t (invariant.senders.fromUniverse t old) same
    refine List.mem_map.2 ⟨t, items ▸ List.mem_filter.2 ⟨List.mem_filter.2
      ⟨invariant.mem_items_of_listed identified old, ?_⟩, ?_⟩, rfl⟩
    · refine bne_iff_ne.2 fun same => ?_
      obtain rfl := identifies target (invariant.stored target targetStored) (targetHash.trans same.symm)
      exact Nat.lt_irrefl _ (above rfl)
    · refine decide_eq_true fun removed => ?_
      obtain ⟨y, yListed, same, sender, nonce⟩ :=
        TxListBySenderMap.mem_removeTransactionsWithLowerOrEqualNonceReturnHashes_fst wellFormed removed
      obtain rfl := identifies y (invariant.senders.fromUniverse y yListed) same
      exact Nat.lt_irrefl _ (Nat.lt_of_lt_of_le (above sender) nonce)
  · show ((cache.txByHash.removeTx txHash).2.removeTxsBulk _).2.counter < cache.txByHash.counter
    rw [exact.counter_eq, items, invariant.exact.counter_eq]
    calc _ ≤ (cache.txByHash.items.filter (·.txHash != txHash)).length := List.length_filter_le _ _
      _ < cache.txByHash.items.length :=
        List.length_filter_lt_length_iff_exists.2 ⟨target, targetStored, by simp [targetHash]⟩

end Stored

/-- What a run keeps with eviction enabled: the maps' invariant, the configuration, at most one
transaction over the threshold, and some listed transaction when over it. -/
structure CapacityInvariant (config : ConfigSourceMe) (supplied : List WrappedTransaction)
    (cache : TxCache) : Prop where
  stored : StoredInvariant config.getSenderConstraints supplied cache
  config_eq : cache.config = config
  countTx_le : cache.countTx ≤ config.countThreshold + 1
  listed_of_over : config.countThreshold < cache.countTx → cache.txListBySender.listed ≠ []

/-- What the pass loop keeps with its heap: the maps' invariant, one cursor per sender over
supplied transactions, the configuration, and a bound on the count. -/
structure PassInvariant (config : ConfigSourceMe) (supplied : List WrappedTransaction) (bound : Nat)
    (heap : List TransactionsHeapItem) (cache : TxCache) : Prop where
  stored : StoredInvariant config.getSenderConstraints supplied cache
  cursors : Cursors heap
  heapSupplied : ∀ t ∈ heapTransactions heap, t ∈ supplied
  config_eq : cache.config = config
  countTx_le : cache.countTx ≤ bound

section Capacity

variable (less : WrappedTransaction → WrappedTransaction → Bool) {config : ConfigSourceMe}
  {supplied : List WrappedTransaction} (identified : HashesIdentify supplied)

theorem CapacityInvariant.of_le {cache : TxCache}
    (stored : StoredInvariant config.getSenderConstraints supplied cache) (config_eq : cache.config = config)
    (within : cache.countTx ≤ config.countThreshold) : CapacityInvariant config supplied cache :=
  ⟨stored, config_eq, Nat.le_succ_of_le within, fun over => absurd within (Nat.not_le.2 over)⟩

theorem countTx_le_of_not_exceeded {cache : TxCache} (within : cache.isCapacityExceeded = false) :
    cache.countTx ≤ cache.config.countThreshold := by
  simp only [TxCache.isCapacityExceeded, TxCache.areThereTooManyTxs, Bool.or_eq_false_iff,
    decide_eq_false_iff_not, Nat.not_lt] at within
  exact within.2

include identified

theorem evictionPass_passInvariant {bound n : Nat} {heap heap' : List TransactionsHeapItem}
    {cache cache' : TxCache} (invariant : PassInvariant config supplied bound heap cache)
    (pass : cache.evictionPass less heap = some (n, heap', cache')) :
    PassInvariant config supplied bound heap' cache' ∧
      ((∀ t ∈ heapTransactions heap, t ∈ cache.txListBySender.listed) → cache'.countTx < cache.countTx) := by
  have stored := invariant.stored
  obtain ⟨transactionsToEvict, outcome⟩ :=
    evictionPass_outcome less stored.senders.wellFormed invariant.cursors pass
  have exact := TxByHashMap.removeTxsBulk_exact stored.exact (transactionsToEvict.map (·.txHash))
  have items := TxByHashMap.removeTxsBulk_items cache.txByHash (transactionsToEvict.map (·.txHash))
  rw [← outcome.txByHash_eq] at exact items
  have collected : ∀ t ∈ transactionsToEvict, t ∈ heapTransactions heap := fun t mem =>
    outcome.fromHeap t (List.mem_append_left _ mem)
  refine ⟨⟨⟨evictionPass_sendersInvariant less stored.senders pass, exact, fun t mem => ?_,
    fun t listed => ?_⟩, outcome.cursors,
    fun t mem => invariant.heapSupplied t (outcome.fromHeap t (List.mem_append_right _ mem)),
    outcome.config_eq.trans invariant.config_eq, ?_⟩, fun listedHeap => ?_⟩
  · rw [items] at mem
    exact stored.stored t (List.mem_of_mem_filter mem)
  · obtain ⟨old, notCollected⟩ := outcome.unlisted t listed
    refine List.mem_map.2 ⟨t, items ▸ List.mem_filter.2 ⟨stored.mem_items_of_listed identified old,
      decide_eq_true fun removed => notCollected ?_⟩, rfl⟩
    obtain ⟨y, yMem, same⟩ := List.mem_map.1 removed
    rw [← identified y (invariant.heapSupplied y (collected y yMem)) t
      (stored.senders.fromUniverse t old) same]
    exact yMem
  · rw [TxCache.countTx, outcome.txByHash_eq]
    exact (TxByHashMap.removeTxsBulk_counter_le stored.exact.nodup _).trans invariant.countTx_le
  · obtain ⟨x, xMem⟩ := List.exists_mem_of_ne_nil _ outcome.nonempty
    rw [TxCache.countTx, TxCache.countTx, outcome.txByHash_eq]
    exact TxByHashMap.removeTxsBulk_counter_lt stored.exact
      (stored.mem_items_of_listed identified (listedHeap x (collected x xMem))) (List.mem_map_of_mem _ xMem)

theorem evictionPasses_passInvariant {bound : Nat} {heap : List TransactionsHeapItem} {cache : TxCache}
    (invariant : PassInvariant config supplied bound heap cache) (fuel : Nat) (journal : EvictionJournal) :
    ∃ heap', PassInvariant config supplied bound heap' (TxCache.evictionPasses less fuel journal heap cache).2 :=
  evictionPasses_heap_induction less _
    (fun _ _ _ _ _ holds pass => (evictionPass_passInvariant less identified holds pass).1)
    fuel journal heap cache invariant

theorem evictLeastLikelyToSelectTransactions_within
    (atLeastOne : 1 ≤ config.numItemsToPreemptivelyEvict) {cache : TxCache}
    (invariant : CapacityInvariant config supplied cache) (exceeded : cache.isCapacityExceeded = true) :
    ∃ fuel journal heap cache', (cache.evictLeastLikelyToSelectTransactions less).2 =
        (TxCache.evictionPasses less fuel journal heap cache').2 ∧
      PassInvariant config supplied config.countThreshold heap cache' := by
  have snapshot : ∀ t ∈ heapTransactions (cache.bunches.filterMap newTransactionsHeapItem),
      t ∈ cache.txListBySender.listed := fun t mem => mem_heapTransactions_bunches.1 mem
  have start : PassInvariant config supplied cache.countTx
      (cache.bunches.filterMap newTransactionsHeapItem) cache :=
    ⟨invariant.stored, cursors_bunches invariant.stored.senders.wellFormed,
      fun t mem => invariant.stored.senders.fromUniverse t (snapshot t mem), invariant.config_eq,
      le_refl _⟩
  by_cases over : config.countThreshold < cache.countTx
  · obtain ⟨t, listed⟩ := List.exists_mem_of_ne_nil _ (invariant.listed_of_over over)
    have inHeap := mem_heapTransactions_bunches.2 listed
    have nonempty : cache.bunches.filterMap newTransactionsHeapItem ≠ [] := by
      intro empty
      simp [empty, heapTransactions] at inHeap
    obtain ⟨n, heap', cache', pass⟩ :=
      evictionPass_isSome less nonempty (invariant.config_eq ▸ atLeastOne)
    obtain ⟨next, lower⟩ := evictionPass_passInvariant less identified start pass
    obtain ⟨fuel, fuelEq⟩ : ∃ fuel, (cache.bunches.map (·.length)).sum = fuel + 1 :=
      ⟨_, (Nat.succ_pred_eq_of_pos (by rw [bunches_length_sum]; exact List.length_pos_of_mem inHeap)).symm⟩
    refine ⟨fuel, { numEvicted := 0 + n, numEvictedByPass := [] ++ [n] }, heap', cache', ?_,
      { next with countTx_le := ?_ }⟩
    · rw [TxCache.evictLeastLikelyToSelectTransactions, fuelEq, evictionPasses_succ_of_pass less _ exceeded pass]
    · have := lower snapshot
      have := invariant.countTx_le
      omega
  · exact ⟨_, _, _, cache, rfl, { start with countTx_le := Nat.not_lt.1 over }⟩

theorem doEviction_capacityInvariant (atLeastOne : 1 ≤ config.numItemsToPreemptivelyEvict)
    {cache : TxCache} (invariant : CapacityInvariant config supplied cache) :
    CapacityInvariant config supplied (cache.doEviction less).2 ∧
      (cache.doEviction less).2.countTx ≤ config.countThreshold := by
  unfold TxCache.doEviction
  split
  · next exceeded =>
    obtain ⟨fuel, journal, heap, cache', result, within⟩ :=
      evictLeastLikelyToSelectTransactions_within less identified atLeastOne invariant exceeded
    obtain ⟨_, final⟩ := evictionPasses_passInvariant less identified within fuel journal
    dsimp only
    rw [result]
    exact ⟨CapacityInvariant.of_le final.stored final.config_eq final.countTx_le, final.countTx_le⟩
  · next within =>
    have := invariant.config_eq ▸ countTx_le_of_not_exceeded (Bool.of_not_eq_true within)
    exact ⟨invariant, this⟩

theorem addTxAfterEviction_capacityInvariant {cache : TxCache}
    (invariant : CapacityInvariant config supplied cache) (room : cache.countTx ≤ config.countThreshold)
    {tx : WrappedTransaction} (added : tx ∈ supplied) :
    CapacityInvariant config supplied (cache.addTxAfterEviction tx).2 := by
  have stored := invariant.stored
  have wellFormed := stored.senders.wellFormed
  have identifiedTx : HashesIdentify (tx :: cache.transactions) := identified.of_subset fun t mem => by
    rcases List.mem_cons.1 mem with rfl | mem
    · exact added
    · rcases List.mem_append.1 mem with inMap | inLists
      · exact stored.stored t inMap
      · exact stored.senders.fromUniverse t inLists
  have addedExact := TxByHashMap.addTx_exact stored.exact tx
  have exact := TxByHashMap.removeTxsBulk_exact addedExact (TxCache.droppedBySender cache tx)
  rw [← TxCache.addTxAfterEviction_txByHash] at exact
  have items := @TxCache.addTxAfterEviction_items cache tx
  have counted : (cache.addTxAfterEviction tx).2.countTx ≤ (cache.txByHash.addTx tx).2.counter := by
    rw [TxCache.countTx, TxCache.addTxAfterEviction_txByHash]
    exact TxByHashMap.removeTxsBulk_counter_le addedExact.nodup _
  have grows := TxByHashMap.addTx_counter_le cache.txByHash tx
  have absent := TxCache.addTxAfterEviction_dropped_absent identifiedTx wellFormed
  refine ⟨⟨addTxAfterEviction_sendersInvariant stored.senders added, exact, fun t mem => ?_,
    fun t listed => ?_⟩, invariant.config_eq, by simp only [TxCache.countTx] at *; omega, fun over => ?_⟩
  · rw [items] at mem
    rcases TxByHashMap.mem_of_mem_addTx (List.mem_of_mem_filter mem) with rfl | old
    · exact added
    · exact stored.stored t old
  · have inserted : t ∈ (cache.txByHash.addTx tx).2.items := by
      rcases TxListBySenderMap.mem_listed_addTxReturnEvicted wellFormed.exact listed with rfl | old
      · exact TxCache.mem_addTx_items identifiedTx
      · exact TxByHashMap.mem_addTx_of_mem (stored.mem_items_of_listed identified old) tx
    refine List.mem_map.2 ⟨t, items ▸ List.mem_filter.2 ⟨inserted, decide_eq_true fun dropped => ?_⟩, rfl⟩
    exact (absent _ dropped).2 (List.mem_map_of_mem _ listed)
  · have kept : tx.txHash ∉ TxCache.droppedBySender cache tx := fun dropped => by
      have := TxByHashMap.removeTxsBulk_counter_lt addedExact (TxCache.mem_addTx_items identifiedTx) dropped
      rw [← TxCache.addTxAfterEviction_txByHash] at this
      simp only [TxCache.countTx] at over room this grows
      omega
    obtain ⟨-, l, found, mem⟩ := TxCache.addTxAfterEviction_present identifiedTx wellFormed.exact kept
    exact List.ne_nil_of_mem (TxListBySenderMap.mem_listed.2
      ⟨l, (TxListBySenderMap.mem_of_getListForSender found).1, mem⟩)

theorem apply_capacityInvariant (enabled : config.evictionEnabled = true)
    (atLeastOne : 1 ≤ config.numItemsToPreemptivelyEvict) {cache : TxCache}
    (invariant : CapacityInvariant config supplied cache) (operation : Operation)
    (added : ∀ tx ∈ operation.added, tx ∈ supplied) :
    CapacityInvariant config supplied (cache.apply less operation) := by
  cases operation with
  | addTx tx =>
    cases tx with
    | none => exact invariant
    | some tx =>
      obtain ⟨evicted, room⟩ := doEviction_capacityInvariant less identified atLeastOne invariant
      have enabled : cache.config.evictionEnabled = true := invariant.config_eq ▸ enabled
      simp only [TxCache.apply, TxCache.addTx, enabled, if_true]
      exact addTxAfterEviction_capacityInvariant identified evicted room (added tx (by simp [Operation.added]))
  | removeTxByHash txHash =>
    cases found : cache.getByTxHash txHash with
    | none =>
      rw [TxCache.apply, TxCache.removeTxByHash_of_absent found]
      exact invariant
    | some target =>
      obtain ⟨stored, lower⟩ := removeTxByHash_storedInvariant identified invariant.stored found
      have := invariant.countTx_le
      exact CapacityInvariant.of_le stored ((TxCache.removeTxByHash_config _ _).trans invariant.config_eq)
        (by simp only [TxCache.apply] at lower ⊢; omega)
  | clear =>
    exact CapacityInvariant.of_le (clear_storedInvariant invariant.stored.senders.constraints_eq)
      invariant.config_eq (Nat.zero_le _)
  | doEviction => exact (doEviction_capacityInvariant less identified atLeastOne invariant).1

end Capacity

/-- With eviction enabled and at least one transaction to evict per pass, every run from a new
cache, over transactions their hashes identify, ends with at most `CountThreshold + 1`
transactions and at most `CountThreshold + 1` senders. -/
theorem countTx_countSenders_le_over_runs (less : WrappedTransaction → WrappedTransaction → Bool)
    (config : ConfigSourceMe) (enabled : config.evictionEnabled = true)
    (atLeastOne : 1 ≤ config.numItemsToPreemptivelyEvict) (operations : List Operation)
    (identified : HashesIdentify (operations.flatMap Operation.added)) :
    ((newTxCache config).run less operations).countTx ≤ config.countThreshold + 1 ∧
      ((newTxCache config).run less operations).countSenders ≤ config.countThreshold + 1 := by
  have invariant := run_induction less (CapacityInvariant config (operations.flatMap Operation.added))
    operations
    (fun _ operation mem holds => apply_capacityInvariant less identified enabled atLeastOne holds operation
      fun _ added => List.mem_flatMap.2 ⟨operation, mem, added⟩)
    (CapacityInvariant.of_le ⟨newTxCache_sendersInvariant config _, ⟨by simp [newTxCache, TxByHashMap.keys],
      rfl, rfl⟩, by simp [newTxCache], by simp [newTxCache, TxListBySenderMap.listed]⟩ rfl (Nat.zero_le _))
  exact ⟨invariant.countTx_le,
    (invariant.stored.countSenders_le_countTx identified).trans invariant.countTx_le⟩

/-- Three senders, one transaction each, under a count threshold of one. -/
def threeSendersRun : List Operation :=
  [.addTx (some (sampleTx "alice" "a" 1 1)), .addTx (some (sampleTx "bob" "b" 1 2)),
    .addTx (some (sampleTx "carol" "c" 1 3))]

theorem countTx_countSenders_le_three_senders :
    siblingsConfig.evictionEnabled = true ∧ 1 ≤ siblingsConfig.numItemsToPreemptivelyEvict ∧
      HashesIdentify (threeSendersRun.flatMap Operation.added) ∧
      ((newTxCache siblingsConfig).run minTransactionsHeapLess threeSendersRun).countTx ≤
        siblingsConfig.countThreshold + 1 ∧
      ((newTxCache siblingsConfig).run minTransactionsHeapLess threeSendersRun).countSenders ≤
        siblingsConfig.countThreshold + 1 :=
  ⟨rfl, le_refl _, by decide, countTx_countSenders_le_over_runs minTransactionsHeapLess siblingsConfig rfl
    (le_refl _) threeSendersRun (by decide)⟩

end ChainStorage.Mempool
