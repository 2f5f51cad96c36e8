import ChainStorage.Mempool.SenderLists

/-! # `AddTx` from any state of the two maps

`AddTx` of `txCache.go` evicts (when enabled) and then inserts into both maps independently:
`txByHash.addTx` checks its own map, `addTxReturnEvicted` its own list, and the hashes the
sender's caps drop are removed from the map by hash. Because neither insertion consults the
other map, the insertion repairs any disagreement between them (`addTx_converges`), and a
second insertion of the same transaction changes nothing (`addTx_twice`).

Both results hold whatever the two maps hold, provided the lists by sender are well formed
(which every run keeps, `run_sendersInvariant`) and a hash identifies its transaction.
-/

namespace ChainStorage.Mempool

namespace TxCache

/-- Every transaction either map holds. -/
def transactions (cache : TxCache) : List WrappedTransaction :=
  cache.txByHash.items ++ cache.txListBySender.listed

/-- The cache `AddTx` inserts into: the cache after the eviction, when eviction is enabled. -/
def beforeInsertion (less : WrappedTransaction → WrappedTransaction → Bool) (cache : TxCache) :
    TxCache :=
  if cache.config.evictionEnabled then (cache.doEviction less).2 else cache

theorem addTx_some (less : WrappedTransaction → WrappedTransaction → Bool) (cache : TxCache)
    (tx : WrappedTransaction) :
    cache.addTx less (some tx) = (cache.beforeInsertion less).addTxAfterEviction tx := rfl

/-! ## The eviction only removes -/

theorem doEviction_shrinks (less : WrappedTransaction → WrappedTransaction → Bool) {cache : TxCache}
    (wellFormed : cache.txListBySender.WellFormed) :
    (cache.doEviction less).2.txListBySender.WellFormed ∧
      ∀ t ∈ (cache.doEviction less).2.transactions, t ∈ cache.transactions := by
  refine doEviction_induction less
    (fun evicted => evicted.txListBySender.WellFormed ∧ ∀ t ∈ evicted.transactions, t ∈ cache.transactions)
    (fun current heap n heap' next holds pass => ?_) ⟨wellFormed, fun _ => id⟩
  obtain ⟨_, -, -, -, rfl⟩ := evictionPass_some less pass
  obtain ⟨listsWellFormed, -, subset⟩ := removeLowest_wellFormed _ holds.1
  refine ⟨listsWellFormed, fun t mem => holds.2 t ?_⟩
  rcases List.mem_append.1 mem with stored | listed
  · rw [TxByHashMap.removeTxsBulk_items] at stored
    exact List.mem_append_left _ (List.mem_of_mem_filter stored)
  · exact List.mem_append_right _ (subset t listed)

theorem beforeInsertion_shrinks (less : WrappedTransaction → WrappedTransaction → Bool) {cache : TxCache}
    (wellFormed : cache.txListBySender.WellFormed) :
    (cache.beforeInsertion less).txListBySender.WellFormed ∧
      ∀ t ∈ (cache.beforeInsertion less).transactions, t ∈ cache.transactions := by
  unfold beforeInsertion
  split
  · exact doEviction_shrinks less wellFormed
  · exact ⟨wellFormed, fun _ => id⟩

/-! ## The insertion step -/

section Insertion

variable {cache : TxCache} {tx : WrappedTransaction}

/-- The hashes the sender's caps drop when `tx` is inserted. -/
def droppedBySender (cache : TxCache) (tx : WrappedTransaction) : List String :=
  (cache.txListBySender.addTxReturnEvicted tx).2.1

theorem droppedBySender_eq :
    droppedBySender cache tx =
      ((cache.txListBySender.listOrEmpty tx.tx.sndAddr).addTx cache.txListBySender.constraints tx).2.1 := by
  simp [droppedBySender, TxListBySenderMap.addTxReturnEvicted_eq]

theorem addTxAfterEviction_txByHash :
    (cache.addTxAfterEviction tx).2.txByHash =
      ((cache.txByHash.addTx tx).2.removeTxsBulk (droppedBySender cache tx)).2 := by
  unfold addTxAfterEviction droppedBySender
  dsimp only
  split
  · rfl
  · next empty => rw [List.eq_nil_of_length_eq_zero (Nat.eq_zero_of_not_pos empty)]; rfl

theorem addTxAfterEviction_items :
    (cache.addTxAfterEviction tx).2.txByHash.items =
      (cache.txByHash.addTx tx).2.items.filter (fun t => t.txHash ∉ droppedBySender cache tx) := by
  rw [addTxAfterEviction_txByHash, TxByHashMap.removeTxsBulk_items]

section Identified

variable (identified : HashesIdentify (tx :: cache.transactions))
include identified

theorem identified_stored : ∀ t ∈ cache.txByHash.items, t.txHash = tx.txHash → t = tx :=
  fun t mem same => identified t (List.mem_cons_of_mem _ (List.mem_append_left _ mem)) tx
    (List.mem_cons_self _ _) same

theorem identified_listed : ∀ t ∈ cache.txListBySender.listed, t.txHash = tx.txHash → t = tx :=
  fun t mem same => identified t (List.mem_cons_of_mem _ (List.mem_append_right _ mem)) tx
    (List.mem_cons_self _ _) same

theorem identified_listOrEmpty :
    ∀ t ∈ (cache.txListBySender.listOrEmpty tx.tx.sndAddr).items, t.txHash = tx.txHash → t = tx :=
  fun t mem => identified_listed identified t (TxListBySenderMap.mem_listed_of_mem_listOrEmpty mem)

theorem addTxAfterEviction_answer :
    (cache.addTxAfterEviction tx).1.1 = true ∧
      ((cache.addTxAfterEviction tx).1.2 = true ↔ tx.txHash ∉ cache.txByHash.keys ∨
        tx.txHash ∉ (cache.txListBySender.listOrEmpty tx.tx.sndAddr).items.map (·.txHash)) := by
  refine ⟨rfl, ?_⟩
  rw [← TxListForSender.hasDuplicate_iff (identified_listOrEmpty identified), ← TxByHashMap.getTx_isSome]
  simp only [addTxAfterEviction, TxByHashMap.addTx, TxListBySenderMap.addTxReturnEvicted_eq,
    TxListForSender.addTx_fst]
  split <;> simp_all

theorem mem_addTx_items : tx ∈ (cache.txByHash.addTx tx).2.items := by
  by_cases present : tx.txHash ∈ cache.txByHash.keys
  · rw [TxByHashMap.addTx_of_present present]
    obtain ⟨t, mem, same⟩ := List.mem_map.1 present
    exact identified_stored identified t mem same ▸ mem
  · rw [TxByHashMap.addTx_of_absent present]
    exact List.mem_cons_self _ _

theorem getByTxHash_addTxAfterEviction (notDropped : tx.txHash ∉ droppedBySender cache tx) :
    (cache.addTxAfterEviction tx).2.getByTxHash tx.txHash = some tx := by
  refine TxByHashMap.getTx_of_identified ?_ fun t mem same => ?_
  · rw [addTxAfterEviction_items]
    exact List.mem_filter.2 ⟨mem_addTx_items identified, by simpa using notDropped⟩
  · rw [addTxAfterEviction_items] at mem
    have mem := List.mem_of_mem_filter mem
    unfold TxByHashMap.addTx at mem
    split at mem
    · exact identified_stored identified t mem same
    · rcases List.mem_cons.1 mem with rfl | mem
      · rfl
      · exact identified_stored identified t mem same

theorem addTxAfterEviction_present (exact : cache.txListBySender.Exact)
    (notDropped : tx.txHash ∉ droppedBySender cache tx) :
    (cache.addTxAfterEviction tx).2.getByTxHash tx.txHash = some tx ∧
      ∃ l, (cache.addTxAfterEviction tx).2.txListBySender.getListForSender tx.tx.sndAddr = some l ∧
        tx ∈ l.items := by
  refine ⟨getByTxHash_addTxAfterEviction identified notDropped, ?_⟩
  rw [droppedBySender_eq] at notDropped
  have kept := TxListForSender.mem_addTx_of_not_dropped (identified_listOrEmpty identified) notDropped
  refine ⟨_, ?_, kept⟩
  rw [addTxAfterEviction, TxListBySenderMap.getListForSender_addTxReturnEvicted exact,
    if_neg (by simpa using List.ne_nil_of_mem kept)]

theorem addTxAfterEviction_dropped_absent (wellFormed : cache.txListBySender.WellFormed) :
    ∀ txHash ∈ droppedBySender cache tx, txHash ∉ (cache.addTxAfterEviction tx).2.txByHash.keys ∧
      txHash ∉ (cache.addTxAfterEviction tx).2.txListBySender.listed.map (·.txHash) := by
  intro txHash dropped
  refine ⟨fun stored => ?_, fun listed => ?_⟩
  · rw [TxByHashMap.keys, addTxAfterEviction_items] at stored
    obtain ⟨t, tMem, rfl⟩ := List.mem_map.1 stored
    exact (by simpa using (List.mem_filter.1 tMem).2 : t.txHash ∉ droppedBySender cache tx) dropped
  · have old := TxListBySenderMap.listOrEmpty_wellFormed wellFormed tx.tx.sndAddr
    have oldSender := TxListBySenderMap.listOrEmpty_sender cache.txListBySender tx.tx.sndAddr
    rw [droppedBySender_eq] at dropped
    obtain ⟨droppedTxs, split, hashes⟩ := TxListForSender.addTx_dropped cache.txListBySender.constraints
      (cache.txListBySender.listOrEmpty tx.tx.sndAddr) tx
    obtain ⟨y, yMem, rfl⟩ := List.mem_map.1 (hashes ▸ dropped)
    have ySender : y.tx.sndAddr = tx.tx.sndAddr ∧ y ∈ tx :: cache.transactions := by
      have inserted := List.mem_append_right (((cache.txListBySender.listOrEmpty tx.tx.sndAddr).addTx
        cache.txListBySender.constraints tx).2.2.items) (List.mem_reverse.1 yMem)
      rw [← split] at inserted
      have : y = tx ∨ y ∈ (cache.txListBySender.listOrEmpty tx.tx.sndAddr).items := by
        split at inserted
        · exact TxListForSender.mem_insertInOrder.1 inserted
        · exact Or.inr inserted
      rcases this with rfl | yOld
      · exact ⟨rfl, List.mem_cons_self _ _⟩
      · exact ⟨(old.ownSender y yOld).trans oldSender, List.mem_cons_of_mem _ (List.mem_append_right _
          (TxListBySenderMap.mem_listed_of_mem_listOrEmpty yOld))⟩
    obtain ⟨z, zMem, same⟩ := List.mem_map.1 listed
    obtain ⟨x, xMem, zIn⟩ := TxListBySenderMap.mem_listed.1 zMem
    rcases List.mem_append.1 ((TxListBySenderMap.addTxReturnEvicted_perm wellFormed.exact tx).mem_iff.1 xMem)
      with kept | other
    · have kept : x = ((cache.txListBySender.listOrEmpty tx.tx.sndAddr).addTx
          cache.txListBySender.constraints tx).2.2 := by
        split at kept <;> simp_all
      subst kept
      refine TxListForSender.addTx_dropped_not_kept ?_ (identified_listOrEmpty identified) _ dropped
        (same ▸ List.mem_map_of_mem _ zIn)
      exact nodup_hashes_of_sorted old.sorted (identified.of_subset fun t mem =>
        List.mem_cons_of_mem _ (List.mem_append_right _ (TxListBySenderMap.mem_listed_of_mem_listOrEmpty mem)))
    · obtain ⟨xOld, xSender⟩ := List.mem_filter.1 other
      have zOld : z ∈ tx :: cache.transactions :=
        List.mem_cons_of_mem _ (List.mem_append_right _ (TxListBySenderMap.mem_listed.2 ⟨x, xOld, zIn⟩))
      obtain rfl := identified z zOld y ySender.2 same
      have := ((wellFormed.lists x xOld).1.ownSender z zIn).symm.trans ySender.1
      simp [this] at xSender

theorem addTxAfterEviction_twice (wellFormed : cache.txListBySender.WellFormed) :
    (cache.addTxAfterEviction tx).2.addTxAfterEviction tx =
      ((true, decide (tx.txHash ∈ droppedBySender cache tx)), (cache.addTxAfterEviction tx).2) := by
  have listWellFormed := TxListBySenderMap.addTxReturnEvicted_wellFormed wellFormed tx
  by_cases dropped : tx.txHash ∈ droppedBySender cache tx
  · have absent := (addTxAfterEviction_dropped_absent identified wellFormed _ dropped).1
    have distinct : ∀ t ∈ (cache.txListBySender.listOrEmpty tx.tx.sndAddr).items, t.txHash ≠ tx.txHash := by
      intro t mem same
      obtain rfl := identified_listOrEmpty identified t mem same
      have duplicate : (cache.txListBySender.listOrEmpty t.tx.sndAddr).hasDuplicate t = true :=
        List.any_eq_true.2 ⟨t, mem, by simp⟩
      rw [droppedBySender_eq, TxListForSender.addTx_of_duplicate duplicate] at dropped
      exact List.not_mem_nil _ dropped
    have again := TxListBySenderMap.addTxReturnEvicted_again_of_dropped wellFormed distinct dropped
    change (cache.addTxAfterEviction tx).2.txListBySender.addTxReturnEvicted tx =
      (true, [tx.txHash], (cache.addTxAfterEviction tx).2.txListBySender) at again
    rw [decide_eq_true dropped]
    generalize (cache.addTxAfterEviction tx).2 = once at absent again ⊢
    simp only [addTxAfterEviction, again, List.length_singleton, gt_iff_lt, Nat.lt_add_one, if_true,
      TxByHashMap.removeTxsBulk_addTx_of_absent absent, Bool.or_true]
  · obtain ⟨stored, l, found, listed⟩ := addTxAfterEviction_present identified wellFormed.exact dropped
    have present : tx.txHash ∈ (cache.addTxAfterEviction tx).2.txByHash.keys :=
      TxByHashMap.getTx_isSome.1 (by simp [getByTxHash] at stored; simp [stored])
    have duplicate : ((cache.addTxAfterEviction tx).2.txListBySender.listOrEmpty tx.tx.sndAddr).hasDuplicate
        tx = true := by
      simp only [TxListBySenderMap.listOrEmpty, found, Option.getD_some]
      exact List.any_eq_true.2 ⟨tx, listed, by simp⟩
    have again := TxListBySenderMap.addTxReturnEvicted_of_duplicate listWellFormed.exact.nodup duplicate
    change (cache.addTxAfterEviction tx).2.txListBySender.addTxReturnEvicted tx =
      (false, [], (cache.addTxAfterEviction tx).2.txListBySender) at again
    rw [decide_eq_false dropped]
    generalize (cache.addTxAfterEviction tx).2 = once at present again ⊢
    simp only [addTxAfterEviction, again, TxByHashMap.addTx_of_present present, List.length_nil,
      gt_iff_lt, Nat.lt_irrefl, if_false, Bool.or_false]

end Identified

end Insertion

/-! ## `AddTx` -/

/-- What `AddTx` of `tx` does, seen from the cache `before` it inserts into (after any eviction):
it answers ok; it reports an addition exactly when the hash was missing from the map by hash or
from the sender's list; unless the sender's caps dropped it, the transaction is then in both maps;
and no hash the caps dropped is left in either map. -/
structure AddTxConverges (before : TxCache) (tx : WrappedTransaction)
    (result : (Bool × Bool) × TxCache) : Prop where
  ok : result.1.1 = true
  added : result.1.2 = true ↔ tx.txHash ∉ before.txByHash.keys ∨
    tx.txHash ∉ (before.txListBySender.listOrEmpty tx.tx.sndAddr).items.map (·.txHash)
  present : tx.txHash ∉ droppedBySender before tx →
    result.2.getByTxHash tx.txHash = some tx ∧
      ∃ l, result.2.txListBySender.getListForSender tx.tx.sndAddr = some l ∧ tx ∈ l.items
  droppedAbsent : ∀ txHash ∈ droppedBySender before tx,
    txHash ∉ result.2.txByHash.keys ∧ txHash ∉ result.2.txListBySender.listed.map (·.txHash)

theorem identified_beforeInsertion (less : WrappedTransaction → WrappedTransaction → Bool)
    {cache : TxCache} (wellFormed : cache.txListBySender.WellFormed) {tx : WrappedTransaction}
    (identified : HashesIdentify (tx :: cache.transactions)) :
    HashesIdentify (tx :: (cache.beforeInsertion less).transactions) :=
  identified.of_subset fun _ mem => List.cons_subset_cons tx (beforeInsertion_shrinks less wellFormed).2 mem

/-- `AddTx` repairs whatever disagreement the two maps had about the transaction. -/
theorem addTx_converges (less : WrappedTransaction → WrappedTransaction → Bool) (cache : TxCache)
    (tx : WrappedTransaction) (sendersWellFormed : cache.txListBySender.WellFormed)
    (identified : HashesIdentify (tx :: cache.transactions)) :
    AddTxConverges (cache.beforeInsertion less) tx (cache.addTx less (some tx)) := by
  have wellFormed := (beforeInsertion_shrinks less sendersWellFormed).1
  have identified := identified_beforeInsertion less sendersWellFormed identified
  obtain ⟨ok, added⟩ := addTxAfterEviction_answer identified
  exact ⟨ok, added, addTxAfterEviction_present identified wellFormed.exact,
    addTxAfterEviction_dropped_absent identified wellFormed⟩

/-- The map by hash holds Alice's transaction, her list does not (a racing `AddTx` stopped half
way). -/
def hashOnlyCache : TxCache :=
  { txListBySender := { lists := [], counter := 0, constraints := { maxNumTxs := 10, maxNumBytes := 10 } },
    txByHash := { items := [sampleTx "alice" "a" 1 1], counter := 1, numBytes := 1 },
    config := { numBytesThreshold := 10, countThreshold := 10, numBytesPerSenderThreshold := 10,
                countPerSenderThreshold := 10, evictionEnabled := true,
                numItemsToPreemptivelyEvict := 1 } }

theorem addTx_converges_hashOnly :
    hashOnlyCache.txListBySender.WellFormed ∧
      HashesIdentify (sampleTx "alice" "a" 1 1 :: hashOnlyCache.transactions) ∧
      AddTxConverges (hashOnlyCache.beforeInsertion fun a b => decide (a.pricePerUnit < b.pricePerUnit))
        (sampleTx "alice" "a" 1 1)
        (hashOnlyCache.addTx (fun a b => decide (a.pricePerUnit < b.pricePerUnit)) (some (sampleTx "alice" "a" 1 1))) :=
  have wellFormed : hashOnlyCache.txListBySender.WellFormed := ⟨⟨by decide, rfl⟩, by simp [hashOnlyCache]⟩
  ⟨wellFormed, by decide,
    addTx_converges _ hashOnlyCache (sampleTx "alice" "a" 1 1) wellFormed (by decide)⟩

theorem beforeInsertion_of_no_eviction (less : WrappedTransaction → WrappedTransaction → Bool)
    {cache : TxCache} (noEviction : cache.config.evictionEnabled = false ∨ cache.isCapacityExceeded = false) :
    cache.beforeInsertion less = cache := by
  unfold beforeInsertion doEviction
  rcases noEviction with disabled | within <;> simp [*]

/-- `AddTx` twice is `AddTx` once, when the second call does not evict: the second call answers
`(true, false)`, or `(true, true)` if the sender's caps dropped the transaction the first time. -/
theorem addTx_twice (less : WrappedTransaction → WrappedTransaction → Bool) (cache : TxCache)
    (tx : WrappedTransaction) (sendersWellFormed : cache.txListBySender.WellFormed)
    (identified : HashesIdentify (tx :: cache.transactions))
    (noEviction : (cache.addTx less (some tx)).2.config.evictionEnabled = false ∨
      (cache.addTx less (some tx)).2.isCapacityExceeded = false) :
    (cache.addTx less (some tx)).2.addTx less (some tx) =
      ((true, decide (tx.txHash ∈ droppedBySender (cache.beforeInsertion less) tx)),
        (cache.addTx less (some tx)).2) := by
  rw [addTx_some less (cache.addTx less (some tx)).2, beforeInsertion_of_no_eviction less noEviction,
    addTx_some]
  exact addTxAfterEviction_twice (identified_beforeInsertion less sendersWellFormed identified)
    (beforeInsertion_shrinks less sendersWellFormed).1

/-- Alice's list is full (one transaction per sender); eviction is disabled. -/
def fullSenderCache : TxCache :=
  { txListBySender :=
      { lists := [{ sender := "alice", items := [sampleTx "alice" "a" 1 1], numBytes := 1, numTxs := 1 }],
        counter := 1, constraints := { maxNumTxs := 1, maxNumBytes := 10 } },
    txByHash := { items := [sampleTx "alice" "a" 1 1], counter := 1, numBytes := 1 },
    config := { numBytesThreshold := 10, countThreshold := 10, numBytesPerSenderThreshold := 10,
                countPerSenderThreshold := 1, evictionEnabled := false,
                numItemsToPreemptivelyEvict := 1 } }

theorem fullSenderCache_wellFormed : fullSenderCache.txListBySender.WellFormed := by
  refine ⟨⟨by decide, rfl⟩, fun l mem => ?_⟩
  simp only [fullSenderCache, List.mem_singleton] at mem
  subst mem
  exact ⟨⟨by decide, by decide, rfl, rfl, by decide⟩, by simp⟩

/-- Alice's second transaction does not fit her list; adding it twice answers `(true, true)`
both times and leaves the cache as the first addition did. -/
theorem addTx_twice_fullSender :
    fullSenderCache.txListBySender.WellFormed ∧
      HashesIdentify (sampleTx "alice" "b" 2 1 :: fullSenderCache.transactions) ∧
      ((fullSenderCache.addTx (fun a b => decide (a.pricePerUnit < b.pricePerUnit))
          (some (sampleTx "alice" "b" 2 1))).2.config.evictionEnabled = false ∨
        (fullSenderCache.addTx (fun a b => decide (a.pricePerUnit < b.pricePerUnit))
          (some (sampleTx "alice" "b" 2 1))).2.isCapacityExceeded = false) ∧
      (fullSenderCache.addTx (fun a b => decide (a.pricePerUnit < b.pricePerUnit))
          (some (sampleTx "alice" "b" 2 1))).2.addTx (fun a b => decide (a.pricePerUnit < b.pricePerUnit))
          (some (sampleTx "alice" "b" 2 1)) =
        ((true, decide ((sampleTx "alice" "b" 2 1).txHash ∈
            droppedBySender (fullSenderCache.beforeInsertion fun a b => decide (a.pricePerUnit < b.pricePerUnit))
              (sampleTx "alice" "b" 2 1))),
          (fullSenderCache.addTx (fun a b => decide (a.pricePerUnit < b.pricePerUnit))
            (some (sampleTx "alice" "b" 2 1))).2) :=
  ⟨fullSenderCache_wellFormed, by decide, Or.inl rfl,
    addTx_twice _ fullSenderCache (sampleTx "alice" "b" 2 1) fullSenderCache_wellFormed (by decide) (Or.inl rfl)⟩

end TxCache

end ChainStorage.Mempool
