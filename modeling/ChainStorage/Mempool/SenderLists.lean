import ChainStorage.Mempool.Operations

/-! # The per-sender lists over every run

Over every run of `AddTx`, `RemoveTxByHash`, `Clear` and eviction from a new cache, every list
of the map by sender stays sorted, holds only its own sender's transactions, keeps counters that
count it and stays within the per-sender caps (`TxListForSender.WellFormed`); when hashes
identify transactions, no list holds a hash twice. Each operation keeps `SendersInvariant`,
so `run_sendersInvariant` follows by `run_induction`.
-/

namespace ChainStorage.Mempool

/-- The map by sender along a run whose transactions come from `supplied`. -/
structure SendersInvariant (constraints : SenderConstraints) (supplied : List WrappedTransaction)
    (cache : TxCache) : Prop where
  wellFormed : cache.txListBySender.WellFormed
  constraints_eq : cache.txListBySender.constraints = constraints
  fromUniverse : ∀ t ∈ cache.txListBySender.listed, t ∈ supplied

theorem removeLowest_wellFormed :
    ∀ (lowest : List (String × Nat)) {m : TxListBySenderMap}, m.WellFormed →
      (removeLowest m lowest).WellFormed ∧ (removeLowest m lowest).constraints = m.constraints ∧
        ∀ t ∈ (removeLowest m lowest).listed, t ∈ m.listed
  | [], _, wellFormed => ⟨wellFormed, rfl, fun _ => id⟩
  | (sender, nonce) :: lowest, m, wellFormed => by
    obtain ⟨wellFormed', constraints, subset⟩ := removeLowest_wellFormed lowest
      (m.removeTransactionsWithHigherOrEqualNonce_wellFormed wellFormed sender nonce)
    exact ⟨wellFormed', constraints.trans (by simp), fun t mem =>
      TxListBySenderMap.mem_listed_removeTransactionsWithHigherOrEqualNonce wellFormed.exact
        (subset t mem)⟩

theorem nodup_hashes_of_sorted {items : List WrappedTransaction}
    (sorted : items.Pairwise (fun a b => a.sortsBefore b = true)) (identified : HashesIdentify items) :
    (items.map (·.txHash)).Nodup := by
  have distinct : items.Pairwise (· ≠ ·) := sorted.imp fun {a b} before => by
    rintro rfl; simp [WrappedTransaction.sortsBefore_irrefl] at before
  exact List.Nodup.map_on (fun a aMem b bMem hash => identified a aMem b bMem hash) distinct

section Steps

variable (less : WrappedTransaction → WrappedTransaction → Bool) {constraints : SenderConstraints}
  {supplied : List WrappedTransaction}

theorem evictionPass_sendersInvariant {cache cache' : TxCache} {heap heap' : List TransactionsHeapItem}
    {n : Nat} (invariant : SendersInvariant constraints supplied cache)
    (pass : cache.evictionPass less heap = some (n, heap', cache')) :
    SendersInvariant constraints supplied cache' := by
  obtain ⟨_, -, -, -, rfl⟩ := evictionPass_some less pass
  obtain ⟨wellFormed, same, subset⟩ := removeLowest_wellFormed _ invariant.wellFormed
  exact ⟨wellFormed, same.trans invariant.constraints_eq,
    fun t mem => invariant.fromUniverse t (subset t mem)⟩

theorem doEviction_sendersInvariant {cache : TxCache}
    (invariant : SendersInvariant constraints supplied cache) :
    SendersInvariant constraints supplied (cache.doEviction less).2 :=
  doEviction_induction less _ (fun _ _ _ _ _ holds pass => evictionPass_sendersInvariant less holds pass)
    invariant

theorem addTxAfterEviction_sendersInvariant {cache : TxCache}
    (invariant : SendersInvariant constraints supplied cache) {tx : WrappedTransaction}
    (added : tx ∈ supplied) : SendersInvariant constraints supplied (cache.addTxAfterEviction tx).2 := by
  refine ⟨TxListBySenderMap.addTxReturnEvicted_wellFormed invariant.wellFormed tx,
    by simp [TxCache.addTxAfterEviction, invariant.constraints_eq], fun t mem => ?_⟩
  rcases TxListBySenderMap.mem_listed_addTxReturnEvicted invariant.wellFormed.exact mem with rfl | old
  · exact added
  · exact invariant.fromUniverse t old

theorem removeTxByHash_sendersInvariant {cache : TxCache}
    (invariant : SendersInvariant constraints supplied cache) (txHash : String) :
    SendersInvariant constraints supplied (cache.removeTxByHash txHash).2 := by
  unfold TxCache.removeTxByHash
  split
  · exact invariant
  · next tx _ _ =>
    exact ⟨TxListBySenderMap.removeTransactionsWithLowerOrEqualNonceReturnHashes_wellFormed
        invariant.wellFormed tx,
      by simp [invariant.constraints_eq],
      fun t mem => invariant.fromUniverse t
        (TxListBySenderMap.mem_listed_removeTransactionsWithLowerOrEqualNonceReturnHashes
          invariant.wellFormed.exact mem)⟩

theorem apply_sendersInvariant {cache : TxCache}
    (invariant : SendersInvariant constraints supplied cache) (operation : Operation)
    (added : ∀ tx ∈ operation.added, tx ∈ supplied) :
    SendersInvariant constraints supplied (cache.apply less operation) := by
  cases operation with
  | addTx tx =>
    cases tx with
    | none => exact invariant
    | some tx =>
      simp only [TxCache.apply, TxCache.addTx]
      refine addTxAfterEviction_sendersInvariant ?_ (added tx (by simp [Operation.added]))
      split
      · exact doEviction_sendersInvariant less invariant
      · exact invariant
  | removeTxByHash txHash => exact removeTxByHash_sendersInvariant invariant txHash
  | clear =>
    exact ⟨TxListBySenderMap.clear_wellFormed _, invariant.constraints_eq,
      by simp [TxCache.apply, TxCache.clear, TxListBySenderMap.clear, TxListBySenderMap.listed]⟩
  | doEviction => exact doEviction_sendersInvariant less invariant

end Steps

theorem newTxCache_sendersInvariant (config : ConfigSourceMe) (supplied : List WrappedTransaction) :
    SendersInvariant config.getSenderConstraints supplied (newTxCache config) :=
  ⟨⟨⟨by simp [newTxCache], rfl⟩, by simp [newTxCache]⟩, rfl, by simp [newTxCache, TxListBySenderMap.listed]⟩

theorem run_sendersInvariant (less : WrappedTransaction → WrappedTransaction → Bool)
    (config : ConfigSourceMe) (operations : List Operation) :
    SendersInvariant config.getSenderConstraints (operations.flatMap Operation.added)
      ((newTxCache config).run less operations) :=
  run_induction less (SendersInvariant config.getSenderConstraints (operations.flatMap Operation.added))
    operations
    (fun _ operation mem invariant => apply_sendersInvariant less invariant operation
      fun _ added => List.mem_flatMap.2 ⟨operation, mem, added⟩)
    (newTxCache_sendersInvariant config _)

theorem addTxReturnEvicted_drops_back {m : TxListBySenderMap} (wellFormed : m.WellFormed)
    (tx : WrappedTransaction) :
    ∃ dropped : List WrappedTransaction,
      (if (m.addTxReturnEvicted tx).1 then
          TxListForSender.insertInOrder tx (m.listOrEmpty tx.tx.sndAddr).items
        else (m.listOrEmpty tx.tx.sndAddr).items) =
        ((m.listOrEmpty tx.tx.sndAddr).addTx m.constraints tx).2.2.items ++ dropped ∧
      (m.addTxReturnEvicted tx).2.1 = dropped.reverse.map (·.txHash) ∧
      (∀ kept ∈ ((m.listOrEmpty tx.tx.sndAddr).addTx m.constraints tx).2.2.items,
        ∀ evicted ∈ dropped, kept.sortsBefore evicted = true) := by
  have listWellFormed : ∀ l ∈ m.lists, l.WellFormed m.constraints := fun l mem => (wellFormed.lists l mem).1
  obtain ⟨dropped, split, hashes⟩ := TxListForSender.addTx_dropped m.constraints (m.listOrEmpty tx.tx.sndAddr) tx
  rw [TxListBySenderMap.addTxReturnEvicted_eq]
  refine ⟨dropped, split, hashes, ?_⟩
  have oldSorted : (m.listOrEmpty tx.tx.sndAddr).items.Pairwise (fun a b => a.sortsBefore b = true) := by
    unfold TxListBySenderMap.listOrEmpty
    cases found : m.getListForSender tx.tx.sndAddr with
    | none => exact List.Pairwise.nil
    | some l => exact (listWellFormed l (TxListBySenderMap.mem_of_getListForSender found).1).sorted
  have sorted : (if ((m.listOrEmpty tx.tx.sndAddr).addTx m.constraints tx).1 then
      TxListForSender.insertInOrder tx (m.listOrEmpty tx.tx.sndAddr).items
      else (m.listOrEmpty tx.tx.sndAddr).items).Pairwise (fun a b => a.sortsBefore b = true) := by
    rw [TxListForSender.addTx_fst]
    cases fresh : (m.listOrEmpty tx.tx.sndAddr).hasDuplicate tx
    · exact TxListForSender.insertInOrder_sorted oldSorted (TxListForSender.distinct_of_not_duplicate fresh)
    · exact oldSorted
  rw [split] at sorted
  exact (List.pairwise_append.1 sorted).2.2

/-- Every list of every run is well formed for the configured caps, holds no hash twice when
hashes identify the run's transactions, and `addTxReturnEvicted` drops exactly what it answers,
from the back of the sender's sorted list. -/
theorem senderLists_wellFormed_over_runs (less : WrappedTransaction → WrappedTransaction → Bool)
    (config : ConfigSourceMe) (operations : List Operation) :
    (∀ l ∈ ((newTxCache config).run less operations).txListBySender.lists,
      l.WellFormed config.getSenderConstraints) ∧
    (HashesIdentify (operations.flatMap Operation.added) →
      ∀ l ∈ ((newTxCache config).run less operations).txListBySender.lists,
        (l.items.map (·.txHash)).Nodup) ∧
    ∀ (m : TxListBySenderMap) (tx : WrappedTransaction), m.WellFormed →
      ∃ dropped : List WrappedTransaction,
        (if (m.addTxReturnEvicted tx).1 then
            TxListForSender.insertInOrder tx (m.listOrEmpty tx.tx.sndAddr).items
          else (m.listOrEmpty tx.tx.sndAddr).items) =
          ((m.listOrEmpty tx.tx.sndAddr).addTx m.constraints tx).2.2.items ++ dropped ∧
        (m.addTxReturnEvicted tx).2.1 = dropped.reverse.map (·.txHash) ∧
        (∀ kept ∈ ((m.listOrEmpty tx.tx.sndAddr).addTx m.constraints tx).2.2.items,
          ∀ evicted ∈ dropped, kept.sortsBefore evicted = true) := by
  have invariant := run_sendersInvariant less config operations
  refine ⟨fun l mem => ?_, fun identified l mem => ?_,
    fun m tx wellFormed => addTxReturnEvicted_drops_back wellFormed tx⟩
  · exact invariant.constraints_eq ▸ (invariant.wellFormed.lists l mem).1
  · refine nodup_hashes_of_sorted (invariant.wellFormed.lists l mem).1.sorted
      fun a aMem b bMem => identified a ?_ b ?_
    · exact invariant.fromUniverse a (TxListBySenderMap.mem_listed.2 ⟨l, mem, aMem⟩)
    · exact invariant.fromUniverse b (TxListBySenderMap.mem_listed.2 ⟨l, mem, bMem⟩)

end ChainStorage.Mempool
