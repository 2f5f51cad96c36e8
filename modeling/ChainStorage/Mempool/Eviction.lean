import ChainStorage.Mempool.Cache

/-! # Eviction

`evictLeastLikelyToSelectTransactions` of `eviction.go`. Every sender's list is snapshotted as a
bunch, highest nonce first; a heap holds one item (a cursor) per bunch; each pass pops the worst
items until `NumItemsToPreemptivelyEvict` transactions are collected, cuts every touched sender's
list at the last nonce written for it, and removes the collected hashes from the map by hash.

The heap is `container/heap`, taken by its contract: `Pop` removes an item that is least for the
heap's `Less`, `Push` adds one. `Less` of `newMinTransactionsHeap` is not part of the
repository's sources, so every definition here takes it as the parameter `less`, the order of
the items' current transactions. A cursor is the part of its bunch not yet popped: the current
transaction and the ones after it.

`evictionPasses` recurses on a fuel: every pass that continues pops at least one position of
the snapshot, so the number of snapshot transactions is enough.
-/

namespace ChainStorage.Mempool

/-- `transactionsHeapItem`: the current transaction of a bunch and the rest of the bunch. -/
structure TransactionsHeapItem where
  currentTransaction : WrappedTransaction
  rest : List WrappedTransaction
  deriving DecidableEq, Repr

/-- `newTransactionsHeapItem`, which fails on an empty bunch. -/
def newTransactionsHeapItem : List WrappedTransaction → Option TransactionsHeapItem
  | [] => none
  | first :: rest => some { currentTransaction := first, rest := rest }

/-- `gotoNextTransaction`: the item moved to the next transaction of its bunch, if any. -/
def TransactionsHeapItem.gotoNextTransaction (item : TransactionsHeapItem) :
    Option TransactionsHeapItem :=
  newTransactionsHeapItem item.rest

/-- `heap.Pop` by its contract: removes an item no other item is `less` than (the first such,
in this list). -/
def heapPop (less : WrappedTransaction → WrappedTransaction → Bool) :
    List TransactionsHeapItem → Option (TransactionsHeapItem × List TransactionsHeapItem)
  | [] => none
  | item :: items =>
    match heapPop less items with
    | none => some (item, [])
    | some (least, others) =>
      if less least.currentTransaction item.currentTransaction then some (least, item :: others)
      else some (item, items)

/-- Modelled from the spec: the order of `newMinTransactionsHeap`, under which the least item is
the worst transaction: "lower price-per-gas-unit is worse, with tie-break on hash". -/
def minTransactionsHeapLess (a b : WrappedTransaction) : Bool :=
  a.pricePerUnit < b.pricePerUnit || (a.pricePerUnit == b.pricePerUnit && hashLess a.txHash b.txHash)

/-- `heap.Push` of the popped item, when `gotoNextTransaction` finds a next transaction in its
bunch. -/
def pushIfNext (item : TransactionsHeapItem) (heap : List TransactionsHeapItem) :
    List TransactionsHeapItem :=
  match item.gotoNextTransaction with
  | some next => next :: heap
  | none => heap

structure EvictionJournal where
  numEvicted : Nat
  numEvictedByPass : List Nat
  deriving DecidableEq, Repr

section Passes

variable (less : WrappedTransaction → WrappedTransaction → Bool)

/-- The inner loop of a pass, `room` being how many transactions the pass may still take. The
item is popped before the pass checks whether it is full, and is then not pushed back. -/
def selectTransactionsToEvict :
    (room : Nat) → List TransactionsHeapItem → List WrappedTransaction × List TransactionsHeapItem
  | room, heap =>
    match heapPop less heap with
    | none => ([], heap)
    | some (item, others) =>
      match room with
      | 0 => ([], others)
      | room + 1 =>
        let selected := selectTransactionsToEvict room (pushIfNext item others)
        (item.currentTransaction :: selected.1, selected.2)

/-- `lowestToEvictBySender[sender] = nonce`: the last write for a sender wins. -/
def recordLowestToEvict (lowest : List (String × Nat)) (tx : WrappedTransaction) :
    List (String × Nat) :=
  (tx.tx.sndAddr, tx.tx.nonce) :: lowest.filter (·.1 != tx.tx.sndAddr)

def lowestToEvictBySender (transactionsToEvict : List WrappedTransaction) : List (String × Nat) :=
  transactionsToEvict.foldl recordLowestToEvict []

/-- The cut of the lists a pass makes: for each sender, the transactions from the nonce last
written for it. -/
def removeLowest (txListBySender : TxListBySenderMap) (lowest : List (String × Nat)) :
    TxListBySenderMap :=
  lowest.foldl (fun m lowest => m.removeTransactionsWithHigherOrEqualNonce lowest.1 lowest.2)
    txListBySender

/-- One pass: `none` when it collects nothing (the loop breaks), else the number of evicted
transactions, the heap for the next pass and the cache after the removals. -/
def TxCache.evictionPass (cache : TxCache) (heap : List TransactionsHeapItem) :
    Option (Nat × List TransactionsHeapItem × TxCache) :=
  let selected := selectTransactionsToEvict less cache.config.numItemsToPreemptivelyEvict heap
  let transactionsToEvict := selected.1
  if transactionsToEvict.isEmpty then none
  else
    let txListBySender := removeLowest cache.txListBySender (lowestToEvictBySender transactionsToEvict)
    let txByHash := (cache.txByHash.removeTxsBulk (transactionsToEvict.map (·.txHash))).2
    some (transactionsToEvict.length, selected.2,
      { cache with txListBySender := txListBySender, txByHash := txByHash })

/-- The pass loop, which runs while the capacity is exceeded. -/
def TxCache.evictionPasses : (fuel : Nat) → EvictionJournal → List TransactionsHeapItem → TxCache →
    EvictionJournal × TxCache
  | 0, journal, _, cache => (journal, cache)
  | fuel + 1, journal, heap, cache =>
    if cache.isCapacityExceeded then
      match cache.evictionPass less heap with
      | none => (journal, cache)
      | some (numEvicted, heap, cache) =>
        TxCache.evictionPasses fuel
          { numEvicted := journal.numEvicted + numEvicted,
            numEvictedByPass := journal.numEvictedByPass ++ [numEvicted] } heap cache
    else (journal, cache)

/-- The bunches of the snapshot, highest nonce first. -/
def TxCache.bunches (cache : TxCache) : List (List WrappedTransaction) :=
  cache.txListBySender.getSenders.map (·.getTxsReversed)

def TxCache.evictLeastLikelyToSelectTransactions (cache : TxCache) : EvictionJournal × TxCache :=
  TxCache.evictionPasses less (cache.bunches.map (·.length)).sum
    { numEvicted := 0, numEvictedByPass := [] }
    (cache.bunches.filterMap newTransactionsHeapItem) cache

/-- `doEviction` in a run of one operation at a time: no other eviction is in progress, and the
capacity test under the eviction mutex sees what the first one saw. -/
def TxCache.doEviction (cache : TxCache) : Option EvictionJournal × TxCache :=
  if cache.isCapacityExceeded then
    let evicted := cache.evictLeastLikelyToSelectTransactions less
    (some evicted.1, evicted.2)
  else (none, cache)

/-! ## What a pass does -/

theorem evictionPass_some {cache cache' : TxCache} {heap heap' : List TransactionsHeapItem} {n : Nat}
    (pass : cache.evictionPass less heap = some (n, heap', cache')) :
    ∃ transactionsToEvict,
      selectTransactionsToEvict less cache.config.numItemsToPreemptivelyEvict heap =
        (transactionsToEvict, heap') ∧
      transactionsToEvict ≠ [] ∧ n = transactionsToEvict.length ∧
      cache' = { cache with
        txListBySender := removeLowest cache.txListBySender (lowestToEvictBySender transactionsToEvict),
        txByHash := (cache.txByHash.removeTxsBulk (transactionsToEvict.map (·.txHash))).2 } := by
  cases selected : selectTransactionsToEvict less cache.config.numItemsToPreemptivelyEvict heap with
  | mk transactionsToEvict rest =>
    simp only [TxCache.evictionPass, selected] at pass
    split at pass
    · cases pass
    · next nonempty =>
      simp only [Option.some.injEq, Prod.mk.injEq] at pass
      obtain ⟨rfl, rfl, rfl⟩ := pass
      exact ⟨_, rfl, by simpa using nonempty, rfl, rfl⟩

theorem evictionPasses_heap_induction (P : List TransactionsHeapItem → TxCache → Prop)
    (pass : ∀ cache heap n heap' cache', P heap cache →
      cache.evictionPass less heap = some (n, heap', cache') → P heap' cache') :
    ∀ fuel journal heap cache, P heap cache →
      ∃ heap', P heap' (TxCache.evictionPasses less fuel journal heap cache).2
  | 0, _, heap, _, holds => ⟨heap, holds⟩
  | fuel + 1, journal, heap, cache, holds => by
    unfold TxCache.evictionPasses
    split
    · split
      · exact ⟨heap, holds⟩
      · next n heap' cache' passed =>
        exact evictionPasses_heap_induction P pass fuel _ heap' cache' (pass _ _ _ _ _ holds passed)
    · exact ⟨heap, holds⟩

theorem evictionPasses_induction (P : TxCache → Prop)
    (pass : ∀ cache heap n heap' cache', P cache →
      cache.evictionPass less heap = some (n, heap', cache') → P cache')
    (fuel : Nat) (journal : EvictionJournal) (heap : List TransactionsHeapItem) {cache : TxCache}
    (holds : P cache) : P (TxCache.evictionPasses less fuel journal heap cache).2 :=
  (evictionPasses_heap_induction less (fun _ => P) pass fuel journal heap cache holds).elim
    fun _ => id

theorem doEviction_induction (P : TxCache → Prop)
    (pass : ∀ cache heap n heap' cache', P cache →
      cache.evictionPass less heap = some (n, heap', cache') → P cache')
    {cache : TxCache} (holds : P cache) : P (cache.doEviction less).2 := by
  unfold TxCache.doEviction
  split
  · exact evictionPasses_induction less P pass _ _ _ holds
  · exact holds

end Passes

end ChainStorage.Mempool
