import ChainStorage.Mempool.SenderLists

/-! # What an eviction pass collects and removes

The heap of `evictLeastLikelyToSelectTransactions` starts with one cursor per sender, at the
highest nonce of the sender's bunch (`Cursors`). A pop, and the push back of the popped item
moved to its next transaction, keep this; so within one pass the transactions collected for a
sender come in decreasing nonce order (`PerSenderDescending`), the nonce last written for the
sender in `lowestToEvictBySender` is the lowest of them, and the cut of the sender's list from
that nonce on takes every one of them out of the lists (`PassOutcome.unlisted`).

What the cut takes out of the lists and what the bulk removal takes out of the map by hash are
not the same: the cut also takes the sender's transactions of the same nonce that were not
collected, and their hashes stay in the map by hash.
-/

namespace ChainStorage.Mempool

/-! ## The heap -/

section Heap

variable {less : WrappedTransaction → WrappedTransaction → Bool}

theorem heapPop_eq_none {heap : List TransactionsHeapItem} : heapPop less heap = none ↔ heap = [] := by
  cases heap with
  | nil => simp [heapPop]
  | cons item items =>
    simp only [heapPop, reduceCtorEq, iff_false]
    split
    · simp
    · split <;> simp

theorem heapPop_perm : ∀ {heap : List TransactionsHeapItem} {item : TransactionsHeapItem}
    {others : List TransactionsHeapItem},
    heapPop less heap = some (item, others) → heap.Perm (item :: others)
  | [], _, _, popped => by simp [heapPop] at popped
  | first :: items, item, others, popped => by
    unfold heapPop at popped
    split at popped
    · next none =>
      cases heapPop_eq_none.1 none
      simp only [Option.some.injEq, Prod.mk.injEq] at popped
      obtain ⟨rfl, rfl⟩ := popped
      rfl
    · next least rest found =>
      have perm := heapPop_perm found
      split at popped <;> simp only [Option.some.injEq, Prod.mk.injEq] at popped <;>
        obtain ⟨rfl, rfl⟩ := popped
      · exact (perm.cons first).trans (List.Perm.swap _ _ _)
      · rfl

end Heap

def TransactionsHeapItem.transactions (item : TransactionsHeapItem) : List WrappedTransaction :=
  item.currentTransaction :: item.rest

def heapTransactions (heap : List TransactionsHeapItem) : List WrappedTransaction :=
  heap.flatMap (·.transactions)

theorem newTransactionsHeapItem_eq_some {bunch : List WrappedTransaction} {item : TransactionsHeapItem} :
    newTransactionsHeapItem bunch = some item ↔ bunch = item.transactions := by
  obtain ⟨current, rest⟩ := item
  cases bunch <;> simp [newTransactionsHeapItem, TransactionsHeapItem.transactions]

@[simp] theorem mem_heapTransactions_cons {item : TransactionsHeapItem}
    {heap : List TransactionsHeapItem} {t : WrappedTransaction} :
    t ∈ heapTransactions (item :: heap) ↔ t ∈ item.transactions ∨ t ∈ heapTransactions heap :=
  List.mem_append

theorem heapTransactions_pushIfNext (item : TransactionsHeapItem) (heap : List TransactionsHeapItem) :
    heapTransactions (pushIfNext item heap) = item.rest ++ heapTransactions heap := by
  obtain ⟨current, rest⟩ := item
  cases rest <;> rfl

theorem heapTransactions_perm {heap heap' : List TransactionsHeapItem} (perm : heap.Perm heap') :
    (heapTransactions heap).Perm (heapTransactions heap') :=
  perm.flatMap_right _

/-! ## One cursor per sender -/

/-- One cursor per sender, each over transactions of that sender, highest nonce first. -/
structure Cursors (heap : List TransactionsHeapItem) : Prop where
  senders : (heap.map (·.currentTransaction.tx.sndAddr)).Nodup
  descending : ∀ item ∈ heap, item.transactions.Pairwise
    (fun a b => a.tx.sndAddr = b.tx.sndAddr ∧ b.tx.nonce ≤ a.tx.nonce)

namespace Cursors

variable {heap : List TransactionsHeapItem} (cursors : Cursors heap)
include cursors

theorem of_perm {heap' : List TransactionsHeapItem} (perm : heap.Perm heap') : Cursors heap' :=
  ⟨(perm.map _).nodup_iff.1 cursors.senders,
    fun item mem => cursors.descending item (perm.mem_iff.2 mem)⟩

theorem sender_of_mem {item : TransactionsHeapItem} (itemMem : item ∈ heap) {t : WrappedTransaction}
    (mem : t ∈ item.transactions) : t.tx.sndAddr = item.currentTransaction.tx.sndAddr := by
  rcases List.mem_cons.1 mem with rfl | later
  · rfl
  · exact ((List.pairwise_cons.1 (cursors.descending item itemMem)).1 t later).1.symm

theorem mem_item_of_sender {item : TransactionsHeapItem} (itemMem : item ∈ heap)
    {t : WrappedTransaction} (mem : t ∈ heapTransactions heap)
    (sender : t.tx.sndAddr = item.currentTransaction.tx.sndAddr) : t ∈ item.transactions := by
  obtain ⟨other, otherMem, tMem⟩ := List.mem_flatMap.1 mem
  have : other = item := List.inj_on_of_nodup_map cursors.senders otherMem itemMem
    ((cursors.sender_of_mem otherMem tMem).symm.trans sender)
  exact this ▸ tMem

omit cursors in
theorem pushIfNext {item : TransactionsHeapItem} {others : List TransactionsHeapItem}
    (cursors : Cursors (item :: others)) : Cursors (pushIfNext item others) := by
  obtain ⟨current, rest⟩ := item
  have descending := cursors.descending _ (List.mem_cons_self _ _)
  cases rest with
  | nil => exact ⟨(List.nodup_cons.1 cursors.senders).2,
      fun item mem => cursors.descending item (List.mem_cons_of_mem _ mem)⟩
  | cons next rest =>
    have sameSender := ((List.pairwise_cons.1 descending).1 next (List.mem_cons_self _ _)).1
    refine ⟨by simpa [ChainStorage.Mempool.pushIfNext, TransactionsHeapItem.gotoNextTransaction,
      newTransactionsHeapItem, ← sameSender] using cursors.senders, fun item mem => ?_⟩
    rcases List.mem_cons.1 mem with rfl | other
    · exact (List.pairwise_cons.1 descending).2
    · exact cursors.descending item (List.mem_cons_of_mem _ other)

end Cursors

/-! ## The heap of the snapshot -/

theorem heapTransactions_filterMap : ∀ bunches : List (List WrappedTransaction),
    heapTransactions (bunches.filterMap newTransactionsHeapItem) = bunches.flatten
  | [] => rfl
  | [] :: bunches => heapTransactions_filterMap bunches
  | (first :: rest) :: bunches => by
    show (first :: rest) ++ heapTransactions _ = _
    rw [heapTransactions_filterMap bunches]
    rfl

theorem mem_heapTransactions_bunches {cache : TxCache} {t : WrappedTransaction} :
    t ∈ heapTransactions (cache.bunches.filterMap newTransactionsHeapItem) ↔
      t ∈ cache.txListBySender.listed := by
  rw [heapTransactions_filterMap]
  simp [TxCache.bunches, TxListBySenderMap.getSenders, TxListBySenderMap.listed,
    TxListForSender.getTxsReversed]

theorem bunches_length_sum (cache : TxCache) :
    (cache.bunches.map (·.length)).sum =
      (heapTransactions (cache.bunches.filterMap newTransactionsHeapItem)).length := by
  rw [heapTransactions_filterMap, List.length_flatten]

theorem filterMap_bunches_senders : ∀ {lists : List TxListForSender},
    (∀ l ∈ lists, l.items ≠ [] ∧ ∀ t ∈ l.items, t.tx.sndAddr = l.sender) →
    ((lists.map (·.getTxsReversed)).filterMap newTransactionsHeapItem).map
      (·.currentTransaction.tx.sndAddr) = lists.map (·.sender)
  | [], _ => rfl
  | l :: lists, own => by
    obtain ⟨nonempty, ownSender⟩ := own l (List.mem_cons_self _ _)
    obtain ⟨current, rest, reversed⟩ :=
      List.exists_cons_of_ne_nil (mt List.reverse_eq_nil_iff.1 nonempty)
    have currentMem : current ∈ l.items := List.mem_reverse.1 (reversed ▸ List.mem_cons_self _ _)
    have bunch : l.getTxsReversed = current :: rest := reversed
    simp only [List.map_cons, List.filterMap_cons, bunch, newTransactionsHeapItem]
    rw [filterMap_bunches_senders fun l mem => own l (List.mem_cons_of_mem _ mem),
      ownSender current currentMem]

theorem filterMap_bunches_senders_sublist : ∀ {lists : List TxListForSender},
    (∀ l ∈ lists, ∀ t ∈ l.items, t.tx.sndAddr = l.sender) →
    (((lists.map (·.getTxsReversed)).filterMap newTransactionsHeapItem).map
      (·.currentTransaction.tx.sndAddr)).Sublist (lists.map (·.sender))
  | [], _ => List.Sublist.slnil
  | l :: lists, own => by
    have rest := filterMap_bunches_senders_sublist fun l mem => own l (List.mem_cons_of_mem _ mem)
    cases reversed : l.items.reverse with
    | nil =>
      have bunch : l.getTxsReversed = [] := reversed
      simpa [bunch, newTransactionsHeapItem] using rest.cons l.sender
    | cons current later =>
      have bunch : l.getTxsReversed = current :: later := reversed
      have currentMem : current ∈ l.items := List.mem_reverse.1 (reversed ▸ List.mem_cons_self _ _)
      simpa [bunch, newTransactionsHeapItem, own l (List.mem_cons_self _ _) current currentMem] using
        rest.cons₂ l.sender

/-- Lists of one sender each, each in ascending nonce order: what the eviction needs of the lists it
snapshots. -/
structure PerSenderAscending (m : TxListBySenderMap) : Prop where
  senders : (m.lists.map (·.sender)).Nodup
  own : ∀ l ∈ m.lists, ∀ t ∈ l.items, t.tx.sndAddr = l.sender
  ascending : ∀ l ∈ m.lists, l.items.Pairwise fun a b => a.tx.nonce ≤ b.tx.nonce

theorem TxListBySenderMap.WellFormed.perSenderAscending {m : TxListBySenderMap} (wellFormed : m.WellFormed) :
    PerSenderAscending m :=
  ⟨wellFormed.exact.nodup, fun l mem => (wellFormed.lists l mem).1.ownSender,
    fun l mem => (wellFormed.lists l mem).1.sorted.imp WrappedTransaction.nonce_le_of_sortsBefore⟩

theorem PerSenderAscending.cursors {cache : TxCache} (perSender : PerSenderAscending cache.txListBySender) :
    Cursors (cache.bunches.filterMap newTransactionsHeapItem) := by
  refine ⟨?_, fun item mem => ?_⟩
  · rw [TxCache.bunches, TxListBySenderMap.getSenders]
    exact perSender.senders.sublist (filterMap_bunches_senders_sublist perSender.own)
  · obtain ⟨bunch, bunchMem, found⟩ := List.mem_filterMap.1 mem
    obtain ⟨l, lMem, rfl⟩ := List.mem_map.1 bunchMem
    rw [← newTransactionsHeapItem_eq_some.1 found, TxListForSender.getTxsReversed, List.pairwise_reverse]
    exact (perSender.ascending l lMem).imp_of_mem fun {a b} aMem bMem ascending =>
      ⟨(perSender.own l lMem b bMem).trans (perSender.own l lMem a aMem).symm, ascending⟩

theorem cursors_bunches {cache : TxCache} (wellFormed : cache.txListBySender.WellFormed) :
    Cursors (cache.bunches.filterMap newTransactionsHeapItem) :=
  wellFormed.perSenderAscending.cursors

theorem bunches_flatten_nodup {cache : TxCache} (wellFormed : cache.txListBySender.WellFormed) :
    cache.bunches.flatten.Nodup := by
  rw [List.nodup_flatten, TxCache.bunches, TxListBySenderMap.getSenders, List.pairwise_map]
  refine ⟨fun bunch mem => ?_, ?_⟩
  · obtain ⟨l, lMem, rfl⟩ := List.mem_map.1 mem
    exact List.nodup_reverse.2 ((wellFormed.lists l lMem).1.sorted.imp fun {a b} before same => by
      subst same
      simp [WrappedTransaction.sortsBefore_irrefl] at before)
  · refine (List.pairwise_map.1 wellFormed.exact.nodup).imp_of_mem fun {l₁ l₂} mem₁ mem₂ differ t in₁ in₂ => ?_
    exact differ (((wellFormed.lists l₁ mem₁).1.ownSender t (List.mem_reverse.1 in₁)).symm.trans
      ((wellFormed.lists l₂ mem₂).1.ownSender t (List.mem_reverse.1 in₂)))

/-! ## The transactions a pass collects -/

def PerSenderDescending (transactions : List WrappedTransaction) : Prop :=
  transactions.Pairwise (fun a b => a.tx.sndAddr = b.tx.sndAddr → b.tx.nonce ≤ a.tx.nonce)

section Select

variable (less : WrappedTransaction → WrappedTransaction → Bool) {heap : List TransactionsHeapItem}

theorem selectTransactionsToEvict_of_empty (popped : heapPop less heap = none) (room : Nat) :
    selectTransactionsToEvict less room heap = ([], heap) := by
  rw [selectTransactionsToEvict, popped]

theorem selectTransactionsToEvict_zero {item : TransactionsHeapItem}
    {others : List TransactionsHeapItem} (popped : heapPop less heap = some (item, others)) :
    selectTransactionsToEvict less 0 heap = ([], others) := by
  rw [selectTransactionsToEvict, popped]

def byteThresholdConfig : ConfigSourceMe :=
  { numBytesThreshold := 1, countThreshold := 100, numBytesPerSenderThreshold := 100,
    countPerSenderThreshold := 100, evictionEnabled := true, numItemsToPreemptivelyEvict := 1 }

/-- A one-byte transaction of `alice`, then a better-paying five-byte one of `bob`, which the
cache takes while its byte count is still at the threshold. -/
def twoSendersCache : TxCache :=
  (newTxCache byteThresholdConfig).run minTransactionsHeapLess
    [.addTx (some (sampleTx "alice" "a" 1 1)), .addTx (some { sampleTx "bob" "b" 1 2 with size := 5 })]

/-- The first pass collects `a` and pops `bob`'s item to find itself full, so the item is lost:
the second pass finds the heap empty and the loop stops with the capacity still exceeded and
`b`, a transaction of the snapshot, still listed. -/
theorem evictLeastLikelyToSelectTransactions_loses_popped_cursor :
    (twoSendersCache.evictLeastLikelyToSelectTransactions minTransactionsHeapLess).1.numEvictedByPass =
        [1] ∧
      (twoSendersCache.evictLeastLikelyToSelectTransactions minTransactionsHeapLess).2.isCapacityExceeded =
        true ∧
      (twoSendersCache.evictLeastLikelyToSelectTransactions minTransactionsHeapLess).2.txListBySender.listed.map
        (·.txHash) = ["b"] := by
  decide

theorem selectTransactionsToEvict_succ {item : TransactionsHeapItem}
    {others : List TransactionsHeapItem} (popped : heapPop less heap = some (item, others))
    (room : Nat) :
    selectTransactionsToEvict less (room + 1) heap =
      (item.currentTransaction :: (selectTransactionsToEvict less room (pushIfNext item others)).1,
        (selectTransactionsToEvict less room (pushIfNext item others)).2) := by
  rw [selectTransactionsToEvict, popped]

theorem selectTransactionsToEvict_cursors : ∀ (room : Nat) {heap : List TransactionsHeapItem},
    Cursors heap →
      Cursors (selectTransactionsToEvict less room heap).2 ∧
      (∀ t ∈ (selectTransactionsToEvict less room heap).1 ++
        heapTransactions (selectTransactionsToEvict less room heap).2, t ∈ heapTransactions heap) ∧
      PerSenderDescending (selectTransactionsToEvict less room heap).1
  | room, heap, cursors => by
    cases popped : heapPop less heap with
    | none =>
      rw [selectTransactionsToEvict_of_empty less popped]
      exact ⟨cursors, fun t mem => by simpa using mem, List.Pairwise.nil⟩
    | some popped' =>
      obtain ⟨item, others⟩ := popped'
      have perm := heapTransactions_perm (heapPop_perm popped)
      have split := cursors.of_perm (heapPop_perm popped)
      cases room with
      | zero =>
        rw [selectTransactionsToEvict_zero less popped]
        refine ⟨⟨(List.nodup_cons.1 split.senders).2,
          fun item mem => split.descending item (List.mem_cons_of_mem _ mem)⟩,
          fun t mem => perm.mem_iff.2 (mem_heapTransactions_cons.2 (.inr (by simpa using mem))),
          List.Pairwise.nil⟩
      | succ room =>
        obtain ⟨cursors', within, descending⟩ :=
          selectTransactionsToEvict_cursors room split.pushIfNext
        have fromPushed : ∀ t ∈ heapTransactions (pushIfNext item others),
            t ∈ heapTransactions (item :: others) := fun t mem => by
          rw [heapTransactions_pushIfNext, List.mem_append] at mem
          rcases mem with rest | other
          · exact mem_heapTransactions_cons.2 (.inl (List.mem_cons_of_mem _ rest))
          · exact mem_heapTransactions_cons.2 (.inr other)
        rw [selectTransactionsToEvict_succ less popped]
        refine ⟨cursors', fun t mem => ?_, List.Pairwise.cons (fun t mem sender => ?_) descending⟩
        · rcases List.mem_cons.1 mem with rfl | later
          · exact perm.mem_iff.2 (mem_heapTransactions_cons.2 (.inl (List.mem_cons_self _ _)))
          · exact perm.mem_iff.2 (fromPushed t (within t later))
        · have inItem := split.mem_item_of_sender (List.mem_cons_self _ _)
            (fromPushed t (within t (List.mem_append_left _ mem))) sender.symm
          rcases List.mem_cons.1 inItem with rfl | rest
          · exact le_refl _
          · exact ((List.pairwise_cons.1 (split.descending _ (List.mem_cons_self _ _))).1 t rest).2

theorem selectTransactionsToEvict_subperm : ∀ (room : Nat) (heap : List TransactionsHeapItem),
    ((selectTransactionsToEvict less room heap).1 ++
      heapTransactions (selectTransactionsToEvict less room heap).2).Subperm (heapTransactions heap)
  | room, heap => by
    cases popped : heapPop less heap with
    | none =>
      rw [selectTransactionsToEvict_of_empty less popped]
      exact List.Subperm.refl _
    | some popped' =>
      obtain ⟨item, others⟩ := popped'
      have perm := (heapTransactions_perm (heapPop_perm popped)).symm.subperm
      cases room with
      | zero =>
        rw [selectTransactionsToEvict_zero less popped]
        exact (List.sublist_append_right item.transactions _).subperm.trans perm
      | succ room =>
        have rest := selectTransactionsToEvict_subperm room (pushIfNext item others)
        rw [heapTransactions_pushIfNext] at rest
        rw [selectTransactionsToEvict_succ less popped]
        exact ((List.subperm_cons item.currentTransaction).2 rest).trans perm

end Select


/-! ## The lowest nonce written for a sender -/

theorem foldl_recordLowestToEvict : ∀ (rest done : List WrappedTransaction)
    (lowest : List (String × Nat)), PerSenderDescending (done ++ rest) →
    (∀ t ∈ done, ∃ n, (t.tx.sndAddr, n) ∈ lowest ∧ n ≤ t.tx.nonce) →
    ∀ t ∈ done ++ rest, ∃ n, (t.tx.sndAddr, n) ∈ rest.foldl recordLowestToEvict lowest ∧
      n ≤ t.tx.nonce
  | [], done, lowest, _, recorded => by simpa using recorded
  | x :: rest, done, lowest, descending, recorded => by
    have shifted : done ++ x :: rest = (done ++ [x]) ++ rest := by simp
    rw [List.foldl_cons, shifted]
    rw [shifted] at descending
    refine foldl_recordLowestToEvict rest (done ++ [x]) _ descending fun t mem => ?_
    rcases List.mem_append.1 mem with earlier | last
    · by_cases same : t.tx.sndAddr = x.tx.sndAddr
      · have before := (List.pairwise_append.1 (List.pairwise_append.1 descending).1).2.2
        exact ⟨x.tx.nonce, by simp [recordLowestToEvict, same],
          before t earlier x (List.mem_singleton_self x) same⟩
      · obtain ⟨n, entry, le⟩ := recorded t earlier
        exact ⟨n, by simp [recordLowestToEvict, entry, same], le⟩
    · rw [List.mem_singleton.1 last]
      exact ⟨x.tx.nonce, by simp [recordLowestToEvict], le_refl _⟩

theorem lowestToEvictBySender_le {transactions : List WrappedTransaction}
    (descending : PerSenderDescending transactions) {t : WrappedTransaction} (mem : t ∈ transactions) :
    ∃ n, (t.tx.sndAddr, n) ∈ lowestToEvictBySender transactions ∧ n ≤ t.tx.nonce :=
  foldl_recordLowestToEvict transactions [] [] descending (by simp) t mem

theorem lookup_recordLowestToEvict (lowest : List (String × Nat)) (tx : WrappedTransaction)
    (sender : String) :
    (recordLowestToEvict lowest tx).lookup sender =
      if tx.tx.sndAddr = sender then some tx.tx.nonce else lowest.lookup sender := by
  by_cases same : tx.tx.sndAddr = sender
  · subst same
    simp [recordLowestToEvict]
  · have other : (sender == tx.tx.sndAddr) = false := beq_false_of_ne (Ne.symm same)
    simp only [recordLowestToEvict, List.lookup_cons, other, same, if_false]
    induction lowest with
    | nil => rfl
    | cons entry lowest inductionHypothesis =>
      obtain ⟨key, nonce⟩ := entry
      by_cases entrySender : key = tx.tx.sndAddr
      · subst entrySender
        simp [List.filter_cons, List.lookup_cons, other, inductionHypothesis]
      · by_cases mine : sender = key
        · subst mine
          simp [List.filter_cons, entrySender, List.lookup_cons]
        · simp [List.filter_cons, entrySender, List.lookup_cons, beq_false_of_ne mine, inductionHypothesis]

theorem lowestToEvictBySender_lookup {transactions : List WrappedTransaction}
    (descending : PerSenderDescending transactions) (sender : String) :
    (lowestToEvictBySender transactions).lookup sender =
      ((transactions.filter (·.tx.sndAddr == sender)).map (·.tx.nonce)).min? := by
  induction transactions using List.reverseRecOn with
  | nil => rfl
  | append_singleton transactions last inductionHypothesis =>
    obtain ⟨earlier, -, before⟩ := List.pairwise_append.1 descending
    rw [lowestToEvictBySender, List.foldl_append, List.foldl_cons, List.foldl_nil, ← lowestToEvictBySender,
      lookup_recordLowestToEvict, List.filter_append, List.map_append]
    by_cases same : last.tx.sndAddr = sender
    · rw [if_pos same, eq_comm, List.min?_eq_some_iff']
      refine ⟨by simp [same], fun nonce mem => ?_⟩
      simp only [List.filter_cons, List.filter_nil, same, beq_self_eq_true, if_true, List.map_cons,
        List.map_nil, List.mem_append, List.mem_map, List.mem_filter, beq_iff_eq, List.mem_singleton] at mem
      rcases mem with ⟨t, ⟨tMem, tSender⟩, rfl⟩ | rfl
      · exact before t tMem last (List.mem_singleton_self _) (tSender.trans same.symm)
      · exact le_refl _
    · rw [if_neg same, inductionHypothesis earlier]
      simp [same]

theorem mem_listed_removeLowest : ∀ (lowest : List (String × Nat)) {m : TxListBySenderMap},
    m.WellFormed → ∀ {t : WrappedTransaction}, t ∈ (removeLowest m lowest).listed →
      t ∈ m.listed ∧ ∀ entry ∈ lowest, t.tx.sndAddr = entry.1 → t.tx.nonce < entry.2
  | [], _, _, _, mem => ⟨mem, by simp⟩
  | (sender, nonce) :: lowest, m, wellFormed, t, mem => by
    obtain ⟨listed, below⟩ := mem_listed_removeLowest lowest
      (m.removeTransactionsWithHigherOrEqualNonce_wellFormed wellFormed sender nonce) mem
    exact ⟨TxListBySenderMap.mem_listed_removeTransactionsWithHigherOrEqualNonce wellFormed.exact listed,
      List.forall_mem_cons.2 ⟨fun own =>
        TxListBySenderMap.nonce_lt_of_mem_listed_removeTransactionsWithHigherOrEqualNonce wellFormed
          listed own, below⟩⟩

/-! ## One pass -/

/-- What a pass that collects `transactionsToEvict` does: it collects transactions of the heap,
keeps one cursor per sender, removes the collected hashes from the map by hash and takes every
collected transaction out of the lists. -/
structure PassOutcome (heap : List TransactionsHeapItem) (cache : TxCache)
    (transactionsToEvict : List WrappedTransaction) (heap' : List TransactionsHeapItem)
    (cache' : TxCache) : Prop where
  nonempty : transactionsToEvict ≠ []
  fromHeap : ∀ t ∈ transactionsToEvict ++ heapTransactions heap', t ∈ heapTransactions heap
  cursors : Cursors heap'
  config_eq : cache'.config = cache.config
  txByHash_eq : cache'.txByHash = (cache.txByHash.removeTxsBulk (transactionsToEvict.map (·.txHash))).2
  unlisted : ∀ t ∈ cache'.txListBySender.listed, t ∈ cache.txListBySender.listed ∧ t ∉ transactionsToEvict

theorem evictionPass_outcome (less : WrappedTransaction → WrappedTransaction → Bool)
    {cache cache' : TxCache} {heap heap' : List TransactionsHeapItem} {n : Nat}
    (wellFormed : cache.txListBySender.WellFormed) (cursors : Cursors heap)
    (pass : cache.evictionPass less heap = some (n, heap', cache')) :
    ∃ transactionsToEvict, PassOutcome heap cache transactionsToEvict heap' cache' := by
  obtain ⟨transactionsToEvict, selected, nonempty, -, rfl⟩ := evictionPass_some less pass
  obtain ⟨cursors', within, descending⟩ :=
    selectTransactionsToEvict_cursors less cache.config.numItemsToPreemptivelyEvict cursors
  rw [selected] at cursors' within descending
  refine ⟨transactionsToEvict, nonempty, within, cursors', rfl, rfl, fun t mem => ?_⟩
  obtain ⟨listed, below⟩ := mem_listed_removeLowest _ wellFormed mem
  refine ⟨listed, fun collected => ?_⟩
  obtain ⟨n, entry, le⟩ := lowestToEvictBySender_le descending collected
  exact absurd le (Nat.not_le.2 (below _ entry rfl))

theorem evictionPass_isSome (less : WrappedTransaction → WrappedTransaction → Bool) {cache : TxCache}
    {heap : List TransactionsHeapItem} (nonempty : heap ≠ [])
    (atLeastOne : 1 ≤ cache.config.numItemsToPreemptivelyEvict) :
    ∃ n heap' cache', cache.evictionPass less heap = some (n, heap', cache') := by
  obtain ⟨⟨item, others⟩, popped⟩ :=
    Option.ne_none_iff_exists'.1 (mt (@heapPop_eq_none less heap).1 nonempty)
  obtain ⟨room, hroom⟩ : ∃ room, cache.config.numItemsToPreemptivelyEvict = room + 1 :=
    ⟨_, (Nat.succ_pred_eq_of_pos atLeastOne).symm⟩
  simp only [TxCache.evictionPass, hroom, selectTransactionsToEvict_succ less popped,
    List.isEmpty_cons]
  exact ⟨_, _, _, rfl⟩

theorem evictionPasses_succ_of_pass (less : WrappedTransaction → WrappedTransaction → Bool)
    {cache cache' : TxCache} {heap heap' : List TransactionsHeapItem} {n fuel : Nat}
    (journal : EvictionJournal) (exceeded : cache.isCapacityExceeded = true)
    (pass : cache.evictionPass less heap = some (n, heap', cache')) :
    TxCache.evictionPasses less (fuel + 1) journal heap cache =
      TxCache.evictionPasses less fuel
        { numEvicted := journal.numEvicted + n, numEvictedByPass := journal.numEvictedByPass ++ [n] }
        heap' cache' := by
  rw [TxCache.evictionPasses, if_pos exceeded, pass]

def siblingsConfig : ConfigSourceMe :=
  { numBytesThreshold := 1000000, countThreshold := 1, numBytesPerSenderThreshold := 1000000,
    countPerSenderThreshold := 1000, evictionEnabled := true, numItemsToPreemptivelyEvict := 1 }

/-- `alice` sends two transactions of one nonce, then `carol` one, whose `AddTx` evicts: the
pass collects `b`, cuts `alice`'s list from nonce 1 on, which takes `a` too, and removes only
`b`'s hash. `a` stays in the map by hash with no list holding it. -/
theorem evictionPass_orphans_same_nonce_sibling :
    ((newTxCache siblingsConfig).run minTransactionsHeapLess
      [.addTx (some (sampleTx "alice" "a" 1 2)), .addTx (some (sampleTx "alice" "b" 1 1)),
        .addTx (some (sampleTx "carol" "c" 1 1))]).txByHash.keys = ["c", "a"] ∧
    ((newTxCache siblingsConfig).run minTransactionsHeapLess
      [.addTx (some (sampleTx "alice" "a" 1 2)), .addTx (some (sampleTx "alice" "b" 1 1)),
        .addTx (some (sampleTx "carol" "c" 1 1))]).txListBySender.listed.map (·.txHash) = ["c"] := by
  decide

end ChainStorage.Mempool
