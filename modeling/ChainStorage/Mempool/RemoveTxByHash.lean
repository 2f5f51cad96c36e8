import ChainStorage.Mempool.Cache

/-! # Removal by hash

`RemoveTxByHash` of `txCache.go` takes the transaction of a hash out of the map by hash, then
from its sender's list every transaction with a lower or equal nonce, and those hashes out of
the map by hash again. When the two maps agree, both lose the same transactions: those that
`cascadesFrom` the found one. `removeTxByHash_of_found` says once what the call does; the
frame on the map by hash, on each sender's list and on the counters follows from it, and the
maps still agree afterwards (`removeTxByHash_mapsAgree`).
-/

namespace ChainStorage.Mempool

namespace TxCache

/-- The transactions that removing `t` takes along: those of `t`'s sender whose nonce is at most
`t`'s, `t` and its same-nonce siblings included. -/
def cascadesFrom (t x : WrappedTransaction) : Bool :=
  x.tx.sndAddr == t.tx.sndAddr && decide (x.tx.nonce ≤ t.tx.nonce)

theorem removeTxByHash_of_absent {cache : TxCache} {txHash : String}
    (absent : cache.getByTxHash txHash = none) : cache.removeTxByHash txHash = (false, cache) := by
  have : cache.txByHash.getTx txHash = none := absent
  simp only [removeTxByHash, TxByHashMap.removeTx, this]

@[simp] theorem removeTxByHash_config (cache : TxCache) (txHash : String) :
    (cache.removeTxByHash txHash).2.config = cache.config := by
  unfold removeTxByHash
  split <;> rfl

theorem removeTxByHash_of_stored {cache : TxCache} {txHash : String} {target : WrappedTransaction}
    (found : cache.getByTxHash txHash = some target) :
    (cache.removeTxByHash txHash).2 = { cache with
      txByHash := ((cache.txByHash.removeTx txHash).2.removeTxsBulk
        (cache.txListBySender.removeTransactionsWithLowerOrEqualNonceReturnHashes target).1).2,
      txListBySender := (cache.txListBySender.removeTransactionsWithLowerOrEqualNonceReturnHashes
        target).2 } := by
  have : cache.txByHash.getTx txHash = some target := found
  simp only [removeTxByHash, TxByHashMap.removeTx, this]
  split
  · rfl
  · next empty => rw [List.eq_nil_of_length_eq_zero (Nat.eq_zero_of_not_pos empty)]; rfl

/-- The sender's list after the removal: the transactions above the nonce, counted. -/
def keptAbove (l : TxListForSender) (nonce : Nat) : TxListForSender :=
  (l.removeTransactionsWithLowerOrEqualNonceReturnHashes nonce).2

theorem keptAbove_sender (l : TxListForSender) (nonce : Nat) : (keptAbove l nonce).sender = l.sender :=
  rfl

/-- The hashes the removal takes out of the map by hash: the one asked for, then those the
sender's list dropped. -/
def removedHashes (txHash : String) (l : TxListForSender) (nonce : Nat) : List String :=
  txHash :: (l.removeTransactionsWithLowerOrEqualNonceReturnHashes nonce).1

section Found

variable {cache : TxCache} (agree : cache.MapsAgree) {txHash : String} {t : WrappedTransaction}
  (found : cache.getByTxHash txHash = some t) {l : TxListForSender}
  (listFound : cache.txListBySender.getListForSender t.tx.sndAddr = some l)
include agree found listFound

theorem mem_list_of_found : t ∈ l.items :=
  (agree.mem_list_iff (TxListBySenderMap.mem_of_getListForSender listFound).1
    (TxByHashMap.mem_of_getTx found).1).2 (TxListBySenderMap.mem_of_getListForSender listFound).2.symm

/-- What `RemoveTxByHash` does to a stored hash: the list of its sender keeps the transactions
above its nonce, and the map by hash loses the hash and those the list dropped. -/
theorem removeTxByHash_of_found :
    cache.removeTxByHash txHash =
      (true, { cache with
        txByHash := (cache.txByHash.removeTxsBulk (removedHashes txHash l t.tx.nonce)).2,
        txListBySender := cache.txListBySender.updateListForSender (keptAbove l t.tx.nonce) }) := by
  have dropped : (l.removeTransactionsWithLowerOrEqualNonceReturnHashes t.tx.nonce).1.length > 0 :=
    List.length_pos_of_mem (List.mem_map_of_mem _
      (List.mem_filter.2 ⟨mem_list_of_found agree found listFound, by simp⟩))
  have : cache.txByHash.getTx txHash = some t := found
  simp only [removeTxByHash, TxByHashMap.removeTx, this,
    TxListBySenderMap.removeTransactionsWithLowerOrEqualNonceReturnHashes, listFound, dropped,
    if_true, removedHashes, keptAbove, TxByHashMap.removeTxsBulk]

theorem mem_removedHashes_iff {x : WrappedTransaction} (stored : x ∈ cache.txByHash.items) :
    x.txHash ∈ removedHashes txHash l t.tx.nonce ↔ cascadesFrom t x = true := by
  obtain ⟨tStored, tHash⟩ := TxByHashMap.mem_of_getTx found
  obtain ⟨lMem, lSender⟩ := TxListBySenderMap.mem_of_getListForSender listFound
  simp only [removedHashes, TxListForSender.removeTransactionsWithLowerOrEqualNonceReturnHashes,
    List.mem_cons, List.mem_map, List.mem_filter, cascadesFrom, Bool.and_eq_true, beq_iff_eq,
    decide_eq_true_eq]
  constructor
  · rintro (same | ⟨y, ⟨yMem, yNonce⟩, same⟩)
    · obtain rfl := agree.eq_of_txHash stored tStored (same.trans tHash.symm)
      exact ⟨rfl, le_refl _⟩
    · obtain rfl := agree.eq_of_txHash (agree.stored_of_mem_list lMem yMem) stored same
      exact ⟨(agree.ownSender l lMem y yMem).trans lSender, yNonce⟩
  · rintro ⟨sender, nonce⟩
    exact Or.inr ⟨x, ⟨(agree.mem_list_iff lMem stored).2 (sender.trans lSender.symm), nonce⟩, rfl⟩

theorem decide_mem_removedHashes {x : WrappedTransaction} (stored : x ∈ cache.txByHash.items) :
    decide (x.txHash ∈ removedHashes txHash l t.tx.nonce) = cascadesFrom t x :=
  Bool.eq_iff_iff.2 (decide_eq_true_iff.trans (mem_removedHashes_iff agree found listFound stored))

theorem removeTxByHash_items :
    (cache.removeTxByHash txHash).2.txByHash.items =
      cache.txByHash.items.filter (fun x => !cascadesFrom t x) := by
  rw [removeTxByHash_of_found agree found listFound, TxByHashMap.removeTxsBulk_items]
  exact List.filter_congr fun x stored => by
    rw [decide_not, decide_mem_removedHashes agree found listFound stored]

theorem removeTxByHash_countTx_numBytes :
    (cache.removeTxByHash txHash).2.countTx =
        cache.countTx - (cache.txByHash.items.filter (cascadesFrom t)).length ∧
      (cache.removeTxByHash txHash).2.numBytes =
        cache.numBytes - ((cache.txByHash.items.filter (cascadesFrom t)).map (·.size)).sum := by
  have same := List.filter_congr fun _ stored => decide_mem_removedHashes agree found listFound stored
  rw [removeTxByHash_of_found agree found listFound]
  simpa only [countTx, numBytes, same] using
    TxByHashMap.removeTxsBulk_counters agree.keysUnique (removedHashes txHash l t.tx.nonce)

omit found in
theorem keptAbove_items : (keptAbove l t.tx.nonce).items = l.items.filter (fun x => !cascadesFrom t x) := by
  obtain ⟨lMem, lSender⟩ := TxListBySenderMap.mem_of_getListForSender listFound
  refine List.filter_congr fun x xMem => ?_
  simp only [keptAbove, TxListForSender.removeTransactionsWithLowerOrEqualNonceReturnHashes,
    cascadesFrom, (agree.ownSender l lMem x xMem).trans lSender, beq_self_eq_true, Bool.true_and]
  rw [← decide_not]
  exact decide_eq_decide.2 Nat.not_le.symm

theorem removeTxByHash_listed :
    (cache.removeTxByHash txHash).2.txListBySender.listed.Perm
      (cache.txListBySender.listed.filter (fun x => !cascadesFrom t x)) := by
  obtain ⟨lMem, lSender⟩ := TxListBySenderMap.mem_of_getListForSender listFound
  rw [removeTxByHash_of_found agree found listFound]
  refine (TxListBySenderMap.listed_updateListForSender_perm agree.sendersUnique lMem
    (keptAbove_sender l t.tx.nonce)).trans
    (List.Perm.trans ?_ ((TxListBySenderMap.listed_perm_split agree.sendersUnique lMem).filter _).symm)
  rw [List.filter_append, keptAbove_items agree listFound]
  refine List.Perm.append_left _ (.of_eq (List.filter_eq_self.2 fun x xMem => ?_).symm)
  obtain ⟨other, otherMem, xMem⟩ := List.mem_flatMap.1 xMem
  obtain ⟨otherMem, different⟩ := List.mem_filter.1 otherMem
  have : x.tx.sndAddr ≠ t.tx.sndAddr := by
    rw [agree.ownSender other otherMem x xMem, ← lSender]; simpa using different
  simp [cascadesFrom, this]

theorem removeTxByHash_getListForSender (sender : String) :
    (cache.removeTxByHash txHash).2.txListBySender.getListForSender sender =
      if sender = t.tx.sndAddr then
        (if (l.items.filter (fun x => t.tx.nonce < x.tx.nonce)).isEmpty then none
        else some { l with
          items := l.items.filter (fun x => t.tx.nonce < x.tx.nonce),
          numBytes := l.numBytes - ((l.items.filter (fun x => x.tx.nonce ≤ t.tx.nonce)).map (·.size)).sum,
          numTxs := l.numTxs - (l.items.filter (fun x => x.tx.nonce ≤ t.tx.nonce)).length })
      else cache.txListBySender.getListForSender sender := by
  obtain ⟨lMem, lSender⟩ := TxListBySenderMap.mem_of_getListForSender listFound
  rw [removeTxByHash_of_found agree found listFound]
  simpa only [keptAbove, TxListForSender.removeTransactionsWithLowerOrEqualNonceReturnHashes, lSender] using
    TxListBySenderMap.getListForSender_updateListForSender agree.sendersUnique lMem
      (keptAbove_sender l t.tx.nonce) sender

theorem removeTxByHash_countSenders :
    (cache.removeTxByHash txHash).2.countSenders =
      if (l.items.filter (fun x => t.tx.nonce < x.tx.nonce)).isEmpty then cache.countSenders - 1
      else cache.countSenders := by
  rw [removeTxByHash_of_found agree found listFound]
  exact TxListBySenderMap.updateListForSender_counter agree.sendersUnique
    (TxListBySenderMap.mem_of_getListForSender listFound).1 (keptAbove_sender l t.tx.nonce)

theorem removeTxByHash_mapsAgree : (cache.removeTxByHash txHash).2.MapsAgree := by
  obtain ⟨lMem, -⟩ := TxListBySenderMap.mem_of_getListForSender listFound
  have perm := TxListBySenderMap.updateListForSender_perm agree.sendersUnique lMem
    (keptAbove_sender l t.tx.nonce)
  refine ⟨?_, ?_, ?_, ?_⟩
  · rw [removeTxByHash_of_found agree found listFound]
    exact TxByHashMap.removeTxsBulk_keys_nodup agree.keysUnique _
  · rw [removeTxByHash_of_found agree found listFound]
    exact TxListBySenderMap.updateListForSender_nodup agree.sendersUnique lMem
      (keptAbove_sender l t.tx.nonce)
  · rw [removeTxByHash_of_found agree found listFound]
    intro other otherMem x xMem
    rcases List.mem_append.1 (perm.mem_iff.1 otherMem) with kept | kept
    · have : other = keptAbove l t.tx.nonce := by
        split at kept <;> simp_all
      subst this
      exact agree.ownSender l lMem x (List.mem_of_mem_filter xMem)
    · exact agree.ownSender other (List.mem_of_mem_filter kept) x xMem
  · rw [removeTxByHash_items agree found listFound]
    exact (agree.same.filter _).trans (removeTxByHash_listed agree found listFound).symm

end Found

/-- What `RemoveTxByHash` of the stored `t`, of list `l`, does: it answers true, and both maps
lose exactly the transactions that cascade from `t`, the counters with them; the other
senders' lists and `l`'s transactions above `t`'s nonce stay as they were, and the maps still
agree. -/
structure RemovesCascade (cache : TxCache) (txHash : String) (t : WrappedTransaction)
    (l : TxListForSender) : Prop where
  answer : (cache.removeTxByHash txHash).1 = true
  items : (cache.removeTxByHash txHash).2.txByHash.items =
    cache.txByHash.items.filter (fun x => !cascadesFrom t x)
  listed : (cache.removeTxByHash txHash).2.txListBySender.listed.Perm
    (cache.txListBySender.listed.filter (fun x => !cascadesFrom t x))
  lists : ∀ sender, (cache.removeTxByHash txHash).2.txListBySender.getListForSender sender =
    if sender = t.tx.sndAddr then
      (if (l.items.filter (fun x => t.tx.nonce < x.tx.nonce)).isEmpty then none
      else some { l with
        items := l.items.filter (fun x => t.tx.nonce < x.tx.nonce),
        numBytes := l.numBytes - ((l.items.filter (fun x => x.tx.nonce ≤ t.tx.nonce)).map (·.size)).sum,
        numTxs := l.numTxs - (l.items.filter (fun x => x.tx.nonce ≤ t.tx.nonce)).length })
    else cache.txListBySender.getListForSender sender
  countTx : (cache.removeTxByHash txHash).2.countTx =
    cache.countTx - (cache.txByHash.items.filter (cascadesFrom t)).length
  numBytes : (cache.removeTxByHash txHash).2.numBytes =
    cache.numBytes - ((cache.txByHash.items.filter (cascadesFrom t)).map (·.size)).sum
  countSenders : (cache.removeTxByHash txHash).2.countSenders =
    if (l.items.filter (fun x => t.tx.nonce < x.tx.nonce)).isEmpty then cache.countSenders - 1
    else cache.countSenders
  mapsAgree : (cache.removeTxByHash txHash).2.MapsAgree

theorem removeTxByHash_cascades (cache : TxCache) (agree : cache.MapsAgree) (txHash : String) :
    (cache.getByTxHash txHash = none → cache.removeTxByHash txHash = (false, cache)) ∧
    ∀ t, cache.getByTxHash txHash = some t →
      ∃ l, cache.txListBySender.getListForSender t.tx.sndAddr = some l ∧ t ∈ l.items ∧
        RemovesCascade cache txHash t l := by
  refine ⟨removeTxByHash_of_absent, fun t found => ?_⟩
  obtain ⟨l, listFound, -⟩ := agree.list_of_stored (TxByHashMap.mem_of_getTx found).1
  have countTxNumBytes := removeTxByHash_countTx_numBytes agree found listFound
  refine ⟨l, listFound, mem_list_of_found agree found listFound, ?_⟩
  exact ⟨by rw [removeTxByHash_of_found agree found listFound], removeTxByHash_items agree found listFound,
    removeTxByHash_listed agree found listFound, removeTxByHash_getListForSender agree found listFound,
    countTxNumBytes.1, countTxNumBytes.2, removeTxByHash_countSenders agree found listFound,
    removeTxByHash_mapsAgree agree found listFound⟩

/-- Alice's transactions at nonces 1, 2, 2 (two siblings, the dearer first) and 3, and Bob's at
nonce 1, with agreeing maps. -/
def siblingsCache : TxCache :=
  let txs := [sampleTx "alice" "a" 1 1, sampleTx "alice" "b" 2 2, sampleTx "alice" "c" 2 1,
    sampleTx "alice" "d" 3 1, sampleTx "bob" "e" 1 1]
  { txListBySender :=
      { lists := [{ sender := "alice", items := txs.take 4, numBytes := 4, numTxs := 4 },
                  { sender := "bob", items := txs.drop 4, numBytes := 1, numTxs := 1 }],
        counter := 2, constraints := { maxNumTxs := 10, maxNumBytes := 10 } },
    txByHash := { items := txs, counter := 5, numBytes := 5 },
    config := { numBytesThreshold := 10, countThreshold := 10, numBytesPerSenderThreshold := 10,
                countPerSenderThreshold := 10, evictionEnabled := false,
                numItemsToPreemptivelyEvict := 1 } }

theorem siblingsCache_mapsAgree : siblingsCache.MapsAgree :=
  ⟨by decide, by decide, by decide, by decide⟩

/-- Removing the cheaper sibling at nonce 2 takes Alice's nonce-1 transaction and the dearer
sibling along. -/
theorem removeTxByHash_cascades_siblings :
    siblingsCache.MapsAgree ∧
      ((siblingsCache.getByTxHash "c" = none →
          siblingsCache.removeTxByHash "c" = (false, siblingsCache)) ∧
        ∀ t, siblingsCache.getByTxHash "c" = some t →
          ∃ l, siblingsCache.txListBySender.getListForSender t.tx.sndAddr = some l ∧ t ∈ l.items ∧
            RemovesCascade siblingsCache "c" t l) :=
  ⟨siblingsCache_mapsAgree, removeTxByHash_cascades siblingsCache siblingsCache_mapsAgree "c"⟩

end TxCache

end ChainStorage.Mempool
