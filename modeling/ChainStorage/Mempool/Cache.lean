import ChainStorage.Mempool.TxByHashMap
import ChainStorage.Mempool.TxListBySenderMap

/-! # The cache and its two maps

`TxCache` of `txCache.go`: the map by sender, the map by hash and the configuration, with the
counters the cache reports and the capacity test of `eviction.go`. This module holds the parts
of `AddTx` that run after the eviction (`addTxAfterEviction`), `RemoveTxByHash` and `Clear`;
the eviction itself and `AddTx` follow in `Eviction` and `Operations`.
-/

namespace ChainStorage.Mempool

/-- The options of `ConfigSourceMe` the cache reads (`Name` and `NumChunks` only name the cache
and shard its maps). -/
structure ConfigSourceMe where
  numBytesThreshold : Nat
  countThreshold : Nat
  numBytesPerSenderThreshold : Nat
  countPerSenderThreshold : Nat
  evictionEnabled : Bool
  numItemsToPreemptivelyEvict : Nat
  deriving DecidableEq, Repr

/-- Modelled from the spec: the per-sender caps, "NumBytesPerSenderThreshold | Per-sender byte
cap" and "CountPerSenderThreshold | Per-sender tx cap". -/
def ConfigSourceMe.getSenderConstraints (config : ConfigSourceMe) : SenderConstraints :=
  { maxNumTxs := config.countPerSenderThreshold, maxNumBytes := config.numBytesPerSenderThreshold }

structure TxCache where
  txListBySender : TxListBySenderMap
  txByHash : TxByHashMap
  config : ConfigSourceMe
  deriving DecidableEq, Repr

/-- `NewTxCache` once the configuration is verified: two empty maps. -/
def newTxCache (config : ConfigSourceMe) : TxCache :=
  { txListBySender := { lists := [], counter := 0, constraints := config.getSenderConstraints },
    txByHash := { items := [], counter := 0, numBytes := 0 },
    config := config }

namespace TxCache

def numBytes (cache : TxCache) : Nat := cache.txByHash.numBytes

def countTx (cache : TxCache) : Nat := cache.txByHash.counter

def countSenders (cache : TxCache) : Nat := cache.txListBySender.counter

def getByTxHash (cache : TxCache) (txHash : String) : Option WrappedTransaction :=
  cache.txByHash.getTx txHash

def areThereTooManyBytes (cache : TxCache) : Bool :=
  cache.numBytes > cache.config.numBytesThreshold

def areThereTooManySenders (cache : TxCache) : Bool :=
  cache.countSenders > cache.config.countThreshold

def areThereTooManyTxs (cache : TxCache) : Bool :=
  cache.countTx > cache.config.countThreshold

def isCapacityExceeded (cache : TxCache) : Bool :=
  cache.areThereTooManyBytes || cache.areThereTooManySenders || cache.areThereTooManyTxs

/-- `AddTx` from the mutation lock on: the insertion in both maps, then the bulk removal of the
hashes the sender's list evicted. Answers `(ok, added)`. -/
def addTxAfterEviction (cache : TxCache) (tx : WrappedTransaction) : (Bool × Bool) × TxCache :=
  let addedInByHash := cache.txByHash.addTx tx
  let addedInBySender := cache.txListBySender.addTxReturnEvicted tx
  let evicted := addedInBySender.2.1
  let txByHash := if evicted.length > 0 then (addedInByHash.2.removeTxsBulk evicted).2
    else addedInByHash.2
  ((true, addedInByHash.1 || addedInBySender.1),
    { cache with txByHash := txByHash, txListBySender := addedInBySender.2.2 })

/-- `RemoveTxByHash`: removes the transaction of the hash and, from its sender's list, every
transaction with a lower or equal nonce. -/
def removeTxByHash (cache : TxCache) (txHash : String) : Bool × TxCache :=
  match cache.txByHash.removeTx txHash with
  | (none, _) => (false, cache)
  | (some tx, txByHash) =>
    let evicted := cache.txListBySender.removeTransactionsWithLowerOrEqualNonceReturnHashes tx
    let txByHash := if evicted.1.length > 0 then (txByHash.removeTxsBulk evicted.1).2 else txByHash
    (true, { cache with txByHash := txByHash, txListBySender := evicted.2 })

def clear (cache : TxCache) : TxCache :=
  { cache with txListBySender := cache.txListBySender.clear, txByHash := cache.txByHash.clear }

/-- The two maps agree: each is a map (one entry per key), every listed transaction sits in the
list of its own sender, and both hold the same transactions. -/
structure MapsAgree (cache : TxCache) : Prop where
  keysUnique : cache.txByHash.keys.Nodup
  sendersUnique : (cache.txListBySender.lists.map (·.sender)).Nodup
  ownSender : ∀ l ∈ cache.txListBySender.lists, ∀ t ∈ l.items, t.tx.sndAddr = l.sender
  same : cache.txByHash.items.Perm cache.txListBySender.listed

namespace MapsAgree

variable {cache : TxCache} (agree : cache.MapsAgree)
include agree

theorem eq_of_txHash {a b : WrappedTransaction} (aMem : a ∈ cache.txByHash.items)
    (bMem : b ∈ cache.txByHash.items) (hash : a.txHash = b.txHash) : a = b :=
  List.inj_on_of_nodup_map agree.keysUnique aMem bMem hash

theorem mem_list_iff {l : TxListForSender} (lMem : l ∈ cache.txListBySender.lists)
    {t : WrappedTransaction} (stored : t ∈ cache.txByHash.items) :
    t ∈ l.items ↔ t.tx.sndAddr = l.sender := by
  refine ⟨agree.ownSender l lMem t, fun sender => ?_⟩
  obtain ⟨other, otherMem, inOther⟩ := TxListBySenderMap.mem_listed.1 (agree.same.mem_iff.1 stored)
  have : other = l := List.inj_on_of_nodup_map agree.sendersUnique otherMem lMem
    ((agree.ownSender other otherMem t inOther).symm.trans sender)
  exact this ▸ inOther

theorem stored_of_mem_list {l : TxListForSender} (lMem : l ∈ cache.txListBySender.lists)
    {t : WrappedTransaction} (listed : t ∈ l.items) : t ∈ cache.txByHash.items :=
  agree.same.mem_iff.2 (TxListBySenderMap.mem_listed.2 ⟨l, lMem, listed⟩)

theorem list_of_stored {t : WrappedTransaction} (stored : t ∈ cache.txByHash.items) :
    ∃ l, cache.txListBySender.getListForSender t.tx.sndAddr = some l ∧ t ∈ l.items := by
  obtain ⟨l, lMem, listed⟩ := TxListBySenderMap.mem_listed.1 (agree.same.mem_iff.1 stored)
  refine ⟨l, ?_, listed⟩
  rw [agree.ownSender l lMem t listed]
  exact TxListBySenderMap.getListForSender_of_mem agree.sendersUnique lMem

end MapsAgree

end TxCache

end ChainStorage.Mempool
