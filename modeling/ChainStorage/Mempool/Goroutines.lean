import ChainStorage.Mempool.Operations

/-! # Concurrent calls of the cache

`TxCache` leaves most of its synchronisation to its two maps: each call of `txByHash` or of
`txListBySender` is atomic (the maps' sources are not in the repository; their calls are taken
as atomic, as the spec describes the maps), and two mutexes order some of these calls.

- `mutTxOperation` is held by `AddTx` over its insertion in both maps, and by `RemoveTxByHash` and
  `Clear` over all their calls. `AddTx` unlocks it before it removes from `txByHash` the hashes
  its sender's list evicted.
- `evictionMutex`, with the flag `isEvictionInProgress`, lets one `doEviction` at a time run the
  eviction, which takes no part in `mutTxOperation`: each pass cuts the senders' lists, one
  sender at a time, then removes the collected hashes from `txByHash`.

A call in flight is a `Goroutine`: the point its code has reached between two atomic steps, with
the local values it carries there. `Calls` is the cache, the flag and the goroutines; an `Event`
starts a call or lets one goroutine take its next step, unless it waits on a mutex another
goroutine holds. Taking a mutex is merged into the step right after it, and releasing it into the
step right before it, since nothing of the goroutine happens in between. The range over
`lowestToEvictBySender`, a Go map, yields its entries in an order Go leaves open: the event that
resumes a goroutine in the range names the entry the range yields next.

`isCapacityExceeded` reads its three counters at once here, and the eviction reads its snapshot
of the lists at once.
-/

namespace ChainStorage.Mempool

/-- What a call answers when it returns. -/
inductive Answer where
  /-- `Clear`, and `doEviction`, whose journal `AddTx` drops. -/
  | nothing
  /-- `AddTx`: `(ok, added)`. -/
  | addTx (ok added : Bool)
  /-- `RemoveTxByHash`: whether the hash was found. -/
  | removeTxByHash (found : Bool)
  deriving DecidableEq, Repr

/-- Where a call in flight stands: the atomic step it takes next, with its local values. The
points of `doEviction` carry `andThen`, the transaction `AddTx` inserts once the eviction is
over (`none` when `doEviction` was called on its own). -/
inductive Goroutine where
  /-- `doEviction`, about to read `isEvictionInProgress`. -/
  | doEviction (andThen : Option WrappedTransaction)
  /-- About to test the capacity before taking `evictionMutex`. -/
  | checkCapacity (andThen : Option WrappedTransaction)
  /-- About to take `evictionMutex`. -/
  | lockEviction (andThen : Option WrappedTransaction)
  /-- Holding `evictionMutex`, about to set `isEvictionInProgress`. -/
  | setEvictionInProgress (andThen : Option WrappedTransaction)
  /-- About to test the capacity again, under the mutex. -/
  | recheckCapacity (andThen : Option WrappedTransaction)
  /-- `evictLeastLikelyToSelectTransactions`, about to snapshot the lists. -/
  | evict (andThen : Option WrappedTransaction)
  /-- At the head of a pass, with the heap the passes share. -/
  | evictionPass (heap : List TransactionsHeapItem) (andThen : Option WrappedTransaction)
  /-- In the range over `lowestToEvictBySender`: the entries not yet reached, the hashes of the
  pass's `transactionsToEvict`, and the heap. -/
  | evictionCut (lowest : List (String × Nat)) (hashes : List String)
      (heap : List TransactionsHeapItem) (andThen : Option WrappedTransaction)
  /-- The deferred `Reset` of `isEvictionInProgress`. -/
  | resetEvictionInProgress (andThen : Option WrappedTransaction)
  /-- The deferred `Unlock` of `evictionMutex`. -/
  | unlockEviction (andThen : Option WrappedTransaction)
  /-- `AddTx`, about to take `mutTxOperation` and add to `txByHash`. -/
  | addTx (tx : WrappedTransaction)
  /-- Holding `mutTxOperation`, about to add to `txListBySender`. -/
  | addTxToSender (tx : WrappedTransaction) (addedInByHash : Bool)
  /-- Past `Unlock`, about to remove the evicted hashes from `txByHash`. -/
  | addTxRemoveEvicted (added : Bool) (evicted : List String)
  /-- `RemoveTxByHash`, about to take `mutTxOperation` and remove from `txByHash`. -/
  | removeTxByHash (txHash : String)
  /-- Holding `mutTxOperation`, `tx` removed from `txByHash`, about to cut its sender's list. -/
  | removeTxByHashFromSender (tx : WrappedTransaction)
  /-- Holding `mutTxOperation`, about to remove the evicted hashes from `txByHash`. -/
  | removeTxByHashRemoveEvicted (evicted : List String)
  /-- `Clear`, about to take `mutTxOperation` and clear `txListBySender`. -/
  | clear
  /-- Holding `mutTxOperation`, about to clear `txByHash`. -/
  | clearTxByHash
  /-- The call has returned. -/
  | returned (answer : Answer)
  deriving DecidableEq, Repr

namespace Goroutine

/-- Where `doEviction` returns to: the insertion of `AddTx`, or the end of the call. -/
def afterEviction : Option WrappedTransaction → Goroutine
  | some tx => addTx tx
  | none => returned .nothing

def holdsTxOperation : Goroutine → Bool
  | addTxToSender _ _ | removeTxByHashFromSender _ | removeTxByHashRemoveEvicted _ | clearTxByHash => true
  | _ => false

def takesTxOperation : Goroutine → Bool
  | addTx _ | removeTxByHash _ | clear => true
  | _ => false

def holdsEviction : Goroutine → Bool
  | setEvictionInProgress _ | recheckCapacity _ | evict _ | evictionPass _ _ | evictionCut _ _ _ _
  | resetEvictionInProgress _ | unlockEviction _ => true
  | _ => false

def takesEviction : Goroutine → Bool
  | lockEviction _ => true
  | _ => false

/-- Whether the goroutine is past its `SetReturningPrevious` of `isEvictionInProgress` and not
past its `Reset`. -/
def evicting : Goroutine → Bool
  | recheckCapacity _ | evict _ | evictionPass _ _ | evictionCut _ _ _ _ | resetEvictionInProgress _ => true
  | _ => false

section Step

variable (less : WrappedTransaction → WrappedTransaction → Bool)

/-- The goroutine's next atomic step, from the cache and the flag: the cache and the flag after
it, and where the goroutine then stands. `entry` is the entry of `lowestToEvictBySender` the
range yields, when the goroutine is in the range; an `entry` past the range's end leaves
everything as it is. -/
def step (cache : TxCache) (isEvictionInProgress : Bool) (entry : Nat) :
    Goroutine → TxCache × Bool × Goroutine
  | doEviction andThen =>
    (cache, isEvictionInProgress,
      if isEvictionInProgress then afterEviction andThen else checkCapacity andThen)
  | checkCapacity andThen =>
    (cache, isEvictionInProgress,
      if cache.isCapacityExceeded then lockEviction andThen else afterEviction andThen)
  | lockEviction andThen => (cache, isEvictionInProgress, setEvictionInProgress andThen)
  | setEvictionInProgress andThen => (cache, true, recheckCapacity andThen)
  | recheckCapacity andThen =>
    (cache, isEvictionInProgress,
      if cache.isCapacityExceeded then evict andThen else resetEvictionInProgress andThen)
  | evict andThen =>
    (cache, isEvictionInProgress, evictionPass (cache.bunches.filterMap newTransactionsHeapItem) andThen)
  | evictionPass heap andThen =>
    let selected := selectTransactionsToEvict less cache.config.numItemsToPreemptivelyEvict heap
    if cache.isCapacityExceeded && !selected.1.isEmpty then
      (cache, isEvictionInProgress,
        evictionCut (lowestToEvictBySender selected.1) (selected.1.map (·.txHash)) selected.2 andThen)
    else (cache, isEvictionInProgress, resetEvictionInProgress andThen)
  | evictionCut lowest hashes heap andThen =>
    match lowest[entry]? with
    | some (sender, nonce) =>
      ({ cache with
          txListBySender := cache.txListBySender.removeTransactionsWithHigherOrEqualNonce sender nonce },
        isEvictionInProgress, evictionCut (lowest.erase (sender, nonce)) hashes heap andThen)
    | none =>
      if lowest.isEmpty then
        ({ cache with txByHash := (cache.txByHash.removeTxsBulk hashes).2 }, isEvictionInProgress,
          evictionPass heap andThen)
      else (cache, isEvictionInProgress, evictionCut lowest hashes heap andThen)
  | resetEvictionInProgress andThen => (cache, false, unlockEviction andThen)
  | unlockEviction andThen => (cache, isEvictionInProgress, afterEviction andThen)
  | addTx tx =>
    let addedInByHash := cache.txByHash.addTx tx
    ({ cache with txByHash := addedInByHash.2 }, isEvictionInProgress, addTxToSender tx addedInByHash.1)
  | addTxToSender tx addedInByHash =>
    let addedInBySender := cache.txListBySender.addTxReturnEvicted tx
    let added := addedInByHash || addedInBySender.1
    ({ cache with txListBySender := addedInBySender.2.2 }, isEvictionInProgress,
      if addedInBySender.2.1.length > 0 then addTxRemoveEvicted added addedInBySender.2.1
      else returned (.addTx true added))
  | addTxRemoveEvicted added evicted =>
    ({ cache with txByHash := (cache.txByHash.removeTxsBulk evicted).2 }, isEvictionInProgress,
      returned (.addTx true added))
  | removeTxByHash txHash =>
    match cache.txByHash.removeTx txHash with
    | (none, _) => (cache, isEvictionInProgress, returned (.removeTxByHash false))
    | (some tx, txByHash) => ({ cache with txByHash := txByHash }, isEvictionInProgress, removeTxByHashFromSender tx)
  | removeTxByHashFromSender tx =>
    let evicted := cache.txListBySender.removeTransactionsWithLowerOrEqualNonceReturnHashes tx
    ({ cache with txListBySender := evicted.2 }, isEvictionInProgress,
      if evicted.1.length > 0 then removeTxByHashRemoveEvicted evicted.1
      else returned (.removeTxByHash true))
  | removeTxByHashRemoveEvicted evicted =>
    ({ cache with txByHash := (cache.txByHash.removeTxsBulk evicted).2 }, isEvictionInProgress,
      returned (.removeTxByHash true))
  | clear => ({ cache with txListBySender := cache.txListBySender.clear }, isEvictionInProgress, clearTxByHash)
  | clearTxByHash => ({ cache with txByHash := cache.txByHash.clear }, isEvictionInProgress, returned .nothing)
  | returned answer => (cache, isEvictionInProgress, returned answer)

end Step

end Goroutine

/-- The goroutine of a call as it starts: `AddTx` of a nil transaction returns `(false, false)`
at once, and `AddTx` runs `doEviction` first when eviction is enabled. -/
def Operation.start (config : ConfigSourceMe) : Operation → Goroutine
  | .addTx none => .returned (.addTx false false)
  | .addTx (some tx) => if config.evictionEnabled then .doEviction (some tx) else .addTx tx
  | .removeTxByHash txHash => .removeTxByHash txHash
  | .clear => .clear
  | .doEviction => .doEviction none

/-- The cache, the flag `isEvictionInProgress`, and the calls in flight. -/
structure Calls where
  cache : TxCache
  isEvictionInProgress : Bool
  goroutines : List Goroutine
  deriving DecidableEq, Repr

/-- What the scheduler lets happen next. -/
inductive Event where
  /-- A new goroutine makes a call. -/
  | call (operation : Operation)
  /-- Goroutine `i` takes its next step; `entry` is the entry of `lowestToEvictBySender` the range
  yields, when the goroutine is in the range. -/
  | resume (i entry : Nat)
  deriving DecidableEq, Repr

/-- The transaction an event's call adds, if any. -/
def Event.added : Event → List WrappedTransaction
  | .call operation => operation.added
  | .resume _ _ => []

namespace Calls

def initial (config : ConfigSourceMe) : Calls :=
  { cache := newTxCache config, isEvictionInProgress := false, goroutines := [] }

/-- Whether the goroutine's next step waits on a mutex some goroutine holds. -/
def blocked (calls : Calls) (g : Goroutine) : Bool :=
  g.takesTxOperation && calls.goroutines.any (·.holdsTxOperation) ||
    g.takesEviction && calls.goroutines.any (·.holdsEviction)

variable (less : WrappedTransaction → WrappedTransaction → Bool)

def apply (calls : Calls) : Event → Calls
  | .call operation =>
    { calls with goroutines := calls.goroutines ++ [operation.start calls.cache.config] }
  | .resume i entry =>
    match calls.goroutines[i]? with
    | none => calls
    | some g =>
      if calls.blocked g then calls
      else
        let stepped := g.step less calls.cache calls.isEvictionInProgress entry
        { cache := stepped.1, isEvictionInProgress := stepped.2.1,
          goroutines := calls.goroutines.set i stepped.2.2 }

def run (calls : Calls) (events : List Event) : Calls :=
  events.foldl (apply less) calls

end Calls

end ChainStorage.Mempool
