import ChainStorage.Mempool.Eviction

/-! # `AddTx` and runs of the cache

`AddTx` of `txCache.go` (the eviction when enabled, then `addTxAfterEviction`), and the runs this
development quantifies over: the cache's mutating operations executed one at a time.
-/

namespace ChainStorage.Mempool

section Runs

variable (less : WrappedTransaction → WrappedTransaction → Bool)

/-- `AddTx`. `none` stands for a nil transaction or a nil inner handler, both rejected with
`(false, false)`. -/
def TxCache.addTx (cache : TxCache) : Option WrappedTransaction → (Bool × Bool) × TxCache
  | none => ((false, false), cache)
  | some tx =>
    let evicted := if cache.config.evictionEnabled then (cache.doEviction less).2 else cache
    evicted.addTxAfterEviction tx

/-- The mutating operations of the cache. -/
inductive Operation where
  | addTx (tx : Option WrappedTransaction)
  | removeTxByHash (txHash : String)
  | clear
  | doEviction
  deriving DecidableEq, Repr

def TxCache.apply (cache : TxCache) : Operation → TxCache
  | .addTx tx => (cache.addTx less tx).2
  | .removeTxByHash txHash => (cache.removeTxByHash txHash).2
  | .clear => cache.clear
  | .doEviction => (cache.doEviction less).2

def TxCache.run (cache : TxCache) (operations : List Operation) : TxCache :=
  operations.foldl (TxCache.apply less) cache

theorem run_induction (P : TxCache → Prop) (operations : List Operation)
    (step : ∀ cache operation, operation ∈ operations → P cache → P (cache.apply less operation)) :
    ∀ {cache : TxCache}, P cache → P (cache.run less operations) := by
  induction operations with
  | nil => exact id
  | cons operation operations inductionHypothesis =>
    intro cache holds
    exact inductionHypothesis (fun cache op mem => step cache op (List.mem_cons_of_mem _ mem))
      (step cache operation (List.mem_cons_self _ _) holds)

end Runs

def Operation.added : Operation → List WrappedTransaction
  | .addTx (some tx) => [tx]
  | _ => []

/-- The hash of a transaction identifies it: two transactions with one hash are one. -/
def HashesIdentify (transactions : List WrappedTransaction) : Prop :=
  ∀ a ∈ transactions, ∀ b ∈ transactions, a.txHash = b.txHash → a = b

instance (transactions : List WrappedTransaction) : Decidable (HashesIdentify transactions) :=
  inferInstanceAs (Decidable (∀ a ∈ transactions, ∀ b ∈ transactions, a.txHash = b.txHash → a = b))

theorem HashesIdentify.of_subset {transactions others : List WrappedTransaction}
    (identified : HashesIdentify transactions) (subset : ∀ t ∈ others, t ∈ transactions) :
    HashesIdentify others :=
  fun a aMem b bMem => identified a (subset a aMem) b (subset b bMem)

end ChainStorage.Mempool
