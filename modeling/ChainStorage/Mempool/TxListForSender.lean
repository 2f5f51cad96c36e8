import ChainStorage.Mempool.WrappedTransaction

/-! # The list of one sender

Modelled from the spec (the list's source file is not part of the repository's sources): "an
ordered sequence of WrappedTransaction strictly ascending by nonce; ties broken by gas-price
descending, then by hash lexicographic ascending. Maintains counters: `numBytes`, `numTxs`. [...]
On insertion violating a constraint, the list evicts its own highest-nonce transactions until
constraints hold, returning their hashes."

The spec lemmas, one per operation, say everything the callers use: `insertInOrder_perm` and
`insertInOrder_sorted` for the sorted insertion, `applySizeConstraints_spec` for the eviction
from the back, `addTx_of_duplicate` and `addTx_spec` for `addTx`.
-/

namespace ChainStorage.Mempool

/-- `senderConstraints`: the per-sender caps, from `CountPerSenderThreshold` and
`NumBytesPerSenderThreshold`. -/
structure SenderConstraints where
  maxNumTxs : Nat
  maxNumBytes : Nat
  deriving DecidableEq, Repr

/-- Modelled from the spec: a sender's transactions (front = lowest nonce) and its counters. -/
structure TxListForSender where
  sender : String
  items : List WrappedTransaction
  numBytes : Nat
  numTxs : Nat
  deriving DecidableEq, Repr

namespace TxListForSender

/-- Modelled from the spec: the per-sender constraints are violated. -/
def isCapacityExceeded (constraints : SenderConstraints) (l : TxListForSender) : Bool :=
  l.numBytes > constraints.maxNumBytes || l.numTxs > constraints.maxNumTxs

/-- Modelled from the spec: "inserts in nonce order": before the first transaction the new one
sorts before. -/
def insertInOrder (tx : WrappedTransaction) : List WrappedTransaction → List WrappedTransaction
  | [] => [tx]
  | item :: items => if tx.sortsBefore item then tx :: item :: items else item :: insertInOrder tx items

/-- Modelled from the spec: the shrinking loop, over what is left of the list taken back to
front; each step removes the last transaction and records its hash. -/
def shrinkFromBack (constraints : SenderConstraints) (l : TxListForSender) :
    List WrappedTransaction → List String × TxListForSender
  | [] => ([], { l with items := [] })
  | last :: before =>
    if l.isCapacityExceeded constraints then
      let shrunk := shrinkFromBack constraints
        { l with numBytes := l.numBytes - last.size, numTxs := l.numTxs - 1 } before
      (last.txHash :: shrunk.1, shrunk.2)
    else ([], { l with items := (last :: before).reverse })

/-- Modelled from the spec: "shrinks the list until per-sender constraints hold, returning
evicted hashes". -/
def applySizeConstraints (constraints : SenderConstraints) (l : TxListForSender) :
    List String × TxListForSender :=
  shrinkFromBack constraints l l.items.reverse

/-- Modelled from the spec: whether some transaction of the list has the nonce and hash of
`tx` ("no-op if (nonce,hash) already present"). -/
def hasDuplicate (l : TxListForSender) (tx : WrappedTransaction) : Bool :=
  l.items.any fun item => item.tx.nonce == tx.tx.nonce && item.txHash == tx.txHash

/-- Modelled from the spec: `AddTx` of the list: the sorted insertion, then the size
constraints; answers whether the transaction was added and the evicted hashes. -/
def addTx (constraints : SenderConstraints) (l : TxListForSender) (tx : WrappedTransaction) :
    Bool × List String × TxListForSender :=
  if l.hasDuplicate tx then (false, [], l)
  else
    let shrunk := applySizeConstraints constraints
      { l with items := insertInOrder tx l.items, numBytes := l.numBytes + tx.size,
               numTxs := l.numTxs + 1 }
    (true, shrunk.1, shrunk.2)

/-- Modelled from the spec: "remove every transaction with nonce ≤ tx.nonce, returning their
hashes". -/
def removeTransactionsWithLowerOrEqualNonceReturnHashes (l : TxListForSender) (targetNonce : Nat) :
    List String × TxListForSender :=
  let removed := l.items.filter fun t => t.tx.nonce ≤ targetNonce
  (removed.map (·.txHash),
    { l with items := l.items.filter (fun t => targetNonce < t.tx.nonce),
             numBytes := l.numBytes - (removed.map (·.size)).sum,
             numTxs := l.numTxs - removed.length })

/-- Modelled from the spec: "remove from its per-sender list every transaction with nonce ≥
that lowest nonce in one operation". -/
def removeTransactionsWithHigherOrEqualNonce (l : TxListForSender) (givenNonce : Nat) :
    TxListForSender :=
  let removed := l.items.filter fun t => givenNonce ≤ t.tx.nonce
  { l with items := l.items.filter (fun t => t.tx.nonce < givenNonce),
           numBytes := l.numBytes - (removed.map (·.size)).sum,
           numTxs := l.numTxs - removed.length }

/-- Modelled from the spec: a bunch, "the sender's transactions in reversed nonce order". -/
def getTxsReversed (l : TxListForSender) : List WrappedTransaction := l.items.reverse

/-! ## Insertion -/

theorem insertInOrder_perm (tx : WrappedTransaction) :
    ∀ items, (insertInOrder tx items).Perm (tx :: items)
  | [] => .refl _
  | item :: items => by
    unfold insertInOrder
    split
    · exact .refl _
    · exact ((insertInOrder_perm tx items).cons item).trans (.swap tx item items)

@[simp] theorem mem_insertInOrder {tx t : WrappedTransaction} {items : List WrappedTransaction} :
    t ∈ insertInOrder tx items ↔ t = tx ∨ t ∈ items := by
  simp [(insertInOrder_perm tx items).mem_iff]

theorem insertInOrder_sorted {tx : WrappedTransaction} :
    ∀ {items : List WrappedTransaction}, items.Pairwise (fun a b => a.sortsBefore b = true) →
      (∀ t ∈ items, ¬ (tx.tx.nonce = t.tx.nonce ∧ tx.tx.gasPrice = t.tx.gasPrice ∧
        tx.txHash = t.txHash)) →
      (insertInOrder tx items).Pairwise (fun a b => a.sortsBefore b = true)
  | [], _, _ => List.pairwise_singleton _ _
  | item :: items, sorted, distinct => by
    obtain ⟨itemFirst, sortedRest⟩ := List.pairwise_cons.1 sorted
    unfold insertInOrder
    split
    · next before =>
      refine List.Pairwise.cons (fun t mem => ?_) sorted
      rcases List.mem_cons.1 mem with rfl | mem
      · exact before
      · exact WrappedTransaction.sortsBefore_trans before (itemFirst t mem)
    · next notBefore =>
      have after : item.sortsBefore tx = true := by
        simpa [notBefore] using WrappedTransaction.sortsBefore_total (distinct item (by simp))
      refine List.Pairwise.cons ?_ (insertInOrder_sorted sortedRest
        fun t mem => distinct t (List.mem_cons_of_mem _ mem))
      intro t mem
      rcases mem_insertInOrder.1 mem with rfl | mem
      · exact after
      · exact itemFirst t mem

theorem insertInOrder_split (tx : WrappedTransaction) :
    ∀ items : List WrappedTransaction, ∃ front back, items = front ++ back ∧
      insertInOrder tx items = front ++ tx :: back ∧ ∀ t ∈ front, tx.sortsBefore t = false
  | [] => ⟨[], [], rfl, rfl, by simp⟩
  | item :: items => by
    unfold insertInOrder
    split
    · exact ⟨[], item :: items, rfl, rfl, by simp⟩
    · next notBefore =>
      obtain ⟨front, back, split, inserted, after⟩ := insertInOrder_split tx items
      refine ⟨item :: front, back, by rw [split]; rfl, by rw [inserted]; rfl, fun t mem => ?_⟩
      rcases List.mem_cons.1 mem with rfl | mem
      · simpa using notBefore
      · exact after t mem

theorem insertInOrder_of_forall {tx : WrappedTransaction} :
    ∀ {items : List WrappedTransaction}, (∀ t ∈ items, tx.sortsBefore t = false) →
      insertInOrder tx items = items ++ [tx]
  | [], _ => rfl
  | item :: items, after => by
    rw [insertInOrder, if_neg (by simp [after item (List.mem_cons_self _ _)]),
      insertInOrder_of_forall (fun t mem => after t (List.mem_cons_of_mem _ mem))]
    rfl

theorem hasDuplicate_eq_false {l : TxListForSender} {tx : WrappedTransaction}
    (distinct : ∀ t ∈ l.items, t.txHash ≠ tx.txHash) : l.hasDuplicate tx = false :=
  List.any_eq_false.2 fun t mem => by simp [distinct t mem]

/-! ## Size constraints -/

/-- The counters after the `dropped` last transactions are removed, the list's items left aside
(the constraint check reads only the counters). -/
def dropCounters (l : TxListForSender) (dropped : List WrappedTransaction) : TxListForSender :=
  { l with numBytes := l.numBytes - (dropped.map (·.size)).sum, numTxs := l.numTxs - dropped.length }

@[simp] theorem dropCounters_nil (l : TxListForSender) : dropCounters l [] = l := by
  simp [dropCounters]

theorem dropCounters_cons (l : TxListForSender) (last : WrappedTransaction) (rest : List WrappedTransaction) :
    dropCounters l (last :: rest) =
      dropCounters { l with numBytes := l.numBytes - last.size, numTxs := l.numTxs - 1 } rest := by
  simp only [dropCounters, List.map_cons, List.sum_cons, List.length_cons, Nat.sub_sub, Nat.add_comm 1]

theorem shrinkFromBack_spec (constraints : SenderConstraints) :
    ∀ (backToFront : List WrappedTransaction) (l : TxListForSender),
      ∃ k ≤ backToFront.length,
        shrinkFromBack constraints l backToFront =
          ((backToFront.take k).map (·.txHash),
            { dropCounters l (backToFront.take k) with items := (backToFront.drop k).reverse }) ∧
        (∀ j < k, (dropCounters l (backToFront.take j)).isCapacityExceeded constraints = true) ∧
        (k < backToFront.length →
          (dropCounters l (backToFront.take k)).isCapacityExceeded constraints = false)
  | [], l => ⟨0, le_rfl, by simp [shrinkFromBack], by simp, by simp⟩
  | last :: before, l => by
    by_cases exceeded : l.isCapacityExceeded constraints = true
    · obtain ⟨k, bound, equation, stillExceeded, stops⟩ := shrinkFromBack_spec constraints before
        { l with numBytes := l.numBytes - last.size, numTxs := l.numTxs - 1 }
      refine ⟨k + 1, Nat.succ_le_succ bound, ?_, fun j lt => ?_, fun lt => ?_⟩
      · simp only [shrinkFromBack, exceeded, if_true, equation, List.take_succ_cons, List.drop_succ_cons,
          List.map_cons, dropCounters_cons]
      · cases j with
        | zero => simpa using exceeded
        | succ j =>
          rw [List.take_succ_cons, dropCounters_cons]
          exact stillExceeded j (by omega)
      · rw [List.take_succ_cons, dropCounters_cons]
        exact stops (by simpa using lt)
    · refine ⟨0, Nat.zero_le _, ?_, by simp, by simpa using exceeded⟩
      simp [shrinkFromBack, exceeded]

theorem applySizeConstraints_spec (constraints : SenderConstraints) (l : TxListForSender) :
    ∃ k ≤ l.items.length,
      l.applySizeConstraints constraints =
        ((l.items.reverse.take k).map (·.txHash),
          { dropCounters l (l.items.reverse.take k) with items := (l.items.reverse.drop k).reverse }) ∧
      (∀ j < k, (dropCounters l (l.items.reverse.take j)).isCapacityExceeded constraints = true) ∧
      (k < l.items.length →
        (dropCounters l (l.items.reverse.take k)).isCapacityExceeded constraints = false) := by
  simpa using shrinkFromBack_spec constraints l.items.reverse l

/-! ## `addTx` -/

theorem addTx_of_duplicate {constraints : SenderConstraints} {l : TxListForSender}
    {tx : WrappedTransaction} (duplicate : l.hasDuplicate tx = true) :
    l.addTx constraints tx = (false, [], l) := by
  simp [addTx, duplicate]

def withInserted (l : TxListForSender) (tx : WrappedTransaction) : TxListForSender :=
  { l with items := insertInOrder tx l.items, numBytes := l.numBytes + tx.size,
           numTxs := l.numTxs + 1 }

theorem addTx_of_not_duplicate {constraints : SenderConstraints} {l : TxListForSender}
    {tx : WrappedTransaction} (fresh : l.hasDuplicate tx = false) :
    l.addTx constraints tx =
      (true, ((l.withInserted tx).applySizeConstraints constraints).1,
        ((l.withInserted tx).applySizeConstraints constraints).2) := by
  simp [addTx, fresh, withInserted]

theorem addTx_fst (constraints : SenderConstraints) (l : TxListForSender) (tx : WrappedTransaction) :
    (l.addTx constraints tx).1 = !l.hasDuplicate tx := by
  cases fresh : l.hasDuplicate tx
  · simp [addTx_of_not_duplicate fresh]
  · simp [addTx_of_duplicate fresh]

theorem distinct_of_not_duplicate {l : TxListForSender} {tx : WrappedTransaction}
    (fresh : l.hasDuplicate tx = false) :
    ∀ t ∈ l.items, ¬ (tx.tx.nonce = t.tx.nonce ∧ tx.tx.gasPrice = t.tx.gasPrice ∧ tx.txHash = t.txHash) := by
  rintro t mem ⟨nonce, -, hash⟩
  have : l.hasDuplicate tx = true := List.any_eq_true.2 ⟨t, mem, by simp [nonce, hash]⟩
  simp [this] at fresh

theorem addTx_dropped (constraints : SenderConstraints) (l : TxListForSender) (tx : WrappedTransaction) :
    ∃ dropped : List WrappedTransaction,
      (if (l.addTx constraints tx).1 then insertInOrder tx l.items else l.items) =
        (l.addTx constraints tx).2.2.items ++ dropped ∧
      (l.addTx constraints tx).2.1 = dropped.reverse.map (·.txHash) := by
  cases fresh : l.hasDuplicate tx
  · rw [addTx_of_not_duplicate fresh]
    obtain ⟨k, -, equation, -⟩ := applySizeConstraints_spec constraints (l.withInserted tx)
    refine ⟨((l.withInserted tx).items.reverse.take k).reverse, ?_, ?_⟩
    · rw [equation]
      simp only [if_true]
      rw [← List.reverse_append, List.take_append_drop, List.reverse_reverse]
      rfl
    · rw [equation]; simp
  · rw [addTx_of_duplicate fresh]
    exact ⟨[], by simp, rfl⟩

theorem mem_addTx {constraints : SenderConstraints} {l : TxListForSender} {tx t : WrappedTransaction}
    (mem : t ∈ (l.addTx constraints tx).2.2.items) : t = tx ∨ t ∈ l.items := by
  obtain ⟨dropped, equation, -⟩ := addTx_dropped constraints l tx
  have : t ∈ (if (l.addTx constraints tx).1 then insertInOrder tx l.items else l.items) := by
    rw [equation]; exact List.mem_append_left _ mem
  split at this
  · exact mem_insertInOrder.1 this
  · exact Or.inr this

/-! ## Well-formed lists -/

/-- What every list of a run satisfies: sorted, all of its own sender, counters that count it,
within the per-sender caps. -/
structure WellFormed (constraints : SenderConstraints) (l : TxListForSender) : Prop where
  sorted : l.items.Pairwise (fun a b => a.sortsBefore b = true)
  ownSender : ∀ t ∈ l.items, t.tx.sndAddr = l.sender
  numTxs_eq : l.numTxs = l.items.length
  numBytes_eq : l.numBytes = (l.items.map (·.size)).sum
  within : l.isCapacityExceeded constraints = false

theorem sum_sizes_filter_add (items : List WrappedTransaction) (p : WrappedTransaction → Bool) :
    ((items.filter p).map (·.size)).sum + ((items.filter (fun t => !p t)).map (·.size)).sum =
      (items.map (·.size)).sum := by
  rw [← List.sum_append, ← List.map_append]
  exact ((List.filter_append_perm p items).map _).sum_eq

theorem wellFormed_filter {constraints : SenderConstraints} {l : TxListForSender}
    (wellFormed : l.WellFormed constraints) (p : WrappedTransaction → Bool) :
    ({ l with items := l.items.filter p,
               numBytes := l.numBytes - ((l.items.filter (fun t => !p t)).map (·.size)).sum,
               numTxs := l.numTxs - (l.items.filter (fun t => !p t)).length } : TxListForSender).WellFormed
      constraints := by
  have bytes := sum_sizes_filter_add l.items p
  have count := List.length_eq_length_filter_add (l := l.items) p
  refine ⟨wellFormed.sorted.sublist (List.filter_sublist _),
    fun t mem => wellFormed.ownSender t (List.mem_of_mem_filter mem), ?_, ?_, ?_⟩
  · dsimp only; rw [wellFormed.numTxs_eq]; omega
  · dsimp only; rw [wellFormed.numBytes_eq]; omega
  · have := wellFormed.within
    simp only [isCapacityExceeded, Bool.or_eq_false_iff, decide_eq_false_iff_not, not_lt] at this ⊢
    omega

theorem removeTransactionsWithLowerOrEqualNonceReturnHashes_eq (l : TxListForSender)
    (targetNonce : Nat) :
    l.removeTransactionsWithLowerOrEqualNonceReturnHashes targetNonce =
      ((l.items.filter (fun t => !decide (targetNonce < t.tx.nonce))).map (·.txHash),
        { l with items := l.items.filter (fun t => decide (targetNonce < t.tx.nonce)),
                 numBytes := l.numBytes -
                   ((l.items.filter (fun t => !decide (targetNonce < t.tx.nonce))).map (·.size)).sum,
                 numTxs := l.numTxs -
                   (l.items.filter (fun t => !decide (targetNonce < t.tx.nonce))).length }) := by
  have same : l.items.filter (fun t => decide (t.tx.nonce ≤ targetNonce)) =
      l.items.filter (fun t => !decide (targetNonce < t.tx.nonce)) :=
    List.filter_congr (fun t _ => by rw [← decide_not]; exact decide_eq_decide.2 Nat.not_lt.symm)
  simp only [removeTransactionsWithLowerOrEqualNonceReturnHashes, same]

theorem removeTransactionsWithHigherOrEqualNonce_eq (l : TxListForSender) (givenNonce : Nat) :
    l.removeTransactionsWithHigherOrEqualNonce givenNonce =
      { l with items := l.items.filter (fun t => decide (t.tx.nonce < givenNonce)),
               numBytes := l.numBytes -
                 ((l.items.filter (fun t => !decide (t.tx.nonce < givenNonce))).map (·.size)).sum,
               numTxs := l.numTxs -
                 (l.items.filter (fun t => !decide (t.tx.nonce < givenNonce))).length } := by
  have same : l.items.filter (fun t => decide (givenNonce ≤ t.tx.nonce)) =
      l.items.filter (fun t => !decide (t.tx.nonce < givenNonce)) :=
    List.filter_congr (fun t _ => by rw [← decide_not]; exact decide_eq_decide.2 Nat.not_lt.symm)
  simp only [removeTransactionsWithHigherOrEqualNonce, same]

theorem removeTransactionsWithLowerOrEqualNonceReturnHashes_wellFormed
    {constraints : SenderConstraints} {l : TxListForSender} (wellFormed : l.WellFormed constraints)
    (targetNonce : Nat) :
    (l.removeTransactionsWithLowerOrEqualNonceReturnHashes targetNonce).2.WellFormed constraints := by
  rw [removeTransactionsWithLowerOrEqualNonceReturnHashes_eq]
  exact wellFormed_filter wellFormed _

theorem removeTransactionsWithHigherOrEqualNonce_wellFormed {constraints : SenderConstraints}
    {l : TxListForSender} (wellFormed : l.WellFormed constraints) (givenNonce : Nat) :
    (l.removeTransactionsWithHigherOrEqualNonce givenNonce).WellFormed constraints := by
  rw [removeTransactionsWithHigherOrEqualNonce_eq]
  exact wellFormed_filter wellFormed _

theorem addTx_wellFormed {constraints : SenderConstraints} {l : TxListForSender}
    (wellFormed : l.WellFormed constraints) {tx : WrappedTransaction}
    (own : tx.tx.sndAddr = l.sender) : (l.addTx constraints tx).2.2.WellFormed constraints := by
  cases fresh : l.hasDuplicate tx
  · rw [addTx_of_not_duplicate fresh]
    obtain ⟨k, bound, equation, -, stops⟩ := applySizeConstraints_spec constraints (l.withInserted tx)
    rw [equation]
    have distinct := distinct_of_not_duplicate fresh
    have inserted := insertInOrder_perm tx l.items
    have sizes := (inserted.map (·.size)).sum_eq
    have lengths := inserted.length_eq
    simp only [withInserted, List.length_reverse, List.map_cons, List.sum_cons,
      List.length_cons] at bound stops sizes lengths ⊢
    have split := List.sum_take_add_sum_drop ((insertInOrder tx l.items).reverse.map (·.size)) k
    rw [← List.map_take, ← List.map_drop, List.map_reverse, List.sum_reverse] at split
    refine ⟨(insertInOrder_sorted wellFormed.sorted distinct).sublist
        ((List.drop_sublist _ _).reverse.trans (by simp)), ?_, ?_, ?_, ?_⟩
    · intro t mem
      simp only [List.mem_reverse] at mem
      rcases mem_insertInOrder.1 (List.mem_reverse.1 (List.mem_of_mem_drop mem)) with rfl | mem
      · exact own
      · exact wellFormed.ownSender t mem
    · simp only [dropCounters, wellFormed.numTxs_eq, List.length_reverse, List.length_take, List.length_drop]
      omega
    · simp only [dropCounters, wellFormed.numBytes_eq, List.map_reverse, List.sum_reverse]; omega
    · by_cases all : k < (insertInOrder tx l.items).length
      · exact stops all
      · have full : (insertInOrder tx l.items).reverse.take k = (insertInOrder tx l.items).reverse :=
          List.take_of_length_le (by simp; omega)
        simp only [full, dropCounters, isCapacityExceeded, List.length_reverse, List.map_reverse,
          List.sum_reverse, sizes, lengths, wellFormed.numTxs_eq, wellFormed.numBytes_eq,
          Bool.or_eq_false_iff, decide_eq_false_iff_not, not_lt]
        omega
  · rw [addTx_of_duplicate fresh]
    exact wellFormed

theorem addTx_of_dropped {constraints : SenderConstraints} {l : TxListForSender}
    (wellFormed : l.WellFormed constraints) {tx : WrappedTransaction}
    (distinct : ∀ t ∈ l.items, t.txHash ≠ tx.txHash)
    (dropped : tx.txHash ∈ (l.addTx constraints tx).2.1) :
    ∃ front back, l.items = front ++ back ∧ (∀ t ∈ front, tx.sortsBefore t = false) ∧
      (l.addTx constraints tx).2.2 =
        { l with items := front, numTxs := front.length, numBytes := (front.map (·.size)).sum } ∧
      (l.addTx constraints tx).2.1 = (back.reverse ++ [tx]).map (·.txHash) ∧
      TxListForSender.isCapacityExceeded constraints
        { l with items := front ++ [tx], numTxs := front.length + 1,
                 numBytes := (front.map (·.size)).sum + tx.size } = true := by
  obtain ⟨front, back, split, inserted, after⟩ := insertInOrder_split tx l.items
  rw [addTx_of_not_duplicate (hasDuplicate_eq_false distinct)] at dropped ⊢
  obtain ⟨k, bound, equation, exceeded, -⟩ := applySizeConstraints_spec constraints (l.withInserted tx)
  have reversed : (l.withInserted tx).items.reverse = back.reverse ++ tx :: front.reverse := by
    simp [withInserted, inserted]
  rw [equation, reversed] at dropped
  rw [equation, reversed]
  have within := wellFormed.within
  have counts : l.numTxs = front.length + back.length ∧
      l.numBytes = (front.map (·.size)).sum + (back.map (·.size)).sum := by
    simp [wellFormed.numTxs_eq, wellFormed.numBytes_eq, split]
  have lower : back.length < k := by
    by_contra notLower
    rw [List.take_append_of_le_length (by simpa using notLower)] at dropped
    obtain ⟨t, mem, same⟩ := List.mem_map.1 dropped
    exact distinct t (by rw [split]; exact List.mem_append_right _ (by simpa using List.mem_of_mem_take mem)) same
  have upper : k = back.length + 1 := by
    by_contra notUpper
    have := exceeded (k - 1) (by omega)
    rw [reversed, List.take_append_eq_append_take, List.take_of_length_le (by simp; omega)] at this
    obtain ⟨rest, restEq⟩ : ∃ rest, k - 1 - back.reverse.length = rest + 1 :=
      ⟨k - 2 - back.length, by rw [List.length_reverse]; omega⟩
    rw [restEq, List.take_succ_cons] at this
    simp only [isCapacityExceeded, dropCounters, withInserted, Bool.or_eq_true, decide_eq_true_eq,
      List.map_append, List.sum_append, List.map_reverse, List.sum_reverse, List.map_cons,
      List.sum_cons, List.length_append, List.length_reverse, List.length_cons] at this within
    simp at within
    omega
  subst upper
  have takeBack : (back.reverse ++ tx :: front.reverse).take (back.length + 1) = back.reverse ++ [tx] := by
    simpa using @List.take_append _ back.reverse (tx :: front.reverse) 1
  have dropBack : (back.reverse ++ tx :: front.reverse).drop (back.length + 1) = front.reverse := by
    simpa using @List.drop_append _ back.reverse (tx :: front.reverse) 1
  have exceededFront := exceeded back.length (by omega)
  rw [reversed, List.take_append_of_le_length (by simp), List.take_of_length_le (by simp)] at exceededFront
  refine ⟨front, back, split, after, ?_, by rw [takeBack], ?_⟩
  · rw [takeBack, dropBack, List.reverse_reverse]
    simp only [dropCounters, withInserted, List.map_append, List.sum_append, List.map_reverse,
      List.sum_reverse, List.map_cons, List.map_nil, List.sum_cons, List.sum_nil, List.length_append,
      List.length_reverse, List.length_cons, List.length_nil]
    congr 1 <;> omega
  · simp only [isCapacityExceeded, dropCounters, withInserted, Bool.or_eq_true, decide_eq_true_eq,
      List.map_reverse, List.sum_reverse, List.length_reverse] at exceededFront ⊢
    omega
theorem addTx_again_of_dropped {constraints : SenderConstraints} {l : TxListForSender}
    (wellFormed : l.WellFormed constraints) {tx : WrappedTransaction}
    (distinct : ∀ t ∈ l.items, t.txHash ≠ tx.txHash)
    (dropped : tx.txHash ∈ (l.addTx constraints tx).2.1) :
    (l.addTx constraints tx).2.2.addTx constraints tx =
      (true, [tx.txHash], (l.addTx constraints tx).2.2) := by
  obtain ⟨front, back, split, after, kept, -, exceededFront⟩ := addTx_of_dropped wellFormed distinct dropped
  rw [kept, addTx_of_not_duplicate (hasDuplicate_eq_false fun t mem =>
    distinct t (by rw [split]; exact List.mem_append_left _ mem))]
  obtain ⟨k, -, equation, exceeded, stops⟩ := applySizeConstraints_spec constraints
    (withInserted
      { l with items := front, numTxs := front.length, numBytes := (front.map (·.size)).sum } tx)
  have reversed : (insertInOrder tx front).reverse = tx :: front.reverse := by
    simp [insertInOrder_of_forall after]
  simp only [withInserted, reversed] at equation exceeded stops ⊢
  rw [equation]
  have within := wellFormed.within
  have counts : l.numTxs = front.length + back.length ∧
      l.numBytes = (front.map (·.size)).sum + (back.map (·.size)).sum := by
    simp [wellFormed.numTxs_eq, wellFormed.numBytes_eq, split]
  have once : k = 1 := by
    rcases k with _ | _ | k
    · have := stops (by simp [insertInOrder_of_forall after])
      simp only [isCapacityExceeded, dropCounters, withInserted, Bool.or_eq_true, decide_eq_true_eq,
        Bool.or_eq_false_iff, decide_eq_false_iff_not, List.take_zero, List.map_nil, List.sum_nil,
        List.length_nil, Nat.sub_zero] at this exceededFront
      omega
    · rfl
    · have := exceeded 1 (by omega)
      simp only [isCapacityExceeded, dropCounters, withInserted, Bool.or_eq_true, decide_eq_true_eq,
        Bool.or_eq_false_iff, decide_eq_false_iff_not, List.take_succ_cons, List.take_zero,
        List.map_cons, List.map_nil, List.sum_cons, List.sum_nil, List.length_cons,
        List.length_nil] at this within
      omega
  subst once
  simp only [List.take_succ_cons, List.take_zero, List.drop_succ_cons, List.drop_zero,
    List.reverse_reverse, List.map_cons, List.map_nil, dropCounters, withInserted, List.sum_cons,
    List.sum_nil, List.length_cons, List.length_nil, Nat.add_zero, Nat.add_sub_cancel]

theorem addTx_dropped_not_kept {constraints : SenderConstraints} {l : TxListForSender}
    {tx : WrappedTransaction} (nodupHashes : (l.items.map (·.txHash)).Nodup)
    (identified : ∀ t ∈ l.items, t.txHash = tx.txHash → t = tx) :
    ∀ txHash ∈ (l.addTx constraints tx).2.1, txHash ∉ (l.addTx constraints tx).2.2.items.map (·.txHash) := by
  cases fresh : l.hasDuplicate tx
  · have absent : ∀ t ∈ l.items, t.txHash ≠ tx.txHash := fun t mem same => by
      have : l.hasDuplicate tx = true := List.any_eq_true.2 ⟨tx, identified t mem same ▸ mem, by simp⟩
      simp [this] at fresh
    obtain ⟨dropped, split, hashes⟩ := addTx_dropped constraints l tx
    rw [addTx_fst, fresh, Bool.not_false, if_pos rfl] at split
    have unique : ((insertInOrder tx l.items).map (·.txHash)).Nodup :=
      (((insertInOrder_perm tx l.items).map _).nodup_iff).2
        (List.nodup_cons.2 ⟨by simpa using fun t mem => (absent t mem), nodupHashes⟩)
    rw [split, List.map_append] at unique
    intro txHash dropMem keptMem
    rw [hashes, List.map_reverse, List.mem_reverse] at dropMem
    exact List.disjoint_of_nodup_append unique keptMem dropMem
  · simp [addTx_of_duplicate fresh]

theorem hasDuplicate_iff {l : TxListForSender} {tx : WrappedTransaction}
    (identified : ∀ t ∈ l.items, t.txHash = tx.txHash → t = tx) :
    l.hasDuplicate tx = true ↔ tx.txHash ∈ l.items.map (·.txHash) := by
  simp only [hasDuplicate, List.any_eq_true, Bool.and_eq_true, beq_iff_eq, List.mem_map]
  constructor
  · rintro ⟨t, mem, -, same⟩
    exact ⟨t, mem, same⟩
  · rintro ⟨t, mem, same⟩
    obtain rfl := identified t mem same
    exact ⟨t, mem, rfl, rfl⟩

theorem mem_addTx_of_not_dropped {constraints : SenderConstraints} {l : TxListForSender}
    {tx : WrappedTransaction} (identified : ∀ t ∈ l.items, t.txHash = tx.txHash → t = tx)
    (notDropped : tx.txHash ∉ (l.addTx constraints tx).2.1) : tx ∈ (l.addTx constraints tx).2.2.items := by
  cases duplicate : l.hasDuplicate tx
  · obtain ⟨dropped, split, hashes⟩ := addTx_dropped constraints l tx
    rw [addTx_fst, duplicate, Bool.not_false, if_pos rfl] at split
    have inserted : tx ∈ insertInOrder tx l.items := mem_insertInOrder.2 (Or.inl rfl)
    rw [split] at inserted
    refine (List.mem_append.1 inserted).resolve_right fun inDropped => notDropped ?_
    rw [hashes]
    exact List.mem_map_of_mem _ (List.mem_reverse.2 inDropped)
  · rw [addTx_of_duplicate duplicate]
    obtain ⟨t, mem, same⟩ := List.mem_map.1 ((hasDuplicate_iff identified).1 duplicate)
    exact identified t mem same ▸ mem

end TxListForSender

end ChainStorage.Mempool
