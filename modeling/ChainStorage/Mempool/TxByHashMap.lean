import ChainStorage.Mempool.WrappedTransaction

/-! # The map by hash

Modelled from the spec (the map's source file is not part of the repository's sources):
"mapping TxHash → WrappedTransaction (keys unique). Maintains global counters `numBytes` and
`counter` (count of transactions)." The backing map is a list of its entries; `getTx` looks a
hash up, and every operation keeps the counters as the spec describes them.

`Exact` says the keys are unique and the counters count the entries; `addTx_exact`,
`removeTx_exact` and `removeTxsBulk_exact` keep it. `removeTxsBulk_items` says which entries
a bulk removal leaves.
-/

namespace ChainStorage.Mempool

/-- Modelled from the spec: the entries by hash and the two counters. -/
structure TxByHashMap where
  items : List WrappedTransaction
  counter : Nat
  numBytes : Nat
  deriving DecidableEq, Repr

namespace TxByHashMap

/-- Modelled from the spec: the entry stored under a hash. -/
def getTx (m : TxByHashMap) (txHash : String) : Option WrappedTransaction :=
  m.items.find? (·.txHash == txHash)

/-- Modelled from the spec: "insert-if-absent(TxHash, tx)". -/
def addTx (m : TxByHashMap) (tx : WrappedTransaction) : Bool × TxByHashMap :=
  if (m.getTx tx.txHash).isSome then (false, m)
  else (true, { items := tx :: m.items, counter := m.counter + 1, numBytes := m.numBytes + tx.size })

/-- Modelled from the spec: removes the entry of a hash, answering it. -/
def removeTx (m : TxByHashMap) (txHash : String) : Option WrappedTransaction × TxByHashMap :=
  match m.getTx txHash with
  | none => (none, m)
  | some tx =>
    (some tx, { items := m.items.filter (·.txHash != txHash), counter := m.counter - 1,
                numBytes := m.numBytes - tx.size })

/-- Modelled from the spec: "bulk-remove", answering how many hashes were found. -/
def removeTxsBulk (m : TxByHashMap) : List String → Nat × TxByHashMap
  | [] => (0, m)
  | txHash :: txHashes =>
    let first := m.removeTx txHash
    let rest := first.2.removeTxsBulk txHashes
    (if first.1.isSome then rest.1 + 1 else rest.1, rest.2)

/-- Modelled from the spec: the hashes of the entries. -/
def keys (m : TxByHashMap) : List String := m.items.map (·.txHash)

/-- Modelled from the spec: the empty map. -/
def clear (_ : TxByHashMap) : TxByHashMap := { items := [], counter := 0, numBytes := 0 }

/-- The keys are unique and the counters count the entries and their bytes. -/
structure Exact (m : TxByHashMap) : Prop where
  nodup : m.keys.Nodup
  counter_eq : m.counter = m.items.length
  numBytes_eq : m.numBytes = (m.items.map (·.size)).sum

/-! ## Lookup -/

theorem getTx_eq_none {m : TxByHashMap} {txHash : String} :
    m.getTx txHash = none ↔ ∀ t ∈ m.items, t.txHash ≠ txHash := by
  simp [getTx]

theorem mem_of_getTx {m : TxByHashMap} {txHash : String} {tx : WrappedTransaction}
    (found : m.getTx txHash = some tx) : tx ∈ m.items ∧ tx.txHash = txHash := by
  have := List.find?_some found
  exact ⟨List.mem_of_find?_eq_some found, by simpa using this⟩

theorem getTx_of_mem {m : TxByHashMap} (nodup : m.keys.Nodup) {tx : WrappedTransaction}
    (mem : tx ∈ m.items) : m.getTx tx.txHash = some tx := by
  cases found : m.getTx tx.txHash with
  | none => exact absurd rfl (getTx_eq_none.1 found tx mem)
  | some other =>
    obtain ⟨otherMem, otherHash⟩ := mem_of_getTx found
    rw [List.inj_on_of_nodup_map nodup otherMem mem otherHash]

theorem getTx_of_identified {m : TxByHashMap} {tx : WrappedTransaction} (mem : tx ∈ m.items)
    (identified : ∀ t ∈ m.items, t.txHash = tx.txHash → t = tx) : m.getTx tx.txHash = some tx := by
  cases found : m.getTx tx.txHash with
  | none => exact absurd rfl (getTx_eq_none.1 found tx mem)
  | some other =>
    obtain ⟨otherMem, otherHash⟩ := mem_of_getTx found
    rw [identified other otherMem otherHash]

theorem getTx_isSome {m : TxByHashMap} {txHash : String} :
    (m.getTx txHash).isSome ↔ txHash ∈ m.keys := by
  cases found : m.getTx txHash with
  | none => simpa [keys] using getTx_eq_none.1 found
  | some tx =>
    obtain ⟨mem, rfl⟩ := mem_of_getTx found
    simpa [keys] using ⟨tx, mem, rfl⟩

/-! ## Operations -/

theorem addTx_of_absent {m : TxByHashMap} {tx : WrappedTransaction} (absent : tx.txHash ∉ m.keys) :
    m.addTx tx = (true, { items := tx :: m.items, counter := m.counter + 1,
                          numBytes := m.numBytes + tx.size }) := by
  simp [addTx, getTx_isSome.not.2 absent]

theorem addTx_of_present {m : TxByHashMap} {tx : WrappedTransaction} (present : tx.txHash ∈ m.keys) :
    m.addTx tx = (false, m) := by
  simp [addTx, getTx_isSome.2 present]

theorem addTx_exact {m : TxByHashMap} (exact : m.Exact) (tx : WrappedTransaction) :
    (m.addTx tx).2.Exact := by
  by_cases present : tx.txHash ∈ m.keys
  · simpa [addTx_of_present present] using exact
  · rw [addTx_of_absent present]
    exact ⟨List.nodup_cons.2 ⟨present, exact.nodup⟩, by simp [exact.counter_eq],
      by simp [exact.numBytes_eq, Nat.add_comm]⟩

theorem mem_of_mem_addTx {m : TxByHashMap} {tx t : WrappedTransaction}
    (mem : t ∈ (m.addTx tx).2.items) : t = tx ∨ t ∈ m.items := by
  unfold addTx at mem
  split at mem
  · exact .inr mem
  · exact List.mem_cons.1 mem

theorem mem_addTx_of_mem {m : TxByHashMap} {t : WrappedTransaction} (mem : t ∈ m.items)
    (tx : WrappedTransaction) : t ∈ (m.addTx tx).2.items := by
  unfold addTx
  split
  · exact mem
  · exact List.mem_cons_of_mem _ mem

theorem addTx_counter_le (m : TxByHashMap) (tx : WrappedTransaction) :
    (m.addTx tx).2.counter ≤ m.counter + 1 := by
  unfold addTx
  split <;> simp

theorem removeTx_items (m : TxByHashMap) (txHash : String) :
    (m.removeTx txHash).2.items = m.items.filter (·.txHash != txHash) := by
  unfold removeTx
  split
  · next absent => exact (List.filter_eq_self.2 (by simpa using getTx_eq_none.1 absent)).symm
  · rfl

theorem split_of_getTx {m : TxByHashMap} (nodup : m.keys.Nodup) {txHash : String}
    {tx : WrappedTransaction} (found : m.getTx txHash = some tx) :
    m.items.filter (·.txHash == txHash) = [tx] ∧
      (m.items.filter (·.txHash != txHash)).Perm (m.items.erase tx) ∧
      m.items.Perm (tx :: m.items.filter (·.txHash != txHash)) := by
  obtain ⟨mem, rfl⟩ := mem_of_getTx found
  obtain ⟨before, after, split⟩ := List.append_of_mem mem
  have unique := nodup
  rw [keys, split, List.map_append, List.map_cons] at unique
  have others : ∀ t ∈ before ++ after, t.txHash ≠ tx.txHash := fun t tMem same =>
    (List.nodup_middle.1 unique).not_mem (by rw [← List.map_append]; exact List.mem_map.2 ⟨t, tMem, same⟩)
  have kept : m.items.filter (·.txHash != tx.txHash) = before ++ after := by
    rw [split, List.filter_append, List.filter_cons_of_neg (by simp)]
    rw [List.filter_eq_self.2 (fun t tMem => by simpa using others t (by simp [tMem])),
      List.filter_eq_self.2 (fun t tMem => by simpa using others t (by simp [tMem]))]
  have taken : m.items.filter (·.txHash == tx.txHash) = [tx] := by
    rw [split, List.filter_append, List.filter_cons_of_pos (by simp)]
    rw [List.filter_eq_nil_iff.2 (fun t tMem => by simpa using others t (by simp [tMem])),
      List.filter_eq_nil_iff.2 (fun t tMem => by simpa using others t (by simp [tMem]))]
    rfl
  refine ⟨taken, ?_, ?_⟩
  · rw [kept, split, List.erase_append_right _ (fun inBefore => others tx (by simp [inBefore]) rfl)]
    simp
  · rw [kept, split]; exact List.perm_middle

theorem removeTx_keys_nodup {m : TxByHashMap} (nodup : m.keys.Nodup) (txHash : String) :
    (m.removeTx txHash).2.keys.Nodup := by
  rw [keys, removeTx_items]
  exact nodup.sublist ((List.filter_sublist m.items).map _)

theorem removeTx_counters {m : TxByHashMap} (nodup : m.keys.Nodup) (txHash : String) :
    (m.removeTx txHash).2.counter = m.counter - (m.items.filter (·.txHash == txHash)).length ∧
      (m.removeTx txHash).2.numBytes =
        m.numBytes - ((m.items.filter (·.txHash == txHash)).map (·.size)).sum := by
  unfold removeTx
  split
  · next absent =>
    rw [List.filter_eq_nil_iff.2 (fun t mem => by simpa using getTx_eq_none.1 absent t mem)]
    simp
  · next tx found =>
    rw [(split_of_getTx nodup found).1]
    simp

theorem removeTx_exact {m : TxByHashMap} (exact : m.Exact) (txHash : String) :
    (m.removeTx txHash).2.Exact := by
  obtain ⟨counter, numBytes⟩ := removeTx_counters exact.nodup txHash
  have perm := List.filter_append_perm (·.txHash == txHash) m.items
  have lengths := perm.length_eq
  have sums := (perm.map (·.size)).sum_eq
  simp only [List.length_append, List.map_append, List.sum_append] at lengths sums
  refine ⟨removeTx_keys_nodup exact.nodup txHash, ?_, ?_⟩
  · rw [counter, removeTx_items, exact.counter_eq]
    have : m.items.filter (·.txHash != txHash) = m.items.filter (fun t => !(t.txHash == txHash)) := rfl
    rw [this]; omega
  · rw [numBytes, removeTx_items, exact.numBytes_eq]
    have : m.items.filter (·.txHash != txHash) = m.items.filter (fun t => !(t.txHash == txHash)) := rfl
    rw [this]; omega

theorem removeTxsBulk_items (m : TxByHashMap) :
    ∀ txHashes : List String,
      (m.removeTxsBulk txHashes).2.items = m.items.filter (fun t => t.txHash ∉ txHashes)
  | [] => by simp [removeTxsBulk]
  | txHash :: txHashes => by
    simp only [removeTxsBulk, removeTxsBulk_items _ txHashes, removeTx_items, List.filter_filter]
    congr 1; funext t; by_cases same : t.txHash = txHash <;> simp [same]

theorem removeTxsBulk_exact {m : TxByHashMap} (exact : m.Exact) :
    ∀ txHashes : List String, (m.removeTxsBulk txHashes).2.Exact
  | [] => exact
  | txHash :: txHashes => removeTxsBulk_exact (removeTx_exact exact txHash) txHashes

theorem removeTxsBulk_keys_nodup {m : TxByHashMap} (nodup : m.keys.Nodup) (txHashes : List String) :
    (m.removeTxsBulk txHashes).2.keys.Nodup := by
  rw [keys, removeTxsBulk_items]
  exact nodup.sublist ((List.filter_sublist m.items).map _)

theorem filter_mem_cons_perm (items : List WrappedTransaction) (txHash : String)
    (txHashes : List String) :
    (items.filter (fun t => t.txHash ∈ txHash :: txHashes)).Perm
      (items.filter (·.txHash == txHash) ++
        (items.filter (·.txHash != txHash)).filter (fun t => t.txHash ∈ txHashes)) := by
  refine (List.filter_append_perm (·.txHash == txHash) _).symm.trans ?_
  rw [List.filter_filter, List.filter_filter, List.filter_filter]
  refine List.Perm.append (.of_eq (List.filter_congr fun t _ => ?_))
    (.of_eq (List.filter_congr fun t _ => ?_))
  all_goals
    cases same : t.txHash == txHash
    · have different : t.txHash ≠ txHash := by simpa using same
      simp [same, different, bne, Bool.and_comm]
    · simp [same, bne, (beq_iff_eq.1 same)]

theorem removeTxsBulk_counters {m : TxByHashMap} (nodup : m.keys.Nodup) :
    ∀ txHashes : List String,
      (m.removeTxsBulk txHashes).2.counter =
          m.counter - (m.items.filter (fun t => t.txHash ∈ txHashes)).length ∧
        (m.removeTxsBulk txHashes).2.numBytes =
          m.numBytes - ((m.items.filter (fun t => t.txHash ∈ txHashes)).map (·.size)).sum
  | [] => by simp [removeTxsBulk]
  | txHash :: txHashes => by
    obtain ⟨counter, numBytes⟩ := removeTx_counters nodup txHash
    obtain ⟨counter', numBytes'⟩ := removeTxsBulk_counters (removeTx_keys_nodup nodup txHash) txHashes
    have perm := filter_mem_cons_perm m.items txHash txHashes
    have lengths := perm.length_eq
    have sums := (perm.map (·.size)).sum_eq
    simp only [List.length_append, List.map_append, List.sum_append] at lengths sums
    simp only [removeTxsBulk, counter', numBytes', counter, numBytes, removeTx_items]
    constructor <;> omega

theorem removeTxsBulk_counter_le {m : TxByHashMap} (nodup : m.keys.Nodup) (txHashes : List String) :
    (m.removeTxsBulk txHashes).2.counter ≤ m.counter := by
  rw [(removeTxsBulk_counters nodup txHashes).1]; omega

theorem removeTxsBulk_counter_lt {m : TxByHashMap} (exact : m.Exact) {txHashes : List String}
    {t : WrappedTransaction} (stored : t ∈ m.items) (removed : t.txHash ∈ txHashes) :
    (m.removeTxsBulk txHashes).2.counter < m.counter := by
  rw [(removeTxsBulk_exact exact txHashes).counter_eq, removeTxsBulk_items, exact.counter_eq]
  exact List.length_filter_lt_length_iff_exists.2 ⟨t, stored, by simpa using removed⟩

theorem removeTxsBulk_addTx_of_absent {m : TxByHashMap} {tx : WrappedTransaction}
    (absent : tx.txHash ∉ m.keys) : ((m.addTx tx).2.removeTxsBulk [tx.txHash]).2 = m := by
  have others : m.items.filter (·.txHash != tx.txHash) = m.items :=
    List.filter_eq_self.2 fun t mem => by
      simpa using fun same => absent (List.mem_map.2 ⟨t, mem, same⟩)
  rw [addTx_of_absent absent]
  simp [removeTxsBulk, removeTx, getTx, others]

theorem clear_exact (m : TxByHashMap) : m.clear.Exact := ⟨by simp [clear, keys], rfl, rfl⟩

end TxByHashMap

end ChainStorage.Mempool
