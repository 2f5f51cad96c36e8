import ChainStorage.Mempool.EvictionPasses

/-! # Eviction beside other operations

`evictLeastLikelyToSelectTransactions` "tolerates concurrent transaction additions / removals":
while its pass loop runs, `AddTx` and `RemoveTxByHash` of other goroutines go on changing the two
maps, so the capacity test at the head of a pass may answer either way. The heap, built once from
the snapshot, and the `transactionsToEvict` of each pass belong to the loop alone. Here the other
operations are `interleaved pass`: what they have made of the cache by the time the test of pass
`pass` reads it, any function at all. Besides the journal and the cache, the loop answers the
`transactionsToEvict` of every pass it ran.

With nothing beside it, the loop is `evictionPasses` (`evictionPassesInterleaved_self`).

**Main results:**

- `evictLeastLikelyToSelectTransactionsInterleaved_ends`: whatever runs beside it, the loop ends
  within N + 1 passes, N being the number of snapshot transactions, and the passes place in
  `transactionsToEvict` transactions of the snapshot, none more often than the snapshot holds it.
- `evictLeastLikelyToSelectTransactionsInterleaved_cut`: in every pass, the nonce
  `lowestToEvictBySender` keeps for a sender is the lowest the pass collected of the sender, so
  the cut of the sender's list takes every one of them, and the pass's own cut, `removeLowest`,
  every transaction it collected (`evictLeastLikelyToSelectTransactionsInterleaved_removeLowest`).
- `evictLeastLikelyToSelectTransactionsInterleaved_nodup`: from well-formed lists, no transaction is
  placed twice.
-/

namespace ChainStorage.Mempool

section Interleaved

variable (less : WrappedTransaction → WrappedTransaction → Bool) (interleaved : Nat → TxCache → TxCache)

/-- The pass loop with other operations beside it: the capacity test of pass `pass` reads
`interleaved pass` of the cache. Answers the `transactionsToEvict` of each pass run, the journal
and the cache. -/
def TxCache.evictionPassesInterleaved :
    (fuel pass : Nat) → EvictionJournal → List TransactionsHeapItem → TxCache →
      List (List WrappedTransaction) × EvictionJournal × TxCache
  | 0, _, journal, _, cache => ([], journal, cache)
  | fuel + 1, pass, journal, heap, cache =>
    let cache := interleaved pass cache
    if cache.isCapacityExceeded then
      let transactionsToEvict := (selectTransactionsToEvict less cache.config.numItemsToPreemptivelyEvict heap).1
      match cache.evictionPass less heap with
      | none => ([transactionsToEvict], journal, cache)
      | some (numEvicted, heap, cache) =>
        let rest := TxCache.evictionPassesInterleaved fuel (pass + 1)
          { numEvicted := journal.numEvicted + numEvicted,
            numEvictedByPass := journal.numEvictedByPass ++ [numEvicted] } heap cache
        (transactionsToEvict :: rest.1, rest.2)
    else ([], journal, cache)

/-- `evictLeastLikelyToSelectTransactions` with other operations beside it, over a fuel. -/
def TxCache.evictLeastLikelyToSelectTransactionsInterleaved (fuel : Nat) (cache : TxCache) :
    List (List WrappedTransaction) × EvictionJournal × TxCache :=
  TxCache.evictionPassesInterleaved less interleaved fuel 0 { numEvicted := 0, numEvictedByPass := [] }
    (cache.bunches.filterMap newTransactionsHeapItem) cache

theorem evictionPass_subperm {cache cache' : TxCache} {heap heap' : List TransactionsHeapItem} {n : Nat}
    (pass : cache.evictionPass less heap = some (n, heap', cache')) :
    ((selectTransactionsToEvict less cache.config.numItemsToPreemptivelyEvict heap).1 ++
        heapTransactions heap').Subperm (heapTransactions heap) ∧
      (heapTransactions heap').length < (heapTransactions heap).length := by
  obtain ⟨transactionsToEvict, selected, nonempty, -, -⟩ := evictionPass_some less pass
  have subperm := selectTransactionsToEvict_subperm less cache.config.numItemsToPreemptivelyEvict heap
  rw [selected] at subperm ⊢
  dsimp only at subperm ⊢
  have lengths := subperm.length_le
  have collected := List.length_pos.2 nonempty
  rw [List.length_append] at lengths
  exact ⟨subperm, by omega⟩

omit interleaved in
theorem evictionPassesInterleaved_self : ∀ fuel pass journal heap cache,
    (TxCache.evictionPassesInterleaved less (fun _ cache => cache) fuel pass journal heap cache).2 =
      TxCache.evictionPasses less fuel journal heap cache
  | 0, _, _, _, _ => rfl
  | fuel + 1, pass, journal, heap, cache => by
    by_cases exceeded : cache.isCapacityExceeded = true
    · cases passed : cache.evictionPass less heap with
      | none => simp [TxCache.evictionPassesInterleaved, TxCache.evictionPasses, exceeded, passed]
      | some result =>
        obtain ⟨n, heap', cache'⟩ := result
        simp only [TxCache.evictionPassesInterleaved, TxCache.evictionPasses, exceeded, passed, if_true]
        exact evictionPassesInterleaved_self fuel _ _ heap' cache'
    · simp [TxCache.evictionPassesInterleaved, TxCache.evictionPasses, exceeded]

omit interleaved in
theorem evictLeastLikelyToSelectTransactions_eq_interleaved (cache : TxCache) :
    cache.evictLeastLikelyToSelectTransactions less =
      (cache.evictLeastLikelyToSelectTransactionsInterleaved less (fun _ cache => cache)
        (cache.bunches.map (·.length)).sum).2 :=
  (evictionPassesInterleaved_self less _ _ _ _ _).symm

/-! ## Termination -/

theorem evictionPassesInterleaved_add_fuel : ∀ fuel pass journal heap cache,
    (heapTransactions heap).length < fuel → ∀ extra,
      TxCache.evictionPassesInterleaved less interleaved (fuel + extra) pass journal heap cache =
        TxCache.evictionPassesInterleaved less interleaved fuel pass journal heap cache
  | 0, _, _, _, _, covered, _ => absurd covered (Nat.not_lt_zero _)
  | fuel + 1, pass, journal, heap, cache, covered, extra => by
    rw [Nat.add_right_comm]
    by_cases exceeded : (interleaved pass cache).isCapacityExceeded = true
    · cases passed : (interleaved pass cache).evictionPass less heap with
      | none => simp [TxCache.evictionPassesInterleaved, exceeded, passed]
      | some result =>
        obtain ⟨n, heap', cache'⟩ := result
        have shrinks := (evictionPass_subperm less passed).2
        simp only [TxCache.evictionPassesInterleaved, exceeded, passed, if_true]
        rw [evictionPassesInterleaved_add_fuel fuel _ _ heap' cache' (by omega) extra]
    · simp [TxCache.evictionPassesInterleaved, exceeded]

theorem evictionPassesInterleaved_length : ∀ fuel pass journal heap cache,
    (TxCache.evictionPassesInterleaved less interleaved fuel pass journal heap cache).1.length ≤
      (heapTransactions heap).length + 1
  | 0, _, _, _, _ => Nat.zero_le _
  | fuel + 1, pass, journal, heap, cache => by
    by_cases exceeded : (interleaved pass cache).isCapacityExceeded = true
    · cases passed : (interleaved pass cache).evictionPass less heap with
      | none => simp [TxCache.evictionPassesInterleaved, exceeded, passed]
      | some result =>
        obtain ⟨n, heap', cache'⟩ := result
        have shrinks := (evictionPass_subperm less passed).2
        have rest := evictionPassesInterleaved_length fuel (pass + 1)
          { numEvicted := journal.numEvicted + n, numEvictedByPass := journal.numEvictedByPass ++ [n] } heap' cache'
        simp only [TxCache.evictionPassesInterleaved, exceeded, passed, if_true, List.length_cons]
        omega
    · simp [TxCache.evictionPassesInterleaved, exceeded]

theorem evictionPassesInterleaved_subperm : ∀ fuel pass journal heap cache,
    (TxCache.evictionPassesInterleaved less interleaved fuel pass journal heap cache).1.flatten.Subperm
      (heapTransactions heap)
  | 0, _, _, _, _ => List.nil_subperm
  | fuel + 1, pass, journal, heap, cache => by
    have collected := selectTransactionsToEvict_subperm less
      (interleaved pass cache).config.numItemsToPreemptivelyEvict heap
    by_cases exceeded : (interleaved pass cache).isCapacityExceeded = true
    · cases passed : (interleaved pass cache).evictionPass less heap with
      | none =>
        simp only [TxCache.evictionPassesInterleaved, exceeded, passed, if_true, List.flatten_cons,
          List.flatten_nil, List.append_nil]
        exact (List.sublist_append_left _ _).subperm.trans collected
      | some result =>
        obtain ⟨n, heap', cache'⟩ := result
        simp only [TxCache.evictionPassesInterleaved, exceeded, passed, if_true, List.flatten_cons]
        exact ((List.subperm_append_left _).2 (evictionPassesInterleaved_subperm fuel (pass + 1) _ heap' cache')).trans
          (evictionPass_subperm less passed).1
    · simp [TxCache.evictionPassesInterleaved, exceeded]

/-- Whatever runs beside it, `evictLeastLikelyToSelectTransactions` ends within N + 1 passes, N
being the number of transactions of the snapshot: past that, more fuel changes nothing. Its
passes place in `transactionsToEvict` transactions of the snapshot, none more often than the
snapshot holds it, so none twice when the snapshot holds each once. -/
theorem evictLeastLikelyToSelectTransactionsInterleaved_ends (cache : TxCache) :
    (∀ extra, cache.evictLeastLikelyToSelectTransactionsInterleaved less interleaved
        ((cache.bunches.map (·.length)).sum + 1 + extra) =
      cache.evictLeastLikelyToSelectTransactionsInterleaved less interleaved ((cache.bunches.map (·.length)).sum + 1)) ∧
    ∀ fuel, (cache.evictLeastLikelyToSelectTransactionsInterleaved less interleaved fuel).1.length ≤
        (cache.bunches.map (·.length)).sum + 1 ∧
      (cache.evictLeastLikelyToSelectTransactionsInterleaved less interleaved fuel).1.flatten.Subperm
        cache.bunches.flatten ∧
      (cache.bunches.flatten.Nodup →
        (cache.evictLeastLikelyToSelectTransactionsInterleaved less interleaved fuel).1.flatten.Nodup) := by
  have snapshot := heapTransactions_filterMap cache.bunches
  refine ⟨fun extra => evictionPassesInterleaved_add_fuel less interleaved _ 0 _ _ cache
    (by rw [bunches_length_sum]; exact Nat.lt_succ_self _) extra, fun fuel => ?_⟩
  have subperm := evictionPassesInterleaved_subperm less interleaved fuel 0
    { numEvicted := 0, numEvictedByPass := [] } (cache.bunches.filterMap newTransactionsHeapItem) cache
  rw [snapshot] at subperm
  refine ⟨?_, subperm, fun nodup => ?_⟩
  · have := evictionPassesInterleaved_length less interleaved fuel 0
      { numEvicted := 0, numEvictedByPass := [] } (cache.bunches.filterMap newTransactionsHeapItem) cache
    rwa [bunches_length_sum]
  · obtain ⟨placed, perm, sublist⟩ := subperm
    exact perm.nodup_iff.1 (nodup.sublist sublist)

/-- From well-formed lists, as every run keeps them, the passes place no transaction in
`transactionsToEvict` twice, whatever runs beside them. -/
theorem evictLeastLikelyToSelectTransactionsInterleaved_nodup (cache : TxCache)
    (wellFormed : cache.txListBySender.WellFormed) (fuel : Nat) :
    (cache.evictLeastLikelyToSelectTransactionsInterleaved less interleaved fuel).1.flatten.Nodup := by
  have subperm := evictionPassesInterleaved_subperm less interleaved fuel 0
    { numEvicted := 0, numEvictedByPass := [] } (cache.bunches.filterMap newTransactionsHeapItem) cache
  rw [heapTransactions_filterMap] at subperm
  obtain ⟨placed, perm, sublist⟩ := subperm
  exact perm.nodup_iff.1 ((bunches_flatten_nodup wellFormed).sublist sublist)

/-! ## The cut of each pass -/

theorem evictionPassesInterleaved_passes (P : List TransactionsHeapItem → Prop)
    (keeps : ∀ room heap, P heap → P (selectTransactionsToEvict less room heap).2) :
    ∀ fuel pass journal heap cache, P heap →
      ∀ transactionsToEvict ∈ (TxCache.evictionPassesInterleaved less interleaved fuel pass journal heap cache).1,
        ∃ room heap', P heap' ∧ transactionsToEvict = (selectTransactionsToEvict less room heap').1
  | 0, _, _, _, _, _, _, mem => by simp [TxCache.evictionPassesInterleaved] at mem
  | fuel + 1, pass, journal, heap, cache, holds, transactionsToEvict, mem => by
    by_cases exceeded : (interleaved pass cache).isCapacityExceeded = true
    · cases passed : (interleaved pass cache).evictionPass less heap with
      | none =>
        simp only [TxCache.evictionPassesInterleaved, exceeded, passed, if_true, List.mem_singleton] at mem
        exact ⟨_, heap, holds, mem⟩
      | some result =>
        obtain ⟨n, heap', cache'⟩ := result
        obtain ⟨_, selected, -, -, -⟩ := evictionPass_some less passed
        simp only [TxCache.evictionPassesInterleaved, exceeded, passed, if_true, List.mem_cons] at mem
        rcases mem with rfl | later
        · exact ⟨_, heap, holds, rfl⟩
        · have next : P heap' := by
            simpa [selected] using keeps (interleaved pass cache).config.numItemsToPreemptivelyEvict heap holds
          exact evictionPassesInterleaved_passes P keeps fuel (pass + 1) _ heap' cache' next _ later
    · simp [TxCache.evictionPassesInterleaved, exceeded] at mem

/-- Whatever runs beside it, when the snapshot's lists each hold one sender's transactions in
ascending nonce order: in every pass, the nonce `lowestToEvictBySender` keeps for a sender, written
last, is the lowest nonce of the sender's transactions the pass collected; so
`removeTransactionsWithHigherOrEqualNonce` of the sender, on the lists as they then are, leaves none
of them. -/
theorem evictLeastLikelyToSelectTransactionsInterleaved_cut (cache : TxCache)
    (perSender : PerSenderAscending cache.txListBySender) (fuel : Nat) :
    ∀ transactionsToEvict ∈ (cache.evictLeastLikelyToSelectTransactionsInterleaved less interleaved fuel).1,
      ∀ sender, (lowestToEvictBySender transactionsToEvict).lookup sender =
          ((transactionsToEvict.filter (·.tx.sndAddr == sender)).map (·.tx.nonce)).min? ∧
        ∀ nonce, (lowestToEvictBySender transactionsToEvict).lookup sender = some nonce →
          ∀ m : TxListBySenderMap, m.WellFormed → ∀ t ∈ transactionsToEvict, t.tx.sndAddr = sender →
            t ∉ (m.removeTransactionsWithHigherOrEqualNonce sender nonce).listed := by
  intro transactionsToEvict mem sender
  obtain ⟨room, heap, cursors, rfl⟩ := evictionPassesInterleaved_passes less interleaved Cursors
    (fun room _ cursors => (selectTransactionsToEvict_cursors less room cursors).1) fuel 0 _ _ cache
    perSender.cursors transactionsToEvict mem
  have lowest := lowestToEvictBySender_lookup (selectTransactionsToEvict_cursors less room cursors).2.2 sender
  refine ⟨lowest, fun nonce found m wellFormed t tMem own kept => ?_⟩
  rw [lowest, List.min?_eq_some_iff'] at found
  have atMost := found.2 t.tx.nonce (List.mem_map_of_mem _ (List.mem_filter.2 ⟨tMem, by simpa using own⟩))
  exact Nat.lt_irrefl _ (Nat.lt_of_lt_of_le
    (TxListBySenderMap.nonce_lt_of_mem_listed_removeTransactionsWithHigherOrEqualNonce wellFormed kept own) atMost)

omit interleaved in
/-- The snapshot of alice's and bob's transactions, with nothing beside the loop. -/
theorem evictLeastLikelyToSelectTransactionsInterleaved_cut_twoSenders :
    PerSenderAscending twoSendersCache.txListBySender ∧
      ∀ transactionsToEvict ∈ (twoSendersCache.evictLeastLikelyToSelectTransactionsInterleaved minTransactionsHeapLess
          (fun _ cache => cache) 3).1,
        ∀ sender, (lowestToEvictBySender transactionsToEvict).lookup sender =
            ((transactionsToEvict.filter (·.tx.sndAddr == sender)).map (·.tx.nonce)).min? ∧
          ∀ nonce, (lowestToEvictBySender transactionsToEvict).lookup sender = some nonce →
            ∀ m : TxListBySenderMap, m.WellFormed → ∀ t ∈ transactionsToEvict, t.tx.sndAddr = sender →
              t ∉ (m.removeTransactionsWithHigherOrEqualNonce sender nonce).listed :=
  have perSender : PerSenderAscending twoSendersCache.txListBySender := ⟨by decide, by decide, by decide⟩
  ⟨perSender, evictLeastLikelyToSelectTransactionsInterleaved_cut minTransactionsHeapLess (fun _ cache => cache)
    twoSendersCache perSender 3⟩

/-- Whatever runs beside it, the cut every pass makes, `removeLowest` at the lowest nonces it
collected, leaves listed none of the transactions the pass collected, from whatever well-formed
lists the other operations have made by then; what it leaves listed was listed before. -/
theorem evictLeastLikelyToSelectTransactionsInterleaved_removeLowest (cache : TxCache)
    (perSender : PerSenderAscending cache.txListBySender) (fuel : Nat) :
    ∀ transactionsToEvict ∈ (cache.evictLeastLikelyToSelectTransactionsInterleaved less interleaved fuel).1,
      ∀ m : TxListBySenderMap, m.WellFormed →
        ∀ t ∈ (removeLowest m (lowestToEvictBySender transactionsToEvict)).listed,
          t ∈ m.listed ∧ t ∉ transactionsToEvict := by
  intro transactionsToEvict mem m wellFormed t kept
  obtain ⟨room, heap, cursors, rfl⟩ := evictionPassesInterleaved_passes less interleaved Cursors
    (fun room _ cursors => (selectTransactionsToEvict_cursors less room cursors).1) fuel 0 _ _ cache
    perSender.cursors transactionsToEvict mem
  obtain ⟨listed, below⟩ := mem_listed_removeLowest _ wellFormed kept
  refine ⟨listed, fun collected => ?_⟩
  obtain ⟨n, entry, le⟩ := lowestToEvictBySender_le (selectTransactionsToEvict_cursors less room cursors).2.2 collected
  exact absurd le (Nat.not_le.2 (below _ entry rfl))

end Interleaved

end ChainStorage.Mempool
