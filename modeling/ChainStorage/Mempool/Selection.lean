import ChainStorage.Mempool.EvictionPasses
import ChainStorage.Mempool.SelectionSessionWrapper

/-! # Selection

`SelectTransactions` of `txCache.go` answers nothing for a nil session and otherwise returns what
`doSelectTransactions` selects. `doSelectTransactions` is not part of the repository's sources;
it is modelled from the spec's algorithm: one cursor per sender from its account nonce on, a heap
of cursors in selection order, and a loop that pops the best cursor while the output is short of
`maxNum`, the gas fits and the deadline has not passed. A popped transaction of the wrong nonce is
skipped; a guarded one, or one whose fee exceeds its payer's balance, drops its sender; any other
is selected and its cursor moves on.

Gas is `uint64`, as `SelectTransactions` returns it: `addGas` adds modulo `2 ^ 64`. The deadline
is an answer per iteration of the loop (`deadline`), as wall time is outside the model. The loop
recurses on a fuel, the number of listed transactions: every iteration takes at least one
transaction out of the heap.

**Main results:**

- `doSelectTransactions_outcome`: over every cache, session, gas, `maxNum` and deadline, the
  selection answers per-sender nonces from the session's account nonce on with no gap, no
  transaction twice, at most `maxNum` transactions, and a gas within the gas requested that is
  the sum of the gas limits modulo `2 ^ 64` (`SelectionOutcome`).
- `doSelectTransactions_fuel`: the fuel lets the loop run to its own end.
- `selectTransactions_wraps_accumulatedGas`: the gas answered is not the sum of the gas limits
  once that sum passes `2 ^ 64`.
-/

namespace ChainStorage.Mempool

/-- `SelectionSession`: the account states, `none` standing for an error, and the guard check. -/
structure SelectionSession where
  getAccountState : String → Option AccountState
  isIncorrectlyGuarded : WrappedTransaction → Bool

/-- Modelled from the spec: the selection order of the heap, "primary key = price-per-gas-unit
descending, secondary = sender hash lexicographic ascending, tertiary = hash". -/
def maxTransactionsHeapLess (a b : WrappedTransaction) : Bool :=
  b.pricePerUnit < a.pricePerUnit ||
    (a.pricePerUnit == b.pricePerUnit &&
      (hashLess a.tx.sndAddr b.tx.sndAddr ||
        (a.tx.sndAddr == b.tx.sndAddr && hashLess a.txHash b.txHash)))

/-- `uint64` addition of gas. -/
def addGas (accumulatedGas gasLimit : Nat) : Nat := (accumulatedGas + gasLimit) % 2 ^ 64

/-- Modelled from the spec: a sender's cursor, "positioned at the first transaction with
nonce ≥ initialNonce"; none for a sender "whose lowest pending nonce is strictly greater than the
account's initial nonce", or with no transaction from its initial nonce on. -/
def selectionCursor (initialNonce : Nat) (l : TxListForSender) : Option TransactionsHeapItem :=
  match l.items with
  | [] => none
  | lowest :: _ =>
    if initialNonce < lowest.tx.nonce then none
    else newTransactionsHeapItem (l.items.dropWhile (·.tx.nonce < initialNonce))

/-- Modelled from the spec: the cursors of the senders, each sender's account looked up first. -/
def initialSelectionHeap (session : SelectionSession) (wrapper : SelectionSessionWrapper) :
    List TxListForSender → SelectionSessionWrapper × List TransactionsHeapItem
  | [] => (wrapper, [])
  | l :: lists =>
    let got := wrapper.getNonce session.getAccountState l.sender
    let rest := initialSelectionHeap session got.2 lists
    (rest.1, (selectionCursor got.1 l).toList ++ rest.2)

structure SelectionState where
  wrapper : SelectionSessionWrapper
  heap : List TransactionsHeapItem
  selected : List WrappedTransaction
  accumulatedGas : Nat

section Loop

variable (less : WrappedTransaction → WrappedTransaction → Bool) (session : SelectionSession)
  (gasRequested : Nat) (maxNum : Int)

/-- Modelled from the spec: the nonce a sender's next selected transaction must have, "initialNonce
+ numSelectedFromSender". -/
def expectedNonce (state : SelectionState) (sender : String) : Nat × SelectionSessionWrapper :=
  let got := state.wrapper.getNonce session.getAccountState sender
  (got.1 + (state.selected.filter (·.tx.sndAddr == sender)).length, got.2)

/-- Modelled from the spec: one iteration of the loop, `none` when the loop ends: the heap is
empty, the output holds `maxNum` transactions, the next transaction's gas does not fit, or the
deadline has passed. -/
def selectionStep (deadlineExceeded : Bool) (state : SelectionState) : Option SelectionState :=
  match heapPop less state.heap with
  | none => none
  | some (item, others) =>
    let tx := item.currentTransaction
    if maxNum ≤ state.selected.length || decide (gasRequested < addGas state.accumulatedGas tx.tx.gasLimit) ||
        deadlineExceeded then none
    else
      let expected := expectedNonce session state tx.tx.sndAddr
      if tx.tx.nonce != expected.1 then
        some { state with wrapper := expected.2, heap := pushIfNext item others }
      else if session.isIncorrectlyGuarded tx then
        some { state with wrapper := expected.2, heap := others }
      else
        let detected := expected.2.detectWillFeeExceedBalance session.getAccountState tx
        if detected.1 then some { state with wrapper := detected.2, heap := others }
        else
          some { wrapper := detected.2.accumulateConsumedBalance session.getAccountState tx,
                 heap := pushIfNext item others,
                 selected := state.selected ++ [tx],
                 accumulatedGas := addGas state.accumulatedGas tx.tx.gasLimit }

/-- The loop, `deadline` answering at each iteration whether the deadline has passed. -/
def selectLoop (deadline : Nat → Bool) : (fuel : Nat) → (iteration : Nat) → SelectionState → SelectionState
  | 0, _, state => state
  | fuel + 1, iteration, state =>
    match selectionStep less session gasRequested maxNum (deadline iteration) state with
    | none => state
    | some state' => selectLoop deadline fuel (iteration + 1) state'

end Loop

/-- Modelled from the spec: `doSelectTransactions`. -/
def TxCache.doSelectTransactions (less : WrappedTransaction → WrappedTransaction → Bool) (cache : TxCache)
    (session : SelectionSession) (gasRequested : Nat) (maxNum : Int) (deadline : Nat → Bool) :
    List WrappedTransaction × Nat :=
  let initial := initialSelectionHeap session newSelectionSessionWrapper cache.txListBySender.getSenders
  let final := selectLoop less session gasRequested maxNum deadline cache.txListBySender.listed.length 0
    { wrapper := initial.1, heap := initial.2, selected := [], accumulatedGas := 0 }
  (final.selected, final.accumulatedGas)

/-- `SelectTransactions`: nothing for a nil session. -/
def TxCache.selectTransactions (less : WrappedTransaction → WrappedTransaction → Bool) (cache : TxCache)
    (session : Option SelectionSession) (gasRequested : Nat) (maxNum : Int) (deadline : Nat → Bool) :
    List WrappedTransaction × Nat :=
  match session with
  | none => ([], 0)
  | some session => cache.doSelectTransactions less session gasRequested maxNum deadline

/-! ## What one iteration does -/

/-- The nonces of a sender's transactions in a list, in their order there. -/
def noncesOf (sender : String) (transactions : List WrappedTransaction) : List Nat :=
  (transactions.filter (·.tx.sndAddr == sender)).map (·.tx.nonce)

theorem noncesOf_append_singleton (sender : String) (transactions : List WrappedTransaction)
    (tx : WrappedTransaction) :
    noncesOf sender (transactions ++ [tx]) =
      noncesOf sender transactions ++ if tx.tx.sndAddr = sender then [tx.tx.nonce] else [] := by
  by_cases same : tx.tx.sndAddr = sender <;> simp [noncesOf, same]

theorem Accounts.new (session : String → Option AccountState) :
    Accounts session newSelectionSessionWrapper [] :=
  ⟨fun _ _ none => (nomatch none), fun _ none => (nomatch none)⟩

theorem Accounts.getNonce {session : String → Option AccountState} {w : SelectionSessionWrapper}
    {accumulated : List WrappedTransaction} (accounts : Accounts session w accumulated) (address : String) :
    (w.getNonce session address).1 = (initialRecord session address).initialNonce ∧
      Accounts session (w.getNonce session address).2 accumulated := by
  obtain ⟨answer, kept⟩ := accounts.getAccountRecord address
  have nonce := congrArg AccountRecord.initialNonce answer
  exact ⟨nonce, kept⟩

section Step

variable {less : WrappedTransaction → WrappedTransaction → Bool} {session : SelectionSession}
  {gasRequested : Nat} {maxNum : Int}

theorem heapTransactions_after_pop {heap heap' others : List TransactionsHeapItem}
    {item : TransactionsHeapItem} (popped : heapPop less heap = some (item, others))
    (next : heap' = pushIfNext item others ∨ heap' = others) :
    (∀ t ∈ heapTransactions heap', t ∈ heapTransactions heap) ∧
      (heapTransactions heap').length < (heapTransactions heap).length := by
  have perm : (heapTransactions heap).Perm (item.currentTransaction :: (item.rest ++ heapTransactions others)) :=
    heapTransactions_perm (heapPop_perm popped)
  have sub : (heapTransactions heap').Sublist (item.rest ++ heapTransactions others) := by
    rcases next with rfl | rfl
    · rw [heapTransactions_pushIfNext]
    · exact List.sublist_append_right _ _
  refine ⟨fun t mem => perm.mem_iff.2 (List.mem_cons_of_mem _ (sub.subset mem)), ?_⟩
  rw [perm.length_eq, List.length_cons]
  exact Nat.lt_succ_of_le sub.length_le

theorem selectionStep_eq_some {deadlineExceeded : Bool} {state state' : SelectionState}
    (stepped : selectionStep less session gasRequested maxNum deadlineExceeded state = some state') :
    ∃ item others, heapPop less state.heap = some (item, others) ∧
      (state.selected.length : Int) < maxNum ∧
      addGas state.accumulatedGas item.currentTransaction.tx.gasLimit ≤ gasRequested ∧
      ((state'.selected = state.selected ∧ state'.accumulatedGas = state.accumulatedGas ∧
          (state'.wrapper = (expectedNonce session state item.currentTransaction.tx.sndAddr).2 ∨
            state'.wrapper = ((expectedNonce session state item.currentTransaction.tx.sndAddr).2.detectWillFeeExceedBalance
              session.getAccountState item.currentTransaction).2) ∧
          (state'.heap = pushIfNext item others ∨ state'.heap = others)) ∨
        (item.currentTransaction.tx.nonce = (expectedNonce session state item.currentTransaction.tx.sndAddr).1 ∧
          ((expectedNonce session state item.currentTransaction.tx.sndAddr).2.detectWillFeeExceedBalance
            session.getAccountState item.currentTransaction).1 = false ∧
          state' = { wrapper := ((expectedNonce session state item.currentTransaction.tx.sndAddr).2.detectWillFeeExceedBalance
                        session.getAccountState item.currentTransaction).2.accumulateConsumedBalance
                        session.getAccountState item.currentTransaction,
                     heap := pushIfNext item others,
                     selected := state.selected ++ [item.currentTransaction],
                     accumulatedGas := addGas state.accumulatedGas item.currentTransaction.tx.gasLimit })) := by
  unfold selectionStep at stepped
  split at stepped
  · cases stepped
  · next item others popped =>
    refine ⟨item, others, popped, ?_⟩
    dsimp only at stepped
    split at stepped
    · cases stepped
    · next fits =>
      simp only [Bool.or_eq_true, decide_eq_true_eq, not_or, not_le] at fits
      refine ⟨fits.1.1, Nat.le_of_not_lt fits.1.2, ?_⟩
      split at stepped
      · cases stepped; exact .inl ⟨rfl, rfl, .inl rfl, .inl rfl⟩
      · next expected =>
        split at stepped
        · cases stepped; exact .inl ⟨rfl, rfl, .inl rfl, .inr rfl⟩
        · split at stepped
          · cases stepped; exact .inl ⟨rfl, rfl, .inr rfl, .inr rfl⟩
          · next covered =>
            cases stepped
            exact .inr ⟨by simpa using expected, by simpa using covered, rfl⟩

theorem selectionStep_shrinks {deadlineExceeded : Bool} {state state' : SelectionState}
    (stepped : selectionStep less session gasRequested maxNum deadlineExceeded state = some state') :
    (heapTransactions state'.heap).length < (heapTransactions state.heap).length := by
  obtain ⟨item, others, popped, -, -, kept | ⟨-, -, rfl⟩⟩ := selectionStep_eq_some stepped
  · exact (heapTransactions_after_pop popped kept.2.2.2).2
  · exact (heapTransactions_after_pop popped (.inl rfl)).2

end Step

/-! ## The loop -/

section Loop

variable (less : WrappedTransaction → WrappedTransaction → Bool) (session : SelectionSession)
  (gasRequested : Nat) (maxNum : Int) (deadline : Nat → Bool)

theorem selectLoop_induction (P : SelectionState → Prop)
    (step : ∀ deadlineExceeded state state', P state →
      selectionStep less session gasRequested maxNum deadlineExceeded state = some state' → P state') :
    ∀ fuel iteration state, P state → P (selectLoop less session gasRequested maxNum deadline fuel iteration state)
  | 0, _, _, holds => holds
  | fuel + 1, iteration, state, holds => by
    unfold selectLoop
    split
    · exact holds
    · next state' stepped =>
      exact selectLoop_induction P step fuel (iteration + 1) state' (step _ state state' holds stepped)

theorem selectLoop_add_fuel : ∀ fuel iteration state, (heapTransactions state.heap).length ≤ fuel →
    ∀ extra, selectLoop less session gasRequested maxNum deadline (fuel + extra) iteration state =
      selectLoop less session gasRequested maxNum deadline fuel iteration state
  | 0, iteration, state, covered, extra => by
    have empty : state.heap = [] := by
      cases heap : state.heap with
      | nil => rfl
      | cons item others => simp [heap, heapTransactions, TransactionsHeapItem.transactions] at covered
    cases extra with
    | zero => rfl
    | succ extra => simp [selectLoop, selectionStep, empty, heapPop]
  | fuel + 1, iteration, state, covered, extra => by
    rw [Nat.add_right_comm]
    unfold selectLoop
    split
    · rfl
    · next state' stepped =>
      exact selectLoop_add_fuel fuel (iteration + 1) state'
        (Nat.le_of_lt_succ (Nat.lt_of_lt_of_le (selectionStep_shrinks stepped) covered)) extra

end Loop

/-! ## The initial heap -/

theorem initialSelectionHeap_spec (session : SelectionSession) {accumulated : List WrappedTransaction} :
    ∀ (lists : List TxListForSender) {w : SelectionSessionWrapper},
      Accounts session.getAccountState w accumulated →
      Accounts session.getAccountState (initialSelectionHeap session w lists).1 accumulated ∧
        (heapTransactions (initialSelectionHeap session w lists).2).Sublist (lists.flatMap (·.items))
  | [], _, accounts => ⟨accounts, List.Sublist.slnil⟩
  | l :: lists, w, accounts => by
    obtain ⟨keeps, rest⟩ := initialSelectionHeap_spec session lists (accounts.getNonce l.sender).2
    refine ⟨keeps, ?_⟩
    have cursor : heapTransactions (selectionCursor (w.getNonce session.getAccountState l.sender).1 l).toList
        |>.Sublist l.items := by
      unfold selectionCursor
      split
      · exact List.nil_sublist _
      · split
        · exact List.nil_sublist _
        · cases made : newTransactionsHeapItem (l.items.dropWhile (·.tx.nonce < (w.getNonce session.getAccountState l.sender).1)) with
          | none => exact List.nil_sublist _
          | some item =>
            rw [newTransactionsHeapItem_eq_some] at made
            simpa [heapTransactions, ← made] using List.dropWhile_sublist _
    simpa [initialSelectionHeap, heapTransactions, List.flatMap_append] using cursor.append rest

/-! ## The output -/

/-- What a selection answers: per sender, nonces from the session's account nonce on with no
gap; no transaction twice, each a listed one; the gas, the `uint64` sum of the gas limits, within
the gas requested; at most `maxNum` transactions, unless nothing is selected. -/
structure SelectionOutcome (session : SelectionSession) (listed : List WrappedTransaction)
    (gasRequested : Nat) (maxNum : Int) (selected : List WrappedTransaction) (accumulatedGas : Nat) :
    Prop where
  contiguous : ∀ sender, noncesOf sender selected =
    List.range' (initialRecord session.getAccountState sender).initialNonce (noncesOf sender selected).length
  nodup : selected.Nodup
  fromListed : ∀ tx ∈ selected, tx ∈ listed
  gas : accumulatedGas = (selected.map (·.tx.gasLimit)).sum % 2 ^ 64
  withinGas : accumulatedGas ≤ gasRequested
  withinMaxNum : selected = [] ∨ (selected.length : Int) ≤ maxNum

/-- What the loop keeps: the wrapper's accounting, a heap of listed transactions, and the
outcome so far. -/
structure SelectionInvariant (session : SelectionSession) (listed : List WrappedTransaction)
    (gasRequested : Nat) (maxNum : Int) (state : SelectionState) : Prop where
  accounts : Accounts session.getAccountState state.wrapper state.selected
  heapListed : ∀ tx ∈ heapTransactions state.heap, tx ∈ listed
  outcome : SelectionOutcome session listed gasRequested maxNum state.selected state.accumulatedGas

section Invariant

variable {session : SelectionSession} {listed : List WrappedTransaction} {gasRequested : Nat}
  {maxNum : Int}

theorem SelectionOutcome.append {selected : List WrappedTransaction} {accumulatedGas : Nat}
    (outcome : SelectionOutcome session listed gasRequested maxNum selected accumulatedGas)
    {tx : WrappedTransaction} (txListed : tx ∈ listed)
    (expected : tx.tx.nonce = (initialRecord session.getAccountState tx.tx.sndAddr).initialNonce +
      (noncesOf tx.tx.sndAddr selected).length)
    (short : (selected.length : Int) < maxNum) (fits : addGas accumulatedGas tx.tx.gasLimit ≤ gasRequested) :
    SelectionOutcome session listed gasRequested maxNum (selected ++ [tx]) (addGas accumulatedGas tx.tx.gasLimit) := by
  have fresh : tx ∉ selected := fun mem => by
    have nonceMem : tx.tx.nonce ∈ noncesOf tx.tx.sndAddr selected :=
      List.mem_map_of_mem _ (List.mem_filter.2 ⟨mem, beq_self_eq_true _⟩)
    rw [outcome.contiguous, List.mem_range'_1] at nonceMem
    omega
  refine ⟨fun sender => ?_, outcome.nodup.append (List.nodup_singleton tx) (by simpa using fresh),
    fun t mem => ?_, ?_, fits, .inr ?_⟩
  · rw [noncesOf_append_singleton]
    split
    · next same =>
      subst same
      rw [List.length_append, List.length_singleton, List.range'_1_concat, ← outcome.contiguous, expected]
    · rw [List.append_nil, ← outcome.contiguous]
  · rcases List.mem_append.1 mem with old | new
    · exact outcome.fromListed t old
    · exact (List.mem_singleton.1 new) ▸ txListed
  · simp only [addGas, outcome.gas, List.map_append, List.sum_append, List.map_cons, List.map_nil,
      List.sum_cons, List.sum_nil, Nat.add_zero, Nat.mod_add_mod]
  · simp only [List.length_append, List.length_singleton, Nat.cast_add, Nat.cast_one]
    omega

theorem SelectionInvariant.selectionStep {state state' : SelectionState} {deadlineExceeded : Bool}
    (holds : SelectionInvariant session listed gasRequested maxNum state)
    (stepped : selectionStep less session gasRequested maxNum deadlineExceeded state = some state') :
    SelectionInvariant session listed gasRequested maxNum state' := by
  obtain ⟨item, others, popped, short, fits, kept | ⟨expected, covered, rfl⟩⟩ := selectionStep_eq_some stepped
  · obtain ⟨selected, gas, wrapper, heap⟩ := kept
    have looked := (holds.accounts.getNonce item.currentTransaction.tx.sndAddr).2
    refine ⟨?_, fun t mem => holds.heapListed t ((heapTransactions_after_pop popped heap).1 t mem),
      by rw [selected, gas]; exact holds.outcome⟩
    rw [selected]
    rcases wrapper with same | same <;> rw [same]
    exacts [looked, (looked.detectWillFeeExceedBalance _).1]
  · have looked := holds.accounts.getNonce item.currentTransaction.tx.sndAddr
    have current : item.currentTransaction ∈ heapTransactions state.heap :=
      (heapTransactions_perm (heapPop_perm popped)).mem_iff.2 (List.mem_cons_self _ _)
    refine ⟨((looked.2.detectWillFeeExceedBalance _).1).accumulateConsumedBalance _,
      fun t mem => holds.heapListed t ((heapTransactions_after_pop popped (.inl rfl)).1 t mem),
      holds.outcome.append (holds.heapListed _ current) ?_ short fits⟩
    rw [expected, expectedNonce, looked.1, noncesOf, List.length_map]

end Invariant

/-- The selection answers the outcome, over every cache, session, gas, `maxNum` and deadline. -/
theorem doSelectTransactions_outcome (less : WrappedTransaction → WrappedTransaction → Bool) (cache : TxCache)
    (session : SelectionSession) (gasRequested : Nat) (maxNum : Int) (deadline : Nat → Bool) :
    SelectionOutcome session cache.txListBySender.listed gasRequested maxNum
      (cache.doSelectTransactions less session gasRequested maxNum deadline).1
      (cache.doSelectTransactions less session gasRequested maxNum deadline).2 := by
  obtain ⟨accounts, heap⟩ := initialSelectionHeap_spec session cache.txListBySender.getSenders
    (Accounts.new session.getAccountState)
  refine (selectLoop_induction less session gasRequested maxNum deadline
    (SelectionInvariant session cache.txListBySender.listed gasRequested maxNum)
    (fun _ _ _ holds stepped => holds.selectionStep stepped) _ 0 _
    ⟨accounts, fun t mem => heap.subset mem, ?_⟩).outcome
  exact ⟨fun _ => rfl, List.nodup_nil, fun _ none => (nomatch none), rfl, Nat.zero_le _, .inl rfl⟩

theorem doSelectTransactions_fuel (less : WrappedTransaction → WrappedTransaction → Bool) (cache : TxCache)
    (session : SelectionSession) (gasRequested : Nat) (maxNum : Int) (deadline : Nat → Bool) (extra : Nat) :
    let initial := initialSelectionHeap session newSelectionSessionWrapper cache.txListBySender.getSenders
    let start : SelectionState := { wrapper := initial.1, heap := initial.2, selected := [], accumulatedGas := 0 }
    selectLoop less session gasRequested maxNum deadline (cache.txListBySender.listed.length + extra) 0 start =
      selectLoop less session gasRequested maxNum deadline cache.txListBySender.listed.length 0 start :=
  selectLoop_add_fuel less session gasRequested maxNum deadline _ 0 _
    (initialSelectionHeap_spec session cache.txListBySender.getSenders
      (Accounts.new session.getAccountState)).2.length_le extra

theorem SelectionOutcome.hashes_nodup {session : SelectionSession} {listed : List WrappedTransaction}
    {gasRequested : Nat} {maxNum : Int} {selected : List WrappedTransaction} {accumulatedGas : Nat}
    (outcome : SelectionOutcome session listed gasRequested maxNum selected accumulatedGas)
    (distinct : (listed.map (·.txHash)).Nodup) : (selected.map (·.txHash)).Nodup :=
  outcome.nodup.map_on fun x xMem y yMem same =>
    List.inj_on_of_nodup_map distinct (outcome.fromListed x xMem) (outcome.fromListed y yMem) same

def gasTx (sender txHash : String) (nonce gasLimit : Nat) : WrappedTransaction :=
  { sampleTx sender txHash nonce 1 with tx := { nonce := nonce, sndAddr := sender, gasLimit := gasLimit, gasPrice := 1 } }

def noEvictionConfig : ConfigSourceMe :=
  { numBytesThreshold := 100, countThreshold := 100, numBytesPerSenderThreshold := 100,
    countPerSenderThreshold := 100, evictionEnabled := false, numItemsToPreemptivelyEvict := 1 }

/-- Two transactions of alice, of gas limits 5 and 2 ^ 64 - 1. -/
def overflowCache : TxCache :=
  (newTxCache noEvictionConfig).run maxTransactionsHeapLess [.addTx (some (gasTx "alice" "a" 0 5)), .addTx (some (gasTx "alice" "b" 1 (2 ^ 64 - 1)))]

def overflowSession : SelectionSession :=
  { getAccountState := fun _ => some { nonce := 0, balance := 100 }, isIncorrectlyGuarded := fun _ => false }

/-- The `uint64` gas wraps: both transactions are selected for 10 gas, and the gas answered is
4, while their gas limits add up to 2 ^ 64 + 4. -/
theorem selectTransactions_wraps_accumulatedGas :
    overflowCache.selectTransactions maxTransactionsHeapLess (some overflowSession) 10 10 (fun _ => false) =
      ([gasTx "alice" "a" 0 5, gasTx "alice" "b" 1 (2 ^ 64 - 1)], 4) ∧
    ([gasTx "alice" "a" 0 5, gasTx "alice" "b" 1 (2 ^ 64 - 1)].map (·.tx.gasLimit)).sum = 2 ^ 64 + 4 := by
  decide

end ChainStorage.Mempool
