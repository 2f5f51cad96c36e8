import ChainStorage.Mempool.WrappedTransaction

/-! # The selection session wrapper

`selectionSessionWrapper` of `selectionSessionWrapper.go`: the account records a selection
keeps, one per address, each created on the first lookup from the session's answer
(`{0, 0, 0}` on an error) and then only charged. The session is a function from addresses to
an account state, `none` standing for an error; the wrapper also logs the addresses it asks
the session about. Records are held by pointer in the Go map, so charging a record is an
update of the map entry of its address.

A selection calls `getNonce`, and `detectWillFeeExceedBalance` followed by
`accumulateConsumedBalance` when the fee does not exceed the balance (`WrapperCall`).

**Main results:**

- `runWrapperCalls_selection`: along every sequence of calls, each record is the session's
  answer charged with the value its address sent and the fees it paid (`Accounts`).
- `feesPaid_le_initialBalance`: every address that paid a fee has paid at most its initial
  balance in fees.
- `feesPaid_gt_negative_initialBalance`: an address that paid nothing stays above a negative
  initial balance, so the bound does not hold for every recorded address.
-/

namespace ChainStorage.Mempool

/-- The account state `SelectionSession.GetAccountState` answers. -/
structure AccountState where
  nonce : Nat
  balance : Int
  deriving DecidableEq, Repr

structure AccountRecord where
  initialNonce : Nat
  initialBalance : Int
  consumedBalance : Int
  deriving DecidableEq, Repr

/-- `selectionSessionWrapper`: the records by address, and the addresses the session was asked
about, in order. -/
structure SelectionSessionWrapper where
  recordsByAddress : List (String × AccountRecord)
  accountStateRequests : List String
  deriving DecidableEq, Repr

def newSelectionSessionWrapper : SelectionSessionWrapper :=
  { recordsByAddress := [], accountStateRequests := [] }

/-- The record of an address, as the balance check reads it once the account was looked up. -/
def initialRecord (session : String → Option AccountState) (address : String) : AccountRecord :=
  match session address with
  | none => { initialNonce := 0, initialBalance := 0, consumedBalance := 0 }
  | some state => { initialNonce := state.nonce, initialBalance := state.balance, consumedBalance := 0 }

namespace SelectionSessionWrapper

variable (session : String → Option AccountState)

/-- The map lookup `recordsByAddress[string(address)]`. -/
def record (w : SelectionSessionWrapper) (address : String) : Option AccountRecord :=
  (w.recordsByAddress.find? (·.1 == address)).map (·.2)

def getAccountRecord (w : SelectionSessionWrapper) (address : String) :
    AccountRecord × SelectionSessionWrapper :=
  match w.record address with
  | some record => (record, w)
  | none =>
    (initialRecord session address,
      { recordsByAddress := (address, initialRecord session address) :: w.recordsByAddress,
        accountStateRequests := w.accountStateRequests ++ [address] })

def getNonce (w : SelectionSessionWrapper) (address : String) : Nat × SelectionSessionWrapper :=
  let got := w.getAccountRecord session address
  (got.1.initialNonce, got.2)

/-- `record.consumedBalance.Add(record.consumedBalance, amount)` on the record of an address. -/
def addConsumedBalance (w : SelectionSessionWrapper) (address : String) (amount : Int) :
    SelectionSessionWrapper :=
  { w with recordsByAddress := w.recordsByAddress.map fun entry =>
      if entry.1 = address then (entry.1, { entry.2 with consumedBalance := entry.2.consumedBalance + amount })
      else entry }

/-- `if amount != nil { record.consumedBalance.Add(record.consumedBalance, amount) }`. -/
def addConsumedBalanceIf (w : SelectionSessionWrapper) (address : String) :
    Option Int → SelectionSessionWrapper
  | some amount => w.addConsumedBalance address amount
  | none => w

def accumulateConsumedBalance (w : SelectionSessionWrapper) (tx : WrappedTransaction) :
    SelectionSessionWrapper :=
  let w := (w.getAccountRecord session tx.tx.sndAddr).2
  let w := (w.getAccountRecord session tx.feePayer).2
  let w := w.addConsumedBalanceIf tx.tx.sndAddr tx.transferredValue
  w.addConsumedBalanceIf tx.feePayer tx.fee

def detectWillFeeExceedBalance (w : SelectionSessionWrapper) (tx : WrappedTransaction) :
    Bool × SelectionSessionWrapper :=
  match tx.fee with
  | none => (false, w)
  | some fee =>
    let feePayerRecord := w.getAccountRecord session tx.feePayer
    (decide (feePayerRecord.1.consumedBalance + fee > feePayerRecord.1.initialBalance), feePayerRecord.2)

end SelectionSessionWrapper

/-- What a selection asks of the wrapper: an account nonce, or a transaction to accumulate
unless its fee would exceed its payer's balance. -/
inductive WrapperCall where
  | getNonce (address : String)
  | selectIfAffordable (tx : WrappedTransaction)
  deriving DecidableEq, Repr

def WrapperCall.offered : WrapperCall → List WrappedTransaction
  | .getNonce _ => []
  | .selectIfAffordable tx => [tx]

def WrapperCall.apply (session : String → Option AccountState) :
    SelectionSessionWrapper × List WrappedTransaction → WrapperCall →
      SelectionSessionWrapper × List WrappedTransaction
  | (w, accumulated), .getNonce address => ((w.getNonce session address).2, accumulated)
  | (w, accumulated), .selectIfAffordable tx =>
    let detected := w.detectWillFeeExceedBalance session tx
    if detected.1 then (detected.2, accumulated)
    else (detected.2.accumulateConsumedBalance session tx, accumulated ++ [tx])

def runWrapperCalls (session : String → Option AccountState) (calls : List WrapperCall) :
    SelectionSessionWrapper × List WrappedTransaction :=
  calls.foldl (WrapperCall.apply session) (newSelectionSessionWrapper, [])

/-- The fees an address paid over the accumulated transactions, a nil fee counting 0. -/
def feesPaidBy (address : String) (accumulated : List WrappedTransaction) : Int :=
  ((accumulated.filter (·.feePayer == address)).map (·.fee.getD 0)).sum

/-- The value an address sent over the accumulated transactions, a nil value counting 0. -/
def transferredBy (address : String) (accumulated : List WrappedTransaction) : Int :=
  ((accumulated.filter (·.tx.sndAddr == address)).map (·.transferredValue.getD 0)).sum

@[simp] theorem feesPaidBy_nil (address : String) : feesPaidBy address [] = 0 := rfl

@[simp] theorem transferredBy_nil (address : String) : transferredBy address [] = 0 := rfl

theorem feesPaidBy_append (address : String) (accumulated : List WrappedTransaction)
    (tx : WrappedTransaction) :
    feesPaidBy address (accumulated ++ [tx]) =
      feesPaidBy address accumulated + if tx.feePayer = address then tx.fee.getD 0 else 0 := by
  by_cases payer : tx.feePayer = address <;> simp [feesPaidBy, payer]

theorem transferredBy_append (address : String) (accumulated : List WrappedTransaction)
    (tx : WrappedTransaction) :
    transferredBy address (accumulated ++ [tx]) =
      transferredBy address accumulated + if tx.tx.sndAddr = address then tx.transferredValue.getD 0 else 0 := by
  by_cases sender : tx.tx.sndAddr = address <;> simp [transferredBy, sender]

/-! ## Records -/

namespace SelectionSessionWrapper

variable (session : String → Option AccountState)

theorem record_eq_none {w : SelectionSessionWrapper} {address : String} :
    w.record address = none ↔ ∀ entry ∈ w.recordsByAddress, entry.1 ≠ address := by
  simp only [record, Option.map_eq_none', List.find?_eq_none, beq_iff_eq]

theorem getAccountRecord_of_found {w : SelectionSessionWrapper} {address : String} {r : AccountRecord}
    (found : w.record address = some r) : w.getAccountRecord session address = (r, w) := by
  simp [getAccountRecord, found]

theorem record_getAccountRecord (w : SelectionSessionWrapper) (address other : String) :
    (w.getAccountRecord session address).2.record other =
      if other = address then some (w.getAccountRecord session address).1 else w.record other := by
  unfold getAccountRecord
  cases found : w.record address with
  | some r =>
    by_cases same : other = address
    · subst same; simp [found]
    · simp [same]
  | none =>
    by_cases same : other = address
    · subst same; simp [record]
    · simp [record, List.find?_cons, same, Ne.symm same]

theorem record_addConsumedBalance (w : SelectionSessionWrapper) (address other : String) (amount : Int) :
    (w.addConsumedBalance address amount).record other =
      (w.record other).map fun r =>
        if other = address then { r with consumedBalance := r.consumedBalance + amount } else r := by
  have sameKey : ((fun entry : String × AccountRecord => entry.1 == other) ∘ fun entry =>
      if entry.1 = address then (entry.1, { entry.2 with consumedBalance := entry.2.consumedBalance + amount })
      else entry) = fun entry => entry.1 == other :=
    funext fun entry => by simp only [Function.comp]; split <;> rfl
  simp only [record, addConsumedBalance, List.find?_map, sameKey, Option.map_map]
  cases found : w.recordsByAddress.find? (·.1 == other) with
  | none => rfl
  | some entry =>
    have key : entry.1 = other := by simpa using List.find?_some found
    simp only [Option.map_some', Function.comp, key]
    split <;> rfl

/-- What charging an optional amount to `address` does to the record of `other`. -/
def chargeIf (address other : String) : Option Int → AccountRecord → AccountRecord
  | some amount, r => if other = address then { r with consumedBalance := r.consumedBalance + amount } else r
  | none, r => r

theorem chargeIf_eq (address other : String) (amount : Option Int) (r : AccountRecord) :
    chargeIf address other amount r =
      { r with consumedBalance := r.consumedBalance + if address = other then amount.getD 0 else 0 } := by
  by_cases same : other = address
  · subst same
    cases amount <;> simp [chargeIf]
  · cases amount <;> simp [chargeIf, same, Ne.symm same]

theorem record_addConsumedBalanceIf (w : SelectionSessionWrapper) (address other : String)
    (amount : Option Int) :
    (w.addConsumedBalanceIf address amount).record other =
      (w.record other).map (chargeIf address other amount) := by
  cases amount with
  | none => exact Option.map_id'.symm
  | some amount => simp only [addConsumedBalanceIf, record_addConsumedBalance]; rfl

theorem record_accumulateConsumedBalance (w : SelectionSessionWrapper) (tx : WrappedTransaction)
    (address : String) :
    (w.accumulateConsumedBalance session tx).record address =
      (((w.getAccountRecord session tx.tx.sndAddr).2.getAccountRecord session tx.feePayer).2.record
        address).map (chargeIf tx.feePayer address tx.fee ∘ chargeIf tx.tx.sndAddr address tx.transferredValue) := by
  simp only [accumulateConsumedBalance, record_addConsumedBalanceIf, Option.map_map]

end SelectionSessionWrapper

/-! ## Accounting along a selection -/

/-- The record an address has after the accumulated transactions: the session's answer, charged
with the value the address sent and the fees it paid. -/
def expectedRecord (session : String → Option AccountState) (accumulated : List WrappedTransaction)
    (address : String) : AccountRecord :=
  { initialRecord session address with
    consumedBalance := transferredBy address accumulated + feesPaidBy address accumulated }

/-- What the wrapper keeps along a selection: every record is the expected one, and the sender
and fee payer of every accumulated transaction have a record. -/
structure Accounts (session : String → Option AccountState) (w : SelectionSessionWrapper)
    (accumulated : List WrappedTransaction) : Prop where
  records : ∀ address r, w.record address = some r → r = expectedRecord session accumulated address
  charged : ∀ tx ∈ accumulated, (w.record tx.tx.sndAddr).isSome ∧ (w.record tx.feePayer).isSome

theorem expectedRecord_append (session : String → Option AccountState)
    (accumulated : List WrappedTransaction) (tx : WrappedTransaction) (address : String) :
    expectedRecord session (accumulated ++ [tx]) address =
      (SelectionSessionWrapper.chargeIf tx.feePayer address tx.fee ∘
        SelectionSessionWrapper.chargeIf tx.tx.sndAddr address tx.transferredValue)
        (expectedRecord session accumulated address) := by
  simp only [Function.comp, SelectionSessionWrapper.chargeIf_eq, expectedRecord, transferredBy_append,
    feesPaidBy_append]
  congr 1
  omega

namespace Accounts

variable {session : String → Option AccountState} {w : SelectionSessionWrapper}
  {accumulated : List WrappedTransaction}

theorem initialRecord_eq_expected (accounts : Accounts session w accumulated) {address : String}
    (unrecorded : w.record address = none) :
    initialRecord session address = expectedRecord session accumulated address := by
  have notSender : accumulated.filter (·.tx.sndAddr == address) = [] :=
    List.filter_eq_nil_iff.2 fun tx mem same => by
      simpa [show tx.tx.sndAddr = address by simpa using same, unrecorded] using (accounts.charged tx mem).1
  have notPayer : accumulated.filter (·.feePayer == address) = [] :=
    List.filter_eq_nil_iff.2 fun tx mem same => by
      simpa [show tx.feePayer = address by simpa using same, unrecorded] using (accounts.charged tx mem).2
  simp only [expectedRecord, transferredBy, feesPaidBy, notSender, notPayer, List.map_nil,
    List.sum_nil, Int.add_zero]
  unfold initialRecord
  cases session address <;> rfl

theorem getAccountRecord (accounts : Accounts session w accumulated) (address : String) :
    (w.getAccountRecord session address).1 = expectedRecord session accumulated address ∧
      Accounts session (w.getAccountRecord session address).2 accumulated := by
  cases found : w.record address with
  | some r =>
    rw [SelectionSessionWrapper.getAccountRecord_of_found session found]
    exact ⟨accounts.records address r found, accounts⟩
  | none =>
    have answer : (w.getAccountRecord session address).1 = expectedRecord session accumulated address := by
      simp only [SelectionSessionWrapper.getAccountRecord, found]
      exact accounts.initialRecord_eq_expected found
    refine ⟨answer, fun other r lookup => ?_, fun tx mem => ?_⟩
    · rw [SelectionSessionWrapper.record_getAccountRecord] at lookup
      split at lookup
      · next same => subst same; exact (Option.some.inj lookup).symm.trans answer
      · exact accounts.records other r lookup
    · simp only [SelectionSessionWrapper.record_getAccountRecord]
      constructor <;> split <;> simp [accounts.charged tx mem]

theorem accumulateConsumedBalance (accounts : Accounts session w accumulated) (tx : WrappedTransaction) :
    Accounts session (w.accumulateConsumedBalance session tx) (accumulated ++ [tx]) := by
  have first := (accounts.getAccountRecord tx.tx.sndAddr).2
  have second := (first.getAccountRecord tx.feePayer).2
  refine ⟨fun address r lookup => ?_, fun t mem => ?_⟩
  · rw [SelectionSessionWrapper.record_accumulateConsumedBalance] at lookup
    obtain ⟨old, oldLookup, rfl⟩ := Option.map_eq_some'.1 lookup
    rw [second.records address old oldLookup, expectedRecord_append]
  · simp only [SelectionSessionWrapper.record_accumulateConsumedBalance, Option.isSome_map']
    rcases List.mem_append.1 mem with old | new
    · exact second.charged t old
    · obtain rfl := List.mem_singleton.1 new
      simp only [SelectionSessionWrapper.record_getAccountRecord]
      constructor <;> split <;> simp_all

theorem detectWillFeeExceedBalance (accounts : Accounts session w accumulated) (tx : WrappedTransaction) :
    Accounts session (w.detectWillFeeExceedBalance session tx).2 accumulated ∧
      ((w.detectWillFeeExceedBalance session tx).1 = false → ∀ fee, tx.fee = some fee →
        (expectedRecord session accumulated tx.feePayer).consumedBalance + fee ≤
          (expectedRecord session accumulated tx.feePayer).initialBalance) := by
  unfold SelectionSessionWrapper.detectWillFeeExceedBalance
  cases charged : tx.fee with
  | none => exact ⟨accounts, fun _ _ none => nomatch none⟩
  | some fee =>
    obtain ⟨answer, kept⟩ := accounts.getAccountRecord tx.feePayer
    refine ⟨kept, fun within _ same => ?_⟩
    cases same
    simpa [answer] using within

end Accounts

/-! ## Runs -/

theorem runWrapperCalls_induction (session : String → Option AccountState)
    (P : SelectionSessionWrapper × List WrappedTransaction → Prop) (calls : List WrapperCall)
    (step : ∀ state call, call ∈ calls → P state → P (WrapperCall.apply session state call)) :
    ∀ {state}, P state → P (calls.foldl (WrapperCall.apply session) state) := by
  induction calls with
  | nil => exact id
  | cons call calls inductionHypothesis =>
    intro state holds
    exact inductionHypothesis (fun state call mem => step state call (List.mem_cons_of_mem _ mem))
      (step state call (List.mem_cons_self _ _) holds)

theorem transferredBy_nonneg {accumulated : List WrappedTransaction}
    (nonnegative : ∀ tx ∈ accumulated, ∀ value, tx.transferredValue = some value → 0 ≤ value)
    (address : String) : 0 ≤ transferredBy address accumulated := by
  refine List.sum_nonneg fun amount mem => ?_
  obtain ⟨tx, txMem, rfl⟩ := List.mem_map.1 mem
  cases value : tx.transferredValue with
  | none => exact le_refl 0
  | some value' => exact nonnegative tx (List.mem_of_mem_filter txMem) value' value

/-- Every address that paid a fee over the accumulated transactions paid at most its initial
balance in fees. -/
def FeesCovered (session : String → Option AccountState) (accumulated : List WrappedTransaction) : Prop :=
  ∀ address, (∃ tx ∈ accumulated, tx.feePayer = address ∧ tx.fee.isSome) →
    feesPaidBy address accumulated ≤ (initialRecord session address).initialBalance

/-- The invariant of a selection's wrapper, whose transactions come from `offered`. -/
structure Selection (session : String → Option AccountState) (offered : List WrappedTransaction)
    (state : SelectionSessionWrapper × List WrappedTransaction) : Prop where
  accounts : Accounts session state.1 state.2
  covered : FeesCovered session state.2
  fromOffered : ∀ tx ∈ state.2, tx ∈ offered

theorem feesCovered_append {session : String → Option AccountState} {accumulated : List WrappedTransaction}
    (covered : FeesCovered session accumulated) {tx : WrappedTransaction}
    (nonnegative : ∀ t ∈ accumulated, ∀ value, t.transferredValue = some value → 0 ≤ value)
    (passed : ∀ fee, tx.fee = some fee →
      (expectedRecord session accumulated tx.feePayer).consumedBalance + fee ≤
        (expectedRecord session accumulated tx.feePayer).initialBalance) :
    FeesCovered session (accumulated ++ [tx]) := by
  rintro address ⟨t, tMem, payer, paid⟩
  rw [feesPaidBy_append]
  by_cases charged : tx.feePayer = address ∧ tx.fee.isSome
  · obtain ⟨rfl, isSome⟩ := charged
    obtain ⟨fee, same⟩ := Option.isSome_iff_exists.1 isSome
    have pays := passed fee same
    have sent := transferredBy_nonneg nonnegative tx.feePayer
    simp only [expectedRecord] at pays
    simp only [same, if_true, Option.getD_some]
    omega
  · have old : ∃ t ∈ accumulated, t.feePayer = address ∧ t.fee.isSome := by
      rcases List.mem_append.1 tMem with old | new
      · exact ⟨t, old, payer, paid⟩
      · obtain rfl := List.mem_singleton.1 new
        exact absurd ⟨payer, paid⟩ charged
    have zero : (if tx.feePayer = address then tx.fee.getD 0 else 0) = 0 := by
      split
      · next same =>
        cases fee : tx.fee
        · rfl
        · exact absurd ⟨same, by rw [fee]; rfl⟩ charged
      · rfl
    rw [zero, Int.add_zero]
    exact covered address old

theorem apply_selection {session : String → Option AccountState} {offered : List WrappedTransaction}
    (nonnegative : ∀ tx ∈ offered, ∀ value, tx.transferredValue = some value → 0 ≤ value)
    {state : SelectionSessionWrapper × List WrappedTransaction} (holds : Selection session offered state)
    (call : WrapperCall) (offeredCall : ∀ tx ∈ call.offered, tx ∈ offered) :
    Selection session offered (WrapperCall.apply session state call) := by
  obtain ⟨w, accumulated⟩ := state
  cases call with
  | getNonce address =>
    exact ⟨(holds.accounts.getAccountRecord address).2, holds.covered, holds.fromOffered⟩
  | selectIfAffordable tx =>
    obtain ⟨kept, passed⟩ := holds.accounts.detectWillFeeExceedBalance tx
    simp only [WrapperCall.apply]
    split
    · exact ⟨kept, holds.covered, holds.fromOffered⟩
    · next notExceeded =>
      refine ⟨kept.accumulateConsumedBalance tx,
        feesCovered_append holds.covered (fun t mem => nonnegative t (holds.fromOffered t mem))
          (passed (by simpa using notExceeded)), fun t mem => ?_⟩
      rcases List.mem_append.1 mem with old | new
      · exact holds.fromOffered t old
      · exact offeredCall t (by simpa [WrapperCall.offered] using new)

theorem runWrapperCalls_selection (session : String → Option AccountState) (calls : List WrapperCall)
    (nonnegative : ∀ tx ∈ calls.flatMap WrapperCall.offered, ∀ value,
      tx.transferredValue = some value → 0 ≤ value) :
    Selection session (calls.flatMap WrapperCall.offered) (runWrapperCalls session calls) := by
  refine runWrapperCalls_induction session (Selection session (calls.flatMap WrapperCall.offered)) calls
    (fun _ call mem holds => apply_selection nonnegative holds call
      fun tx offered => List.mem_flatMap.2 ⟨call, mem, offered⟩) ?_
  refine ⟨⟨fun _ _ none => (nomatch none), fun _ none => (nomatch none)⟩, ?_, fun _ none => (nomatch none)⟩
  rintro _ ⟨_, none, _⟩
  exact nomatch none

/-! ## The fee gate -/

/-- Every address that paid a fee over a selection's accumulated transactions has a record and
paid at most the initial balance recorded for it; an address that paid no fee paid 0. -/
theorem feesPaid_le_initialBalance (session : String → Option AccountState) (calls : List WrapperCall)
    (nonnegative : ∀ tx ∈ calls.flatMap WrapperCall.offered, ∀ value,
      tx.transferredValue = some value → 0 ≤ value) (address : String) :
    ((∃ tx ∈ (runWrapperCalls session calls).2, tx.feePayer = address ∧ tx.fee.isSome) →
      ∃ r, (runWrapperCalls session calls).1.record address = some r ∧
        feesPaidBy address (runWrapperCalls session calls).2 ≤ r.initialBalance) ∧
    ((¬ ∃ tx ∈ (runWrapperCalls session calls).2, tx.feePayer = address ∧ tx.fee.isSome) →
      feesPaidBy address (runWrapperCalls session calls).2 = 0) := by
  have selection := runWrapperCalls_selection session calls nonnegative
  constructor
  · intro paid
    obtain ⟨tx, mem, rfl, charged⟩ := paid
    obtain ⟨r, found⟩ := Option.isSome_iff_exists.1 (selection.accounts.charged tx mem).2
    refine ⟨r, found, ?_⟩
    rw [selection.accounts.records _ r found]
    exact selection.covered _ ⟨tx, mem, rfl, charged⟩
  · intro unpaid
    refine List.sum_eq_zero fun amount amountMem => ?_
    obtain ⟨tx, txMem, rfl⟩ := List.mem_map.1 amountMem
    obtain ⟨mem, payer⟩ := List.mem_filter.1 txMem
    cases fee : tx.fee with
    | none => rfl
    | some fee' => exact absurd ⟨tx, mem, by simpa using payer, by simp [fee]⟩ unpaid

/-- Alice, with a balance of 5, pays a fee of 3 and sends 1. -/
theorem feesPaid_le_initialBalance_alice :
    (∀ tx ∈ [WrapperCall.selectIfAffordable
        { sampleTx "alice" "a" 1 1 with fee := some 3, transferredValue := some 1 }].flatMap WrapperCall.offered,
      ∀ value, tx.transferredValue = some value → 0 ≤ value) ∧
    ((∃ tx ∈ (runWrapperCalls (fun _ => some { nonce := 1, balance := 5 }) [WrapperCall.selectIfAffordable
          { sampleTx "alice" "a" 1 1 with fee := some 3, transferredValue := some 1 }]).2,
        tx.feePayer = "alice" ∧ tx.fee.isSome) →
      ∃ r, (runWrapperCalls (fun _ => some { nonce := 1, balance := 5 }) [WrapperCall.selectIfAffordable
          { sampleTx "alice" "a" 1 1 with fee := some 3, transferredValue := some 1 }]).1.record "alice" = some r ∧
        feesPaidBy "alice" (runWrapperCalls (fun _ => some { nonce := 1, balance := 5 })
          [WrapperCall.selectIfAffordable
            { sampleTx "alice" "a" 1 1 with fee := some 3, transferredValue := some 1 }]).2 ≤ r.initialBalance) ∧
    ((¬ ∃ tx ∈ (runWrapperCalls (fun _ => some { nonce := 1, balance := 5 }) [WrapperCall.selectIfAffordable
          { sampleTx "alice" "a" 1 1 with fee := some 3, transferredValue := some 1 }]).2,
        tx.feePayer = "alice" ∧ tx.fee.isSome) →
      feesPaidBy "alice" (runWrapperCalls (fun _ => some { nonce := 1, balance := 5 })
        [WrapperCall.selectIfAffordable
          { sampleTx "alice" "a" 1 1 with fee := some 3, transferredValue := some 1 }]).2 = 0) :=
  have nonnegative : ∀ tx ∈ [WrapperCall.selectIfAffordable
      { sampleTx "alice" "a" 1 1 with fee := some 3, transferredValue := some 1 }].flatMap WrapperCall.offered,
      ∀ value, tx.transferredValue = some value → 0 ≤ value := by
    intro tx mem value same
    simp only [List.flatMap_cons, List.flatMap_nil, WrapperCall.offered, List.append_nil,
      List.mem_singleton] at mem
    subst mem
    cases same
    decide
  ⟨nonnegative, feesPaid_le_initialBalance _ _ nonnegative "alice"⟩

/-- Read for every recorded address, the bound fails: an address that the session gives a
negative balance and that is only asked for its nonce has paid nothing, which is more than its
balance. -/
theorem feesPaid_gt_negative_initialBalance :
    (runWrapperCalls (fun _ => some { nonce := 0, balance := -1 }) [.getNonce "alice"]).1.record "alice" =
        some { initialNonce := 0, initialBalance := -1, consumedBalance := 0 } ∧
      ¬ feesPaidBy "alice" (runWrapperCalls (fun _ => some { nonce := 0, balance := -1 })
        [.getNonce "alice"]).2 ≤ -1 := by
  decide

end ChainStorage.Mempool
