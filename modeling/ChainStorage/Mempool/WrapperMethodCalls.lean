import ChainStorage.Mempool.SelectionSessionWrapper

/-! # The wrapper's methods in any order

`getNonce`, `detectWillFeeExceedBalance` and `accumulateConsumedBalance` of
`selectionSessionWrapper.go`, called in any order from any wrapper. Each call runs with the
answers the session gives meanwhile, so a session whose answers change from one call to the next
is a different answer function per call. A call looks up the addresses it `consulted`; the
session is asked about an address only at its first lookup, since `getAccountRecord` finds the
record afterwards, and the record it then creates is only ever charged (`AccountRecord.charge`).

**Main results:**

- `methodCall_record`: what one call does to the record of every address.
- `runMethodCalls_records`: over every sequence of calls, each address without a record is asked
  about once, by the first call that consults it; its record keeps that answer, and its consumed
  balance is what it sent plus the fees it paid over the accumulated transactions.
-/

namespace ChainStorage.Mempool

/-- A call of one of the wrapper's methods that a selection makes. -/
inductive WrapperMethodCall where
  | getNonce (address : String)
  | detectWillFeeExceedBalance (tx : WrappedTransaction)
  | accumulateConsumedBalance (tx : WrappedTransaction)
  deriving DecidableEq, Repr

namespace WrapperMethodCall

def apply (session : String → Option AccountState) (w : SelectionSessionWrapper) :
    WrapperMethodCall → SelectionSessionWrapper
  | getNonce address => (w.getNonce session address).2
  | detectWillFeeExceedBalance tx => (w.detectWillFeeExceedBalance session tx).2
  | accumulateConsumedBalance tx => w.accumulateConsumedBalance session tx

def consulted : WrapperMethodCall → List String
  | getNonce address => [address]
  | detectWillFeeExceedBalance tx => if tx.fee.isSome then [tx.feePayer] else []
  | accumulateConsumedBalance tx => [tx.tx.sndAddr, tx.feePayer]

def accumulated : WrapperMethodCall → List WrappedTransaction
  | accumulateConsumedBalance tx => [tx]
  | _ => []

end WrapperMethodCall

/-- The calls one at a time from `w`, each with the session's answers while it runs. -/
def runMethodCalls (w : SelectionSessionWrapper)
    (calls : List (WrapperMethodCall × (String → Option AccountState))) : SelectionSessionWrapper :=
  calls.foldl (fun w call => call.1.apply call.2 w) w

/-- The session's answers during the first call that looks the address up. -/
def firstConsultedBy (address : String) :
    List (WrapperMethodCall × (String → Option AccountState)) → Option (String → Option AccountState)
  | [] => none
  | (call, session) :: calls => if address ∈ call.consulted then some session else firstConsultedBy address calls

/-- A record charged with what the address sent and the fees it paid over the transactions. -/
def AccountRecord.charge (address : String) (accumulated : List WrappedTransaction) (r : AccountRecord) :
    AccountRecord :=
  { r with consumedBalance := r.consumedBalance + (transferredBy address accumulated + feesPaidBy address accumulated) }

@[simp] theorem AccountRecord.charge_nil (address : String) : AccountRecord.charge address [] = id := by
  funext r
  simp [AccountRecord.charge]

theorem AccountRecord.charge_append (address : String) (first second : List WrappedTransaction) :
    AccountRecord.charge address (first ++ second) =
      AccountRecord.charge address second ∘ AccountRecord.charge address first := by
  funext r
  simp only [Function.comp, AccountRecord.charge, transferredBy, feesPaidBy, List.filter_append,
    List.map_append, List.sum_append, AccountRecord.mk.injEq, true_and]
  omega

theorem transferredBy_singleton (address : String) (tx : WrappedTransaction) :
    transferredBy address [tx] = if tx.tx.sndAddr = address then tx.transferredValue.getD 0 else 0 := by
  simpa using transferredBy_append address [] tx

theorem feesPaidBy_singleton (address : String) (tx : WrappedTransaction) :
    feesPaidBy address [tx] = if tx.feePayer = address then tx.fee.getD 0 else 0 := by
  simpa using feesPaidBy_append address [] tx

/-! ## One call -/

namespace SelectionSessionWrapper

variable (session : String → Option AccountState)

theorem getAccountRecord_fst (w : SelectionSessionWrapper) (address : String) :
    (w.getAccountRecord session address).1 = (w.record address).getD (initialRecord session address) := by
  unfold getAccountRecord
  cases w.record address <;> rfl

theorem record_lookup (w : SelectionSessionWrapper) (address other : String) :
    (w.getAccountRecord session address).2.record other =
      if other = address then some ((w.record other).getD (initialRecord session other)) else w.record other := by
  rw [record_getAccountRecord, getAccountRecord_fst]
  split
  · next same => rw [same]
  · rfl

theorem requests_getAccountRecord (w : SelectionSessionWrapper) (address : String) :
    (w.getAccountRecord session address).2.accountStateRequests =
      w.accountStateRequests ++ if (w.record address).isNone then [address] else [] := by
  unfold getAccountRecord
  cases w.record address <;> simp

@[simp] theorem requests_addConsumedBalanceIf (w : SelectionSessionWrapper) (address : String)
    (amount : Option Int) : (w.addConsumedBalanceIf address amount).accountStateRequests = w.accountStateRequests := by
  cases amount <;> rfl

theorem requests_accumulateConsumedBalance (w : SelectionSessionWrapper) (tx : WrappedTransaction) :
    (w.accumulateConsumedBalance session tx).accountStateRequests =
      ((w.getAccountRecord session tx.tx.sndAddr).2.getAccountRecord session tx.feePayer).2.accountStateRequests := by
  simp only [accumulateConsumedBalance, requests_addConsumedBalanceIf]

/-- From `w` to `w'` the session was asked about the addresses of `consulted` that had no record
in `w`, once each, and about no other. -/
def AsksAbout (w w' : SelectionSessionWrapper) (consulted : List String) : Prop :=
  ∃ asked, w'.accountStateRequests = w.accountStateRequests ++ asked ∧ asked.Nodup ∧
    ∀ address, address ∈ asked ↔ w.record address = none ∧ address ∈ consulted

theorem AsksAbout.nil (w : SelectionSessionWrapper) : AsksAbout w w [] :=
  ⟨[], by simp, List.nodup_nil, by simp⟩

theorem AsksAbout.trans {w₁ w₂ w₃ : SelectionSessionWrapper} {first second : List String}
    (asks₁ : AsksAbout w₁ w₂ first) (asks₂ : AsksAbout w₂ w₃ second)
    (recorded : ∀ address, w₂.record address = none ↔ w₁.record address = none ∧ address ∉ first) :
    AsksAbout w₁ w₃ (first ++ second) := by
  obtain ⟨asked₁, requests₁, nodup₁, mem₁⟩ := asks₁
  obtain ⟨asked₂, requests₂, nodup₂, mem₂⟩ := asks₂
  refine ⟨asked₁ ++ asked₂, by rw [requests₂, requests₁, List.append_assoc],
    nodup₁.append nodup₂ fun address in₁ in₂ => ((recorded address).1 ((mem₂ address).1 in₂).1).2 ((mem₁ address).1 in₁).2,
    fun address => ?_⟩
  rw [List.mem_append, mem₁, mem₂, recorded, List.mem_append]
  by_cases consulted : address ∈ first
  · simp only [consulted, and_true, not_true_eq_false, and_false, false_and, or_false, true_or]
  · simp only [consulted, and_false, not_false_eq_true, and_true, false_or]

theorem getAccountRecord_asksAbout (w : SelectionSessionWrapper) (address : String) :
    AsksAbout w (w.getAccountRecord session address).2 [address] := by
  refine ⟨_, requests_getAccountRecord session w address, ?_, fun other => ?_⟩
  · split <;> simp
  · by_cases same : other = address <;> cases found : w.record address <;> simp [same, found]

theorem record_lookup_eq_none (w : SelectionSessionWrapper) (address other : String) :
    (w.getAccountRecord session address).2.record other = none ↔ w.record other = none ∧ other ∉ [address] := by
  rw [record_lookup]
  by_cases same : other = address <;> simp [same]

end SelectionSessionWrapper

namespace WrapperMethodCall

theorem charge_of_not_consulted {call : WrapperMethodCall} {address : String}
    (unconsulted : address ∉ call.consulted) : AccountRecord.charge address call.accumulated = id := by
  cases call with
  | accumulateConsumedBalance tx =>
    simp only [consulted, List.mem_cons, List.mem_singleton, not_or, List.not_mem_nil] at unconsulted
    funext r
    simp [AccountRecord.charge, accumulated, transferredBy, feesPaidBy, Ne.symm unconsulted.1,
      Ne.symm unconsulted.2.1]
  | getNonce _ | detectWillFeeExceedBalance _ => simp [accumulated]

end WrapperMethodCall

theorem methodCall_record (session : String → Option AccountState) (w : SelectionSessionWrapper)
    (call : WrapperMethodCall) (address : String) :
    (call.apply session w).record address =
      (if address ∈ call.consulted then some ((w.record address).getD (initialRecord session address))
        else w.record address).map (AccountRecord.charge address call.accumulated) := by
  cases call with
  | getNonce other =>
    simp only [WrapperMethodCall.apply, SelectionSessionWrapper.getNonce, WrapperMethodCall.consulted,
      WrapperMethodCall.accumulated, List.mem_singleton, AccountRecord.charge_nil, Option.map_id, id_eq]
    exact SelectionSessionWrapper.record_lookup session w other address
  | detectWillFeeExceedBalance tx =>
    simp only [WrapperMethodCall.apply, SelectionSessionWrapper.detectWillFeeExceedBalance,
      WrapperMethodCall.consulted, WrapperMethodCall.accumulated, AccountRecord.charge_nil, Option.map_id, id_eq]
    split
    · next none => simp [none]
    · next fee some => simpa [some] using SelectionSessionWrapper.record_lookup session w tx.feePayer address
  | accumulateConsumedBalance tx =>
    have charged : (SelectionSessionWrapper.chargeIf tx.feePayer address tx.fee ∘
        SelectionSessionWrapper.chargeIf tx.tx.sndAddr address tx.transferredValue) =
        AccountRecord.charge address [tx] := by
      funext r
      simp only [Function.comp, SelectionSessionWrapper.chargeIf_eq, AccountRecord.charge,
        transferredBy_singleton, feesPaidBy_singleton]
      congr 1
      omega
    rw [WrapperMethodCall.apply, SelectionSessionWrapper.record_accumulateConsumedBalance, charged,
      SelectionSessionWrapper.record_lookup, SelectionSessionWrapper.record_lookup]
    simp only [WrapperMethodCall.consulted, WrapperMethodCall.accumulated]
    by_cases payer : address = tx.feePayer
    · have member : address ∈ [tx.tx.sndAddr, tx.feePayer] := by simp [payer]
      rw [if_pos payer, if_pos member]
      by_cases sender : address = tx.tx.sndAddr
      · rw [if_pos sender, Option.getD_some]
      · rw [if_neg sender]
    · by_cases sender : address = tx.tx.sndAddr
      · have member : address ∈ [tx.tx.sndAddr, tx.feePayer] := by simp [sender]
        rw [if_neg payer, if_pos member, if_pos sender]
      · have member : address ∉ [tx.tx.sndAddr, tx.feePayer] := by simp [sender, payer]
        rw [if_neg payer, if_neg member, if_neg sender]

theorem methodCall_requests (session : String → Option AccountState) (w : SelectionSessionWrapper)
    (call : WrapperMethodCall) : w.AsksAbout (call.apply session w) call.consulted := by
  cases call with
  | getNonce address => exact w.getAccountRecord_asksAbout session address
  | detectWillFeeExceedBalance tx =>
    simp only [WrapperMethodCall.apply, SelectionSessionWrapper.detectWillFeeExceedBalance,
      WrapperMethodCall.consulted]
    cases tx.fee with
    | none => exact SelectionSessionWrapper.AsksAbout.nil w
    | some fee => exact w.getAccountRecord_asksAbout session tx.feePayer
  | accumulateConsumedBalance tx =>
    obtain ⟨asked, requests, nodup, mem⟩ := (w.getAccountRecord_asksAbout session tx.tx.sndAddr).trans
      (SelectionSessionWrapper.getAccountRecord_asksAbout session _ tx.feePayer)
      (w.record_lookup_eq_none session tx.tx.sndAddr)
    exact ⟨asked, (w.requests_accumulateConsumedBalance session tx).trans requests, nodup, mem⟩

/-! ## Every sequence of calls -/

theorem runMethodCalls_append (w : SelectionSessionWrapper)
    (before after : List (WrapperMethodCall × (String → Option AccountState))) :
    runMethodCalls w (before ++ after) = runMethodCalls (runMethodCalls w before) after :=
  List.foldl_append _ _ _ _

theorem runMethodCalls_record : ∀ (calls : List (WrapperMethodCall × (String → Option AccountState)))
    (w : SelectionSessionWrapper) (address : String),
    (runMethodCalls w calls).record address =
      ((w.record address).or ((firstConsultedBy address calls).map fun session => initialRecord session address)).map
        (AccountRecord.charge address (calls.flatMap (·.1.accumulated)))
  | [], w, address => by
    cases found : w.record address <;> simp [runMethodCalls, firstConsultedBy, found]
  | (call, session) :: calls, w, address => by
    have next := runMethodCalls_record calls (call.apply session w) address
    rw [methodCall_record] at next
    simp only [runMethodCalls, List.foldl_cons] at next ⊢
    rw [next, List.flatMap_cons, firstConsultedBy]
    by_cases consulted : address ∈ call.consulted
    · cases w.record address <;> simp [consulted, AccountRecord.charge_append]
    · cases w.record address <;>
        simp [consulted, AccountRecord.charge_append, WrapperMethodCall.charge_of_not_consulted consulted]

theorem runMethodCalls_requests : ∀ (calls : List (WrapperMethodCall × (String → Option AccountState)))
    (w : SelectionSessionWrapper), w.AsksAbout (runMethodCalls w calls) (calls.flatMap (·.1.consulted))
  | [], w => SelectionSessionWrapper.AsksAbout.nil w
  | (call, session) :: calls, w =>
    (methodCall_requests session w call).trans (runMethodCalls_requests calls (call.apply session w)) fun address => by
      rw [methodCall_record, Option.map_eq_none']
      by_cases consulted : address ∈ call.consulted <;> simp [consulted]

/-- Over every sequence of calls from every wrapper, with answers of the session that may change
from one call to the next: the session is asked once about each address the calls consult that
had no record, and about no other; the record of every address is the one it had, or the answer
of the session at its first lookup (`{0, 0}` for an error), charged with the value the address
sent and the fees it paid over the accumulated transactions, the sender and the fee payer being
one address or two; and a record's initial nonce and balance do not change after it exists. -/
theorem runMethodCalls_records (calls : List (WrapperMethodCall × (String → Option AccountState)))
    (w : SelectionSessionWrapper) :
    (∃ asked, (runMethodCalls w calls).accountStateRequests = w.accountStateRequests ++ asked ∧ asked.Nodup ∧
      ∀ address, address ∈ asked ↔ w.record address = none ∧ address ∈ calls.flatMap (·.1.consulted)) ∧
    (∀ address, (runMethodCalls w calls).record address =
      ((w.record address).or ((firstConsultedBy address calls).map fun session => initialRecord session address)).map
        (AccountRecord.charge address (calls.flatMap (·.1.accumulated)))) ∧
    (∀ before after, calls = before ++ after → ∀ address r, (runMethodCalls w before).record address = some r →
      ∃ r', (runMethodCalls w calls).record address = some r' ∧ r'.initialNonce = r.initialNonce ∧
        r'.initialBalance = r.initialBalance) := by
  refine ⟨runMethodCalls_requests calls w, runMethodCalls_record calls w, ?_⟩
  rintro before after rfl address r found
  rw [runMethodCalls_append, runMethodCalls_record after, found]
  exact ⟨_, rfl, rfl, rfl⟩

end ChainStorage.Mempool
