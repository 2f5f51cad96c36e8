import Mathlib

/-! # Wrapped transactions

The part of a transaction the cache reads: the handler getters `GetNonce`, `GetSndAddr`,
`GetGasLimit`, `GetGasPrice`, and the fields `precomputeFields` fills in once, before the cache
stores the transaction (`Fee`, `TransferredValue`, `FeePayer`, `Size`, `PricePerUnit`).
Byte strings (hashes, addresses) are `String`s, as the cache keys its maps by `string(bytes)`;
a `*big.Int` that may be nil is an `Option Int`.

`sortsBefore` is the order of a sender's list (nonce ascending, then gas price descending, then
hash ascending); `sortsBefore_trans` and `sortsBefore_asymm` make it a strict order, and
`sortsBefore_total` a total one on transactions with distinct keys.
-/

namespace ChainStorage.Mempool

/-- The getters of `data.TransactionHandler` the cache uses. -/
structure Transaction where
  nonce : Nat
  sndAddr : String
  gasLimit : Nat
  gasPrice : Nat
  deriving DecidableEq, Repr

/-- A transaction with its precomputed fields. -/
structure WrappedTransaction where
  tx : Transaction
  txHash : String
  fee : Option Int
  transferredValue : Option Int
  feePayer : String
  size : Nat
  pricePerUnit : Nat
  deriving DecidableEq, Repr

def sampleTx (sender txHash : String) (nonce gasPrice : Nat) : WrappedTransaction :=
  { tx := { nonce := nonce, sndAddr := sender, gasLimit := 1, gasPrice := gasPrice },
    txHash := txHash, fee := none, transferredValue := none, feePayer := sender, size := 1,
    pricePerUnit := gasPrice }

/-- `bytes.Compare(a, b) < 0`, decided on the characters of the two strings. -/
def hashLess (a b : String) : Bool := decide (a.data < b.data)

theorem hashLess_iff {a b : String} : hashLess a b = true ↔ a < b := by
  simp [hashLess, String.lt_iff_toList_lt]

/-- Modelled from the spec: the order of a per-sender list, "strictly ascending by nonce; ties
broken by gas-price descending, then by hash lexicographic ascending". -/
def WrappedTransaction.sortsBefore (a b : WrappedTransaction) : Bool :=
  a.tx.nonce < b.tx.nonce ||
    (a.tx.nonce == b.tx.nonce &&
      (b.tx.gasPrice < a.tx.gasPrice ||
        (a.tx.gasPrice == b.tx.gasPrice && hashLess a.txHash b.txHash)))

namespace WrappedTransaction

theorem sortsBefore_iff {a b : WrappedTransaction} :
    a.sortsBefore b = true ↔
      a.tx.nonce < b.tx.nonce ∨ (a.tx.nonce = b.tx.nonce ∧
        (b.tx.gasPrice < a.tx.gasPrice ∨ (a.tx.gasPrice = b.tx.gasPrice ∧ a.txHash < b.txHash))) := by
  simp [sortsBefore, hashLess_iff]

theorem nonce_le_of_sortsBefore {a b : WrappedTransaction} (h : a.sortsBefore b = true) :
    a.tx.nonce ≤ b.tx.nonce := by
  rcases sortsBefore_iff.1 h with lt | ⟨eq, _⟩ <;> omega

theorem sortsBefore_irrefl (a : WrappedTransaction) : a.sortsBefore a = false := by
  rw [← Bool.not_eq_true, sortsBefore_iff]
  rintro (lt | ⟨-, lt | ⟨-, lt⟩⟩)
  · exact Nat.lt_irrefl _ lt
  · exact Nat.lt_irrefl _ lt
  · exact lt_irrefl _ lt

theorem sortsBefore_trans {a b c : WrappedTransaction} (hab : a.sortsBefore b = true)
    (hbc : b.sortsBefore c = true) : a.sortsBefore c = true := by
  rw [sortsBefore_iff] at *
  rcases hab with ab | ⟨ab, ab' | ⟨ab', ab''⟩⟩ <;> rcases hbc with bc | ⟨bc, bc' | ⟨bc', bc''⟩⟩
  all_goals first
    | exact Or.inl (by omega)
    | exact Or.inr ⟨by omega, Or.inl (by omega)⟩
    | exact Or.inr ⟨by omega, Or.inr ⟨by omega, lt_trans ab'' bc''⟩⟩

theorem sortsBefore_asymm {a b : WrappedTransaction} (hab : a.sortsBefore b = true) :
    b.sortsBefore a = false := by
  cases hba : b.sortsBefore a
  · rfl
  · simpa [sortsBefore_irrefl] using sortsBefore_trans hab hba

theorem sortsBefore_total {a b : WrappedTransaction}
    (distinct : ¬ (a.tx.nonce = b.tx.nonce ∧ a.tx.gasPrice = b.tx.gasPrice ∧ a.txHash = b.txHash)) :
    a.sortsBefore b = true ∨ b.sortsBefore a = true := by
  simp only [sortsBefore_iff]
  rcases lt_trichotomy a.tx.nonce b.tx.nonce with n | n | n
  · exact Or.inl (Or.inl n)
  · rcases lt_trichotomy a.tx.gasPrice b.tx.gasPrice with g | g | g
    · exact Or.inr (Or.inr ⟨n.symm, Or.inl g⟩)
    · rcases lt_trichotomy a.txHash b.txHash with h | h | h
      · exact Or.inl (Or.inr ⟨n, Or.inr ⟨g, h⟩⟩)
      · exact absurd ⟨n, g, h⟩ distinct
      · exact Or.inr (Or.inr ⟨n.symm, Or.inr ⟨g.symm, h⟩⟩)
    · exact Or.inl (Or.inr ⟨n, Or.inl g⟩)
  · exact Or.inr (Or.inl n)

end WrappedTransaction

end ChainStorage.Mempool
