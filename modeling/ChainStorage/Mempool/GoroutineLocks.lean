import ChainStorage.Mempool.Goroutines

/-! # The mutexes and the maps over every interleaving

Whatever order the scheduler picks, each map stays well formed, at most one goroutine holds
`mutTxOperation`, at most one holds `evictionMutex`, and `isEvictionInProgress` is set exactly
while a goroutine runs the eviction, from its `SetReturningPrevious` to its `Reset`.

A goroutine's step calls one map at most (`Goroutine.step_cache`), and every call of a map keeps
the maps well formed (`MapsWellFormed.apply`). A goroutine comes to hold a mutex only by the step
that takes it, which the scheduler runs only when no goroutine holds it
(`Goroutine.step_holdsTxOperation`, `Goroutine.step_holdsEviction`).

**Main result:** `run_locksHeld`.
-/

namespace ChainStorage.Mempool

/-! ## Goroutines at an index -/

/-- At most one goroutine satisfies `p`. -/
structure Exclusive (p : Goroutine → Bool) (goroutines : List Goroutine) : Prop where
  unique : ∀ (i j : Nat) (a b : Goroutine), goroutines[i]? = some a → goroutines[j]? = some b →
    p a = true → p b = true → i = j

theorem mem_of_getElem? {l : List Goroutine} {j : Nat} {a : Goroutine} (get : l[j]? = some a) : a ∈ l :=
  List.mem_iff_getElem?.2 ⟨j, get⟩

theorem getElem?_set_cases {l : List Goroutine} {i j : Nat} {a b : Goroutine}
    (get : (l.set i b)[j]? = some a) : (j ≠ i ∧ l[j]? = some a) ∨ (j = i ∧ a = b) := by
  rw [List.getElem?_set] at get
  split at get
  · split at get
    · exact .inr ⟨‹i = j›.symm, (Option.some.inj get).symm⟩
    · cases get
  · exact .inl ⟨Ne.symm ‹_›, get⟩

theorem getElem?_append_singleton_cases {l : List Goroutine} {j : Nat} {a b : Goroutine}
    (get : (l ++ [b])[j]? = some a) : l[j]? = some a ∨ a = b := by
  rcases Nat.lt_or_ge j l.length with within | past
  · rw [List.getElem?_append_left within] at get
    exact .inl get
  · rw [List.getElem?_append_right past, List.getElem?_cons] at get
    split at get
    · exact .inr (Option.some.inj get).symm
    · simp at get

theorem mem_set_cases {l : List Goroutine} {i : Nat} {a b : Goroutine} (mem : a ∈ l.set i b) :
    (∃ j, j ≠ i ∧ l[j]? = some a) ∨ a = b := by
  obtain ⟨j, get⟩ := List.mem_iff_getElem?.1 mem
  rcases getElem?_set_cases get with ⟨other, get⟩ | ⟨-, rfl⟩
  · exact .inl ⟨j, other, get⟩
  · exact .inr rfl

theorem mem_set_of_getElem? {l : List Goroutine} {i j : Nat} {a b : Goroutine} (other : j ≠ i)
    (get : l[j]? = some a) : a ∈ l.set i b :=
  List.mem_iff_getElem?.2 ⟨j, by rw [List.getElem?_set_ne (Ne.symm other)]; exact get⟩

theorem mem_set_self {l : List Goroutine} {i : Nat} {a b : Goroutine} (get : l[i]? = some a) :
    b ∈ l.set i b :=
  List.mem_set l i (List.getElem?_eq_some_iff.1 get).1 b

theorem exists_mem_set_iff {l : List Goroutine} {i : Nat} {a b : Goroutine} (get : l[i]? = some a)
    (p : Goroutine → Bool) (same : p b = p a) :
    (∃ x ∈ l.set i b, p x = true) ↔ ∃ x ∈ l, p x = true := by
  constructor
  · rintro ⟨x, mem, holds⟩
    rcases mem_set_cases mem with ⟨j, -, get'⟩ | rfl
    · exact ⟨x, mem_of_getElem? get', holds⟩
    · exact ⟨a, mem_of_getElem? get, same ▸ holds⟩
  · rintro ⟨x, mem, holds⟩
    obtain ⟨j, get'⟩ := List.mem_iff_getElem?.1 mem
    by_cases at_i : j = i
    · subst at_i
      rw [get] at get'
      cases get'
      exact ⟨b, mem_set_self get, same.trans holds⟩
    · exact ⟨x, mem_set_of_getElem? at_i get', holds⟩

namespace Exclusive

variable {p : Goroutine → Bool} {goroutines : List Goroutine}

theorem set (exclusive : Exclusive p goroutines) {i : Nat} {g g' : Goroutine}
    (get : goroutines[i]? = some g) (taken : p g' = true → p g = true ∨ ∀ x ∈ goroutines, p x = false) :
    Exclusive p (goroutines.set i g') := by
  have only : ∀ j b, j ≠ i → goroutines[j]? = some b → p b = true → p g' = true → False :=
    fun j b other get' holds holds' => by
      rcases taken holds' with held | none
      · exact other (exclusive.unique j i b g get' get holds held)
      · exact absurd holds (by simp [none b (mem_of_getElem? get')])
  refine ⟨fun a b x y getA getB holdsX holdsY => ?_⟩
  rcases getElem?_set_cases getA with ⟨otherA, oldA⟩ | ⟨rfl, rfl⟩ <;>
    rcases getElem?_set_cases getB with ⟨otherB, oldB⟩ | ⟨rfl, rfl⟩
  · exact exclusive.unique a b x y oldA oldB holdsX holdsY
  · exact (only a x otherA oldA holdsX holdsY).elim
  · exact (only b y otherB oldB holdsY holdsX).elim
  · rfl

theorem append (exclusive : Exclusive p goroutines) {g : Goroutine} (fresh : p g = false) :
    Exclusive p (goroutines ++ [g]) := by
  refine ⟨fun a b x y getA getB holdsX holdsY => ?_⟩
  rcases getElem?_append_singleton_cases getA with oldA | rfl
  · rcases getElem?_append_singleton_cases getB with oldB | rfl
    · exact exclusive.unique a b x y oldA oldB holdsX holdsY
    · simp [fresh] at holdsY
  · simp [fresh] at holdsX

theorem eq_false_of_ne (exclusive : Exclusive p goroutines) {i j : Nat} {a x : Goroutine}
    (get : goroutines[i]? = some a) (holds : p a = true) (other : j ≠ i) (get' : goroutines[j]? = some x) :
    p x = false :=
  Bool.eq_false_iff.2 fun holdsX => other (exclusive.unique j i x a get' get holdsX holds)

end Exclusive

/-! ## What a step does to the cache -/

/-- A call of one of the two maps, the most a goroutine's step does to the cache. -/
inductive MapCall where
  | addTx (tx : WrappedTransaction)
  | addTxReturnEvicted (tx : WrappedTransaction)
  | removeTx (txHash : String)
  | removeTxsBulk (txHashes : List String)
  | removeTransactionsWithLowerOrEqualNonceReturnHashes (tx : WrappedTransaction)
  | removeTransactionsWithHigherOrEqualNonce (sender : String) (nonce : Nat)
  | clearTxListBySender
  | clearTxByHash
  deriving DecidableEq, Repr

def MapCall.apply (cache : TxCache) : MapCall → TxCache
  | .addTx tx => { cache with txByHash := (cache.txByHash.addTx tx).2 }
  | .addTxReturnEvicted tx =>
    { cache with txListBySender := (cache.txListBySender.addTxReturnEvicted tx).2.2 }
  | .removeTx txHash => { cache with txByHash := (cache.txByHash.removeTx txHash).2 }
  | .removeTxsBulk txHashes => { cache with txByHash := (cache.txByHash.removeTxsBulk txHashes).2 }
  | .removeTransactionsWithLowerOrEqualNonceReturnHashes tx =>
    { cache with
      txListBySender := (cache.txListBySender.removeTransactionsWithLowerOrEqualNonceReturnHashes tx).2 }
  | .removeTransactionsWithHigherOrEqualNonce sender nonce =>
    { cache with txListBySender := cache.txListBySender.removeTransactionsWithHigherOrEqualNonce sender nonce }
  | .clearTxListBySender => { cache with txListBySender := cache.txListBySender.clear }
  | .clearTxByHash => { cache with txByHash := cache.txByHash.clear }

/-- The maps of a cache configured by `config`, each well formed. -/
structure MapsWellFormed (config : ConfigSourceMe) (cache : TxCache) : Prop where
  config_eq : cache.config = config
  lists : cache.txListBySender.WellFormed
  constraints_eq : cache.txListBySender.constraints = config.getSenderConstraints
  txByHash : cache.txByHash.Exact

theorem MapsWellFormed.apply {config : ConfigSourceMe} {cache : TxCache} (maps : MapsWellFormed config cache) :
    ∀ call : MapCall, MapsWellFormed config (call.apply cache)
  | .addTx tx => { maps with txByHash := TxByHashMap.addTx_exact maps.txByHash tx }
  | .addTxReturnEvicted tx =>
    { maps with
      lists := TxListBySenderMap.addTxReturnEvicted_wellFormed maps.lists tx
      constraints_eq := by simp [MapCall.apply, maps.constraints_eq] }
  | .removeTx txHash => { maps with txByHash := TxByHashMap.removeTx_exact maps.txByHash txHash }
  | .removeTxsBulk txHashes => { maps with txByHash := TxByHashMap.removeTxsBulk_exact maps.txByHash txHashes }
  | .removeTransactionsWithLowerOrEqualNonceReturnHashes tx =>
    { maps with
      lists := TxListBySenderMap.removeTransactionsWithLowerOrEqualNonceReturnHashes_wellFormed maps.lists tx
      constraints_eq := by simp [MapCall.apply, maps.constraints_eq] }
  | .removeTransactionsWithHigherOrEqualNonce sender nonce =>
    { maps with
      lists := TxListBySenderMap.removeTransactionsWithHigherOrEqualNonce_wellFormed maps.lists sender nonce
      constraints_eq := by simp [MapCall.apply, maps.constraints_eq] }
  | .clearTxListBySender =>
    { maps with
      lists := TxListBySenderMap.clear_wellFormed _
      constraints_eq := maps.constraints_eq }
  | .clearTxByHash => { maps with txByHash := TxByHashMap.clear_exact cache.txByHash }

namespace Goroutine

variable (less : WrappedTransaction → WrappedTransaction → Bool) (cache : TxCache) (flag : Bool)
  (entry : Nat)

theorem step_cache (g : Goroutine) :
    (g.step less cache flag entry).1 = cache ∨ ∃ call : MapCall, (g.step less cache flag entry).1 = call.apply cache := by
  cases g with
  | evictionPass heap andThen => exact .inl (by simp only [step]; split <;> rfl)
  | evictionCut lowest hashes heap andThen =>
    simp only [step]
    split
    · exact .inr ⟨.removeTransactionsWithHigherOrEqualNonce _ _, rfl⟩
    · split
      · exact .inr ⟨.removeTxsBulk hashes, rfl⟩
      · exact .inl rfl
  | addTx tx => exact .inr ⟨.addTx tx, rfl⟩
  | addTxToSender tx _ => exact .inr ⟨.addTxReturnEvicted tx, rfl⟩
  | addTxRemoveEvicted _ evicted => exact .inr ⟨.removeTxsBulk evicted, rfl⟩
  | removeTxByHash txHash =>
    simp only [step]
    split
    · exact .inl rfl
    · next found => exact .inr ⟨.removeTx txHash, by rw [MapCall.apply, found]⟩
  | removeTxByHashFromSender tx => exact .inr ⟨.removeTransactionsWithLowerOrEqualNonceReturnHashes tx, rfl⟩
  | removeTxByHashRemoveEvicted evicted => exact .inr ⟨.removeTxsBulk evicted, rfl⟩
  | clear => exact .inr ⟨.clearTxListBySender, rfl⟩
  | clearTxByHash => exact .inr ⟨.clearTxByHash, rfl⟩
  | _ => exact .inl rfl

@[simp] theorem afterEviction_holdsTxOperation (andThen : Option WrappedTransaction) :
    (afterEviction andThen).holdsTxOperation = false := by
  cases andThen <;> rfl

@[simp] theorem afterEviction_holdsEviction (andThen : Option WrappedTransaction) :
    (afterEviction andThen).holdsEviction = false := by
  cases andThen <;> rfl

@[simp] theorem afterEviction_evicting (andThen : Option WrappedTransaction) :
    (afterEviction andThen).evicting = false := by
  cases andThen <;> rfl

theorem step_holdsTxOperation (g : Goroutine) (holds : (g.step less cache flag entry).2.2.holdsTxOperation = true) :
    g.holdsTxOperation = true ∨ g.takesTxOperation = true := by
  cases g <;> simp only [step] at holds <;> (try split at holds) <;> (try split at holds) <;>
    (try simp only [afterEviction_holdsTxOperation] at holds) <;> simp_all [holdsTxOperation, takesTxOperation]

theorem step_holdsEviction (g : Goroutine) (holds : (g.step less cache flag entry).2.2.holdsEviction = true) :
    g.holdsEviction = true ∨ g.takesEviction = true := by
  cases g <;> simp only [step] at holds <;> (try split at holds) <;> (try split at holds) <;>
    (try simp only [afterEviction_holdsEviction] at holds) <;> simp_all [holdsEviction, takesEviction]

theorem step_isEvictionInProgress (g : Goroutine) :
    (∃ andThen, g = setEvictionInProgress andThen ∧ (g.step less cache flag entry).2.1 = true ∧
      (g.step less cache flag entry).2.2.evicting = true) ∨
    (∃ andThen, g = resetEvictionInProgress andThen ∧ (g.step less cache flag entry).2.1 = false ∧
      (g.step less cache flag entry).2.2.evicting = false) ∨
    ((g.step less cache flag entry).2.1 = flag ∧ (g.step less cache flag entry).2.2.evicting = g.evicting) := by
  cases g with
  | setEvictionInProgress andThen => exact .inl ⟨andThen, rfl, rfl, rfl⟩
  | resetEvictionInProgress andThen => exact .inr (.inl ⟨andThen, rfl, rfl, rfl⟩)
  | _ =>
    refine .inr (.inr ?_)
    simp only [step]
    repeat' split
    all_goals (try simp only [afterEviction_evicting, true_and]) <;> rfl

theorem evicting_holdsEviction {g : Goroutine} (evicting : g.evicting = true) : g.holdsEviction = true := by
  cases g <;> simp_all [Goroutine.evicting, holdsEviction]

end Goroutine

/-! ## The invariant -/

/-- What holds of the calls whatever the interleaving. -/
structure LocksHeld (config : ConfigSourceMe) (calls : Calls) : Prop where
  maps : MapsWellFormed config calls.cache
  /-- At most one goroutine holds `mutTxOperation`. -/
  txOperation : Exclusive Goroutine.holdsTxOperation calls.goroutines
  /-- At most one goroutine holds `evictionMutex`. -/
  eviction : Exclusive Goroutine.holdsEviction calls.goroutines
  /-- The flag is set exactly while a goroutine runs the eviction. -/
  inProgress : calls.isEvictionInProgress = true ↔ ∃ g ∈ calls.goroutines, g.evicting = true

namespace Calls

variable (less : WrappedTransaction → WrappedTransaction → Bool)

/-- The calls after goroutine `i`, at `g`, takes its step. -/
def resumed (calls : Calls) (i : Nat) (g : Goroutine) (entry : Nat) : Calls :=
  { cache := (g.step less calls.cache calls.isEvictionInProgress entry).1,
    isEvictionInProgress := (g.step less calls.cache calls.isEvictionInProgress entry).2.1,
    goroutines := calls.goroutines.set i (g.step less calls.cache calls.isEvictionInProgress entry).2.2 }

theorem apply_resume (calls : Calls) (i entry : Nat) :
    calls.apply less (.resume i entry) = calls ∨
      ∃ g, calls.goroutines[i]? = some g ∧ calls.blocked g = false ∧
        calls.apply less (.resume i entry) = calls.resumed less i g entry := by
  simp only [apply]
  split
  · exact .inl rfl
  · next g get =>
    by_cases waits : calls.blocked g = true
    · exact .inl (if_pos waits)
    · exact .inr ⟨g, get, by simpa using waits, if_neg waits⟩

theorem not_holds_of_takes {calls : Calls} {g : Goroutine} (free : calls.blocked g = false) :
    (g.takesTxOperation = true → ∀ x ∈ calls.goroutines, x.holdsTxOperation = false) ∧
      (g.takesEviction = true → ∀ x ∈ calls.goroutines, x.holdsEviction = false) := by
  simp only [blocked, Bool.or_eq_false_iff, Bool.and_eq_false_iff, List.any_eq_false] at free
  refine ⟨fun takes x mem => ?_, fun takes x mem => ?_⟩
  · rcases free.1 with stops | none
    · simp [takes] at stops
    · simpa using none x mem
  · rcases free.2 with stops | none
    · simp [takes] at stops
    · simpa using none x mem

end Calls

@[simp] theorem Operation.start_holdsTxOperation (config : ConfigSourceMe) (operation : Operation) :
    (operation.start config).holdsTxOperation = false := by
  cases operation with
  | addTx tx => cases tx <;> simp only [start] <;> (try split) <;> rfl
  | _ => rfl

@[simp] theorem Operation.start_holdsEviction (config : ConfigSourceMe) (operation : Operation) :
    (operation.start config).holdsEviction = false := by
  cases operation with
  | addTx tx => cases tx <;> simp only [start] <;> (try split) <;> rfl
  | _ => rfl

@[simp] theorem Operation.start_evicting (config : ConfigSourceMe) (operation : Operation) :
    (operation.start config).evicting = false := by
  cases operation with
  | addTx tx => cases tx <;> simp only [start] <;> (try split) <;> rfl
  | _ => rfl

namespace LocksHeld

variable (less : WrappedTransaction → WrappedTransaction → Bool) {config : ConfigSourceMe}

theorem initial (config : ConfigSourceMe) : LocksHeld config (Calls.initial config) where
  maps := ⟨rfl, ⟨⟨by simp [Calls.initial, newTxCache], rfl⟩, by simp [Calls.initial, newTxCache]⟩, rfl,
    ⟨by simp [Calls.initial, newTxCache, TxByHashMap.keys], rfl, rfl⟩⟩
  txOperation := ⟨fun _ _ _ _ get => by simp [Calls.initial] at get⟩
  eviction := ⟨fun _ _ _ _ get => by simp [Calls.initial] at get⟩
  inProgress := by simp [Calls.initial]

theorem call {calls : Calls} (locks : LocksHeld config calls) (operation : Operation) :
    LocksHeld config (calls.apply less (.call operation)) where
  maps := locks.maps
  txOperation := locks.txOperation.append (by simp)
  eviction := locks.eviction.append (by simp)
  inProgress := by simp [Calls.apply, locks.inProgress, or_and_right, exists_or]

theorem resumed {calls : Calls} (locks : LocksHeld config calls) {i : Nat} {g : Goroutine}
    (get : calls.goroutines[i]? = some g) (free : calls.blocked g = false) (entry : Nat) :
    LocksHeld config (calls.resumed less i g entry) := by
  obtain ⟨txOperationFree, evictionFree⟩ := Calls.not_holds_of_takes free
  refine ⟨?_, locks.txOperation.set get fun holds => ?_, locks.eviction.set get fun holds => ?_, ?_⟩
  · change MapsWellFormed config (g.step less calls.cache calls.isEvictionInProgress entry).1
    rcases g.step_cache less calls.cache calls.isEvictionInProgress entry with same | ⟨call, changed⟩
    · rw [same]
      exact locks.maps
    · rw [changed]
      exact locks.maps.apply call
  · exact (g.step_holdsTxOperation less _ _ _ holds).imp_right txOperationFree
  · exact (g.step_holdsEviction less _ _ _ holds).imp_right evictionFree
  · change (g.step less calls.cache calls.isEvictionInProgress entry).2.1 = true ↔
      ∃ x ∈ calls.goroutines.set i (g.step less calls.cache calls.isEvictionInProgress entry).2.2, _
    rcases g.step_isEvictionInProgress less calls.cache calls.isEvictionInProgress entry with
      ⟨andThen, rfl, set, evicting⟩ | ⟨andThen, rfl, reset, evicting⟩ | ⟨same, evicting⟩
    · exact ⟨fun _ => ⟨_, mem_set_self get, evicting⟩, fun _ => set⟩
    · refine ⟨fun flag => by simp [reset] at flag, fun ⟨x, mem, xEvicting⟩ => ?_⟩
      rcases mem_set_cases mem with ⟨j, other, get'⟩ | rfl
      · exact absurd (locks.eviction.unique j i x _ get' get (Goroutine.evicting_holdsEviction xEvicting) rfl) other
      · simp [evicting] at xEvicting
    · rw [same, exists_mem_set_iff get _ evicting]
      exact locks.inProgress

theorem apply {calls : Calls} (locks : LocksHeld config calls) : ∀ event, LocksHeld config (calls.apply less event)
  | .call operation => locks.call less operation
  | .resume i entry => by
    rcases calls.apply_resume less i entry with same | ⟨g, get, free, resumed⟩
    · rw [same]
      exact locks
    · rw [resumed]
      exact locks.resumed less get free entry

theorem run : ∀ (events : List Event) {calls : Calls}, LocksHeld config calls →
    LocksHeld config (calls.run less events)
  | [], _, locks => locks
  | event :: events, _, locks => run events (locks.apply less event)

end LocksHeld

/-- Over every interleaving of calls on a new cache, each map stays well formed (the lists sorted,
one per sender, within the caps; the map by hash exact), no two goroutines hold
`mutTxOperation` or `evictionMutex` at once, and `isEvictionInProgress` is set exactly while a
goroutine runs the eviction. -/
theorem run_locksHeld (less : WrappedTransaction → WrappedTransaction → Bool) (config : ConfigSourceMe)
    (events : List Event) : LocksHeld config ((Calls.initial config).run less events) :=
  LocksHeld.run less events (LocksHeld.initial config)

end ChainStorage.Mempool
