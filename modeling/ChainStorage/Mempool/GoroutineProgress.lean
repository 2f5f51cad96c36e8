import ChainStorage.Mempool.GoroutineSolo

/-! # Every call returns under some schedule

Go's scheduler picks which goroutine moves next; the mutexes of `TxCache` must not leave it with
no choice but a goroutine that waits forever, and no call's code may loop forever once its
goroutine moves. From every interleaving of calls, some further steps of the goroutines already
in flight, with no new call, return every call and leave no eviction in progress.

Each goroutine run alone returns, whatever the cache and the flag (`Goroutine.returnsAlone`): the
eviction's passes end by their own tests (`Goroutine.evictionPasses_runAlone`), and every other
point of a call is a few steps from its return. The schedule first lets the goroutine holding
`mutTxOperation` finish, which takes two steps that take no mutex; then, no other goroutine
holding a mutex, the goroutine holding `evictionMutex` runs alone until it returns; then each other
goroutine, in turn, runs alone until it returns.

**Main result:** `run_drains`.
-/

namespace ChainStorage.Mempool

section Progress

variable (less : WrappedTransaction → WrappedTransaction → Bool)

namespace Goroutine

/-- From whatever cache and flag, the goroutine run alone returns. -/
structure ReturnsAlone (g : Goroutine) : Prop where
  returns : ∀ cache flag, ∃ k a, (g.runAlone less cache flag k).2.2 = .returned a

namespace ReturnsAlone

theorem returned (a : Answer) : ReturnsAlone less (.returned a) :=
  ⟨fun _ _ => ⟨0, a, rfl⟩⟩

theorem of_runAlone {g : Goroutine}
    (later : ∀ cache flag, ∃ k, ReturnsAlone less (g.runAlone less cache flag k).2.2) : ReturnsAlone less g :=
  ⟨fun cache flag => by
    obtain ⟨k, ⟨returns⟩⟩ := later cache flag
    obtain ⟨k', a, returned⟩ := returns _ _
    exact ⟨k + k', a, by rw [runAlone_add]; exact returned⟩⟩

theorem of_step {g : Goroutine} (later : ∀ cache flag, ReturnsAlone less (g.step less cache flag 0).2.2) :
    ReturnsAlone less g :=
  of_runAlone less fun cache flag => ⟨1, later cache flag⟩

end ReturnsAlone

/-! ### The points past `doEviction` -/

theorem returnsAlone_addTxRemoveEvicted (added : Bool) (evicted : List String) :
    ReturnsAlone less (addTxRemoveEvicted added evicted) :=
  .of_step less fun _ _ => .returned less _

theorem returnsAlone_addTxToSender (tx : WrappedTransaction) (addedInByHash : Bool) :
    ReturnsAlone less (addTxToSender tx addedInByHash) :=
  .of_step less fun _ _ => by
    dsimp only [step]
    split
    · exact returnsAlone_addTxRemoveEvicted less _ _
    · exact .returned less _

theorem returnsAlone_addTx (tx : WrappedTransaction) : ReturnsAlone less (addTx tx) :=
  .of_step less fun _ _ => returnsAlone_addTxToSender less tx _

theorem returnsAlone_removeTxByHashFromSender (tx : WrappedTransaction) :
    ReturnsAlone less (removeTxByHashFromSender tx) :=
  .of_step less fun _ _ => by
    dsimp only [step]
    split
    · exact .of_step less fun _ _ => .returned less _
    · exact .returned less _

theorem returnsAlone_removeTxByHash (txHash : String) : ReturnsAlone less (removeTxByHash txHash) :=
  .of_step less fun cache _ => by
    dsimp only [step]
    split
    · exact .returned less _
    · exact returnsAlone_removeTxByHashFromSender less _

theorem returnsAlone_clear : ReturnsAlone less clear :=
  .of_step less fun _ _ => .of_step less fun _ _ => .returned less _

theorem returnsAlone_afterEviction (andThen : Option WrappedTransaction) :
    ReturnsAlone less (afterEviction andThen) := by
  cases andThen with
  | none => exact .returned less _
  | some tx => exact returnsAlone_addTx less tx

/-! ### The eviction -/

theorem returnsAlone_resetEvictionInProgress (andThen : Option WrappedTransaction) :
    ReturnsAlone less (resetEvictionInProgress andThen) :=
  .of_step less fun _ _ => .of_step less fun _ _ => returnsAlone_afterEviction less andThen

theorem returnsAlone_evictionPass (heap : List TransactionsHeapItem) (andThen : Option WrappedTransaction) :
    ReturnsAlone less (evictionPass heap andThen) :=
  .of_runAlone less fun cache flag => by
    obtain ⟨k, passes⟩ := evictionPasses_runAlone less andThen flag _ ⟨0, []⟩ heap cache le_rfl
    exact ⟨k, by rw [passes]; exact returnsAlone_resetEvictionInProgress less andThen⟩

theorem returnsAlone_evictionCut (lowest : List (String × Nat)) (hashes : List String)
    (heap : List TransactionsHeapItem) (andThen : Option WrappedTransaction) :
    ReturnsAlone less (evictionCut lowest hashes heap andThen) :=
  .of_runAlone less fun cache flag =>
    ⟨lowest.length + 1, by
      rw [runAlone_add, evictionCut_runAlone]
      exact returnsAlone_evictionPass less heap andThen⟩

theorem returnsAlone_recheckCapacity (andThen : Option WrappedTransaction) :
    ReturnsAlone less (recheckCapacity andThen) :=
  .of_step less fun _ _ => by
    dsimp only [step]
    split
    · exact .of_step less fun _ _ => returnsAlone_evictionPass less _ andThen
    · exact returnsAlone_resetEvictionInProgress less andThen

theorem returnsAlone_doEviction (andThen : Option WrappedTransaction) : ReturnsAlone less (doEviction andThen) := by
  have locks : ReturnsAlone less (lockEviction andThen) :=
    .of_step less fun _ _ => .of_step less fun _ _ => returnsAlone_recheckCapacity less andThen
  have checks : ReturnsAlone less (checkCapacity andThen) :=
    .of_step less fun _ _ => by
      dsimp only [step]
      split
      · exact locks
      · exact returnsAlone_afterEviction less andThen
  exact .of_step less fun _ _ => by
    dsimp only [step]
    split
    · exact returnsAlone_afterEviction less andThen
    · exact checks

/-- Every goroutine run alone returns, from whatever cache and flag. -/
theorem returnsAlone : ∀ g : Goroutine, ReturnsAlone less g
  | doEviction andThen => returnsAlone_doEviction less andThen
  | checkCapacity andThen =>
    .of_step less fun _ _ => by
      dsimp only [step]
      split
      · exact .of_step less fun _ _ => .of_step less fun _ _ => returnsAlone_recheckCapacity less andThen
      · exact returnsAlone_afterEviction less andThen
  | lockEviction andThen =>
    .of_step less fun _ _ => .of_step less fun _ _ => returnsAlone_recheckCapacity less andThen
  | setEvictionInProgress andThen => .of_step less fun _ _ => returnsAlone_recheckCapacity less andThen
  | recheckCapacity andThen => returnsAlone_recheckCapacity less andThen
  | evict andThen => .of_step less fun _ _ => returnsAlone_evictionPass less _ andThen
  | evictionPass heap andThen => returnsAlone_evictionPass less heap andThen
  | evictionCut lowest hashes heap andThen => returnsAlone_evictionCut less lowest hashes heap andThen
  | resetEvictionInProgress andThen => returnsAlone_resetEvictionInProgress less andThen
  | unlockEviction andThen => .of_step less fun _ _ => returnsAlone_afterEviction less andThen
  | addTx tx => returnsAlone_addTx less tx
  | addTxToSender tx addedInByHash => returnsAlone_addTxToSender less tx addedInByHash
  | addTxRemoveEvicted added evicted => returnsAlone_addTxRemoveEvicted less added evicted
  | removeTxByHash txHash => returnsAlone_removeTxByHash less txHash
  | removeTxByHashFromSender tx => returnsAlone_removeTxByHashFromSender less tx
  | removeTxByHashRemoveEvicted _ => .of_step less fun _ _ => .returned less _
  | clear => returnsAlone_clear less
  | clearTxByHash => .of_step less fun _ _ => .returned less _
  | returned answer => .returned less answer

theorem holdsTxOperation_finishes {g : Goroutine} (holds : g.holdsTxOperation = true)
    (cache : TxCache) (flag : Bool) :
    g.takesTxOperation = false ∧ g.takesEviction = false ∧
      (g.step less cache flag 0).2.2.takesTxOperation = false ∧ (g.step less cache flag 0).2.2.takesEviction = false ∧
      ∀ cache' flag', ∃ a, ((g.step less cache flag 0).2.2.step less cache' flag' 0).2.2 = .returned a := by
  cases g <;> simp only [holdsTxOperation, Bool.false_eq_true] at holds <;> dsimp only [step] <;> (try split) <;>
    simp [takesTxOperation, takesEviction, step]

end Goroutine

namespace Calls

theorem apply_resume_of_not_takes {calls : Calls} {i : Nat} {g : Goroutine} (get : calls.goroutines[i]? = some g)
    (takesTxOperation : g.takesTxOperation = false) (takesEviction : g.takesEviction = false) :
    calls.apply less (.resume i 0) = calls.resumed less i g 0 := by
  simp [apply, get, blocked, takesTxOperation, takesEviction, resumed]

theorem run_resume_holder {calls : Calls} {i : Nat} {g : Goroutine} (get : calls.goroutines[i]? = some g)
    (holds : g.holdsTxOperation = true) :
    ∃ a, (calls.run less [.resume i 0, .resume i 0]).goroutines = calls.goroutines.set i (.returned a) := by
  obtain ⟨takesTxOperation, takesEviction, takesTxOperation', takesEviction', returns⟩ :=
    g.holdsTxOperation_finishes less holds calls.cache calls.isEvictionInProgress
  have within := (List.getElem?_eq_some_iff.1 get).1
  have first := apply_resume_of_not_takes less get takesTxOperation takesEviction
  have second := @apply_resume_of_not_takes less (calls.resumed less i g 0) i _
    (by simp [resumed, within]) takesTxOperation' takesEviction'
  obtain ⟨a, returned⟩ := returns (calls.resumed less i g 0).cache (calls.resumed less i g 0).isEvictionInProgress
  refine ⟨a, ?_⟩
  simp only [run, List.foldl, first, second]
  simp only [resumed] at returned ⊢
  rw [returned, List.set_set]

theorem run_resume_returns {calls : Calls} {i : Nat} {g : Goroutine} (get : calls.goroutines[i]? = some g)
    (others : ∀ j x, j ≠ i → calls.goroutines[j]? = some x → x.holdsTxOperation = false ∧ x.holdsEviction = false) :
    ∃ k a, (calls.run less (List.replicate k (.resume i 0))).goroutines = calls.goroutines.set i (.returned a) := by
  obtain ⟨k, a, returned⟩ := (g.returnsAlone less).returns calls.cache calls.isEvictionInProgress
  exact ⟨k, a, by rw [run_resume_alone less k get others, returned]⟩

theorem drain_of_free : ∀ (n : Nat) (calls : Calls),
    (∀ g ∈ calls.goroutines, g.holdsTxOperation = false ∧ g.holdsEviction = false) →
    (∀ j x, n ≤ j → calls.goroutines[j]? = some x → ∃ a, x = .returned a) →
    ∃ schedule : List Nat, ∀ g ∈ (calls.run less (schedule.map (Event.resume · 0))).goroutines, ∃ a, g = .returned a
  | 0, calls, _, returned => ⟨[], fun g mem => by
      obtain ⟨j, get⟩ := List.mem_iff_getElem?.1 mem
      exact returned j g (Nat.zero_le j) get⟩
  | n + 1, calls, free, returned => by
    cases get : calls.goroutines[n]? with
    | none =>
      refine drain_of_free n calls free fun j x past get' => ?_
      rcases Nat.eq_or_lt_of_le past with rfl | later
      · simp [get] at get'
      · exact returned j x later get'
    | some g =>
      obtain ⟨k, a, ran⟩ := run_resume_returns less get fun j x _ get' => free x (mem_of_getElem? get')
      obtain ⟨schedule, drained⟩ := drain_of_free n (calls.run less (List.replicate k (.resume n 0)))
        (fun x mem => by
          rw [ran] at mem
          rcases mem_set_cases mem with ⟨j, -, get'⟩ | rfl
          · exact free x (mem_of_getElem? get')
          · exact ⟨rfl, rfl⟩)
        (fun j x past get' => by
          rw [ran] at get'
          rcases getElem?_set_cases get' with ⟨other, get'⟩ | ⟨-, rfl⟩
          · exact returned j x (by omega) get'
          · exact ⟨a, rfl⟩)
      refine ⟨List.replicate k n ++ schedule, ?_⟩
      rwa [List.map_append, List.map_replicate, run_append]

theorem drain_of_not_holdsTxOperation (calls : Calls)
    (eviction : Exclusive Goroutine.holdsEviction calls.goroutines)
    (free : ∀ g ∈ calls.goroutines, g.holdsTxOperation = false) :
    ∃ schedule : List Nat, ∀ g ∈ (calls.run less (schedule.map (Event.resume · 0))).goroutines, ∃ a, g = .returned a := by
  by_cases evicting : ∃ e ∈ calls.goroutines, e.holdsEviction = true
  · obtain ⟨e, mem, holds⟩ := evicting
    obtain ⟨i, get⟩ := List.mem_iff_getElem?.1 mem
    obtain ⟨k, a, ran⟩ := run_resume_returns less get fun j x other get' =>
      ⟨free x (mem_of_getElem? get'), eviction.eq_false_of_ne get holds other get'⟩
    obtain ⟨schedule, drained⟩ := drain_of_free less calls.goroutines.length
      (calls.run less (List.replicate k (.resume i 0)))
      (fun x mem => by
        rw [ran] at mem
        rcases mem_set_cases mem with ⟨j, other, get'⟩ | rfl
        · exact ⟨free x (mem_of_getElem? get'), eviction.eq_false_of_ne get holds other get'⟩
        · exact ⟨rfl, rfl⟩)
      (fun j x past get' => by
        rw [ran, List.getElem?_eq_none (by simpa using past)] at get'
        cases get')
    refine ⟨List.replicate k i ++ schedule, ?_⟩
    rwa [List.map_append, List.map_replicate, run_append]
  · simp only [not_exists, not_and, Bool.not_eq_true] at evicting
    exact drain_of_free less calls.goroutines.length calls (fun x mem => ⟨free x mem, evicting x mem⟩)
      fun j x past get => by simp [List.getElem?_eq_none past] at get

end Calls

namespace LocksHeld

variable {config : ConfigSourceMe}

/-- From calls the invariant holds of, the goroutine holding `mutTxOperation`, if any, finishes,
then the others run alone until every call has returned. -/
theorem drains {calls : Calls} (locks : LocksHeld config calls) :
    ∃ schedule : List Nat, ∀ g ∈ (calls.run less (schedule.map (Event.resume · 0))).goroutines, ∃ a, g = .returned a := by
  by_cases holding : ∃ h ∈ calls.goroutines, h.holdsTxOperation = true
  · obtain ⟨h, mem, holds⟩ := holding
    obtain ⟨i, get⟩ := List.mem_iff_getElem?.1 mem
    obtain ⟨a, ran⟩ := Calls.run_resume_holder less get holds
    obtain ⟨schedule, drained⟩ := Calls.drain_of_not_holdsTxOperation less _
      (locks.run less [.resume i 0, .resume i 0]).eviction fun x mem => by
        rw [ran] at mem
        rcases mem_set_cases mem with ⟨j, other, get'⟩ | rfl
        · exact locks.txOperation.eq_false_of_ne get holds other get'
        · rfl
    refine ⟨[i, i] ++ schedule, ?_⟩
    rwa [List.map_append, Calls.run_append]
  · simp only [not_exists, not_and, Bool.not_eq_true] at holding
    exact Calls.drain_of_not_holdsTxOperation less calls locks.eviction holding

end LocksHeld

/-- Every call has returned and no eviction is in progress. -/
structure Calls.Settled (calls : Calls) : Prop where
  returned : ∀ g ∈ calls.goroutines, ∃ a, g = .returned a
  notEvicting : calls.isEvictionInProgress = false

/-- From every interleaving of calls on a new cache, some further steps of the goroutines in
flight, with no new call, return every call and leave no eviction in progress: the mutexes never
leave all goroutines waiting, and every call's code ends. -/
theorem run_drains (config : ConfigSourceMe) (events : List Event) :
    ∃ schedule : List Nat,
      ((Calls.initial config).run less (events ++ schedule.map (Event.resume · 0))).Settled := by
  obtain ⟨schedule, drained⟩ := (LocksHeld.run less events (LocksHeld.initial config)).drains less
  rw [← Calls.run_append] at drained
  have locks := LocksHeld.run less (events ++ schedule.map (Event.resume · 0)) (LocksHeld.initial config)
  refine ⟨schedule, drained, ?_⟩
  cases flag : ((Calls.initial config).run less (events ++ schedule.map (Event.resume · 0))).isEvictionInProgress
  · rfl
  · obtain ⟨g, mem, evicting⟩ := locks.inProgress.1 flag
    obtain ⟨a, rfl⟩ := drained g mem
    simp [Goroutine.evicting] at evicting

end Progress

end ChainStorage.Mempool
