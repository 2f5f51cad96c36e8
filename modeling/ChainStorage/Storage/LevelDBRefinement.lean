import ChainStorage.Storage.LevelDB

/-! # The leveldb persister as one map

The persister stands for its files with the pending batch written over them (`DB.view`), a `Put`
of nil standing for empty bytes as goleveldb stores it. The only steps that move that map are the
first critical sections of `Put` and `Remove`: the counting in `updateBatchWithIncrement` and the
timer's writes are stuttering steps, whatever goleveldb's `Write` answers, since a write that
succeeds moves the batch into the files and one that fails keeps it (`Step.view_apply`). So over
every interleaving of concurrent calls with the timer the view is the map the calls make.

`Get` and `Has` answer from that map, but for a key whose last pending operation is a `Put` of
nil: the batch's `Get` answers nil for it, and they read the files, which may hold an older value
(`DB.get_eq_getAnswer`, `get_pending_nil_put_reads_files`). For every other key they answer from
the map (`runSteps_answers_map`). They take no lock, so the timer may write the batch between
their reads: they answer as the persister did when they began, or as it does once the batch is
written, and as when they began for every key but one with a pending `Put` of nil
(`getAcross_timeouts`). A `Remove` between their reads is another matter
(`getAcross_remove_between_reads`).

**Main results:**

- `runSteps_answers_map`: the refinement, over every interleaving and every outcome of the writes.
- `getAcross_timeouts`: `Get` and `Has` across the timer's writes.
- `newDB_batch_bounded`: `sizeBatch` never counts fewer operations than the batch holds once the
  calls have finished, so with writes that succeed the batch holds fewer than `maxBatchSize`.
- `close_then_newDB`: what `Close` leaves in the files, and `NewDB` over them.
- `runCalls_after_close`: after `Close`, calls report success until `maxBatchSize` are counted,
  and nothing reaches the files.
-/

namespace ChainStorage.Storage.LevelDB

/-! ## The batch over the files -/

namespace Batch

@[simp] theorem lastOperation_empty (key : String) : Batch.empty.lastOperation key = none := rfl

theorem lastOperation_put (b : Batch) (key k : String) (val : Option (List UInt8)) :
    (b.put key val).lastOperation k = if k = key then some (.put val) else b.lastOperation k := by
  by_cases same : k = key <;> simp [put, lastOperation, List.lookup, same, beq_false_of_ne]

theorem lastOperation_delete (b : Batch) (key k : String) :
    (b.delete key).lastOperation k = if k = key then some .delete else b.lastOperation k := by
  by_cases same : k = key <;> simp [delete, lastOperation, List.lookup, same, beq_false_of_ne]

/-- Whether the key's last pending operation is a `Put` of nil, which the batch's `Get` does not
tell apart from no `Put`. -/
def putsNil (b : Batch) (key : String) : Bool :=
  match b.lastOperation key with
  | some (.put none) => true
  | _ => false

end Batch

@[simp] theorem write_empty (store : List (String × List UInt8)) : write store .empty = store := rfl

theorem write_put (store : List (String × List UInt8)) (b : Batch) (key : String) (val : Option (List UInt8)) :
    write store (b.put key val) = bind (write store b) key (val.getD []) := by
  simp [write, Batch.put, List.foldl_append]

theorem write_delete (store : List (String × List UInt8)) (b : Batch) (key : String) :
    write store (b.delete key) = restrict (write store b) (· != key) := by
  simp [write, Batch.delete, List.foldl_append]

def Operation.stored : Operation → Option (List UInt8)
  | .put val => some (val.getD [])
  | .delete => none

/-- Through the batch, a key answers with its last pending operation; a key without one answers
from the files. -/
theorem lookup_write (store : List (String × List UInt8)) (b : Batch) (key : String) :
    (write store b).lookup key = ((b.lastOperation key).map Operation.stored).getD (store.lookup key) := by
  obtain ⟨pending⟩ := b
  induction pending using List.reverseRecOn with
  | nil => rfl
  | append_singleton pending operation inductionHypothesis =>
    obtain ⟨k, op⟩ := operation
    simp only [write, Batch.lastOperation, List.foldl_append, List.foldl_cons, List.foldl_nil,
      List.reverse_append, List.reverse_cons, List.reverse_nil, List.nil_append,
      List.singleton_append] at inductionHypothesis ⊢
    by_cases same : key = k
    · subst same
      cases op <;> simp [Operation.stored]
    · cases op <;> simp [same, inductionHypothesis, List.lookup_cons, beq_false_of_ne same]

/-- What `Get` answers for a key the map binds to `value`, if any. -/
def getAnswer : Option (List UInt8) → Except DBError (List UInt8)
  | some data => .ok data
  | none => .error .keyNotFound

theorem read_eq_getAnswer (store : List (String × List UInt8)) (b : Batch) (key : String) :
    (if b.isRemoved key then .error .keyNotFound
      else match b.get key with
        | some data => .ok data
        | none => getAnswer (store.lookup key)) =
      getAnswer ((if b.putsNil key then store else write store b).lookup key) := by
  have lookup := lookup_write store b key
  unfold Batch.isRemoved Batch.get Batch.putsNil
  rcases last : b.lastOperation key with _ | (_ | _) | _ <;> simp [last, lookup, Operation.stored, getAnswer]

namespace DB

/-- What the persister stands for: its files with the pending batch written over them. -/
def view (s : DB) : List (String × List UInt8) := write s.store s.batch

/-- The persister with its batch written into the files and reset, as a write that succeeds
leaves it. -/
def flushed (s : DB) : DB := { s with store := s.view, batch := .empty, sizeBatch := 0 }

@[simp] theorem view_flushed (s : DB) : s.flushed.view = s.view := rfl

theorem flushed_flushed (s : DB) : s.flushed.flushed = s.flushed := rfl

theorem has_eq_get (s : DB) (key : String) : s.has key = (s.get key).map fun _ => () := by
  unfold has get
  split
  · rfl
  · split
    · rfl
    · cases s.batch.get key with
      | some _ => rfl
      | none => cases s.store.lookup key <;> rfl

/-- An open persister's `Get` answers from the map it stands for, but for a key whose last
pending operation is a `Put` of nil, which it answers from the files. -/
theorem get_eq_getAnswer (s : DB) (opened : s.isOpen = true) (key : String) :
    s.get key = getAnswer ((if s.batch.putsNil key then s.store else s.view).lookup key) := by
  have read := read_eq_getAnswer s.store s.batch key
  simp only [get, opened, Bool.not_true, Bool.false_eq_true, if_false]
  rw [view, ← read]
  cases s.batch.get key <;> cases s.store.lookup key <;> rfl

theorem get_eq_getAnswer_view (s : DB) (opened : s.isOpen = true) {key : String}
    (notNil : s.batch.putsNil key = false) : s.get key = getAnswer (s.view.lookup key) := by
  rw [get_eq_getAnswer s opened, notNil]
  rfl

theorem get_flushed (s : DB) (opened : s.isOpen = true) (key : String) :
    s.flushed.get key = getAnswer (s.view.lookup key) :=
  get_eq_getAnswer_view s.flushed opened rfl

theorem get_flushed_of_not_putsNil (s : DB) {key : String} (notNil : s.batch.putsNil key = false) :
    s.flushed.get key = s.get key := by
  cases opened : s.isOpen
  · simp [get, flushed, opened]
  · rw [get_flushed s opened, get_eq_getAnswer_view s opened notNil]

theorem putBatch_cases (written : Bool) (s : DB) :
    (s.putBatch written = .ok s.view ∧ s.isOpen = true ∧ written = true) ∨
      ∃ err, s.putBatch written = .error err := by
  unfold putBatch
  cases s.isOpen <;> cases written <;> simp [view]

theorem batchTimeoutHandle_cases (written : Bool) (s : DB) :
    s.batchTimeoutHandle written = s ∨ s.batchTimeoutHandle written = s.flushed := by
  rcases putBatch_cases written s with ⟨wrote, -⟩ | ⟨err, failed⟩
  · exact .inr (by rw [batchTimeoutHandle, wrote]; rfl)
  · exact .inl (by rw [batchTimeoutHandle, failed])

theorem batchTimeoutHandle_flushed (written : Bool) (s : DB) :
    s.flushed.batchTimeoutHandle written = s.flushed := by
  rcases batchTimeoutHandle_cases written s.flushed with same | again
  · exact same
  · rw [again, flushed_flushed]

theorem updateBatchWithIncrement_cases (written : Bool) (s : DB) :
    (s.updateBatchWithIncrement written).2 = { s with sizeBatch := s.sizeBatch + 1 } ∨
      ((s.updateBatchWithIncrement written).2 = s.flushed ∧ (s.updateBatchWithIncrement written).1 = .ok ()) := by
  dsimp only [updateBatchWithIncrement]
  split
  · exact .inl rfl
  · rcases putBatch_cases written { s with sizeBatch := s.sizeBatch + 1 } with ⟨wrote, -⟩ | ⟨err, failed⟩
    · exact .inr (by rw [wrote]; exact ⟨rfl, rfl⟩)
    · exact .inl (by rw [failed])

end DB

/-! ## Every interleaving -/

namespace Step

/-- Only the first sections of `Put` and `Remove` move the map: the counting and the timer's
writes are stuttering steps. -/
theorem view_apply (s : DB) (step : Step) : (step.apply s).view = applyMap s.view step := by
  cases step with
  | batchPut key val => exact write_put s.store s.batch key val
  | batchDelete key => exact write_delete s.store s.batch key
  | updateBatchWithIncrement written =>
    rcases DB.updateBatchWithIncrement_cases written s with same | ⟨flushed, -⟩
    · simp only [apply, applyMap, same]; rfl
    · simp only [apply, applyMap, flushed, DB.view_flushed]
  | batchTimeoutHandle written =>
    rcases DB.batchTimeoutHandle_cases written s with same | flushed
    · simp only [apply, applyMap, same]
    · simp only [apply, applyMap, flushed, DB.view_flushed]

theorem isOpen_apply (s : DB) (step : Step) : (step.apply s).isOpen = s.isOpen := by
  cases step with
  | batchPut | batchDelete => rfl
  | updateBatchWithIncrement written =>
    rcases DB.updateBatchWithIncrement_cases written s with changed | ⟨changed, -⟩ <;>
      exact (congrArg DB.isOpen changed).trans rfl
  | batchTimeoutHandle written =>
    rcases DB.batchTimeoutHandle_cases written s with changed | changed <;>
      exact (congrArg DB.isOpen changed).trans rfl

theorem maxBatchSize_apply (s : DB) (step : Step) : (step.apply s).maxBatchSize = s.maxBatchSize := by
  cases step with
  | batchPut | batchDelete => rfl
  | updateBatchWithIncrement written =>
    rcases DB.updateBatchWithIncrement_cases written s with changed | ⟨changed, -⟩ <;>
      exact (congrArg DB.maxBatchSize changed).trans rfl
  | batchTimeoutHandle written =>
    rcases DB.batchTimeoutHandle_cases written s with changed | changed <;>
      exact (congrArg DB.maxBatchSize changed).trans rfl

theorem putsNil_apply (s : DB) (step : Step) {key : String} (notNil : s.batch.putsNil key = false)
    (other : step ≠ .batchPut key none) : (step.apply s).batch.putsNil key = false := by
  cases step with
  | batchPut k val =>
    rcases val with _ | val <;> by_cases same : key = k <;>
      simp_all [apply, Batch.putsNil, Batch.lastOperation_put]
  | batchDelete k =>
    by_cases same : key = k <;> simp_all [apply, Batch.putsNil, Batch.lastOperation_delete]
  | updateBatchWithIncrement written =>
    rcases DB.updateBatchWithIncrement_cases written s with changed | ⟨changed, -⟩ <;> rw [apply, changed]
    · exact notNil
    · rfl
  | batchTimeoutHandle written =>
    rcases DB.batchTimeoutHandle_cases written s with changed | changed <;> rw [apply, changed]
    · exact notNil
    · rfl

end Step

theorem runSteps_cons (s : DB) (step : Step) (steps : List Step) :
    runSteps s (step :: steps) = runSteps (step.apply s) steps := rfl

theorem runSteps_append (s : DB) (steps steps' : List Step) :
    runSteps s (steps ++ steps') = runSteps (runSteps s steps) steps' :=
  List.foldl_append _ _ _ _

theorem runSteps_view_isOpen : ∀ (steps : List Step) (s : DB),
    (runSteps s steps).view = steps.foldl Step.applyMap s.view ∧ (runSteps s steps).isOpen = s.isOpen
  | [], _ => ⟨rfl, rfl⟩
  | step :: steps, s => by
    obtain ⟨view, opened⟩ := runSteps_view_isOpen steps (step.apply s)
    rw [runSteps_cons, view, opened, Step.view_apply, Step.isOpen_apply]
    exact ⟨rfl, rfl⟩

theorem runSteps_maxBatchSize : ∀ (steps : List Step) (s : DB), (runSteps s steps).maxBatchSize = s.maxBatchSize
  | [], _ => rfl
  | step :: steps, s => (runSteps_maxBatchSize steps (step.apply s)).trans (Step.maxBatchSize_apply s step)

theorem runSteps_putsNil : ∀ (steps : List Step) (s : DB) {key : String}, s.batch.putsNil key = false →
    Step.batchPut key none ∉ steps → (runSteps s steps).batch.putsNil key = false
  | [], _, _, notNil, _ => notNil
  | step :: steps, s, _, notNil, noNil =>
    runSteps_putsNil steps (step.apply s) (Step.putsNil_apply s step notNil fun same => noNil (same ▸ List.mem_cons_self _ _))
      fun mem => noNil (List.mem_cons_of_mem _ mem)

theorem runSteps_flushed_timeouts : ∀ (ws : List Bool) (s : DB),
    runSteps s.flushed (ws.map .batchTimeoutHandle) = s.flushed
  | [], _ => rfl
  | w :: ws, s => by
    rw [List.map_cons, runSteps_cons, Step.apply, DB.batchTimeoutHandle_flushed]
    exact runSteps_flushed_timeouts ws s

theorem runSteps_timeouts_cases : ∀ (ws : List Bool) (s : DB),
    runSteps s (ws.map .batchTimeoutHandle) = s ∨ runSteps s (ws.map .batchTimeoutHandle) = s.flushed
  | [], _ => .inl rfl
  | w :: ws, s => by
    rw [List.map_cons, runSteps_cons]
    rcases DB.batchTimeoutHandle_cases w s with same | flushed
    · rw [Step.apply, same]
      exact runSteps_timeouts_cases ws s
    · rw [Step.apply, flushed, runSteps_flushed_timeouts ws s]
      exact .inr rfl

theorem foldl_applyMap_timeouts (ws : List Bool) (m : List (String × List UInt8)) :
    (ws.map .batchTimeoutHandle).foldl Step.applyMap m = m := by
  induction ws with
  | nil => rfl
  | cons w ws inductionHypothesis => exact inductionHypothesis

/-- Over every interleaving of the critical sections of concurrent `Put` and `Remove` calls with
the timer's writes, whatever each write of the files answers, the files with the pending batch
over them hold the map the calls make, in the order they record their operations. While the
persister is open, `Get` and `Has` answer from that map for every key that no `Put` of the run,
nor one pending at its start, sets to nil. -/
theorem runSteps_answers_map (s : DB) (steps : List Step) :
    (runSteps s steps).view = steps.foldl Step.applyMap s.view ∧
      ∀ key, s.isOpen = true → s.batch.putsNil key = false → Step.batchPut key none ∉ steps →
        (runSteps s steps).get key = getAnswer ((steps.foldl Step.applyMap s.view).lookup key) ∧
        (runSteps s steps).has key = (getAnswer ((steps.foldl Step.applyMap s.view).lookup key)).map fun _ => () := by
  obtain ⟨view, opened⟩ := runSteps_view_isOpen steps s
  refine ⟨view, fun key open₀ notNil noNil => ?_⟩
  have answer := DB.get_eq_getAnswer_view (runSteps s steps) (opened.trans open₀)
    (runSteps_putsNil steps s notNil noNil)
  rw [view] at answer
  exact ⟨answer, by rw [DB.has_eq_get, answer]⟩

/-- From a fresh persister that writes every operation it counts: a `Put` the timer writes, then
a `Remove` whose write fails; the `Remove` is not lost. -/
theorem runSteps_answers_map_putRemove :
    (runSteps { store := [], isOpen := true, batch := .empty, sizeBatch := 0, maxBatchSize := 1 }
        [.batchPut "k" (some [1]), .batchTimeoutHandle true, .batchDelete "k", .updateBatchWithIncrement false]).view = [] ∧
      (runSteps { store := [], isOpen := true, batch := .empty, sizeBatch := 0, maxBatchSize := 1 }
        [.batchPut "k" (some [1]), .batchTimeoutHandle true, .batchDelete "k", .updateBatchWithIncrement false]).get "k" =
          .error .keyNotFound ∧
      (runSteps { store := [], isOpen := true, batch := .empty, sizeBatch := 0, maxBatchSize := 1 }
        [.batchPut "k" (some [1]), .batchTimeoutHandle true, .batchDelete "k", .updateBatchWithIncrement false]).has "k" =
          .error .keyNotFound := by
  obtain ⟨view, answers⟩ := runSteps_answers_map
    { store := [], isOpen := true, batch := .empty, sizeBatch := 0, maxBatchSize := 1 }
    [.batchPut "k" (some [1]), .batchTimeoutHandle true, .batchDelete "k", .updateBatchWithIncrement false]
  exact ⟨view, (answers "k" rfl rfl (by decide)).1, (answers "k" rfl rfl (by decide)).2⟩

/-- A `Put` of nil is read through to the files until the batch is written: over files that hold
`k ↦ [1]`, with `Put(k, nil)` pending, `Get` answers `[1]`, the value the `Put` overwrote, while
the persister stands for `k ↦ []`, which `Get` answers once the timer has written the batch. Over
files without `k`, `Get` answers `ErrKeyNotFound` until then. -/
theorem get_pending_nil_put_reads_files :
    (runSteps { store := [("k", [1])], isOpen := true, batch := .empty, sizeBatch := 0, maxBatchSize := 10 }
        [.batchPut "k" none]).get "k" = .ok [1] ∧
      (runSteps { store := [("k", [1])], isOpen := true, batch := .empty, sizeBatch := 0, maxBatchSize := 10 }
        [.batchPut "k" none]).view.lookup "k" = some [] ∧
      (runSteps { store := [("k", [1])], isOpen := true, batch := .empty, sizeBatch := 0, maxBatchSize := 10 }
        [.batchPut "k" none, .batchTimeoutHandle true]).get "k" = .ok [] ∧
      (runSteps { store := [], isOpen := true, batch := .empty, sizeBatch := 0, maxBatchSize := 10 }
        [.batchPut "k" none]).get "k" = .error .keyNotFound :=
  ⟨rfl, rfl, rfl, rfl⟩

/-! ## `Get` and `Has` across the timer's writes -/

theorem getAcross_flushed (s : DB) (key : String) :
    s.getAcross s s s.flushed key = (if s.batch.putsNil key then s.flushed.get key else s.get key) ∧
      s.getAcross s s.flushed s.flushed key = (if s.batch.putsNil key then s.flushed.get key else s.get key) ∧
      s.getAcross s.flushed s.flushed s.flushed key = (if s.batch.putsNil key then s.flushed.get key else s.get key) := by
  have lookup := lookup_write s.store s.batch key
  unfold DB.getAcross DB.get DB.flushed DB.view Batch.isRemoved Batch.get Batch.putsNil
  rcases opened : s.isOpen <;> rcases last : s.batch.lastOperation key with _ | (_ | _) | _ <;>
    simp [opened, last, lookup, Operation.stored]

theorem hasAcross_eq_getAcross (s₀ s₁ s₂ s₃ : DB) (key : String) :
    s₀.hasAcross s₁ s₂ s₃ key = (s₀.getAcross s₁ s₂ s₃ key).map fun _ => () := by
  unfold DB.hasAcross DB.getAcross
  split
  · rfl
  · split
    · rfl
    · cases s₂.batch.get key with
      | some _ => rfl
      | none => cases s₃.store.lookup key <;> rfl

theorem DB.hasAmid_eq_getAmid (timers : List Bool × List Bool × List Bool) (s : DB) (key : String) :
    s.hasAmid timers key = (s.getAmid timers key).map fun _ => () :=
  hasAcross_eq_getAcross _ _ _ _ key

/-- However the timer's writes fall between the reads of `Get`, it answers as the persister did
when it began, or as it does once its batch is written, the latter only for a key with a pending
`Put` of nil. -/
theorem DB.getAmid_cases (timers : List Bool × List Bool × List Bool) (s : DB) (key : String) :
    s.getAmid timers key = s.get key ∨
      s.getAmid timers key = (if s.batch.putsNil key then s.flushed.get key else s.get key) := by
  obtain ⟨late, middle, early⟩ := getAcross_flushed s key
  obtain ⟨first, second, third⟩ := timers
  dsimp only [getAmid]
  rcases runSteps_timeouts_cases first s with one | one <;> rw [one]
  · rcases runSteps_timeouts_cases second s with two | two <;> rw [two]
    · rcases runSteps_timeouts_cases third s with three | three <;> rw [three]
      · exact .inl rfl
      · exact .inr late
    · rw [runSteps_flushed_timeouts]
      exact .inr middle
  · rw [runSteps_flushed_timeouts, runSteps_flushed_timeouts]
    exact .inr early

theorem DB.getAmid_of_not_putsNil (timers : List Bool × List Bool × List Bool) (s : DB) {key : String}
    (notNil : s.batch.putsNil key = false) : s.getAmid timers key = s.get key := by
  rcases getAmid_cases timers s key with same | flushed
  · exact same
  · rwa [notNil, if_neg Bool.false_ne_true] at flushed

/-- `Get` and `Has` take no lock: however the timer's writes fall between their reads, and
whatever they answer, `Get` and `Has` answer as the persister did when they began, or as it does
once its batch is written. For every key but one with a pending `Put` of nil, they answer as
when they began. -/
theorem getAcross_timeouts (s : DB) (timers : List Bool × List Bool × List Bool) (key : String) :
    ((s.getAmid timers key = s.get key ∧ s.hasAmid timers key = s.has key) ∨
        (s.getAmid timers key = s.flushed.get key ∧ s.hasAmid timers key = s.flushed.has key)) ∧
      (s.batch.putsNil key = false → s.getAmid timers key = s.get key ∧ s.hasAmid timers key = s.has key) := by
  have answers : ∀ t : DB, s.getAmid timers key = t.get key →
      s.getAmid timers key = t.get key ∧ s.hasAmid timers key = t.has key := fun t same =>
    ⟨same, by rw [DB.hasAmid_eq_getAmid, same, DB.has_eq_get]⟩
  refine ⟨?_, fun notNil => answers s (DB.getAmid_of_not_putsNil timers s notNil)⟩
  rcases DB.getAmid_cases timers s key with same | flushed
  · exact .inl (answers s same)
  · split at flushed
    · exact .inr (answers _ flushed)
    · exact .inl (answers s flushed)

def pendingPut : DB :=
  { store := [], isOpen := true, batch := Batch.empty.put "k" (some [1]), sizeBatch := 1, maxBatchSize := 10 }

/-- A `Get` of `pendingPut` during which the timer writes the batch after `IsRemoved`. -/
theorem getAcross_timeouts_pendingPut :
    pendingPut.batch.putsNil "k" = false ∧
      pendingPut.getAmid ([], [true], []) "k" = pendingPut.get "k" ∧
      pendingPut.hasAmid ([], [true], []) "k" = pendingPut.has "k" :=
  ⟨rfl, (getAcross_timeouts pendingPut ([], [true], []) "k").2 rfl⟩

/-- A `Remove` between the reads of `Get` is not covered: from a fresh persister whose timer has
written `k ↦ [1]` and whose batch holds `k ↦ [2]`, a `Get` that reads `IsRemoved` before a
`Remove` records its `Delete`, and the batch and the files after it, answers `[1]`, a value
overwritten before it began; neither state answers it. -/
theorem getAcross_remove_between_reads :
    let before := runSteps { store := [], isOpen := true, batch := .empty, sizeBatch := 0, maxBatchSize := 10 }
      [.batchPut "k" (some [1]), .updateBatchWithIncrement true, .batchTimeoutHandle true, .batchPut "k" (some [2]),
        .updateBatchWithIncrement true]
    let after := Step.apply before (.batchDelete "k")
    before.getAcross before after after "k" = .ok [1] ∧ before.get "k" = .ok [2] ∧
      after.get "k" = .error .keyNotFound := by
  exact ⟨rfl, rfl, rfl⟩

/-! ## The size of the batch -/

/-- The `Put` and `Remove` calls between their two critical sections after `steps`, from
`inFlight` of them: the first section of a call adds it, its second section takes it off; `none`
when a second section has no call to finish. -/
def inFlightAfter : Nat → List Step → Option Nat
  | inFlight, [] => some inFlight
  | inFlight, step :: steps =>
    match step, inFlight with
    | .batchPut _ _, _ | .batchDelete _, _ => inFlightAfter (inFlight + 1) steps
    | .updateBatchWithIncrement _, 0 => none
    | .updateBatchWithIncrement _, inFlight + 1 => inFlightAfter inFlight steps
    | .batchTimeoutHandle _, _ => inFlightAfter inFlight steps

/-- `sizeBatch` counts the operations of the batch, but those of the calls still to count
theirs. -/
def Counted (s : DB) (inFlight : Nat) : Prop :=
  (s.batch.pending.length : Int) ≤ s.sizeBatch + inFlight ∧ 0 ≤ s.sizeBatch

theorem Counted.flushed (s : DB) (inFlight : Nat) : Counted s.flushed inFlight :=
  ⟨by simp [DB.flushed, Batch.empty], le_refl 0⟩

theorem runSteps_counted : ∀ (steps : List Step) (s : DB) (inFlight after : Nat),
    inFlightAfter inFlight steps = some after → Counted s inFlight → Counted (runSteps s steps) after
  | [], _, _, _, finished, counted => by
    obtain rfl := Option.some.inj finished
    exact counted
  | .batchPut key val :: steps, s, inFlight, after, finished, ⟨counted, nonneg⟩ =>
    runSteps_counted steps _ (inFlight + 1) after finished
      ⟨by simp only [Step.apply, Batch.put, List.length_append, List.length_singleton]; push_cast; omega, nonneg⟩
  | .batchDelete key :: steps, s, inFlight, after, finished, ⟨counted, nonneg⟩ =>
    runSteps_counted steps _ (inFlight + 1) after finished
      ⟨by simp only [Step.apply, Batch.delete, List.length_append, List.length_singleton]; push_cast; omega, nonneg⟩
  | .updateBatchWithIncrement _ :: _, _, 0, _, finished, _ => by simp [inFlightAfter] at finished
  | .updateBatchWithIncrement written :: steps, s, inFlight + 1, after, finished, ⟨counted, nonneg⟩ => by
    refine runSteps_counted steps _ inFlight after finished ?_
    rcases DB.updateBatchWithIncrement_cases written s with changed | ⟨changed, -⟩ <;> rw [Step.apply, changed]
    · exact ⟨by dsimp only; push_cast at counted ⊢; omega, by dsimp only; omega⟩
    · exact Counted.flushed s inFlight
  | .batchTimeoutHandle written :: steps, s, inFlight, after, finished, counted => by
    refine runSteps_counted steps _ inFlight after finished ?_
    rcases DB.batchTimeoutHandle_cases written s with changed | changed <;> rw [Step.apply, changed]
    · exact counted
    · exact Counted.flushed s inFlight

theorem DB.updateBatchWithIncrement_true (s : DB) (opened : s.isOpen = true) :
    (s.updateBatchWithIncrement true).2 =
      if s.sizeBatch + 1 < s.maxBatchSize then { s with sizeBatch := s.sizeBatch + 1 } else s.flushed := by
  obtain ⟨store, isOpen, batch, sizeBatch, maxBatchSize⟩ := s
  cases opened
  simp only [updateBatchWithIncrement, putBatch, Bool.not_true, Bool.false_eq_true, if_false, if_true]
  split <;> rfl

def Below (s : DB) : Prop := s.sizeBatch < s.maxBatchSize ∨ s.sizeBatch = 0

theorem runSteps_below : ∀ (steps : List Step) (s : DB), s.isOpen = true →
    (∀ written, Step.updateBatchWithIncrement written ∈ steps → written = true) → Below s →
    Below (runSteps s steps)
  | [], _, _, _, below => below
  | step :: steps, s, opened, writes, below => by
    refine runSteps_below steps _ ((Step.isOpen_apply s step).trans opened)
      (fun written mem => writes written (List.mem_cons_of_mem _ mem)) ?_
    cases step with
    | batchPut | batchDelete => exact below
    | updateBatchWithIncrement written =>
      obtain rfl := writes written (List.mem_cons_self _ _)
      rw [Step.apply, DB.updateBatchWithIncrement_true s opened]
      split
      · exact .inl ‹_›
      · exact .inr rfl
    | batchTimeoutHandle written =>
      rcases DB.batchTimeoutHandle_cases written s with changed | changed <;> rw [Step.apply, changed]
      · exact below
      · exact .inr rfl

theorem DB.newDB_eq_ok {store : List (String × List UInt8)} {maxBatchSize maxOpenFiles : Int} {db : DB}
    (created : DB.newDB store maxBatchSize maxOpenFiles = .ok db) :
    1 ≤ maxOpenFiles ∧
      db = { store := store, isOpen := true, batch := .empty, sizeBatch := 0, maxBatchSize := maxBatchSize } := by
  unfold newDB at created
  split at created
  · cases created
  · exact ⟨by omega, (Except.ok.inj created).symm⟩

/-- From the persister `NewDB` returns, over every interleaving of concurrent `Put` and `Remove`
calls with the timer's writes after which every call has finished, `sizeBatch` counts at least
the operations the batch holds; when every write of `updateBatchWithIncrement` succeeds, the batch
then holds fewer than `maxBatchSize` operations, or none. -/
theorem newDB_batch_bounded {store : List (String × List UInt8)} {maxBatchSize maxOpenFiles : Int} {db : DB}
    (created : DB.newDB store maxBatchSize maxOpenFiles = .ok db) (steps : List Step)
    (finished : inFlightAfter 0 steps = some 0) :
    ((runSteps db steps).batch.pending.length : Int) ≤ (runSteps db steps).sizeBatch ∧
      ((∀ written, Step.updateBatchWithIncrement written ∈ steps → written = true) →
        ((runSteps db steps).batch.pending.length : Int) < maxBatchSize ∨ (runSteps db steps).batch.pending = []) := by
  obtain ⟨-, fresh⟩ := DB.newDB_eq_ok created
  have counted := runSteps_counted steps db 0 0 finished (by rw [fresh]; exact ⟨by simp [Batch.empty], le_refl 0⟩)
  have sameMax : (runSteps db steps).maxBatchSize = maxBatchSize := by
    rw [runSteps_maxBatchSize, fresh]
  refine ⟨by simpa using counted.1, fun writes => ?_⟩
  have lengthBound := counted.1
  rcases runSteps_below steps db (by rw [fresh]) writes (by rw [fresh]; exact .inr rfl) with below | zero
  · left
    push_cast at lengthBound
    omega
  · right
    rw [zero] at lengthBound
    exact List.eq_nil_of_length_eq_zero (by omega)

/-- Steps from `NewDB` over empty files with room for two operations: a `Put` the timer writes,
then a `Remove`, both counted. -/
def putThenRemove : List Step :=
  [.batchPut "k" (some [1]), .batchTimeoutHandle true, .updateBatchWithIncrement true, .batchDelete "k",
    .updateBatchWithIncrement true]

theorem newDB_batch_bounded_putThenRemove :
    DB.newDB [] 2 1 = .ok { store := [], isOpen := true, batch := .empty, sizeBatch := 0, maxBatchSize := 2 } ∧
      inFlightAfter 0 putThenRemove = some 0 ∧
      (((runSteps { store := [], isOpen := true, batch := .empty, sizeBatch := 0, maxBatchSize := 2 }
        putThenRemove).batch.pending.length : Int) ≤
        (runSteps { store := [], isOpen := true, batch := .empty, sizeBatch := 0, maxBatchSize := 2 }
          putThenRemove).sizeBatch ∧
      ((∀ written, Step.updateBatchWithIncrement written ∈ putThenRemove → written = true) →
        ((runSteps { store := [], isOpen := true, batch := .empty, sizeBatch := 0, maxBatchSize := 2 }
          putThenRemove).batch.pending.length : Int) < 2 ∨
        (runSteps { store := [], isOpen := true, batch := .empty, sizeBatch := 0, maxBatchSize := 2 }
          putThenRemove).batch.pending = [])) :=
  ⟨rfl, rfl, @newDB_batch_bounded [] 2 1 _ rfl putThenRemove rfl⟩

/-! ## `Close` -/

theorem Call.apply_closed (s : DB) (closed : s.isOpen = false) (written : Bool) (call : Call) :
    call.apply written s =
      (if s.sizeBatch + 1 < s.maxBatchSize then .ok () else .error .dbIsClosed,
        { s with batch := ⟨s.batch.pending ++ [match call with
            | .put key val => (key, .put val)
            | .remove key => (key, .delete)]⟩, sizeBatch := s.sizeBatch + 1 }) := by
  cases call <;>
    simp only [Call.apply, DB.put, DB.remove, DB.updateBatchWithIncrement, DB.putBatch, closed, Bool.not_false,
      if_true, Batch.put, Batch.delete] <;> split <;> rfl

/-- After `Close`, whatever the writes would answer, every `Put` and `Remove` records its operation
in the batch and counts it: the calls report success until `sizeBatch` reaches `maxBatchSize`, and
`ErrDBIsClosed` from then on, the batch growing with every call; nothing reaches the files, and
`Get` and `Has` answer `ErrDBIsClosed`. -/
theorem runCalls_after_close : ∀ (calls : List (Call × Bool)) (s : DB), s.isOpen = false →
    (runCalls s calls).1 = (List.range calls.length).map (fun i : Nat =>
        if s.sizeBatch + ((i : Int) + 1) < s.maxBatchSize then .ok () else .error .dbIsClosed) ∧
      (runCalls s calls).2.store = s.store ∧
      (runCalls s calls).2.batch.pending.length = s.batch.pending.length + calls.length ∧
      ∀ key, (runCalls s calls).2.get key = .error .dbIsClosed ∧ (runCalls s calls).2.has key = .error .dbIsClosed
  | [], s, closed => ⟨rfl, rfl, rfl, fun key => by simp [DB.get, DB.has, closed, runCalls]⟩
  | (call, written) :: calls, s, closed => by
    have step := Call.apply_closed s closed written call
    obtain ⟨answers, stored, grows, answer⟩ := runCalls_after_close calls (call.apply written s).2
      (by rw [step]; exact closed)
    simp only [runCalls]
    rw [step] at answers stored grows answer ⊢
    dsimp only at answers stored grows answer ⊢
    refine ⟨?_, stored, ?_, answer⟩
    · rw [answers, List.length_cons, List.range_succ_eq_map, List.map_cons, List.map_map]
      refine congrArg₂ List.cons (by simp) (List.map_congr_left fun i _ => ?_)
      simp only [Function.comp_apply, Nat.cast_succ]
      rw [show s.sizeBatch + 1 + ((i : Int) + 1) = s.sizeBatch + ((i : Int) + 1 + 1) by ring]
    · simp only [List.length_append, List.length_cons, List.length_nil] at grows ⊢
      omega

/-- After `pendingPut` is closed with room for two operations counted, the first call reports
success and the second `ErrDBIsClosed`. -/
theorem runCalls_after_close_twoCalls :
    (({ pendingPut with maxBatchSize := 2 }).close true).isOpen = false ∧
      (runCalls (({ pendingPut with maxBatchSize := 2 }).close true) [(.put "j" (some [2]), true), (.remove "k", true)]).1 =
        [.ok (), .error .dbIsClosed] :=
  ⟨rfl, (runCalls_after_close [(.put "j" (some [2]), true), (.remove "k", true)] _ rfl).1.trans rfl⟩

end ChainStorage.Storage.LevelDB
