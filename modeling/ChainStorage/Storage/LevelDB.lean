import ChainStorage.Storage.CacherAdapter

/-! # The leveldb persister

`leveldb.DB` writes through a batch. `Put` and `Remove` record their operation in the pending
batch; `updateBatchWithIncrement` then counts it in `sizeBatch` and, once `maxBatchSize`
operations are counted, writes the batch to the leveldb files and resets it. The goroutine `NewDB`
starts (`batchTimeoutHandle`) writes the batch every `batchDelaySeconds`, and `Close` writes it
once more before it drops the handle. `Get` and `Has` read the batch first, then the files.

The batch (`leveldb/batch.go`) and goleveldb are not in the repository's sources; each is taken by
its contract. The batch records its operations in order; its `Get` answers the value of the key's
last pending `Put`, and `IsRemoved` whether the key's last pending operation is a `Delete`. A Go
byte slice is `Option (List UInt8)`, `none` for nil: the batch's `Get` answers nil for a `Put` of
nil as for a key with no `Put`, and `Get` and `Has` then read the files. goleveldb's `Write`
applies the operations of a batch in order, all or none, and stores nil as empty bytes. The files
are a list of bindings, newest first, as the adapter's persister is. Whether goleveldb's `Write`
succeeds is an argument (`written`) of each step that writes.

`Put` and `Remove` hold `mutBatch` twice, once to record the operation and once to count it, and
the timer takes it between any two of these: `Step` names each critical section, and a run of
concurrent calls is a list of steps. `getAcross` and `hasAcross` are `Get` and `Has` with their
reads made in four states; `DB.putAmid`, `DB.removeAmid`, `DB.getAmid` and `DB.hasAmid` are the
calls with the timer firing inside them.
-/

namespace ChainStorage.Storage.LevelDB

/-- An operation of a batch: a `Put` of a byte slice (`none` for nil), or a `Delete`. -/
inductive Operation where
  | put (val : Option (List UInt8))
  | delete
  deriving DecidableEq, Repr

/-- The pending operations of a batch, oldest first. -/
structure Batch where
  pending : List (String × Operation)
  deriving DecidableEq, Repr

namespace Batch

/-- `NewBatch`, and the batch after `Reset`. -/
def empty : Batch := ⟨[]⟩

def put (b : Batch) (key : String) (val : Option (List UInt8)) : Batch := ⟨b.pending ++ [(key, .put val)]⟩

def delete (b : Batch) (key : String) : Batch := ⟨b.pending ++ [(key, .delete)]⟩

def lastOperation (b : Batch) (key : String) : Option Operation :=
  b.pending.reverse.lookup key

/-- `Get`: the value of the key's last pending operation when it is a `Put`, nil otherwise. -/
def get (b : Batch) (key : String) : Option (List UInt8) :=
  match b.lastOperation key with
  | some (.put val) => val
  | _ => none

/-- `IsRemoved`: whether the key's last pending operation is a `Delete`. -/
def isRemoved (b : Batch) (key : String) : Bool :=
  match b.lastOperation key with
  | some .delete => true
  | _ => false

end Batch

/-- goleveldb's `Write` of a batch into the files: its operations, in order, nil stored as empty
bytes. -/
def write (store : List (String × List UInt8)) (b : Batch) : List (String × List UInt8) :=
  b.pending.foldl (fun store operation =>
    match operation.2 with
    | .put val => bind store operation.1 (val.getD [])
    | .delete => restrict store (· != operation.1)) store

/-- The errors the persister answers. -/
inductive DBError where
  /-- `common.ErrInvalidNumOpenFiles` -/
  | invalidNumOpenFiles
  /-- `common.ErrDBIsClosed` -/
  | dbIsClosed
  /-- `common.ErrKeyNotFound` -/
  | keyNotFound
  /-- an error of goleveldb's `Write` -/
  | writeFailed
  deriving DecidableEq, Repr

/-- The persister: what its files hold, whether the leveldb handle is still there, the pending
batch, `sizeBatch` and `maxBatchSize`. -/
structure DB where
  store : List (String × List UInt8)
  isOpen : Bool
  batch : Batch
  sizeBatch : Int
  maxBatchSize : Int
  deriving DecidableEq, Repr

namespace DB

/-- `NewDB` over the files at its path, which hold `store`. -/
def newDB (store : List (String × List UInt8)) (maxBatchSize maxOpenFiles : Int) : Except DBError DB :=
  if maxOpenFiles < 1 then .error .invalidNumOpenFiles
  else .ok { store := store, isOpen := true, batch := .empty, sizeBatch := 0, maxBatchSize := maxBatchSize }

/-- `putBatch`: the files with the batch written, or the error. -/
def putBatch (written : Bool) (s : DB) : Except DBError (List (String × List UInt8)) :=
  if !s.isOpen then .error .dbIsClosed
  else if written then .ok (write s.store s.batch)
  else .error .writeFailed

/-- `updateBatchWithIncrement`: one more operation counted, and the batch written and reset once
`maxBatchSize` are. -/
def updateBatchWithIncrement (written : Bool) (s : DB) : Except DBError Unit × DB :=
  let s := { s with sizeBatch := s.sizeBatch + 1 }
  if s.sizeBatch < s.maxBatchSize then (.ok (), s)
  else
    match s.putBatch written with
    | .error err => (.error err, s)
    | .ok store => (.ok (), { s with store := store, batch := .empty, sizeBatch := 0 })

def put (written : Bool) (s : DB) (key : String) (val : Option (List UInt8)) : Except DBError Unit × DB :=
  updateBatchWithIncrement written { s with batch := s.batch.put key val }

def remove (written : Bool) (s : DB) (key : String) : Except DBError Unit × DB :=
  updateBatchWithIncrement written { s with batch := s.batch.delete key }

/-- One firing of the timer in `batchTimeoutHandle`: the batch written and reset, or kept when the
write fails. -/
def batchTimeoutHandle (written : Bool) (s : DB) : DB :=
  match s.putBatch written with
  | .error _ => s
  | .ok store => { s with store := store, batch := .empty, sizeBatch := 0 }

def get (s : DB) (key : String) : Except DBError (List UInt8) :=
  if !s.isOpen then .error .dbIsClosed
  else if s.batch.isRemoved key then .error .keyNotFound
  else
    match s.batch.get key with
    | some data => .ok data
    | none =>
      match s.store.lookup key with
      | some data => .ok data
      | none => .error .keyNotFound

def has (s : DB) (key : String) : Except DBError Unit :=
  if !s.isOpen then .error .dbIsClosed
  else if s.batch.isRemoved key then .error .keyNotFound
  else
    match s.batch.get key with
    | some _ => .ok ()
    | none => if (s.store.lookup key).isSome then .ok () else .error .keyNotFound

/-- `Close`: the batch written, its error ignored, `sizeBatch` reset and the handle dropped; the
batch itself is not reset. -/
def close (written : Bool) (s : DB) : DB :=
  let stored :=
    match s.putBatch written with
    | .ok store => store
    | .error _ => s.store
  { s with store := stored, sizeBatch := 0, isOpen := false }

/-- `Destroy`: the batch reset, the handle dropped and the files removed. -/
def destroy (s : DB) : DB :=
  { s with store := [], isOpen := false, batch := .empty, sizeBatch := 0 }

/-- `DestroyClosed`: the files removed. -/
def destroyClosed (s : DB) : DB :=
  { s with store := [] }

/-- `Get` reading the handle in `s₀`, `IsRemoved` in `s₁`, the batch's `Get` in `s₂` and the
files in `s₃`: other goroutines may run between its reads. -/
def getAcross (s₀ s₁ s₂ s₃ : DB) (key : String) : Except DBError (List UInt8) :=
  if !s₀.isOpen then .error .dbIsClosed
  else if s₁.batch.isRemoved key then .error .keyNotFound
  else
    match s₂.batch.get key with
    | some data => .ok data
    | none =>
      match s₃.store.lookup key with
      | some data => .ok data
      | none => .error .keyNotFound

def hasAcross (s₀ s₁ s₂ s₃ : DB) (key : String) : Except DBError Unit :=
  if !s₀.isOpen then .error .dbIsClosed
  else if s₁.batch.isRemoved key then .error .keyNotFound
  else
    match s₂.batch.get key with
    | some _ => .ok ()
    | none => if (s₃.store.lookup key).isSome then .ok () else .error .keyNotFound

end DB

/-! ## Concurrent calls -/

/-- A critical section under `mutBatch`: the first one of `Put` and of `Remove`, which records
the operation in the batch; the second one of both, `updateBatchWithIncrement`; and the timer's
write in `batchTimeoutHandle`. -/
inductive Step where
  | batchPut (key : String) (val : Option (List UInt8))
  | batchDelete (key : String)
  | updateBatchWithIncrement (written : Bool)
  | batchTimeoutHandle (written : Bool)
  deriving DecidableEq, Repr

namespace Step

def apply (s : DB) : Step → DB
  | batchPut key val => { s with batch := s.batch.put key val }
  | batchDelete key => { s with batch := s.batch.delete key }
  | updateBatchWithIncrement written => (s.updateBatchWithIncrement written).2
  | batchTimeoutHandle written => s.batchTimeoutHandle written

/-- What the step does to the map the persister stands for. -/
def applyMap (m : List (String × List UInt8)) : Step → List (String × List UInt8)
  | batchPut key val => bind m key (val.getD [])
  | batchDelete key => restrict m (· != key)
  | updateBatchWithIncrement _ | batchTimeoutHandle _ => m

end Step

/-- The steps of concurrent calls, in the order they take `mutBatch`. -/
def runSteps (s : DB) (steps : List Step) : DB :=
  steps.foldl Step.apply s

namespace DB

/-- `Put` with the timer firing `timers.1` before its first critical section and `timers.2`
between its two. -/
def putAmid (written : Bool) (timers : List Bool × List Bool) (s : DB) (key : String) (val : Option (List UInt8)) :
    Except DBError Unit × DB :=
  (runSteps s (timers.1.map .batchTimeoutHandle ++ .batchPut key val :: timers.2.map .batchTimeoutHandle)).updateBatchWithIncrement
    written

def removeAmid (written : Bool) (timers : List Bool × List Bool) (s : DB) (key : String) : Except DBError Unit × DB :=
  (runSteps s (timers.1.map .batchTimeoutHandle ++ .batchDelete key :: timers.2.map .batchTimeoutHandle)).updateBatchWithIncrement
    written

/-- `Get` with the timer firing between its reads: `timers.1` after it reads the handle,
`timers.2.1` after `IsRemoved` and `timers.2.2` after the batch's `Get`. -/
def getAmid (timers : List Bool × List Bool × List Bool) (s : DB) (key : String) : Except DBError (List UInt8) :=
  let s₁ := runSteps s (timers.1.map .batchTimeoutHandle)
  let s₂ := runSteps s₁ (timers.2.1.map .batchTimeoutHandle)
  s.getAcross s₁ s₂ (runSteps s₂ (timers.2.2.map .batchTimeoutHandle)) key

def hasAmid (timers : List Bool × List Bool × List Bool) (s : DB) (key : String) : Except DBError Unit :=
  let s₁ := runSteps s (timers.1.map .batchTimeoutHandle)
  let s₂ := runSteps s₁ (timers.2.1.map .batchTimeoutHandle)
  s.hasAcross s₁ s₂ (runSteps s₂ (timers.2.2.map .batchTimeoutHandle)) key

end DB

/-- A call of `Put` or `Remove` by one caller, with whether the write it may make succeeds. -/
inductive Call where
  | put (key : String) (val : Option (List UInt8))
  | remove (key : String)
  deriving DecidableEq, Repr

def Call.apply (written : Bool) (s : DB) : Call → Except DBError Unit × DB
  | put key val => s.put written key val
  | remove key => s.remove written key

/-- Calls one after another: their answers, and the persister they leave. -/
def runCalls : DB → List (Call × Bool) → List (Except DBError Unit) × DB
  | s, [] => ([], s)
  | s, (call, written) :: calls =>
    let answered := call.apply written s
    let rest := runCalls answered.2 calls
    (answered.1 :: rest.1, rest.2)

end ChainStorage.Storage.LevelDB
