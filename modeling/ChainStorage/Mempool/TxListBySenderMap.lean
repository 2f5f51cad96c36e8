import ChainStorage.Mempool.TxListForSender

/-! # The map by sender

Modelled from the spec (the map's source file is not part of the repository's sources):
"mapping sender → PerSenderList (keys unique). Maintains counter `counter` (count of senders).
Empty lists are removed eagerly." The map's operations locate (or create) the list of a
sender, run the list's own operation on it, and drop the list when it ends empty
(`updateListForSender`).

`updateListForSender_perm` is the one spec lemma the operations share: the lists afterwards are
the other senders' lists and, unless empty, the sender's new list.
-/

namespace ChainStorage.Mempool

/-- Modelled from the spec: the lists by sender, their count, and the constraints every list
is created with. -/
structure TxListBySenderMap where
  lists : List TxListForSender
  counter : Nat
  constraints : SenderConstraints
  deriving DecidableEq, Repr

namespace TxListBySenderMap

/-- Modelled from the spec: the list of a sender. -/
def getListForSender (m : TxListBySenderMap) (sender : String) : Option TxListForSender :=
  m.lists.find? (·.sender == sender)

/-- Modelled from the spec: a new, empty list for a sender. -/
def addSender (m : TxListBySenderMap) (sender : String) : TxListForSender × TxListBySenderMap :=
  let l : TxListForSender := { sender := sender, items := [], numBytes := 0, numTxs := 0 }
  (l, { m with lists := l :: m.lists, counter := m.counter + 1 })

/-- Modelled from the spec: "locates or creates the per-sender list". -/
def getOrAddListForSender (m : TxListBySenderMap) (sender : String) :
    TxListForSender × TxListBySenderMap :=
  match m.getListForSender sender with
  | some l => (l, m)
  | none => m.addSender sender

/-- The list object of a sender is mutated in place: its new value replaces the old one. -/
def setListForSender (m : TxListBySenderMap) (l : TxListForSender) : TxListBySenderMap :=
  { m with lists := m.lists.map fun old => if old.sender == l.sender then l else old }

/-- Modelled from the spec: removes the list of a sender, if there is one. -/
def removeSender (m : TxListBySenderMap) (sender : String) : TxListBySenderMap :=
  if (m.getListForSender sender).isSome then
    { m with lists := m.lists.filter (·.sender != sender), counter := m.counter - 1 }
  else m

/-- Stores the new value of a sender's list, and removes the list if it is now empty. -/
def updateListForSender (m : TxListBySenderMap) (l : TxListForSender) : TxListBySenderMap :=
  if l.items.isEmpty then (m.setListForSender l).removeSender l.sender else m.setListForSender l

/-- Modelled from the spec: `add(tx)`, which "locates or creates the per-sender list, inserts in
nonce order (no-op if (nonce,hash) already present), then shrinks the list until per-sender
constraints hold, returning evicted hashes". -/
def addTxReturnEvicted (m : TxListBySenderMap) (tx : WrappedTransaction) :
    Bool × List String × TxListBySenderMap :=
  let located := m.getOrAddListForSender tx.tx.sndAddr
  let added := located.1.addTx m.constraints tx
  (added.1, added.2.1, located.2.updateListForSender added.2.2)

/-- Modelled from the spec: "from the per-sender list for tx.sender, remove every transaction
with nonce ≤ tx.nonce, returning their hashes". -/
def removeTransactionsWithLowerOrEqualNonceReturnHashes (m : TxListBySenderMap)
    (targetTx : WrappedTransaction) : List String × TxListBySenderMap :=
  match m.getListForSender targetTx.tx.sndAddr with
  | none => ([], m)
  | some l =>
    let removed := l.removeTransactionsWithLowerOrEqualNonceReturnHashes targetTx.tx.nonce
    (removed.1, m.updateListForSender removed.2)

/-- Modelled from the spec: "for each sender, remove from its per-sender list every transaction
with nonce ≥ that lowest nonce". -/
def removeTransactionsWithHigherOrEqualNonce (m : TxListBySenderMap) (sender : String)
    (nonce : Nat) : TxListBySenderMap :=
  match m.getListForSender sender with
  | none => m
  | some l => m.updateListForSender (l.removeTransactionsWithHigherOrEqualNonce nonce)

def getSenders (m : TxListBySenderMap) : List TxListForSender := m.lists

/-- Modelled from the spec: no sender left. -/
def clear (m : TxListBySenderMap) : TxListBySenderMap := { m with lists := [], counter := 0 }

/-- Every sender has one list at most, and the counter counts them. -/
structure Exact (m : TxListBySenderMap) : Prop where
  nodup : (m.lists.map (·.sender)).Nodup
  counter_eq : m.counter = m.lists.length

/-- What the map by sender satisfies over every run: one list per sender, counted, each list
well formed and none empty. -/
structure WellFormed (m : TxListBySenderMap) : Prop where
  exact : m.Exact
  lists : ∀ l ∈ m.lists, l.WellFormed m.constraints ∧ l.items ≠ []

def listed (m : TxListBySenderMap) : List WrappedTransaction := m.lists.flatMap (·.items)

def listOrEmpty (m : TxListBySenderMap) (sender : String) : TxListForSender :=
  (m.getListForSender sender).getD { sender := sender, items := [], numBytes := 0, numTxs := 0 }

/-! ## Lookup -/

theorem getListForSender_eq_none {m : TxListBySenderMap} {sender : String} :
    m.getListForSender sender = none ↔ ∀ l ∈ m.lists, l.sender ≠ sender := by
  simp [getListForSender]

theorem mem_of_getListForSender {m : TxListBySenderMap} {sender : String} {l : TxListForSender}
    (found : m.getListForSender sender = some l) : l ∈ m.lists ∧ l.sender = sender := by
  have := List.find?_some found
  exact ⟨List.mem_of_find?_eq_some found, by simpa using this⟩

theorem getListForSender_of_mem {m : TxListBySenderMap}
    (nodup : (m.lists.map (·.sender)).Nodup) {l : TxListForSender}
    (mem : l ∈ m.lists) : m.getListForSender l.sender = some l := by
  cases found : m.getListForSender l.sender with
  | none => exact absurd rfl (getListForSender_eq_none.1 found l mem)
  | some other =>
    obtain ⟨otherMem, otherSender⟩ := mem_of_getListForSender found
    rw [List.inj_on_of_nodup_map nodup otherMem mem otherSender]

theorem getListForSender_eq_some_iff {m : TxListBySenderMap} (nodup : (m.lists.map (·.sender)).Nodup)
    {sender : String} {l : TxListForSender} :
    m.getListForSender sender = some l ↔ l ∈ m.lists ∧ l.sender = sender := by
  refine ⟨mem_of_getListForSender, ?_⟩
  rintro ⟨mem, rfl⟩
  exact getListForSender_of_mem nodup mem

theorem lists_split {m : TxListBySenderMap}
    (nodup : (m.lists.map (·.sender)).Nodup) {l : TxListForSender}
    (mem : l ∈ m.lists) : ∃ before after, m.lists = before ++ l :: after ∧
      ∀ other ∈ before ++ after, other.sender ≠ l.sender := by
  obtain ⟨before, after, split⟩ := List.append_of_mem mem
  refine ⟨before, after, split, ?_⟩
  have := nodup
  rw [split, List.map_append, List.map_cons] at this
  intro other otherMem same
  refine (List.nodup_middle.1 this).not_mem ?_
  rw [← List.map_append]
  exact List.mem_map.2 ⟨other, otherMem, same⟩

/-! ## Updates -/

theorem filter_of_split {before after : List TxListForSender} {old : TxListForSender} {sender : String}
    (same : old.sender = sender) (others : ∀ other ∈ before ++ after, other.sender ≠ sender) :
    (before ++ old :: after).filter (·.sender != sender) = before ++ after := by
  rw [List.filter_append, List.filter_cons_of_neg (by simp [same])]
  rw [List.filter_eq_self.2 (fun t mem => by simpa using others t (by simp [mem])),
    List.filter_eq_self.2 (fun t mem => by simpa using others t (by simp [mem]))]

theorem map_replace_of_forall_ne {l : TxListForSender} :
    ∀ {xs : List TxListForSender}, (∀ x ∈ xs, x.sender ≠ l.sender) →
      xs.map (fun x => if x.sender == l.sender then l else x) = xs
  | [], _ => rfl
  | x :: xs, others => by
    have rest := @map_replace_of_forall_ne l xs (fun y mem => others y (List.mem_cons_of_mem x mem))
    rw [List.map_cons, rest, if_neg (by simpa using others x (List.mem_cons_self x xs))]

theorem setListForSender_perm {m : TxListBySenderMap}
    (nodup : (m.lists.map (·.sender)).Nodup) {old l : TxListForSender}
    (mem : old ∈ m.lists) (same : l.sender = old.sender) :
    (m.setListForSender l).lists.Perm (l :: m.lists.filter (·.sender != l.sender)) := by
  obtain ⟨before, after, split, others⟩ := lists_split nodup mem
  rw [← same] at others
  rw [split, filter_of_split same.symm others]
  have replaced : (if old.sender == l.sender then l else old) = l := by simp [same]
  simp only [setListForSender, split, List.map_append, List.map_cons, replaced,
    @map_replace_of_forall_ne l before (fun x mem => others x (List.mem_append_left after mem)),
    @map_replace_of_forall_ne l after (fun x mem => others x (List.mem_append_right before mem))]
  exact List.perm_middle

theorem removeSender_lists (m : TxListBySenderMap) (sender : String) :
    (m.removeSender sender).lists = m.lists.filter (·.sender != sender) := by
  unfold removeSender
  split
  · rfl
  · next absent =>
    have absent := getListForSender_eq_none.1 (Option.not_isSome_iff_eq_none.1 absent)
    exact (List.filter_eq_self.2 (fun l mem => by simpa using absent l mem)).symm

theorem updateListForSender_perm {m : TxListBySenderMap}
    (nodup : (m.lists.map (·.sender)).Nodup) {old l : TxListForSender}
    (mem : old ∈ m.lists) (same : l.sender = old.sender) :
    (m.updateListForSender l).lists.Perm
      ((if l.items.isEmpty then [] else [l]) ++ m.lists.filter (·.sender != l.sender)) := by
  have written := setListForSender_perm nodup mem same
  unfold updateListForSender
  split
  · next empty =>
    rw [removeSender_lists]
    refine (written.filter _).trans ?_
    simp [List.filter_filter]
  · next nonempty => simpa [nonempty] using written

@[simp] theorem updateListForSender_constraints (m : TxListBySenderMap) (l : TxListForSender) :
    (m.updateListForSender l).constraints = m.constraints := by
  unfold updateListForSender removeSender; split <;> (try split) <;> rfl

theorem removeSender_counter {m : TxListBySenderMap} {sender : String}
    (present : (m.getListForSender sender).isSome) : (m.removeSender sender).counter = m.counter - 1 := by
  simp [removeSender, present]

theorem getListForSender_setListForSender {m : TxListBySenderMap}
    (nodup : (m.lists.map (·.sender)).Nodup)
    {old l : TxListForSender} (mem : old ∈ m.lists) (same : l.sender = old.sender) :
    ((m.setListForSender l).getListForSender l.sender).isSome := by
  obtain ⟨before, after, split, others⟩ := lists_split nodup mem
  simp only [getListForSender, setListForSender, split, List.find?_map, List.find?_append]
  have : (before.find? ((·.sender == l.sender) ∘ fun x => if x.sender == l.sender then l else x)) = none :=
    List.find?_eq_none.2 (fun x mem => by simp [same, others x (by simp [mem])])
  simp [this, same]

theorem updateListForSender_nodup {m : TxListBySenderMap} (nodup : (m.lists.map (·.sender)).Nodup)
    {old l : TxListForSender} (mem : old ∈ m.lists) (same : l.sender = old.sender) :
    ((m.updateListForSender l).lists.map (·.sender)).Nodup := by
  obtain ⟨before, after, split, others⟩ := lists_split nodup mem
  rw [← same] at others
  have perm := updateListForSender_perm nodup mem same
  rw [split, filter_of_split same.symm others] at perm
  have unique : (l.sender :: (before ++ after).map (·.sender)).Nodup := by
    have := nodup
    rw [split, List.map_append, List.map_cons, ← same] at this
    rw [List.map_append]
    exact List.nodup_middle.1 this
  refine (perm.map (·.sender)).nodup_iff.2 ?_
  split
  · exact (List.nodup_cons.1 unique).2
  · exact unique

theorem updateListForSender_counter {m : TxListBySenderMap} (nodup : (m.lists.map (·.sender)).Nodup)
    {old l : TxListForSender} (mem : old ∈ m.lists) (same : l.sender = old.sender) :
    (m.updateListForSender l).counter = if l.items.isEmpty then m.counter - 1 else m.counter := by
  unfold updateListForSender
  split
  · exact removeSender_counter (getListForSender_setListForSender nodup mem same)
  · rfl

theorem updateListForSender_exact {m : TxListBySenderMap} (exact : m.Exact) {old l : TxListForSender}
    (mem : old ∈ m.lists) (same : l.sender = old.sender) : (m.updateListForSender l).Exact := by
  obtain ⟨before, after, split, others⟩ := lists_split exact.nodup mem
  rw [← same] at others
  have perm := updateListForSender_perm exact.nodup mem same
  rw [split, filter_of_split same.symm others] at perm
  refine ⟨updateListForSender_nodup exact.nodup mem same, ?_⟩
  have length := perm.length_eq
  by_cases empty : l.items.isEmpty = true
  · simp only [updateListForSender, empty, if_true] at length ⊢
    rw [removeSender_counter (getListForSender_setListForSender exact.nodup mem same)]
    simp only [setListForSender, exact.counter_eq, split] at length ⊢
    simp at length ⊢; omega
  · simp only [updateListForSender, empty, if_false] at length ⊢
    simp only [setListForSender, exact.counter_eq, split] at length ⊢
    simp at length ⊢

theorem getListForSender_updateListForSender {m : TxListBySenderMap}
    (nodup : (m.lists.map (·.sender)).Nodup) {old l : TxListForSender} (mem : old ∈ m.lists)
    (same : l.sender = old.sender) (sender : String) :
    (m.updateListForSender l).getListForSender sender =
      if sender = l.sender then (if l.items.isEmpty then none else some l)
      else m.getListForSender sender := by
  have perm := updateListForSender_perm nodup mem same
  refine Option.ext fun x => ?_
  simp only [Option.mem_def]
  rw [getListForSender_eq_some_iff (updateListForSender_nodup nodup mem same), perm.mem_iff]
  have inNew : x ∈ (if l.items.isEmpty then [] else [l]) ++ m.lists.filter (·.sender != l.sender) ↔
      (l.items.isEmpty = false ∧ x = l) ∨ (x ∈ m.lists ∧ x.sender ≠ l.sender) := by
    cases l.items.isEmpty <;> simp
  rw [inNew]
  by_cases this : sender = l.sender
  · subst this
    cases empty : l.items.isEmpty
    · simp only [if_true, Bool.false_eq_true, if_false, true_and, Option.some.injEq]
      constructor
      · rintro ⟨rfl | ⟨-, different⟩, same⟩
        · rfl
        · exact absurd same different
      · rintro rfl; exact ⟨Or.inl rfl, rfl⟩
    · simp only [if_true]
      simp only [Bool.true_eq_false, false_and, false_or, reduceCtorEq, iff_false, not_and]
      exact fun ⟨_, different⟩ same => different same
  · rw [if_neg this, getListForSender_eq_some_iff nodup]
    constructor
    · rintro ⟨⟨-, rfl⟩ | ⟨xMem, -⟩, rfl⟩
      · exact absurd rfl this
      · exact ⟨xMem, rfl⟩
    · rintro ⟨xMem, rfl⟩
      exact ⟨Or.inr ⟨xMem, this⟩, rfl⟩

theorem updateListForSender_wellFormed {m : TxListBySenderMap} (exact : m.Exact) {old l : TxListForSender}
    (mem : old ∈ m.lists) (same : l.sender = old.sender)
    (others : ∀ other ∈ m.lists, other.sender ≠ l.sender →
      other.WellFormed m.constraints ∧ other.items ≠ [])
    (wellFormed : l.WellFormed m.constraints) : (m.updateListForSender l).WellFormed := by
  refine ⟨updateListForSender_exact exact mem same, fun x xMem => ?_⟩
  rw [updateListForSender_constraints]
  rcases List.mem_append.1 ((updateListForSender_perm exact.nodup mem same).mem_iff.1 xMem) with new | kept
  · split at new
    · simp at new
    · next nonempty =>
      rw [List.mem_singleton.1 new]
      exact ⟨wellFormed, by simpa using nonempty⟩
  · obtain ⟨keptMem, keptSender⟩ := List.mem_filter.1 kept
    exact others x keptMem (by simpa using keptSender)

theorem getOrAddListForSender_fst (m : TxListBySenderMap) (sender : String) :
    (m.getOrAddListForSender sender).1 = m.listOrEmpty sender := by
  unfold getOrAddListForSender listOrEmpty
  split <;> simp_all [addSender]

theorem getOrAddListForSender_snd (m : TxListBySenderMap) (sender : String) :
    (m.getOrAddListForSender sender).2 =
      if (m.getListForSender sender).isSome then m else (m.addSender sender).2 := by
  unfold getOrAddListForSender
  split <;> simp_all

theorem listOrEmpty_sender (m : TxListBySenderMap) (sender : String) :
    (m.listOrEmpty sender).sender = sender := by
  unfold listOrEmpty
  cases found : m.getListForSender sender with
  | none => rfl
  | some l => exact (mem_of_getListForSender found).2

theorem getOrAddListForSender_located {m : TxListBySenderMap} (exact : m.Exact) (sender : String) :
    (m.getOrAddListForSender sender).2.Exact ∧
      m.listOrEmpty sender ∈ (m.getOrAddListForSender sender).2.lists ∧
      (m.getOrAddListForSender sender).2.constraints = m.constraints ∧
      (m.getOrAddListForSender sender).2.lists.filter (·.sender != sender) =
        m.lists.filter (·.sender != sender) := by
  rw [getOrAddListForSender_snd]
  cases found : m.getListForSender sender with
  | some l =>
    simp only [Option.isSome_some, if_true, listOrEmpty, found, Option.getD_some]
    exact ⟨exact, (mem_of_getListForSender found).1, trivial, trivial⟩
  | none =>
    have absent := getListForSender_eq_none.1 found
    simp only [Option.isSome_none, if_false, addSender, listOrEmpty, found, Option.getD_none]
    refine ⟨⟨?_, by simp [exact.counter_eq]⟩, List.mem_cons_self _ _, rfl, by simp⟩
    exact List.nodup_cons.2 ⟨by simpa using absent, exact.nodup⟩

theorem addTxReturnEvicted_eq (m : TxListBySenderMap) (tx : WrappedTransaction) :
    m.addTxReturnEvicted tx =
      (((m.listOrEmpty tx.tx.sndAddr).addTx m.constraints tx).1,
        ((m.listOrEmpty tx.tx.sndAddr).addTx m.constraints tx).2.1,
        (m.getOrAddListForSender tx.tx.sndAddr).2.updateListForSender
          ((m.listOrEmpty tx.tx.sndAddr).addTx m.constraints tx).2.2) := by
  simp [addTxReturnEvicted, getOrAddListForSender_fst]

theorem addTx_sender (constraints : SenderConstraints) (l : TxListForSender) (tx : WrappedTransaction) :
    (l.addTx constraints tx).2.2.sender = l.sender := by
  cases fresh : l.hasDuplicate tx
  · obtain ⟨k, -, equation, -⟩ := TxListForSender.applySizeConstraints_spec constraints (l.withInserted tx)
    rw [TxListForSender.addTx_of_not_duplicate fresh, equation]
    rfl
  · rw [TxListForSender.addTx_of_duplicate fresh]

theorem addTxReturnEvicted_perm {m : TxListBySenderMap} (exact : m.Exact) (tx : WrappedTransaction) :
    (m.addTxReturnEvicted tx).2.2.lists.Perm
      ((if ((m.listOrEmpty tx.tx.sndAddr).addTx m.constraints tx).2.2.items.isEmpty then []
        else [((m.listOrEmpty tx.tx.sndAddr).addTx m.constraints tx).2.2]) ++
        m.lists.filter (·.sender != tx.tx.sndAddr)) := by
  obtain ⟨locatedExact, located, -, others⟩ := getOrAddListForSender_located exact tx.tx.sndAddr
  have same := (addTx_sender m.constraints _ tx).trans (listOrEmpty_sender m tx.tx.sndAddr)
  have perm := updateListForSender_perm locatedExact.nodup located
    (same.trans (listOrEmpty_sender _ _).symm)
  rw [same, others] at perm
  rw [addTxReturnEvicted_eq]
  exact perm

theorem listOrEmpty_wellFormed {m : TxListBySenderMap} (wellFormed : m.WellFormed) (sender : String) :
    (m.listOrEmpty sender).WellFormed m.constraints := by
  unfold listOrEmpty
  cases found : m.getListForSender sender with
  | none => exact ⟨List.Pairwise.nil, by simp, rfl, rfl, by simp [TxListForSender.isCapacityExceeded]⟩
  | some l => exact (wellFormed.lists l (mem_of_getListForSender found).1).1

theorem getListForSender_addTxReturnEvicted {m : TxListBySenderMap} (exact : m.Exact)
    (tx : WrappedTransaction) :
    (m.addTxReturnEvicted tx).2.2.getListForSender tx.tx.sndAddr =
      if ((m.listOrEmpty tx.tx.sndAddr).addTx m.constraints tx).2.2.items.isEmpty then none
      else some ((m.listOrEmpty tx.tx.sndAddr).addTx m.constraints tx).2.2 := by
  obtain ⟨locatedExact, located, -, -⟩ := getOrAddListForSender_located exact tx.tx.sndAddr
  have same := (addTx_sender m.constraints _ tx).trans (listOrEmpty_sender m tx.tx.sndAddr)
  rw [addTxReturnEvicted_eq, getListForSender_updateListForSender locatedExact.nodup located
    (same.trans (listOrEmpty_sender _ _).symm), if_pos same.symm]

theorem addTxReturnEvicted_wellFormed {m : TxListBySenderMap} (wellFormed : m.WellFormed)
    (tx : WrappedTransaction) : (m.addTxReturnEvicted tx).2.2.WellFormed := by
  obtain ⟨locatedExact, located, constraints, others⟩ :=
    getOrAddListForSender_located wellFormed.exact tx.tx.sndAddr
  have same := (addTx_sender m.constraints _ tx).trans (listOrEmpty_sender m tx.tx.sndAddr)
  have listWellFormed := listOrEmpty_wellFormed wellFormed tx.tx.sndAddr
  rw [addTxReturnEvicted_eq]
  have result := updateListForSender_wellFormed locatedExact located
    (same.trans (listOrEmpty_sender _ _).symm) ?_
    (constraints ▸ TxListForSender.addTx_wellFormed listWellFormed (listOrEmpty_sender m _).symm)
  · simpa [constraints] using result
  · intro other otherMem otherSender
    have kept : other ∈ m.lists.filter (·.sender != tx.tx.sndAddr) := by
      rw [← others]; exact List.mem_filter.2 ⟨otherMem, by simpa [same] using otherSender⟩
    rw [constraints]
    exact wellFormed.lists other (List.mem_filter.1 kept).1

theorem updateListForSender_wellFormed_of_found {m : TxListBySenderMap} (wellFormed : m.WellFormed)
    {sender : String} {old l : TxListForSender} (found : m.getListForSender sender = some old)
    (same : l.sender = old.sender) (listWellFormed : l.WellFormed m.constraints) :
    (m.updateListForSender l).WellFormed :=
  updateListForSender_wellFormed wellFormed.exact (mem_of_getListForSender found).1 same
    (fun other mem _ => wellFormed.lists other mem) listWellFormed

theorem removeTransactionsWithLowerOrEqualNonceReturnHashes_wellFormed {m : TxListBySenderMap}
    (wellFormed : m.WellFormed) (targetTx : WrappedTransaction) :
    (m.removeTransactionsWithLowerOrEqualNonceReturnHashes targetTx).2.WellFormed := by
  unfold removeTransactionsWithLowerOrEqualNonceReturnHashes
  split
  · exact wellFormed
  · next old found =>
    exact updateListForSender_wellFormed_of_found wellFormed found
      (by rw [TxListForSender.removeTransactionsWithLowerOrEqualNonceReturnHashes_eq])
      (TxListForSender.removeTransactionsWithLowerOrEqualNonceReturnHashes_wellFormed
        (wellFormed.lists old (mem_of_getListForSender found).1).1 _)

theorem removeTransactionsWithHigherOrEqualNonce_wellFormed {m : TxListBySenderMap}
    (wellFormed : m.WellFormed) (sender : String) (nonce : Nat) :
    (m.removeTransactionsWithHigherOrEqualNonce sender nonce).WellFormed := by
  unfold removeTransactionsWithHigherOrEqualNonce
  split
  · exact wellFormed
  · next old found =>
    exact updateListForSender_wellFormed_of_found wellFormed found
      (by rw [TxListForSender.removeTransactionsWithHigherOrEqualNonce_eq])
      (TxListForSender.removeTransactionsWithHigherOrEqualNonce_wellFormed
        (wellFormed.lists old (mem_of_getListForSender found).1).1 _)

theorem clear_wellFormed (m : TxListBySenderMap) : m.clear.WellFormed :=
  ⟨⟨by simp [clear], rfl⟩, by simp [clear]⟩

/-! ## Constraints -/

@[simp] theorem addTxReturnEvicted_constraints (m : TxListBySenderMap) (tx : WrappedTransaction) :
    (m.addTxReturnEvicted tx).2.2.constraints = m.constraints := by
  rw [addTxReturnEvicted_eq, updateListForSender_constraints, getOrAddListForSender_snd]
  split <;> rfl

@[simp] theorem removeTransactionsWithLowerOrEqualNonceReturnHashes_constraints (m : TxListBySenderMap)
    (targetTx : WrappedTransaction) :
    (m.removeTransactionsWithLowerOrEqualNonceReturnHashes targetTx).2.constraints = m.constraints := by
  unfold removeTransactionsWithLowerOrEqualNonceReturnHashes; split <;> simp

@[simp] theorem removeTransactionsWithHigherOrEqualNonce_constraints (m : TxListBySenderMap)
    (sender : String) (nonce : Nat) :
    (m.removeTransactionsWithHigherOrEqualNonce sender nonce).constraints = m.constraints := by
  unfold removeTransactionsWithHigherOrEqualNonce; split <;> simp

/-! ## What the lists hold -/

theorem mem_listed {m : TxListBySenderMap} {t : WrappedTransaction} :
    t ∈ m.listed ↔ ∃ l ∈ m.lists, t ∈ l.items := by
  simp [listed]

theorem listed_perm_split {m : TxListBySenderMap} (nodup : (m.lists.map (·.sender)).Nodup)
    {l : TxListForSender} (mem : l ∈ m.lists) :
    m.listed.Perm (l.items ++ (m.lists.filter (·.sender != l.sender)).flatMap (·.items)) := by
  obtain ⟨before, after, split, others⟩ := lists_split nodup mem
  rw [listed, split, filter_of_split rfl others, List.flatMap_append, List.flatMap_append,
    List.flatMap_cons]
  exact List.perm_append_comm_assoc _ _ _

theorem listed_updateListForSender_perm {m : TxListBySenderMap} (nodup : (m.lists.map (·.sender)).Nodup)
    {old l : TxListForSender} (mem : old ∈ m.lists) (same : l.sender = old.sender) :
    (m.updateListForSender l).listed.Perm
      (l.items ++ (m.lists.filter (·.sender != l.sender)).flatMap (·.items)) := by
  refine ((updateListForSender_perm nodup mem same).flatMap_right (·.items)).trans ?_
  cases empty : l.items.isEmpty
  · simp
  · simp [List.isEmpty_iff.1 empty]

theorem mem_listed_of_perm {m : TxListBySenderMap} {lists : List TxListForSender}
    {l : TxListForSender} {p : TxListForSender → Bool}
    (perm : lists.Perm ((if l.items.isEmpty then [] else [l]) ++ m.lists.filter p))
    {t : WrappedTransaction} (mem : ∃ x ∈ lists, t ∈ x.items) : t ∈ l.items ∨ t ∈ m.listed := by
  obtain ⟨x, xMem, tMem⟩ := mem
  rcases List.mem_append.1 (perm.mem_iff.1 xMem) with new | kept
  · split at new
    · simp at new
    · exact Or.inl (List.mem_singleton.1 new ▸ tMem)
  · exact Or.inr (mem_listed.2 ⟨x, (List.mem_filter.1 kept).1, tMem⟩)

theorem mem_listed_of_mem_listOrEmpty {m : TxListBySenderMap} {sender : String} {t : WrappedTransaction}
    (mem : t ∈ (m.listOrEmpty sender).items) : t ∈ m.listed := by
  unfold listOrEmpty at mem
  cases found : m.getListForSender sender with
  | none => simp [found] at mem
  | some l =>
    rw [found] at mem
    exact mem_listed.2 ⟨l, (mem_of_getListForSender found).1, mem⟩

theorem mem_listed_addTxReturnEvicted {m : TxListBySenderMap} (exact : m.Exact)
    {tx t : WrappedTransaction} (mem : t ∈ (m.addTxReturnEvicted tx).2.2.listed) :
    t = tx ∨ t ∈ m.listed := by
  rcases mem_listed_of_perm (addTxReturnEvicted_perm exact tx) (mem_listed.1 mem) with new | old
  · rcases TxListForSender.mem_addTx new with rfl | old
    · exact Or.inl rfl
    · exact Or.inr (mem_listed_of_mem_listOrEmpty old)
  · exact Or.inr old

theorem mem_listed_updateListForSender_of_found {m : TxListBySenderMap} (exact : m.Exact)
    {sender : String} {old l : TxListForSender} (found : m.getListForSender sender = some old)
    (same : l.sender = old.sender) (subset : ∀ t ∈ l.items, t ∈ old.items) {t : WrappedTransaction}
    (mem : t ∈ (m.updateListForSender l).listed) : t ∈ m.listed := by
  have oldMem := (mem_of_getListForSender found).1
  rcases mem_listed_of_perm (updateListForSender_perm exact.nodup oldMem same) (mem_listed.1 mem) with
    new | kept
  · exact mem_listed.2 ⟨old, oldMem, subset t new⟩
  · exact kept

theorem mem_listed_removeTransactionsWithLowerOrEqualNonceReturnHashes {m : TxListBySenderMap}
    (exact : m.Exact) {targetTx t : WrappedTransaction}
    (mem : t ∈ (m.removeTransactionsWithLowerOrEqualNonceReturnHashes targetTx).2.listed) :
    t ∈ m.listed := by
  unfold removeTransactionsWithLowerOrEqualNonceReturnHashes at mem
  split at mem
  · exact mem
  · next old found =>
    refine mem_listed_updateListForSender_of_found exact found ?_ (fun t tMem => ?_) mem
    · rw [TxListForSender.removeTransactionsWithLowerOrEqualNonceReturnHashes_eq]
    · rw [TxListForSender.removeTransactionsWithLowerOrEqualNonceReturnHashes_eq] at tMem
      exact List.mem_of_mem_filter tMem

theorem mem_listed_removeTransactionsWithHigherOrEqualNonce {m : TxListBySenderMap} (exact : m.Exact)
    {sender : String} {nonce : Nat} {t : WrappedTransaction}
    (mem : t ∈ (m.removeTransactionsWithHigherOrEqualNonce sender nonce).listed) : t ∈ m.listed := by
  unfold removeTransactionsWithHigherOrEqualNonce at mem
  split at mem
  · exact mem
  · next old found =>
    refine mem_listed_updateListForSender_of_found exact found ?_ (fun t tMem => ?_) mem
    · rw [TxListForSender.removeTransactionsWithHigherOrEqualNonce_eq]
    · rw [TxListForSender.removeTransactionsWithHigherOrEqualNonce_eq] at tMem
      exact List.mem_of_mem_filter tMem

theorem sender_ne_of_getListForSender_eq_none {m : TxListBySenderMap} (wellFormed : m.WellFormed)
    {sender : String} (absent : m.getListForSender sender = none) {t : WrappedTransaction}
    (mem : t ∈ m.listed) : t.tx.sndAddr ≠ sender := by
  obtain ⟨l, lMem, tMem⟩ := mem_listed.1 mem
  rw [(wellFormed.lists l lMem).1.ownSender t tMem]
  exact getListForSender_eq_none.1 absent l lMem

theorem mem_of_mem_listed_updateListForSender {m : TxListBySenderMap} (wellFormed : m.WellFormed)
    {sender : String} {old l : TxListForSender} (found : m.getListForSender sender = some old)
    (same : l.sender = old.sender) {t : WrappedTransaction} (mem : t ∈ (m.updateListForSender l).listed)
    (own : t.tx.sndAddr = sender) : t ∈ l.items := by
  obtain ⟨oldMem, oldSender⟩ := mem_of_getListForSender found
  rcases List.mem_append.1 ((listed_updateListForSender_perm wellFormed.exact.nodup oldMem same).mem_iff.1
    mem) with new | other
  · exact new
  · obtain ⟨x, xMem, tMem⟩ := List.mem_flatMap.1 other
    have := (List.mem_filter.1 xMem).2
    have xSender := ((wellFormed.lists x (List.mem_of_mem_filter xMem)).1.ownSender t tMem).symm.trans own
    simp [xSender, same, oldSender] at this

theorem nonce_lt_of_mem_listed_removeTransactionsWithHigherOrEqualNonce {m : TxListBySenderMap}
    (wellFormed : m.WellFormed) {sender : String} {nonce : Nat} {t : WrappedTransaction}
    (mem : t ∈ (m.removeTransactionsWithHigherOrEqualNonce sender nonce).listed)
    (own : t.tx.sndAddr = sender) : t.tx.nonce < nonce := by
  unfold removeTransactionsWithHigherOrEqualNonce at mem
  split at mem
  · exact absurd own (sender_ne_of_getListForSender_eq_none wellFormed ‹_› mem)
  · next old found =>
    have kept := mem_of_mem_listed_updateListForSender wellFormed found
      (by rw [TxListForSender.removeTransactionsWithHigherOrEqualNonce_eq]) mem own
    rw [TxListForSender.removeTransactionsWithHigherOrEqualNonce_eq] at kept
    simpa using (List.mem_filter.1 kept).2

theorem nonce_gt_of_mem_listed_removeTransactionsWithLowerOrEqualNonceReturnHashes
    {m : TxListBySenderMap} (wellFormed : m.WellFormed) {targetTx t : WrappedTransaction}
    (mem : t ∈ (m.removeTransactionsWithLowerOrEqualNonceReturnHashes targetTx).2.listed)
    (own : t.tx.sndAddr = targetTx.tx.sndAddr) : targetTx.tx.nonce < t.tx.nonce := by
  unfold removeTransactionsWithLowerOrEqualNonceReturnHashes at mem
  split at mem
  · exact absurd own (sender_ne_of_getListForSender_eq_none wellFormed ‹_› mem)
  · next old found =>
    have kept := mem_of_mem_listed_updateListForSender wellFormed found
      (by rw [TxListForSender.removeTransactionsWithLowerOrEqualNonceReturnHashes_eq]) mem own
    rw [TxListForSender.removeTransactionsWithLowerOrEqualNonceReturnHashes_eq] at kept
    simpa using (List.mem_filter.1 kept).2

theorem mem_removeTransactionsWithLowerOrEqualNonceReturnHashes_fst {m : TxListBySenderMap}
    (wellFormed : m.WellFormed) {targetTx : WrappedTransaction} {txHash : String}
    (mem : txHash ∈ (m.removeTransactionsWithLowerOrEqualNonceReturnHashes targetTx).1) :
    ∃ y ∈ m.listed, y.txHash = txHash ∧ y.tx.sndAddr = targetTx.tx.sndAddr ∧
      y.tx.nonce ≤ targetTx.tx.nonce := by
  unfold removeTransactionsWithLowerOrEqualNonceReturnHashes at mem
  split at mem
  · simp at mem
  · next l found =>
    obtain ⟨lMem, lSender⟩ := mem_of_getListForSender found
    simp only [TxListForSender.removeTransactionsWithLowerOrEqualNonceReturnHashes, List.mem_map,
      List.mem_filter, decide_eq_true_eq] at mem
    obtain ⟨y, ⟨yMem, yNonce⟩, rfl⟩ := mem
    exact ⟨y, mem_listed.2 ⟨l, lMem, yMem⟩, rfl,
      ((wellFormed.lists l lMem).1.ownSender y yMem).trans lSender, yNonce⟩

/-! ## Adding a transaction again -/

theorem setListForSender_of_found {m : TxListBySenderMap} (nodup : (m.lists.map (·.sender)).Nodup)
    {l : TxListForSender} (found : m.getListForSender l.sender = some l) : m.setListForSender l = m := by
  have lMem := (mem_of_getListForSender found).1
  suffices m.lists.map (fun old => if old.sender == l.sender then l else old) = m.lists by
    simp only [setListForSender, this]
  refine (List.map_congr_left fun old oldMem => ?_).trans (List.map_id _)
  by_cases same : old.sender = l.sender
  · rw [if_pos (by simpa using same), List.inj_on_of_nodup_map nodup oldMem lMem same, id]
  · rw [if_neg (by simpa using same), id]

theorem addTxReturnEvicted_of_duplicate {m : TxListBySenderMap} (nodup : (m.lists.map (·.sender)).Nodup)
    {tx : WrappedTransaction} (duplicate : (m.listOrEmpty tx.tx.sndAddr).hasDuplicate tx = true) :
    m.addTxReturnEvicted tx = (false, [], m) := by
  cases found : m.getListForSender tx.tx.sndAddr with
  | none => simp [listOrEmpty, found, TxListForSender.hasDuplicate] at duplicate
  | some l =>
    have listed : m.listOrEmpty tx.tx.sndAddr = l := by simp [listOrEmpty, found]
    rw [listed] at duplicate
    obtain ⟨-, lSender⟩ := mem_of_getListForSender found
    have nonempty : l.items.isEmpty = false := by
      obtain ⟨t, mem, -⟩ := List.any_eq_true.1 duplicate
      exact List.isEmpty_eq_false_iff_exists_mem.2 ⟨t, mem⟩
    rw [addTxReturnEvicted_eq, listed, TxListForSender.addTx_of_duplicate duplicate,
      getOrAddListForSender_snd, found]
    simp only [Option.isSome_some, if_true, updateListForSender, nonempty, Bool.false_eq_true, if_false]
    rw [setListForSender_of_found nodup (lSender ▸ found)]

theorem updateListForSender_addSender_of_empty {m : TxListBySenderMap} {sender : String}
    (absent : m.getListForSender sender = none) {l : TxListForSender} (same : l.sender = sender)
    (empty : l.items = []) : (m.addSender sender).2.updateListForSender l = m := by
  have others := getListForSender_eq_none.1 absent
  have kept : m.lists.filter (·.sender != sender) = m.lists :=
    List.filter_eq_self.2 fun other mem => by simpa using others other mem
  have replaced : m.lists.map (fun old => if old.sender = sender then l else old) = m.lists :=
    (List.map_congr_left fun old mem => if_neg (others old mem)).trans (List.map_id _)
  simp [updateListForSender, removeSender, setListForSender, addSender, getListForSender, empty,
    same, replaced, kept]

theorem addTxReturnEvicted_again_of_dropped {m : TxListBySenderMap} (wellFormed : m.WellFormed)
    {tx : WrappedTransaction} (distinct : ∀ t ∈ (m.listOrEmpty tx.tx.sndAddr).items, t.txHash ≠ tx.txHash)
    (dropped : tx.txHash ∈ (m.addTxReturnEvicted tx).2.1) :
    (m.addTxReturnEvicted tx).2.2.addTxReturnEvicted tx = (true, [tx.txHash], (m.addTxReturnEvicted tx).2.2) := by
  obtain ⟨locatedExact, located, constraints, -⟩ := getOrAddListForSender_located wellFormed.exact tx.tx.sndAddr
  have oldWellFormed := listOrEmpty_wellFormed wellFormed tx.tx.sndAddr
  rw [addTxReturnEvicted_eq m tx] at dropped ⊢
  dsimp only at dropped ⊢
  have again := TxListForSender.addTx_again_of_dropped oldWellFormed distinct dropped
  have newWellFormed := TxListForSender.addTx_wellFormed oldWellFormed (listOrEmpty_sender m _).symm
  have same := (addTx_sender m.constraints _ tx).trans (listOrEmpty_sender m tx.tx.sndAddr)
  have lookup := getListForSender_updateListForSender locatedExact.nodup located
    (same.trans (listOrEmpty_sender _ _).symm) tx.tx.sndAddr
  have nodup := updateListForSender_nodup locatedExact.nodup located (same.trans (listOrEmpty_sender _ _).symm)
  have sameConstraints := (updateListForSender_constraints _
    ((m.listOrEmpty tx.tx.sndAddr).addTx m.constraints tx).2.2).trans constraints
  rw [if_pos same.symm] at lookup
  generalize ((m.listOrEmpty tx.tx.sndAddr).addTx m.constraints tx).2.2 = l at *
  generalize (m.getOrAddListForSender tx.tx.sndAddr).2.updateListForSender l = m' at *
  rw [addTxReturnEvicted_eq, sameConstraints]
  cases empty : l.items.isEmpty
  · simp only [empty, Bool.false_eq_true, if_false] at lookup
    have listed : m'.listOrEmpty tx.tx.sndAddr = l := by simp [listOrEmpty, lookup]
    rw [listed, again, getOrAddListForSender_snd, lookup]
    simp only [Option.isSome_some, if_true, updateListForSender, empty, Bool.false_eq_true, if_false]
    rw [setListForSender_of_found nodup (by rw [same]; exact lookup)]
  · simp only [empty, if_true] at lookup
    have items : l.items = [] := List.isEmpty_iff.1 empty
    have fresh : l = { sender := tx.tx.sndAddr, items := [], numBytes := 0, numTxs := 0 } := by
      have counts := newWellFormed.numTxs_eq
      have bytes := newWellFormed.numBytes_eq
      rw [items] at counts bytes
      cases l; simp_all
    have listed : m'.listOrEmpty tx.tx.sndAddr = l := by rw [listOrEmpty, lookup, fresh]; rfl
    rw [listed, again, getOrAddListForSender_snd, lookup]
    simp only [Option.isSome_none, Bool.false_eq_true, if_false]
    rw [updateListForSender_addSender_of_empty lookup same items]

end TxListBySenderMap

end ChainStorage.Mempool
