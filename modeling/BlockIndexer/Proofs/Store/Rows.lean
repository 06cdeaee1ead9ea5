import BlockIndexer.Proofs.Store.Consistency
import Mathlib.Data.List.Flatten

/-! What the rows of a block leave in consistent tables: the block row in its place, and after the
rows that were there the first transaction of each hash with its events, in order. The rows are
staged one after the other, and what is staged comes, once it is committed, to what writing them to
the tables would give. The outcome counts what was written and what was passed over. -/

namespace BlockIndexer

/-- The first transaction of each hash, in order. -/
def firstOfEachHash : List TransactionRows → List TransactionRows
  | [] => []
  | tx :: txs => tx :: (firstOfEachHash txs).filter fun other => other.row.hash ≠ tx.row.hash

theorem firstOfEachHash_sublist (txs : List TransactionRows) :
    (firstOfEachHash txs).Sublist txs := by
  induction txs with
  | nil => exact .slnil
  | cons tx txs ih => exact (List.filter_sublist.trans ih).cons_cons tx

def logCount (txs : List TransactionRows) : Nat := (txs.flatMap (·.logs)).length

theorem logCount_cons (tx : TransactionRows) (txs : List TransactionRows) :
    logCount (tx :: txs) = tx.logs.length + logCount txs := by
  simp [logCount]

theorem logCount_le {kept all : List TransactionRows} (h : kept.Sublist all) :
    logCount kept ≤ logCount all :=
  (h.flatMap _).length_le

/-- The outcome after `all` transactions, of which the `kept` ones were written. -/
def Outcome.tally (o : Outcome) (all kept : List TransactionRows) : Outcome :=
  { o with
    transactionsInserted := o.transactionsInserted + kept.length
    transactionsSkipped := o.transactionsSkipped + (all.length - kept.length)
    logsInserted := o.logsInserted + logCount kept
    logsSkipped := o.logsSkipped + (logCount all - logCount kept) }

namespace BlockRows

/-- The rows without the transactions that repeat a hash. -/
def distinct (rows : BlockRows) : BlockRows :=
  { rows with transactions := firstOfEachHash rows.transactions }

/-- The outcome of writing the rows. -/
def outcome (rows : BlockRows) : Outcome :=
  (Outcome.inserted rows.height).tally rows.transactions rows.distinct.transactions

theorem WellFormed.distinct {rows : BlockRows} (wf : rows.WellFormed) :
    rows.distinct.WellFormed where
  height_fits := wf.height_fits
  sequence_fits := wf.sequence_fits
  block_eq tx htx := wf.block_eq tx ((firstOfEachHash_sublist _).subset htx)
  indices tx htx := wf.indices tx ((firstOfEachHash_sublist _).subset htx)

end BlockRows

namespace Tables

/-- The first transaction of each hash that its block does not have. -/
def unwritten (t : Tables) (txs : List TransactionRows) : List TransactionRows :=
  (firstOfEachHash txs).filter fun tx => !t.transactionKeys.contains tx.key

variable {t : Tables} {o : Outcome} {height : Nat} {tx : TransactionRows}
  {txs : List TransactionRows}

theorem unwritten_sublist (t : Tables) (txs : List TransactionRows) :
    (t.unwritten txs).Sublist txs :=
  List.filter_sublist.trans (firstOfEachHash_sublist txs)

/-- A transaction whose key is there changes nothing for those after it. -/
theorem unwritten_cons_of_mem (block_eq : ∀ x ∈ tx :: txs, x.row.block = height)
    (h : tx.key ∈ t.transactionKeys) : t.unwritten (tx :: txs) = t.unwritten txs := by
  simp only [unwritten, firstOfEachHash]
  rw [List.filter_cons_of_neg (by simpa using h), List.filter_filter]
  refine List.filter_congr fun other hother => ?_
  simp only [ne_eq, decide_not, Bool.and_eq_left_iff_imp, Bool.not_eq_eq_eq_not, Bool.not_true,
    decide_eq_false_iff_not, List.contains_eq_mem]
  intro hnew heq
  have hblock : other.row.block = tx.row.block := by
    rw [block_eq other (List.mem_cons_of_mem _ ((firstOfEachHash_sublist _).subset hother)),
      block_eq tx List.mem_cons_self]
  exact hnew (by rwa [show other.key = tx.key from Prod.ext hblock heq])

/-- A transaction whose key is not there comes first, and those after it see it written. -/
theorem unwritten_cons_of_not_mem (block_eq : ∀ x ∈ tx :: txs, x.row.block = height)
    (h : tx.key ∉ t.transactionKeys) :
    t.unwritten (tx :: txs) = tx :: (t.write tx).unwritten txs := by
  simp only [unwritten, firstOfEachHash]
  rw [List.filter_cons_of_pos (by simpa using h), List.filter_filter]
  congr 1
  refine List.filter_congr fun other hother => ?_
  have hblock : other.row.block = tx.row.block := by
    rw [block_eq other (List.mem_cons_of_mem _ ((firstOfEachHash_sublist _).subset hother)),
      block_eq tx List.mem_cons_self]
  have hkey : other.key = tx.key ↔ other.row.hash = tx.row.hash := by
    simp [TransactionRows.key, hblock]
  simp [write, hkey, Bool.and_comm]

/-- What the rows at hand and those after them have in common, while a block is being added. -/
structure Addable (t : Tables) (height : Nat) (txs : List TransactionRows) : Prop where
  consistent : t.Consistent
  stored : t.contains height = true
  block_eq : ∀ tx ∈ txs, tx.row.block = height
  indices : ∀ tx ∈ txs, tx.logs.map (·.index) = List.range tx.logs.length

theorem Addable.tail (h : t.Addable height (tx :: txs)) : t.Addable height txs :=
  ⟨h.consistent, h.stored, fun x hx => h.block_eq x (List.mem_cons_of_mem _ hx),
    fun x hx => h.indices x (List.mem_cons_of_mem _ hx)⟩

theorem Addable.write (h : t.Addable height (tx :: txs)) (new : tx.key ∉ t.transactionKeys) :
    (t.write tx).Addable height txs :=
  { h.tail with
    consistent := h.consistent.write new (h.block_eq tx List.mem_cons_self ▸ h.stored)
      (h.indices tx List.mem_cons_self)
    stored := h.stored }

/-! ### Staged rows -/

variable {row : BlockRow} {staged : Staged}

theorem foldl_addEvent {id : Nat} {logs : List LogRow}
    (fresh : ∀ log ∈ logs, (id, log.index) ∉ staged.eventKeys)
    (nodup : (logs.map (·.index)).Nodup) :
    logs.foldl (Staged.addEvent id) (staged, o) =
      ({ staged with
          events := staged.events ++ logs.map (⟨id, ·⟩)
          eventKeys := (logs.map fun log => (id, log.index)).reverse ++ staged.eventKeys },
        { o with logsInserted := o.logsInserted + logs.length }) := by
  induction logs generalizing staged o with
  | nil => simp
  | cons log logs ih =>
    obtain ⟨hlog, nodup⟩ := List.nodup_cons.mp nodup
    have step : Staged.addEvent id (staged, o) log =
        ({ staged with
            events := staged.events ++ [⟨id, log⟩]
            eventKeys := (id, log.index) :: staged.eventKeys },
          { o with logsInserted := o.logsInserted + 1 }) :=
      if_neg (fresh log List.mem_cons_self)
    rw [List.foldl_cons, step, ih ?_ nodup]
    · simp [Nat.add_assoc, Nat.add_comm 1]
    · intro other hother hmem
      rcases List.mem_cons.mp hmem with heq | hmem
      · exact hlog (List.mem_map.mpr ⟨other, hother, (Prod.mk.inj heq).2⟩)
      · exact fresh other (List.mem_cons_of_mem _ hother) hmem

theorem mem_transactionKeys_commit {key : Nat × Hash} :
    key ∈ (t.commit height row staged).transactionKeys ↔
      key ∈ t.transactionKeys ∨ key ∈ staged.transactionKeys :=
  List.mem_append.trans or_comm

theorem addTransaction_of_mem (h : tx.key ∈ (t.commit height row staged).transactionKeys) :
    Staged.addTransaction t (staged, o) tx =
      (staged, { o with
        transactionsSkipped := o.transactionsSkipped + 1
        logsSkipped := o.logsSkipped + tx.logs.length }) :=
  if_pos (mem_transactionKeys_commit.mp h)

/-- What is staged for a new transaction is, once it is committed, what writing the transaction to
the committed tables gives. -/
theorem addTransaction_of_not_mem (c : (t.commit height row staged).Consistent)
    (h : tx.key ∉ (t.commit height row staged).transactionKeys)
    (indices : tx.logs.map (·.index) = List.range tx.logs.length) :
    let after := Staged.addTransaction t (staged, o) tx
    t.commit height row after.1 = (t.commit height row staged).write tx ∧
      after.2 = { o with
        transactionsInserted := o.transactionsInserted + 1
        logsInserted := o.logsInserted + tx.logs.length } := by
  have count : (t.commit height row staged).transactions.length =
      t.transactions.length + staged.transactions.length := List.length_append
  have fresh : ∀ log ∈ tx.logs,
      (t.transactions.length + staged.transactions.length + 1, log.index) ∉ staged.eventKeys := by
    intro log _ hmem
    rw [← count] at hmem
    exact c.not_mem_eventKeys (Nat.lt_succ_self _) log.index (List.mem_append_left _ hmem)
  have new : ¬ (tx.key ∈ t.transactionKeys ∨ tx.key ∈ staged.transactionKeys) :=
    fun mem => h (mem_transactionKeys_commit.mpr mem)
  intro after
  have staging : after = _ :=
    (if_neg new).trans (foldl_addEvent fresh (indices ▸ List.nodup_range))
  rw [staging]
  refine ⟨?_, rfl⟩
  simp only [commit, write, List.append_assoc, List.cons_append, TransactionRows.key]
  rw [List.length_append]

theorem foldl_addTransaction (h : (t.commit height row staged).Addable height txs) :
    let after := txs.foldl (Staged.addTransaction t) (staged, o)
    let rest := (t.commit height row staged).unwritten txs
    t.commit height row after.1 = rest.foldl write (t.commit height row staged) ∧
      after.2 = o.tally txs rest := by
  induction txs generalizing staged o with
  | nil => exact ⟨rfl, rfl⟩
  | cons tx txs ih =>
    have hsub := (t.commit height row staged).unwritten_sublist txs
    rw [List.foldl_cons]
    by_cases hmem : tx.key ∈ (t.commit height row staged).transactionKeys
    · rw [addTransaction_of_mem hmem, unwritten_cons_of_mem h.block_eq hmem]
      obtain ⟨tables, outcome⟩ := ih (o := { o with
        transactionsSkipped := o.transactionsSkipped + 1
        logsSkipped := o.logsSkipped + tx.logs.length }) h.tail
      refine ⟨tables, outcome.trans ?_⟩
      have hlen := hsub.length_le
      have hlogs := logCount_le hsub
      simp only [Outcome.tally, logCount_cons, List.length_cons, Outcome.mk.injEq, true_and]
      omega
    · obtain ⟨written, counted⟩ :=
        addTransaction_of_not_mem (o := o) h.consistent hmem (h.indices tx List.mem_cons_self)
      generalize Staged.addTransaction t (staged, o) tx = next at written counted
      obtain ⟨next, o'⟩ := next
      have addable := h.write hmem
      rw [← written] at addable
      obtain ⟨tables, outcome⟩ := ih (o := o') addable
      rw [written] at tables outcome
      rw [unwritten_cons_of_not_mem h.block_eq hmem]
      refine ⟨tables, outcome.trans ?_⟩
      cases counted
      simp only [Outcome.tally, logCount_cons, List.length_cons, Outcome.mk.injEq, true_and]
      omega

/-- `after` is `t` with transactions written one after the other, each of them under a new key. -/
inductive Writes : Tables → List TransactionRows → Tables → Prop where
  | nil {t : Tables} (consistent : t.Consistent) : Writes t [] t
  | cons {t after : Tables} {tx : TransactionRows} {txs : List TransactionRows}
      (consistent : t.Consistent) (new : tx.key ∉ t.transactionKeys)
      (rest : Writes (t.write tx) txs after) : Writes t (tx :: txs) after

theorem Writes.consistent {after : Tables} (w : Writes t txs after) : after.Consistent := by
  induction w with
  | nil consistent => exact consistent
  | cons _ _ _ ih => exact ih

theorem writes_unwritten (h : t.Addable height txs) :
    Writes t (t.unwritten txs) ((t.unwritten txs).foldl write t) := by
  induction txs generalizing t with
  | nil => exact .nil h.consistent
  | cons tx txs ih =>
    by_cases hmem : tx.key ∈ t.transactionKeys
    · rw [unwritten_cons_of_mem h.block_eq hmem]
      exact ih h.tail
    · rw [unwritten_cons_of_not_mem h.block_eq hmem, List.foldl_cons]
      exact .cons h.consistent hmem (ih (h.write hmem))

section AddRows

variable {rows : BlockRows}

theorem addable_addBlock (c : t.Consistent) (wf : rows.WellFormed)
    (absent : t.contains rows.height = false) :
    (t.addBlock rows.height rows.block).Addable rows.height rows.transactions where
  consistent := c.addBlock wf absent
  stored := contains_iff.mpr ⟨_, mem_placeBlock.mpr (.inl rfl), rfl⟩
  block_eq := wf.block_eq
  indices := wf.indices

/-- A height that is not stored has no transactions, so that only the block itself can repeat a
hash. -/
theorem unwritten_addBlock (c : t.Consistent) (wf : rows.WellFormed)
    (absent : t.contains rows.height = false) :
    (t.addBlock rows.height rows.block).unwritten rows.transactions =
      rows.distinct.transactions := by
  refine List.filter_eq_self.mpr fun tx htx => ?_
  have new : tx.key ∉ (t.addBlock rows.height rows.block).transactionKeys := by
    rw [TransactionRows.key, wf.distinct.block_eq tx htx]
    exact c.not_mem_transactionKeys absent tx.row.hash
  simpa using new

/-- The rows of a block that is not stored are written without the transactions that repeat a
hash. -/
theorem addRows_eq (c : t.Consistent) (wf : rows.WellFormed)
    (absent : t.contains rows.height = false) :
    t.addRows rows =
      (rows.distinct.transactions.foldl write (t.addBlock rows.height rows.block),
        rows.outcome) := by
  have blocks : t.commit rows.height rows.block .empty = t.addBlock rows.height rows.block := by
    simp only [commit, Staged.empty, List.append_nil, List.nil_append, addBlock]
  have addable := addable_addBlock c wf absent
  rw [← blocks] at addable
  obtain ⟨tables, outcome⟩ := foldl_addTransaction (o := .inserted rows.height) addable
  rw [blocks, unwritten_addBlock c wf absent] at tables outcome
  exact Prod.ext tables outcome

theorem writes_addRows (c : t.Consistent) (wf : rows.WellFormed)
    (absent : t.contains rows.height = false) :
    Writes (t.addBlock rows.height rows.block) rows.distinct.transactions (t.addRows rows).1 := by
  rw [addRows_eq c wf absent, ← unwritten_addBlock c wf absent]
  exact writes_unwritten (addable_addBlock c wf absent)

theorem Consistent.addRows (c : t.Consistent) (wf : rows.WellFormed)
    (absent : t.contains rows.height = false) : (t.addRows rows).1.Consistent :=
  (writes_addRows c wf absent).consistent

end AddRows

end Tables

end BlockIndexer
