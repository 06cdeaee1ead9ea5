import BlockIndexer.Proofs.Row.Mapping
import BlockIndexer.Proofs.Store.Blocks
import Mathlib.Data.List.Nodup
import Mathlib.Data.Prod.Basic

/-! Consistency of the tables: ids count the transactions, the key sets say which rows are there,
events belong to stored transactions and these to stored blocks. Tables stay consistent when the row
of a new block is added, and when a new transaction of a stored block is written with its events. -/

namespace BlockIndexer

def StoredTransaction.key (tx : StoredTransaction) : Nat × Hash := (tx.row.block, tx.row.hash)

def TransactionRows.key (tx : TransactionRows) : Nat × Hash := (tx.row.block, tx.row.hash)

def StoredEvent.key (e : StoredEvent) : Nat × Nat := (e.transaction, e.row.index)

namespace Tables

/-- The events of a transaction, in the order in which they were written. -/
def logsOf (t : Tables) (transaction : Nat) : List LogRow :=
  (t.events.filter (·.transaction == transaction)).map (·.row)

structure Consistent (t : Tables) : Prop where
  ids : t.transactions.map (·.id) = List.range' 1 t.transactions.length
  mem_transactionKeys : ∀ key, key ∈ t.transactionKeys ↔ key ∈ t.transactions.map (·.key)
  transactionKeys_nodup : (t.transactions.map (·.key)).Nodup
  mem_eventKeys : ∀ key, key ∈ t.eventKeys ↔ key ∈ t.events.map (·.key)
  eventKeys_nodup : (t.events.map (·.key)).Nodup
  indices : ∀ id, (t.logsOf id).map (·.index) = List.range (t.logsOf id).length
  block_stored : ∀ tx ∈ t.transactions, t.contains tx.row.block = true
  transaction_stored : ∀ e ∈ t.events, e.transaction ∈ t.transactions.map (·.id)
  sorted : t.blocks.Pairwise (·.1 < ·.1)
  id_eq : ∀ b ∈ t.blocks, b.2.id = b.1
  height_fits : ∀ b ∈ t.blocks, FitsIn 63 b.1
  sequence_fits : ∀ b ∈ t.blocks, ∀ n ∈ b.2.sequence, FitsIn 63 n

theorem consistent_empty : Consistent empty := by
  constructor <;> simp [empty, logsOf]

/-- The tables with one more transaction and its events, under the next id. -/
def write (t : Tables) (tx : TransactionRows) : Tables :=
  let id := t.transactions.length + 1
  { t with
    transactions := t.transactions ++ [⟨id, tx.row⟩]
    transactionKeys := tx.key :: t.transactionKeys
    events := t.events ++ tx.logs.map (⟨id, ·⟩)
    eventKeys := (tx.logs.map fun log => (id, log.index)).reverse ++ t.eventKeys }

namespace Consistent

variable {t : Tables}

theorem mem_ids (c : t.Consistent) {id : Nat} :
    id ∈ t.transactions.map (·.id) ↔ 1 ≤ id ∧ id ≤ t.transactions.length := by
  rw [c.ids, List.mem_range'_1]
  omega

theorem transaction_le (c : t.Consistent) {e : StoredEvent} (he : e ∈ t.events) :
    e.transaction ≤ t.transactions.length :=
  (c.mem_ids.mp (c.transaction_stored e he)).2

theorem id_le (c : t.Consistent) {tx : StoredTransaction} (htx : tx ∈ t.transactions) :
    tx.id ≤ t.transactions.length :=
  (c.mem_ids.mp (List.mem_map_of_mem htx)).2

/-- An id that has not been given has no events. -/
theorem not_mem_eventKeys (c : t.Consistent) {id : Nat} (new : t.transactions.length < id)
    (index : Nat) : (id, index) ∉ t.eventKeys := by
  intro hmem
  obtain ⟨e, he, hkey⟩ := List.mem_map.mp ((c.mem_eventKeys _).mp hmem)
  have hle := c.transaction_le he
  have heq : e.transaction = id := (Prod.mk.inj hkey).1
  omega

/-- A height that is not stored has no transactions. -/
theorem not_mem_transactionKeys (c : t.Consistent) {height : Nat}
    (absent : t.contains height = false) (hash : Hash) : (height, hash) ∉ t.transactionKeys := by
  intro hmem
  obtain ⟨tx, htx, hkey⟩ := List.mem_map.mp ((c.mem_transactionKeys _).mp hmem)
  have stored := c.block_stored tx htx
  rw [show tx.row.block = height from (Prod.mk.inj hkey).1, absent] at stored
  contradiction

theorem logsOf_eq_nil (c : t.Consistent) {id : Nat} (h : t.transactions.length < id) :
    t.logsOf id = [] := by
  rw [logsOf, List.map_eq_nil_iff, List.filter_eq_nil_iff]
  intro e he heq
  have hle := c.transaction_le he
  have : e.transaction = id := by simpa using heq
  omega

theorem logsOf_write (c : t.Consistent) (tx : TransactionRows) (id : Nat) :
    (t.write tx).logsOf id =
      if id = t.transactions.length + 1 then tx.logs else t.logsOf id := by
  have split : (t.write tx).logsOf id = t.logsOf id ++
      ((tx.logs.map (StoredEvent.mk (t.transactions.length + 1))).filter
        (·.transaction == id)).map (·.row) := by
    simp [write, logsOf]
  rw [split]
  by_cases h : id = t.transactions.length + 1
  · subst h
    rw [c.logsOf_eq_nil (by omega), if_pos rfl, List.filter_eq_self.mpr (by simp)]
    simp [Function.comp_def]
  · have hne : ¬ t.transactions.length + 1 = id := fun heq => h heq.symm
    simp [h, hne, List.filter_map, Function.comp_def]

/-- A transaction of a stored block keeps the tables consistent, if its key is new. -/
theorem write (c : t.Consistent) {tx : TransactionRows} (h : tx.key ∉ t.transactionKeys)
    (stored : t.contains tx.row.block = true)
    (indices : tx.logs.map (·.index) = List.range tx.logs.length) :
    (t.write tx).Consistent where
  ids := by simp [Tables.write, c.ids, List.range'_concat, Nat.add_comm]
  mem_transactionKeys key := by
    simp only [Tables.write, List.mem_cons, c.mem_transactionKeys, List.map_append,
      List.mem_append, List.map_cons, List.map_nil, List.not_mem_nil, or_false]
    exact or_comm
  transactionKeys_nodup := by
    simp only [Tables.write, List.map_append, List.map_cons, List.map_nil]
    refine List.nodup_append.mpr ⟨c.transactionKeys_nodup, by simp, ?_⟩
    rintro _ hmem _ hnew rfl
    rw [List.mem_singleton.mp hnew] at hmem
    exact h ((c.mem_transactionKeys _).mpr hmem)
  mem_eventKeys key := by
    simp only [Tables.write, List.mem_append, List.mem_reverse, c.mem_eventKeys, List.map_append,
      List.map_map]
    exact or_comm
  eventKeys_nodup := by
    simp only [Tables.write, List.map_append, List.map_map]
    refine List.nodup_append.mpr ⟨c.eventKeys_nodup, ?_, ?_⟩
    · have nodup : (tx.logs.map (·.index)).Nodup := indices ▸ List.nodup_range
      have pairs := nodup.map (Prod.mk_right_injective (t.transactions.length + 1))
      rwa [List.map_map] at pairs
    · rintro _ hmem _ hnew rfl
      obtain ⟨log, -, hkey⟩ := List.mem_map.mp hnew
      rw [← hkey] at hmem
      exact c.not_mem_eventKeys (Nat.lt_succ_self _) log.index ((c.mem_eventKeys _).mpr hmem)
  indices id := by
    rw [c.logsOf_write]
    split
    · exact indices
    · exact c.indices id
  block_stored tx' htx' := by
    rcases List.mem_append.mp htx' with hmem | hmem
    · exact c.block_stored tx' hmem
    · rw [List.mem_singleton.mp hmem]
      exact stored
  transaction_stored e he := by
    simp only [Tables.write, List.map_append, List.mem_append] at he ⊢
    rcases he with hmem | hmem
    · exact .inl (c.transaction_stored e hmem)
    · obtain ⟨log, -, rfl⟩ := List.mem_map.mp hmem
      simp
  sorted := c.sorted
  id_eq := c.id_eq
  height_fits := c.height_fits
  sequence_fits := c.sequence_fits

/-- A block row keeps the tables consistent, if its height is new. -/
theorem addBlock (c : t.Consistent) {rows : BlockRows} (wf : rows.WellFormed)
    (absent : t.contains rows.height = false) :
    (t.addBlock rows.height rows.block).Consistent where
  ids := c.ids
  mem_transactionKeys := c.mem_transactionKeys
  transactionKeys_nodup := c.transactionKeys_nodup
  mem_eventKeys := c.mem_eventKeys
  eventKeys_nodup := c.eventKeys_nodup
  indices := c.indices
  block_stored tx htx := by
    obtain ⟨b, hb, heq⟩ := contains_iff.mp (c.block_stored tx htx)
    exact contains_iff.mpr ⟨b, mem_placeBlock.mpr (.inr hb), heq⟩
  transaction_stored := c.transaction_stored
  sorted := by
    refine sorted_placeBlock c.sorted fun b hb heq => ?_
    rw [contains_iff.mpr ⟨b, hb, heq⟩] at absent
    contradiction
  id_eq b hb := by
    rcases mem_placeBlock.mp hb with rfl | hb
    · rfl
    · exact c.id_eq b hb
  height_fits b hb := by
    rcases mem_placeBlock.mp hb with rfl | hb
    · exact wf.height_fits
    · exact c.height_fits b hb
  sequence_fits b hb := by
    rcases mem_placeBlock.mp hb with rfl | hb
    · exact wf.sequence_fits
    · exact c.sequence_fits b hb

end Consistent

end Tables

end BlockIndexer
