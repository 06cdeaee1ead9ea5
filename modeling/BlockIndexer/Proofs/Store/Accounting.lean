import BlockIndexer.Proofs.Store.WriteOnce
import Mathlib.Data.List.Induction

/-! What an insert says that it wrote. A transaction is skipped if it has the hash of an earlier one
of its block, and for no other reason: a height that is not stored has no transactions yet, and a
new transaction no events. So the outcome counts the rows that were added to each table, and with
what was skipped all transactions and events of the block. -/

namespace BlockIndexer

namespace Transaction

/-- Whether the transaction at a position has the hash of one at an earlier position. -/
def isRepeat (ts : List Transaction) (entry : Transaction × Nat) : Bool :=
  (ts.take entry.2).any (·.hash == entry.1.hash)

/-- The transactions that have the hash of an earlier one. -/
def repeats (ts : List Transaction) : List Transaction :=
  (ts.zipIdx.filter (isRepeat ts)).map (·.1)

/-- The transactions that are the first of their hash. -/
def firsts (ts : List Transaction) : List Transaction :=
  (ts.zipIdx.filter (!isRepeat ts ·)).map (·.1)

theorem repeats_append_firsts_perm (ts : List Transaction) :
    (repeats ts ++ firsts ts).Perm ts := by
  have parts := (List.filter_append_perm (isRepeat ts) ts.zipIdx).map (·.1)
  rw [List.map_append, List.zipIdx_map_fst] at parts
  exact parts

theorem length_repeats_add (ts : List Transaction) :
    (repeats ts).length + (firsts ts).length = ts.length := by
  rw [← List.length_append, (repeats_append_firsts_perm ts).length_eq]

theorem logs_repeats_add (ts : List Transaction) :
    ((repeats ts).flatMap (·.logs)).length + ((firsts ts).flatMap (·.logs)).length =
      (ts.flatMap (·.logs)).length := by
  rw [← List.length_append, ← List.flatMap_append,
    ((repeats_append_firsts_perm ts).flatMap_right _).length_eq]

/-- A transaction at the end is the first of its hash if none before it has the hash, and changes
nothing for those before it. -/
theorem firsts_concat (ts : List Transaction) (t : Transaction) :
    firsts (ts ++ [t]) = firsts ts ++ if ts.any (·.hash == t.hash) then [] else [t] := by
  have before : ∀ entry ∈ ts.zipIdx, (!isRepeat (ts ++ [t]) entry) = !isRepeat ts entry := by
    intro entry hmem
    have lt : entry.2 < ts.length + 0 := List.snd_lt_of_mem_zipIdx hmem
    rw [isRepeat, isRepeat, List.take_append_of_le_length (by omega)]
  have last : isRepeat (ts ++ [t]) (t, ts.length) = ts.any (·.hash == t.hash) := by
    rw [isRepeat, List.take_left]
  rw [firsts, List.zipIdx_append, List.filter_append, List.map_append, List.filter_congr before,
    firsts]
  congr 1
  rw [Nat.zero_add, List.zipIdx_singleton]
  cases found : ts.any (·.hash == t.hash) <;> simp [last, found]

end Transaction

theorem firstOfEachHash_concat (txs : List TransactionRows) (tx : TransactionRows) :
    firstOfEachHash (txs ++ [tx]) =
      firstOfEachHash txs ++ if txs.any (·.row.hash == tx.row.hash) then [] else [tx] := by
  induction txs with
  | nil => rfl
  | cons first txs ih =>
    rw [List.cons_append, firstOfEachHash, ih, firstOfEachHash, List.filter_append, List.any_cons,
      List.cons_append]
    by_cases same : first.row.hash = tx.row.hash
    · cases txs.any (·.row.hash == tx.row.hash) <;> simp [same]
    · have other : (first.row.hash == tx.row.hash) = false := beq_eq_false_iff_ne.mpr same
      have kept : ¬ tx.row.hash = first.row.hash := fun eq => same eq.symm
      cases txs.any (·.row.hash == tx.row.hash) <;> simp [other, kept]

namespace Transaction

variable {policy : NumericPolicy} {height : Nat} {ts : List Transaction}
  {txs : List TransactionRows}

theorem logCount_of_mapM (h : ts.mapM (toRows policy height) = .ok txs) :
    logCount txs = (ts.flatMap (·.logs)).length := by
  have lengths := map_of_mapM (fun _ _ => length_logs_of_toRows) h
  rw [logCount, List.length_flatMap, List.length_flatMap, lengths]

theorem any_hash_of_mapM (h : ts.mapM (toRows policy height) = .ok txs) (hash : Hash) :
    txs.any (·.row.hash == hash) = ts.any (·.hash == hash) := by
  have hashes := congrArg (List.any · (· == hash)) (map_of_mapM (fun _ _ => hash_of_toRows) h)
  simpa only [List.any_map, Function.comp_def] using hashes

/-- The rows that are left without those that repeat a hash are the rows of the transactions that
are the first of their hash. -/
theorem mapM_firsts (h : ts.mapM (toRows policy height) = .ok txs) :
    (firsts ts).mapM (toRows policy height) = .ok (firstOfEachHash txs) := by
  induction ts using List.reverseRecOn generalizing txs with
  | nil =>
    simp only [List.mapM_nil, pure_eq_ok] at h
    rw [← h]
    rfl
  | append_singleton ts t ih =>
    obtain ⟨before, last, hbefore, hlast, rfl⟩ := mapM_concat_eq_ok.mp h
    rw [firsts_concat, firstOfEachHash_concat, any_hash_of_mapM hbefore, hash_of_toRows hlast]
    split
    · rw [List.append_nil, List.append_nil]
      exact ih hbefore
    · exact mapM_concat_eq_ok.mpr ⟨_, _, ih hbefore, hlast, rfl⟩

end Transaction

namespace Block

open Transaction

variable {policy : NumericPolicy} {b : Block} {rows : BlockRows}

theorem firsts_of_toRows (h : b.toRows policy = .ok rows) :
    (firsts b.transactions).mapM (Transaction.toRows policy b.height.toNat) =
      .ok rows.distinct.transactions := by
  simp only [Block.toRows, bind_eq_ok, pure_eq_ok] at h
  obtain ⟨_, -, txs, mapped, rfl⟩ := h
  exact mapM_firsts mapped

/-- Writing the rows of a block counts the firsts and the repeats among its transactions. -/
theorem outcome_of_toRows (h : b.toRows policy = .ok rows) :
    rows.outcome =
      { height := b.height.toNat
        blockInserted := true
        transactionsInserted := (firsts b.transactions).length
        transactionsSkipped := (repeats b.transactions).length
        logsInserted := ((firsts b.transactions).flatMap (·.logs)).length
        logsSkipped := ((repeats b.transactions).flatMap (·.logs)).length } := by
  have height := height_of_toRows h
  have kept := length_of_mapM (firsts_of_toRows h)
  have keptLogs := logCount_of_mapM (firsts_of_toRows h)
  have all := length_of_toRows h
  have allLogs : BlockIndexer.logCount rows.transactions =
      (b.transactions.flatMap (·.logs)).length := by
    simp only [Block.toRows, bind_eq_ok, pure_eq_ok] at h
    obtain ⟨_, -, txs, mapped, rfl⟩ := h
    exact logCount_of_mapM mapped
  have parts := length_repeats_add b.transactions
  have logParts := logs_repeats_add b.transactions
  simp only [BlockRows.outcome, Outcome.tally, Outcome.inserted, height, kept, keptLogs, all,
    allLogs, Outcome.mk.injEq, true_and, Nat.zero_add]
  omega

end Block

namespace Tables

variable {t after : Tables} {txs : List TransactionRows}

/-- Writing adds as many rows as there are transactions and events to write. -/
theorem Writes.lengths (w : Writes t txs after) :
    after.transactions.length = t.transactions.length + txs.length ∧
      after.events.length = t.events.length + logCount txs := by
  induction w with
  | nil => exact ⟨rfl, rfl⟩
  | @cons t after tx txs consistent new rest ih =>
    obtain ⟨transactions, events⟩ := ih
    rw [transactions, events, logCount_cons]
    simp only [write, List.length_append, List.length_cons, List.length_nil, List.length_map]
    omega

theorem lengths_addRows {rows : BlockRows} (c : t.Consistent) (wf : rows.WellFormed)
    (absent : t.contains rows.height = false) :
    (t.addRows rows).1.blocks.length = t.blocks.length + 1 ∧
      (t.addRows rows).1.transactions.length =
        t.transactions.length + rows.distinct.transactions.length ∧
      (t.addRows rows).1.events.length = t.events.length + logCount rows.distinct.transactions := by
  refine ⟨?_, (writes_addRows c wf absent).lengths⟩
  rw [blocks_addRows, (placeBlock_perm ..).length_eq, List.length_cons]

end Tables

namespace Store

open Transaction

/-- An insert that says that it wrote the block has written it to a height without transactions. -/
theorem written_of_blockInserted {s : Store} {b : Block} {outcome : Outcome}
    (c : s.tables.Consistent) (answered : (s.insert b).1 = .ok outcome)
    (inserted : outcome.blockInserted = true) :
    ∃ rows, b.toRows s.policy = .ok rows ∧ s.contains rows.height = false ∧
      outcome = rows.outcome ∧
      (s.insert b).2 = { s with tables := (s.tables.addRows rows).1 } := by
  rcases s.insert_cases b with ⟨e, h⟩ | ⟨rows, h, hs⟩ | ⟨rows, position, h, hs, hp⟩ |
    ⟨rows, h, hs, hp⟩
  · rw [insert_unmapped h] at answered
    contradiction
  · rw [insert_repeated h hs] at answered
    cases answered
    contradiction
  · rw [insert_failed h hs hp] at answered
    contradiction
  · rw [insert_written_eq c h hs hp] at answered ⊢
    exact ⟨rows, h, hs, (Except.ok.inj answered).symm, rfl⟩

/-- An insert of a block that was not stored, into any store that has been worked on. The tables
grow by what the outcome counts as inserted, and that and what it counts as skipped are all
transactions and events of the block. Written are the transactions that are the first of their hash
in the block, each with all its events, and the others are skipped with theirs. No transaction of
the height was stored before, and no event of a transaction to come. -/
theorem insert_accounts (policy : NumericPolicy) (ops : List Operation) (b : Block)
    {outcome : Outcome} (answered : (((empty policy).run ops).insert b).1 = .ok outcome)
    (inserted : outcome.blockInserted = true) :
    let s := (empty policy).run ops
    let after := (s.insert b).2
    (after.blockCount = s.blockCount + 1 ∧
      after.transactionCount = s.transactionCount + outcome.transactionsInserted ∧
      after.eventCount = s.eventCount + outcome.logsInserted) ∧
    (outcome.transactionsInserted + outcome.transactionsSkipped = b.transactions.length ∧
      outcome.logsInserted + outcome.logsSkipped = b.logCount) ∧
    (∃ row rows, (firsts b.transactions).mapM (toRows policy b.height.toNat) = .ok rows ∧
      after.rowsAt? b.height.toNat = some ⟨row, rows⟩ ∧
      outcome.transactionsInserted = rows.length ∧
      outcome.logsInserted = ((firsts b.transactions).flatMap (·.logs)).length) ∧
    (outcome.transactionsSkipped = (repeats b.transactions).length ∧
      outcome.logsSkipped = ((repeats b.transactions).flatMap (·.logs)).length) ∧
    (∀ hash, (b.height.toNat, hash) ∉ s.tables.transactionKeys) ∧
    ∀ id index, s.transactionCount < id → (id, index) ∉ s.tables.eventKeys := by
  intro s after
  have c : s.tables.Consistent := consistent_run Tables.consistent_empty ops
  have hpolicy : s.policy = policy := policy_run (empty policy) ops
  obtain ⟨rows, mapped, absent, rfl, stored⟩ := written_of_blockInserted c answered inserted
  have height := Block.height_of_toRows mapped
  have wf := Block.wellFormed_of_toRows mapped
  obtain ⟨blocks, transactions, events⟩ := Tables.lengths_addRows c wf absent
  have shown := Tables.rowsAt?_addRows c wf absent b.height.toNat
  rw [← height, if_pos rfl] at shown
  rw [hpolicy] at mapped
  have kept := length_of_mapM (Block.firsts_of_toRows mapped)
  have keptLogs := logCount_of_mapM (Block.firsts_of_toRows mapped)
  have counted := Block.outcome_of_toRows mapped
  have after_eq : after = { s with tables := (s.tables.addRows rows).1 } := stored
  clear_value after
  subst after_eq
  rw [counted]
  refine ⟨⟨blocks, ?_, ?_⟩, ⟨?_, ?_⟩,
    ⟨rows.block, rows.distinct.transactions, Block.firsts_of_toRows mapped, ?_, kept.symm, rfl⟩,
    ⟨rfl, rfl⟩, ?_, fun id index new => c.not_mem_eventKeys new index⟩
  · rw [← kept]
    exact transactions
  · rw [← keptLogs]
    exact events
  · rw [Nat.add_comm]
    exact length_repeats_add b.transactions
  · rw [Nat.add_comm]
    exact logs_repeats_add b.transactions
  · rw [← height]
    exact shown
  · rw [← height]
    exact c.not_mem_transactionKeys absent

/-- The hash of a block's two transactions is also that of another block. -/
theorem doubled_accounts :
    let s := (empty .lenient).run [.insert { doubled with height := 6 }]
    let outcome : Outcome := ⟨5, true, 1, 1, 1, 1⟩
    (s.insert doubled).1 = .ok outcome ∧
    (s.insert doubled).2.eventCount = s.eventCount + 1 ∧
    (repeats doubled.transactions).length = 1 ∧
    (5, (.zero : Hash)) ∉ s.tables.transactionKeys := by
  intro s outcome
  have answered : (s.insert doubled).1 = .ok outcome := by decide +kernel
  obtain ⟨⟨-, -, events⟩, -, -, ⟨skipped, -⟩, absent, -⟩ :=
    insert_accounts .lenient [.insert { doubled with height := 6 }] doubled answered rfl
  exact ⟨answered, events, skipped.symm, absent .zero⟩

end Store

end BlockIndexer
