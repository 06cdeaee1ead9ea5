import BlockIndexer.Row.Mapping

/-! What the rows of a block have in common. A mapping that succeeds gives rows whose height and
sequence fit their columns, whose transactions all name the height of the block, and whose events
are numbered from zero within each transaction. -/

namespace BlockIndexer

theorem bind_eq_ok {x : Except ε α} {f : α → Except ε β} {b : β} :
    (x >>= f) = .ok b ↔ ∃ a, x = .ok a ∧ f a = .ok b := by
  cases x with
  | error e => simp [bind, Except.bind]
  | ok a => simp [bind, Except.bind]

theorem pure_eq_ok {a b : α} : (pure a : Except ε α) = .ok b ↔ a = b := by
  simp [pure, Except.pure]

theorem column_eq_ok {bits n m : Nat} {field : String} :
    column bits field n = .ok m ↔ FitsIn bits n ∧ m = n := by
  unfold column
  split
  next fits => simp [fits, eq_comm]
  next fits => simp [fits]

theorem toInt_secondWord (t : Int64) : (secondWord t).toInt = t.toInt / 1000000000 := by
  have unit : (1000000000 : Int64).toInt = 1000000000 := rfl
  have quotient : (t / 1000000000).toInt = t.toInt.tdiv 1000000000 :=
    Int64.toInt_div_of_ne_right t 1000000000 (by decide)
  have rest : (t % 1000000000).toInt = t.toInt.tmod 1000000000 := Int64.toInt_mod t 1000000000
  have whole := Int.mul_tdiv_add_tmod t.toInt 1000000000
  have below := Int.tmod_lt_of_pos t.toInt (b := 1000000000) (by decide)
  have above := Int.lt_tmod_of_pos t.toInt (b := 1000000000) (by decide)
  rw [← quotient, ← rest] at whole
  rw [← rest] at below above
  rw [secondWord]
  split
  next negative =>
    have negative : (t % 1000000000).toInt < 0 := Int64.lt_iff_toInt_lt.mp negative
    have low := t.le_toInt
    have high := t.toInt_lt
    rw [Int64.toInt_sub, Int64.toInt_one, Int.bmod_eq_of_le (by omega) (by omega)]
    omega
  next nonnegative =>
    have nonnegative : ¬(t % 1000000000).toInt < 0 := fun negative =>
      nonnegative (Int64.lt_iff_toInt_lt.mpr negative)
    omega

/-- The product of words is the beginning of the second, from the first second on that begins within
them. -/
theorem toInt_wholeSecond {t : Int64} (time : -9223372036000000000 ≤ t.toInt) :
    (wholeSecond t).toInt = t.toInt / 1000000000 * 1000000000 := by
  have unit : (1000000000 : Int64).toInt = 1000000000 := rfl
  have high := t.toInt_lt
  rw [wholeSecond, Int64.toInt_mul, toInt_secondWord, unit]
  exact Int.bmod_eq_of_le (by omega) (by omega)

/-- What every result shares with what it was made from, all results share with the list. -/
theorem map_of_mapM {f : α → Except ε β} {g : β → γ} {k : α → γ} {as : List α} {bs : List β}
    (each : ∀ a b, f a = .ok b → g b = k a) (h : as.mapM f = .ok bs) : bs.map g = as.map k := by
  induction as generalizing bs with
  | nil =>
    simp only [List.mapM_nil, pure_eq_ok] at h
    rw [← h, List.map_nil, List.map_nil]
  | cons a as ih =>
    simp only [List.mapM_cons, bind_eq_ok, pure_eq_ok] at h
    obtain ⟨b, hb, rest, mapped, rfl⟩ := h
    rw [List.map_cons, List.map_cons, each a b hb, ih mapped]

theorem length_of_mapM {f : α → Except ε β} {as : List α} {bs : List β} (h : as.mapM f = .ok bs) :
    bs.length = as.length := by
  have same := map_of_mapM (g := fun _ => ()) (k := fun _ => ()) (fun _ _ _ => rfl) h
  rw [← List.length_map, same, List.length_map]

theorem mapM_concat_eq_ok {f : α → Except ε β} {as : List α} {a : α} {bs : List β} :
    (as ++ [a]).mapM f = .ok bs ↔
      ∃ before last, as.mapM f = .ok before ∧ f a = .ok last ∧ bs = before ++ [last] := by
  simp only [List.mapM_append, List.mapM_cons, List.mapM_nil, bind_eq_ok, pure_eq_ok]
  constructor
  · rintro ⟨before, hbefore, _, ⟨last, hlast, _, rfl, rfl⟩, rfl⟩
    exact ⟨before, last, hbefore, hlast, rfl⟩
  · rintro ⟨before, last, hbefore, hlast, rfl⟩
    exact ⟨before, hbefore, _, ⟨last, hlast, _, rfl, rfl⟩, rfl⟩

/-- What holds of the rows of every block. -/
structure BlockRows.WellFormed (rows : BlockRows) : Prop where
  height_fits : FitsIn 63 rows.height
  sequence_fits : ∀ n ∈ rows.block.sequence, FitsIn 63 n
  block_eq : ∀ tx ∈ rows.transactions, tx.row.block = rows.height
  indices : ∀ tx ∈ rows.transactions, tx.logs.map (·.index) = List.range tx.logs.length

theorem index_of_toRow {index : Nat} {log : Log} {row : LogRow} (h : log.toRow index = .ok row) :
    row.index = index := by
  simp only [Log.toRow, bind_eq_ok, column_eq_ok, pure_eq_ok] at h
  obtain ⟨_, ⟨-, rfl⟩, rfl⟩ := h
  rfl

theorem indices_of_logRows {index : Nat} {logs : List Log} {rows : List LogRow}
    (h : logRows index logs = .ok rows) : rows.map (·.index) = List.range' index rows.length := by
  induction logs generalizing index rows with
  | nil =>
    simp only [logRows, Except.ok.injEq] at h
    subst h
    rfl
  | cons log logs ih =>
    simp only [logRows, bind_eq_ok, pure_eq_ok] at h
    obtain ⟨row, hrow, rest, hrest, rfl⟩ := h
    simp [List.range'_succ, index_of_toRow hrow, ih hrest]

theorem length_of_logRows {index : Nat} {logs : List Log} {rows : List LogRow}
    (h : logRows index logs = .ok rows) : rows.length = logs.length := by
  induction logs generalizing index rows with
  | nil =>
    simp only [logRows, Except.ok.injEq] at h
    rw [← h, List.length_nil, List.length_nil]
  | cons log logs ih =>
    simp only [logRows, bind_eq_ok, pure_eq_ok] at h
    obtain ⟨row, -, rest, hrest, rfl⟩ := h
    rw [List.length_cons, List.length_cons, ih hrest]

namespace Transaction

variable {policy : NumericPolicy} {height : Nat} {t : Transaction}

theorem keys_of_toRow {row : TransactionRow} (h : t.toRow policy height = .ok row) :
    row.block = height ∧ row.hash = t.hash := by
  simp only [toRow, bind_eq_ok, column_eq_ok, pure_eq_ok] at h
  obtain ⟨_, ⟨-, rfl⟩, _, ⟨-, rfl⟩, _, -, _, -, _, -, _, -, _, -, _, -, _, -, _, -, rfl⟩ := h
  exact ⟨rfl, rfl⟩

theorem block_of_toRows {rows : TransactionRows} (h : t.toRows policy height = .ok rows) :
    rows.row.block = height := by
  simp only [toRows, bind_eq_ok, pure_eq_ok] at h
  obtain ⟨row, hrow, logs, -, rfl⟩ := h
  exact (keys_of_toRow hrow).1

theorem hash_of_toRows {rows : TransactionRows} (h : t.toRows policy height = .ok rows) :
    rows.row.hash = t.hash := by
  simp only [toRows, bind_eq_ok, pure_eq_ok] at h
  obtain ⟨row, hrow, logs, -, rfl⟩ := h
  exact (keys_of_toRow hrow).2

theorem length_logs_of_toRows {rows : TransactionRows} (h : t.toRows policy height = .ok rows) :
    rows.logs.length = t.logs.length := by
  simp only [toRows, bind_eq_ok, pure_eq_ok] at h
  obtain ⟨row, -, logs, hlogs, rfl⟩ := h
  exact length_of_logRows hlogs

theorem indices_of_toRows {rows : TransactionRows} (h : t.toRows policy height = .ok rows) :
    rows.logs.map (·.index) = List.range rows.logs.length := by
  simp only [toRows, bind_eq_ok, pure_eq_ok] at h
  obtain ⟨row, -, logs, hlogs, rfl⟩ := h
  rw [List.range_eq_range']
  exact indices_of_logRows hlogs

/-- Each of the rows of a list of transactions is the mapping of one of them. -/
theorem exists_of_mem_mapM {ts : List Transaction} {all : List TransactionRows}
    (h : ts.mapM (toRows policy height) = .ok all) {rows : TransactionRows} (hrows : rows ∈ all) :
    ∃ t ∈ ts, t.toRows policy height = .ok rows := by
  induction ts generalizing all with
  | nil =>
    simp only [List.mapM_nil, pure_eq_ok] at h
    subst h
    simp at hrows
  | cons t ts ih =>
    simp only [List.mapM_cons, bind_eq_ok, pure_eq_ok] at h
    obtain ⟨first, hfirst, rest, hrest, rfl⟩ := h
    rcases List.mem_cons.mp hrows with rfl | hmem
    · exact ⟨t, List.mem_cons_self, hfirst⟩
    · obtain ⟨t', ht', hrows'⟩ := ih hrest hmem
      exact ⟨t', List.mem_cons_of_mem _ ht', hrows'⟩

end Transaction

namespace Block

variable {policy : NumericPolicy} {b : Block}

theorem sequence_of_mapM {sequence mapped : Option Nat}
    (h : sequence.mapM (column 63 "block.sequence") = .ok mapped) :
    mapped = sequence ∧ ∀ n ∈ mapped, FitsIn 63 n := by
  cases sequence with
  | none =>
    simp only [Option.mapM_none, pure_eq_ok] at h
    subst h
    simp
  | some n =>
    simp only [Option.mapM_some, map_eq_pure_bind, bind_eq_ok, column_eq_ok, pure_eq_ok] at h
    obtain ⟨_, ⟨fits, rfl⟩, rfl⟩ := h
    simpa using fits

theorem columns_of_toRow {row : BlockRow} (h : b.toRow policy = .ok row) :
    row.id = b.height.toNat ∧ FitsIn 63 row.id ∧ row.sequence = b.sequence ∧
      ∀ n ∈ row.sequence, FitsIn 63 n := by
  simp only [toRow, bind_eq_ok, column_eq_ok, pure_eq_ok] at h
  obtain ⟨_, ⟨-, rfl⟩, _, ⟨fits, rfl⟩, _, -, _, -, _, -, sequence, hsequence, rfl⟩ := h
  obtain ⟨rfl, hfits⟩ := sequence_of_mapM hsequence
  exact ⟨rfl, fits, rfl, hfits⟩

theorem height_of_toRows {rows : BlockRows} (h : b.toRows policy = .ok rows) :
    rows.height = b.height.toNat := by
  simp only [toRows, bind_eq_ok, pure_eq_ok] at h
  obtain ⟨row, hrow, _, -, rfl⟩ := h
  exact (columns_of_toRow hrow).1

theorem sequence_of_toRows {rows : BlockRows} (h : b.toRows policy = .ok rows) :
    rows.block.sequence = b.sequence := by
  simp only [toRows, bind_eq_ok, pure_eq_ok] at h
  obtain ⟨row, hrow, _, -, rfl⟩ := h
  exact (columns_of_toRow hrow).2.2.1

theorem timestamp_of_toRows {rows : BlockRows} (h : b.toRows policy = .ok rows) :
    rows.block.timestamp = (wholeSecond b.timestamp).toInt := by
  simp only [toRows, toRow, bind_eq_ok, pure_eq_ok] at h
  obtain ⟨_, ⟨_, -, _, -, _, -, _, -, _, -, _, -, rfl⟩, _, -, rfl⟩ := h
  rfl

/-- A row has the beginning of the second that the time lies in, if that second begins within the
words. -/
theorem timestamp_of_time {rows : BlockRows} (time : -9223372036000000000 ≤ b.timestamp.toInt)
    (h : b.toRows policy = .ok rows) :
    rows.block.timestamp = b.timestamp.toInt / 1000000000 * 1000000000 := by
  rw [timestamp_of_toRows h, toInt_wholeSecond time]

theorem length_of_toRows {rows : BlockRows} (h : b.toRows policy = .ok rows) :
    rows.transactions.length = b.transactions.length := by
  simp only [toRows, bind_eq_ok, pure_eq_ok] at h
  obtain ⟨_, -, transactions, mapped, rfl⟩ := h
  exact length_of_mapM mapped

theorem wellFormed_of_toRows {rows : BlockRows} (h : b.toRows policy = .ok rows) :
    rows.WellFormed := by
  have height := height_of_toRows h
  simp only [toRows, bind_eq_ok, pure_eq_ok] at h
  obtain ⟨row, hrow, transactions, htransactions, rfl⟩ := h
  obtain ⟨-, fits, -, sequenceFits⟩ := columns_of_toRow hrow
  refine ⟨fits, sequenceFits, fun tx htx => ?_, fun tx htx => ?_⟩
  · obtain ⟨t, -, ht⟩ := Transaction.exists_of_mem_mapM htransactions htx
    rw [height]
    exact Transaction.block_of_toRows ht
  · obtain ⟨t, -, ht⟩ := Transaction.exists_of_mem_mapM htransactions htx
    exact Transaction.indices_of_toRows ht

end Block

end BlockIndexer
